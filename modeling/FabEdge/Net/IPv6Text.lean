/-
  FabEdge.Net.IPv6Text — the full text of a 16-byte address, and what `ParseCIDR` makes of it.

  An address is eight groups of sixteen bits.  Its full text writes each group in lower-case
  hexadecimal without leading zeros, as `Nat.toDigits 16` does, and separates them by colons,
  with no ellipsis.  `parseIPv6` reads such text one group a pass (`parseIPv6Loop_groupsText`),
  each pass writing the two bytes of its group, so the sixteen bytes it ends with are the
  address again (`bytesToWord_groups`).  `parseIPv4` gives up on any text with a colon, which
  sends the text to `parseIPv6` at all.

  Main results:
    * `parseCIDR_ipv6CIDRText` — the round trip from an address and a prefix length to their
      text and back through `ParseCIDR`,
    * `parseCIDR_v6_iff` — the IPv6 results of `ParseCIDR` are exactly an address and its
      network under the 16-byte mask of a prefix length; with `parseCIDR_v4_iff` this is every
      result `ParseCIDR` can return.
-/
import FabEdge.Net.IPv4Syntax

namespace FabEdge.Go

/-! ## §1. Groups. -/

/-- The `k` lowest groups of sixteen bits of `x`, most significant first. -/
def groupsOf : Nat → Nat → List (BitVec 16)
  | 0, _ => []
  | k + 1, x => groupsOf k (x / 65536) ++ [BitVec.ofNat 16 x]

/-- The eight groups of an address. -/
def groups (w : BitVec 128) : List (BitVec 16) := groupsOf 8 w.toNat

/-- The two bytes `parseIPv6` writes for a group. -/
def groupBytes (g : BitVec 16) : List (BitVec 8) :=
  [BitVec.ofNat 8 (g.toNat / 256), BitVec.ofNat 8 g.toNat]

@[simp] theorem length_groupsOf (k x : Nat) : (groupsOf k x).length = k := by
  induction k generalizing x with
  | zero => rfl
  | succ k ih => simp [groupsOf, ih]

@[simp] theorem length_groups (w : BitVec 128) : (groups w).length = 8 := length_groupsOf 8 _

@[simp] theorem length_flatMap_groupBytes (gs : List (BitVec 16)) :
    (gs.flatMap groupBytes).length = 2 * gs.length := by
  induction gs with
  | nil => rfl
  | cons g gs ih => simp [groupBytes, ih]; omega

/-- Reading the bytes of groups a byte at a time is reading the groups a group at a time. -/
theorem foldl_flatMap_groupBytes (gs : List (BitVec 16)) (acc : Nat) :
    (gs.flatMap groupBytes).foldl (fun acc b => acc * 256 + b.toNat) acc =
      gs.foldl (fun acc g => acc * 65536 + g.toNat) acc := by
  induction gs generalizing acc with
  | nil => rfl
  | cons g gs ih =>
      have hg : g.toNat < 65536 := g.isLt
      have hacc : (acc * 256 + g.toNat / 256 % 256) * 256 + g.toNat % 256 = acc * 65536 + g.toNat := by
        omega
      simp only [List.flatMap_cons, List.foldl_append, List.foldl_cons, List.foldl_nil, groupBytes,
        BitVec.toNat_ofNat, Nat.reducePow, hacc, ih]

/-- The groups of `x`, read back, are `x` modulo their range. -/
theorem foldl_groupsOf (k x : Nat) :
    (groupsOf k x).foldl (fun acc g => acc * 65536 + g.toNat) 0 = x % 65536 ^ k := by
  induction k generalizing x with
  | zero => simp [groupsOf, Nat.mod_one]
  | succ k ih =>
      rw [groupsOf, List.foldl_append, ih, Nat.pow_succ', Nat.mod_mul]
      simp only [List.foldl_cons, List.foldl_nil, BitVec.toNat_ofNat]
      omega

/-- **The bytes of an address's groups are the address.** -/
theorem bytesToWord_groups (w : BitVec 128) : bytesToWord ((groups w).flatMap groupBytes) = w := by
  apply BitVec.eq_of_toNat_eq
  rw [bytesToWord, BitVec.toNat_ofNat, foldl_flatMap_groupBytes, groups, foldl_groupsOf,
    Nat.mod_eq_of_lt (show w.toNat < 65536 ^ 8 from w.isLt), Nat.mod_eq_of_lt w.isLt]

/-! ## §2. Text. -/

/-- The text of a group: lower-case hexadecimal, without leading zeros. -/
def groupText (g : BitVec 16) : List Char := Nat.toDigits 16 g.toNat

/-- Groups, separated by colons. -/
def groupsText : List (BitVec 16) → List Char
  | [] => []
  | [g] => groupText g
  | g :: g' :: gs => groupText g ++ ':' :: groupsText (g' :: gs)

/-- The full text of an address: its eight groups, with no ellipsis. -/
def ipv6Text (w : BitVec 128) : String := ⟨groupsText (groups w)⟩

/-- The full text of the CIDR `w/ones`. -/
def ipv6CIDRText (w : BitVec 128) (ones : Nat) : String := ipv6Text w ++ "/" ++ toString ones

example : ipv6CIDRText 0xfd000000000000000000000000010000#128 80 = "fd00:0:0:0:0:0:1:0/80" := by
  decide

/-- The digits `Nat.digitChar` writes are no separator of CIDR text. -/
theorem digitChar_ne : ∀ k < 16, Nat.digitChar k ≠ ':' ∧ Nat.digitChar k ≠ '/' := by
  decide

/-- The text of a group: hex digits worth the group. -/
theorem groupText_spec (g : BitVec 16) :
    groupText g ≠ [] ∧ (∀ c ∈ groupText g, ∃ k < 16, Nat.digitChar k = c) ∧
      (groupText g).foldl (fun m c => m * 16 + (hexDigit? c).getD 0) 0 = g.toNat := by
  obtain ⟨l, hl, hne, hdig, hv, -⟩ := toDigitsCore_spec (by decide : 1 < 16)
    (fun c => (hexDigit? c).getD 0) (fun k hk => by simp [hexDigit_digitChar k hk])
    (g.toNat + 1) g.toNat [] (Nat.lt_succ_self _)
  have hg : groupText g = l := by simpa [groupText, Nat.toDigits] using hl
  exact hg ▸ ⟨hne, hdig, hv⟩

/-- **`xtoi` reads a group back**, up to a character that is no hex digit. -/
theorem xtoi_groupText (g : BitVec 16) (rest : List Char)
    (hrest : ∀ c ∈ rest.head?, hexDigit? c = none) :
    xtoi (groupText g ++ rest) = (g.toNat, (groupText g).length, true) := by
  obtain ⟨hne, hdig, hv⟩ := groupText_spec g
  have hds : ∀ c ∈ groupText g, hexDigit? c = some ((hexDigit? c).getD 0) := fun c hc => by
    obtain ⟨k, hk, rfl⟩ := hdig c hc
    simp [hexDigit_digitChar k hk]
  show xtoi.go _ 0 0 = _
  rw [xtoi_go_append _ hds hrest 0 0 (hv ▸ Nat.lt_trans g.isLt (by decide))
    (by rw [Nat.zero_add]; exact fun h => hne (List.length_eq_zero.1 h)), hv, Nat.zero_add]

/-- The text of groups starts with a hex digit. -/
theorem groupsText_cons (g : BitVec 16) (gs : List (BitVec 16)) :
    ∃ k < 16, ∃ t, groupsText (g :: gs) = Nat.digitChar k :: t := by
  obtain ⟨hne, hdig, -⟩ := groupText_spec g
  obtain ⟨c, t, ht⟩ := List.exists_cons_of_ne_nil hne
  obtain ⟨k, hk, rfl⟩ := hdig c (ht ▸ List.mem_cons_self c t)
  cases gs with
  | nil => exact ⟨k, hk, t, by rw [groupsText, ht]⟩
  | cons g' gs => exact ⟨k, hk, _, by rw [groupsText, ht, List.cons_append]⟩

/-- Every character of the text of groups is a hex digit or a colon. -/
theorem mem_groupsText {gs : List (BitVec 16)} {x : Char} (hx : x ∈ groupsText gs) :
    x = ':' ∨ ∃ k < 16, Nat.digitChar k = x := by
  induction gs using groupsText.induct with
  | case1 => cases hx
  | case2 g => exact .inr ((groupText_spec g).2.1 x hx)
  | case3 g g' gs ih =>
      rw [groupsText, List.mem_append, List.mem_cons] at hx
      rcases hx with hx | rfl | hx
      · exact .inr ((groupText_spec g).2.1 x hx)
      · exact .inl rfl
      · exact ih hx

/-! ## §3. Reading the text back. -/

/-- **`parseIPv6`'s loop reads text of groups one group a pass**, writing each group's two bytes,
    as long as they fit. -/
theorem parseIPv6Loop_groupsText (fuel : Nat) (e : Option Nat) (g : BitVec 16)
    (gs : List (BitVec 16)) (ip : List (BitVec 8)) (hlen : ip.length + 2 * (gs.length + 1) ≤ IPv6len) :
    parseIPv6Loop (fuel + gs.length + 1) ⟨ip, e, groupsText (g :: gs)⟩ =
      some ⟨ip ++ (g :: gs).flatMap groupBytes, e, []⟩ := by
  induction gs generalizing g ip with
  | nil =>
      rw [groupsText, ← List.append_nil (groupText g), parseIPv6Loop_end (by simp at hlen ⊢; omega)
        (xtoi_groupText g [] nofun) (Nat.le_of_lt_succ g.isLt) (List.drop_left _ _)]
      rfl
  | cons g' gs ih =>
      obtain ⟨k, hk, t, ht⟩ := groupsText_cons g' gs
      have hsep := digitChar_ne k hk
      have hstep := @parseIPv6Loop_group (fuel + gs.length + 1) g.toNat (groupText g).length
        ⟨ip, e, groupText g ++ ':' :: groupsText (g' :: gs)⟩ (by simp at hlen ⊢; omega)
        (xtoi_groupText g _ (by simp [hexDigit?])) (Nat.le_of_lt_succ g.isLt)
        (by rw [List.get?_eq_getElem?, List.getElem?_append_right (Nat.le_refl _), Nat.sub_self,
          List.getElem?_cons_zero]; decide) _ (List.drop_left _ _)
        (by simp [ht]) (by simp [ht, hsep.1])
      rw [groupsText, List.length_cons, ← Nat.add_assoc, hstep, ih g' _ (by simp at hlen ⊢; omega)]
      simp [groupBytes]

/-- **The full text of an address is read back** by `parseIPv6`. -/
theorem parseIPv6_groupsText (w : BitVec 128) : parseIPv6 (groupsText (groups w)) = .v6 w := by
  obtain ⟨g, gs, hgs⟩ : ∃ g gs, groups w = g :: gs :=
    List.exists_cons_of_ne_nil (by simp [← List.length_pos])
  have h7 : gs.length = 7 := by simpa [hgs] using length_groups w
  obtain ⟨k, hk, t, ht⟩ := groupsText_cons g gs
  rw [hgs, ht, parseIPv6_of_ne_colon (digitChar_ne k hk).1, ← ht,
    show parseIPv6Loop 8 = parseIPv6Loop (0 + gs.length + 1) by rw [h7],
    parseIPv6Loop_groupsText 0 none g gs [] (by simp [h7, IPv6len]), ← hgs, List.nil_append,
    finish_full (by simp [IPv6len, -List.length_flatMap]), bytesToWord_groups]

/-! ## §4. `ParseCIDR`. -/

/-- Text of two groups or more has a colon: no dotted-quad text. -/
theorem colon_mem_groupsText (w : BitVec 128) : ':' ∈ groupsText (groups w) := by
  match groups w, length_groups w with
  | g :: g' :: gs, _ => exact List.mem_append.2 (.inr (List.mem_cons_self _ _))

theorem span_ipv6CIDRText (w : BitVec 128) (ones : Nat) :
    (ipv6CIDRText w ones).data.span (· ≠ '/') = (groupsText (groups w), '/' :: (toString ones).data) := by
  have hp : ∀ x ∈ groupsText (groups w), decide (x ≠ '/') = true := fun x hx =>
    decide_eq_true <| (mem_groupsText hx).elim (fun h => h ▸ by decide)
      fun ⟨k, hk, h⟩ => h ▸ (digitChar_ne k hk).2
  simp only [ipv6CIDRText, ipv6Text, String.data_append, List.append_assoc, List.span_eq_take_drop,
    List.takeWhile_append_of_pos hp, List.dropWhile_append_of_pos hp,
    show "/".data = ['/'] from rfl, List.singleton_append]
  simp

/-- **The full text of a CIDR parses back** to its address, and to the network of that address
    under the 16-byte mask of its prefix length. -/
theorem parseCIDR_ipv6CIDRText (w : BitVec 128) {ones : Nat} (h : ones ≤ 128) :
    parseCIDR (ipv6CIDRText w ones) =
      .ok (.v6 w, ⟨.v6 (w &&& cidrBits 128 ones), .v6 (cidrBits 128 ones)⟩) := by
  have haddr : parseCIDRAddr (groupsText (groups w)) = (IPv6len, .v6 w) := by
    rw [parseCIDRAddr, parseIPv4_of_colon (colon_mem_groupsText w), parseIPv6_groupsText]
  rw [parseCIDR_of_span (span_ipv6CIDRText w ones) (dtoi_toString (by unfold big; omega)) haddr nofun
    (by simpa [IPv6len] using h)]
  simp [IPv6len, cidrMask_v6 h, IP.mask]

/-- **What `ParseCIDR` returns for IPv6 text**: a 16-byte address and its network under the
    16-byte mask of a prefix length, and each such pair is returned for some text. -/
theorem parseCIDR_v6_iff {ip : IP} {n : IPNet} :
    (∃ s, parseCIDR s = .ok (ip, n) ∧ ¬ n.IsV4) ↔
      ∃ a ones, ones ≤ 128 ∧ ip = .v6 a ∧
        n = ⟨.v6 (a &&& cidrBits 128 ones), .v6 (cidrBits 128 ones)⟩ := by
  constructor
  · rintro ⟨s, hs, hv6⟩
    exact parseCIDR_v6 hs hv6
  · rintro ⟨a, ones, h, rfl, rfl⟩
    exact ⟨ipv6CIDRText a ones, parseCIDR_ipv6CIDRText a h, fun ⟨_, hm⟩ => nomatch hm⟩

end FabEdge.Go
