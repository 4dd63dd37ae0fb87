/-
  FabEdge.Net.IPv4Syntax — the texts `ParseCIDR` reads as IPv4 CIDRs.

  The converse of `FabEdge.Net.CIDRText`.  `parseIPv4` accepts a field only as the decimal text
  of its byte without leading zeros, so the dotted-quad text it accepts is the canonical text of
  its four bytes (`parseIPv4Bytes_eq_some`).  `dtoi` reads the prefix length after the slash
  with no such check: any number of leading zeros passes.  Both rest on decimal text without
  leading zeros being unique (`eq_toString_of_digits`), which is `Nat.digits_ofDigits`.

  Main results:
    * `parseIPv4Bytes_eq_some` — the dotted-quad text `parseIPv4` accepts is canonical,
    * `parseCIDR_eq_ok_v4_iff` — `ParseCIDR` returns an address and a network with a 4-byte mask
      exactly for the text `a.b.c.d/` followed by zeros and a prefix length `ones ≤ 32` in
      decimal, and then returns `IPv4(a, b, c, d)` and the network of the block `a.b.c.d/ones`,
    * `parseCIDR_ok_iff_of_colon_not_mem` — text without a colon is IPv6 text to no one, so
      `ParseCIDR` accepts it exactly in that form.
-/
import FabEdge.Net.CIDRText

namespace FabEdge.Go

/-! ## §1. Decimal text is unique. -/

/-- The values of decimal digits, least significant first, as `Nat.digits` lists them. -/
def digitValues (l : List Char) : List Nat := (l.map fun c => c.toNat - '0'.toNat).reverse

theorem ofDigits_digitValues (l : List Char) :
    Nat.ofDigits 10 (digitValues l) = l.foldl digitStep 0 := by
  induction l using List.reverseRecOn with
  | nil => rfl
  | append_singleton l c ih =>
      rw [show digitValues (l ++ [c]) = (c.toNat - '0'.toNat) :: digitValues l by simp [digitValues],
        Nat.ofDigits_cons, ih, List.foldl_append, List.foldl_cons, List.foldl_nil, digitStep]
      omega

/-- A digit is the character `Nat.digitChar` writes for its value. -/
theorem digitChar_digit {c : Char} (h : '0' ≤ c ∧ c ≤ '9') :
    Nat.digitChar (c.toNat - '0'.toNat) = c := by
  have hspec := digitChar_spec _ (Nat.lt_succ_of_le (digit_sub_le h))
  have h0 : '0'.toNat ≤ c.toNat := h.1
  have h0' : '0'.toNat ≤ (Nat.digitChar (c.toNat - '0'.toNat)).toNat := hspec.1.1
  have htoNat : (Nat.digitChar (c.toNat - '0'.toNat)).toNat = c.toNat := by omega
  calc Nat.digitChar (c.toNat - '0'.toNat)
      = Char.ofNat (Nat.digitChar (c.toNat - '0'.toNat)).toNat := (Char.ofNat_toNat _).symm
    _ = Char.ofNat c.toNat := by rw [htoNat]
    _ = c := Char.ofNat_toNat c

/-- Decimal text is determined by the values of its digits. -/
theorem eq_of_digitValues_eq {l l' : List Char} (hl : ∀ c ∈ l, '0' ≤ c ∧ c ≤ '9')
    (hl' : ∀ c ∈ l', '0' ≤ c ∧ c ≤ '9') (h : digitValues l = digitValues l') : l = l' := by
  have hchars : ∀ {m : List Char}, (∀ c ∈ m, '0' ≤ c ∧ c ≤ '9') →
      (m.map fun c => c.toNat - '0'.toNat).map Nat.digitChar = m := fun hm => by
    rw [List.map_map]
    exact (List.map_congr_left fun c hc => digitChar_digit (hm c hc)).trans (List.map_id _)
  rw [← hchars hl, ← hchars hl', List.reverse_inj.1 h]

/-- `Nat.digits` reads back decimal text with no leading zero. -/
theorem digits_foldl_digitStep {l : List Char} (hne : l ≠ []) (hdig : ∀ c ∈ l, '0' ≤ c ∧ c ≤ '9')
    (h0 : l.head? ≠ some '0') : Nat.digits 10 (l.foldl digitStep 0) = digitValues l := by
  rw [← ofDigits_digitValues]
  refine Nat.digits_ofDigits 10 (by decide) _ (fun k hk => ?_) (fun _ => ?_)
  · obtain ⟨c, hc, rfl⟩ := List.mem_map.1 (List.mem_reverse.1 hk)
    exact Nat.lt_succ_of_le (digit_sub_le (hdig c hc))
  · obtain ⟨c, t, rfl⟩ := List.exists_cons_of_ne_nil hne
    simp only [digitValues, List.map_cons, List.reverse_cons, List.getLast_append_singleton]
    intro hv
    have hc := digitChar_digit (hdig c (List.mem_cons_self c t))
    rw [hv] at hc
    exact h0 (by rw [← hc]; rfl)

/-- **Decimal text without leading zeros is the text `toString` writes** for its value. -/
theorem eq_toString_of_digits {l : List Char} (hne : l ≠ []) (hdig : ∀ c ∈ l, '0' ≤ c ∧ c ≤ '9')
    (hzero : l.head? = some '0' → l = ['0']) : l = (toString (l.foldl digitStep 0)).data := by
  by_cases h0 : l.head? = some '0'
  · rw [hzero h0]
    rfl
  · obtain ⟨hne', hdig', hv', hzero'⟩ := toString_data_spec (l.foldl digitStep 0)
    have h1 := digits_foldl_digitStep hne hdig h0
    -- the value is not `0`, whose text is `0`
    have h0' : (toString (l.foldl digitStep 0)).data.head? ≠ some '0' := fun h => by
      have hval := hv'
      rw [hzero' h] at hval
      rw [← hval, show (['0'] : List Char).foldl digitStep 0 = 0 from rfl, Nat.digits_zero] at h1
      exact hne (by simpa [digitValues] using h1.symm)
    have h2 := digits_foldl_digitStep hne' hdig' h0'
    rw [hv'] at h2
    exact eq_of_digitValues_eq hdig hdig' (h1.symm.trans h2)

/-- Decimal text is zeros, then the text `toString` writes for its value. -/
theorem eq_zeros_toString_of_digits {l : List Char} (hne : l ≠ [])
    (hdig : ∀ c ∈ l, '0' ≤ c ∧ c ≤ '9') :
    ∃ z, l = List.replicate z '0' ++ (toString (l.foldl digitStep 0)).data := by
  induction l with
  | nil => exact absurd rfl hne
  | cons c t ih =>
      by_cases hc : c = '0'
      · subst hc
        cases t with
        | nil => exact ⟨0, rfl⟩
        | cons c' t' =>
            obtain ⟨z, hz⟩ := ih (List.cons_ne_nil _ _) fun x hx => hdig x (.tail _ hx)
            refine ⟨z + 1, ?_⟩
            rw [List.foldl_cons, show digitStep 0 '0' = 0 from rfl, List.replicate_succ,
              List.cons_append, ← hz]
      · exact ⟨0, eq_toString_of_digits hne hdig fun h => absurd (Option.some.inj h) hc⟩

/-! ## §2. What `parseIPv4` accepts. -/

/-- **A field of `parseIPv4` is the decimal text of its byte**, without leading zeros, after its
    dot when it is not the first. -/
theorem parseIPv4Field_eq_some {i : Nat} {t r : List Char} {x : BitVec 8}
    (h : parseIPv4Field i t = some (x, r)) :
    t = (if 0 < i then ['.'] else []) ++ ((toString x.toNat).data ++ r) := by
  have hfield : ∀ u : List Char, (match dtoi u with
      | (n, c, ok) =>
        if ok = false ∨ n > 255 then none
        else if c > 1 ∧ u.head? = some '0' then none else some (BitVec.ofNat 8 n, u.drop c)) =
        some (x, r) → u = (toString x.toNat).data ++ r := by
    intro u hu
    rcases hd : dtoi u with ⟨n, c, ok⟩
    simp only [hd] at hu
    split_ifs at hu with hbad hlead
    cases hu
    simp only [not_or, Bool.not_eq_false, gt_iff_lt, Nat.not_lt] at hbad
    obtain ⟨rfl, hn⟩ := hbad
    obtain ⟨-, hlen, hc, hdig, hv⟩ := dtoi_go_spec hd
    simp only [Nat.sub_zero] at hlen hdig hv
    have hne : u.take c ≠ [] := by
      simp only [ne_eq, List.take_eq_nil_iff, not_or]
      exact ⟨hc, fun hu => by simp [hu] at hlen; omega⟩
    -- a leading zero is the whole field
    have hzero : (u.take c).head? = some '0' → u.take c = ['0'] := fun hh => by
      rw [List.head?_take, if_neg hc] at hh
      obtain rfl : c = 1 := by
        by_contra h1
        exact hlead ⟨by omega, hh⟩
      cases u with
      | nil => cases hh
      | cons y u => simp only [List.head?_cons, Option.some.injEq] at hh; simp [hh]
    have htext := eq_toString_of_digits hne hdig hzero
    have hx : (BitVec.ofNat 8 n).toNat = n := by
      simp only [BitVec.toNat_ofNat]
      omega
    rw [hx, ← hv, ← htext, List.take_append_drop]
  unfold parseIPv4Field at h
  split_ifs at h with hs hi hdot
  · simp only at h
    rw [if_pos hi, ← hfield _ h]
    cases t with
    | nil => exact absurd rfl hs
    | cons c t =>
        obtain rfl : c = '.' := by simpa using hdot
        rfl
  · simp only at h
    rw [if_neg hi, List.nil_append, ← hfield _ h]

/-- **The dotted-quad text `parseIPv4` accepts is the canonical text of its bytes.** -/
theorem parseIPv4Bytes_eq_some {s : List Char} {a b c d : BitVec 8}
    (h : parseIPv4Bytes s = some (a, b, c, d)) : s = (ipv4Text a b c d).data := by
  simp only [parseIPv4Bytes, Option.bind_eq_bind, Option.bind_eq_some] at h
  obtain ⟨⟨a', s1⟩, h1, ⟨b', s2⟩, h2, ⟨c', s3⟩, h3, ⟨d', s4⟩, h4, h5⟩ := h
  simp only at h2 h3 h4 h5
  split_ifs at h5 with hs4
  simp only [Option.some.injEq, Prod.mk.injEq] at h5
  obtain ⟨rfl, rfl, rfl, rfl⟩ := h5
  subst hs4
  rw [parseIPv4Field_eq_some h1, parseIPv4Field_eq_some h2, parseIPv4Field_eq_some h3,
    parseIPv4Field_eq_some h4, ipv4Text_data]
  simp

/-- Text with a colon is no dotted-quad text. -/
theorem parseIPv4_of_colon {s : List Char} (h : ':' ∈ s) : parseIPv4 s = .nil := by
  unfold parseIPv4
  rcases hb : parseIPv4Bytes s with _ | ⟨a, b, c, d⟩
  · rfl
  · rw [parseIPv4Bytes_eq_some hb] at h
    rcases mem_ipv4Text h with h | h
    · cases h
    · exact absurd h.2 (by decide)

/-! ## §3. What `ParseCIDR` reads as an IPv4 CIDR. -/

/-- The text `a.b.c.d/ones` with `z` zeros before the prefix length. -/
def paddedCIDRText (a b c d : BitVec 8) (z ones : Nat) : String :=
  ipv4Text a b c d ++ "/" ++ (⟨List.replicate z '0'⟩ ++ toString ones)

example : paddedCIDRText 10 0 0 0 2 8 = "10.0.0.0/008" := by decide

/-- `dtoi` reads past leading zeros. -/
theorem dtoi_zeros_toString (z : Nat) {x : Nat} (hx : x < big) :
    dtoi (List.replicate z '0' ++ (toString x).data) =
      (x, (List.replicate z '0' ++ (toString x).data).length, true) := by
  obtain ⟨hne, hdig, hval, -⟩ := toString_data_spec x
  have hzeros : ∀ k, (List.replicate k '0').foldl digitStep 0 = 0 := fun k => by
    induction k with
    | zero => rfl
    | succ k ih => rw [List.replicate_succ, List.foldl_cons]; exact ih
  have hv : (List.replicate z '0' ++ (toString x).data).foldl digitStep 0 = x := by
    rw [List.foldl_append, hzeros, hval]
  have hds : ∀ c ∈ List.replicate z '0' ++ (toString x).data, '0' ≤ c ∧ c ≤ '9' := fun c hc =>
    (List.mem_append.1 hc).elim (fun hc => by rw [List.eq_of_mem_replicate hc]; decide) (hdig c)
  have := @dtoi_go_append _ [] hds (by simp) 0 0 (by rwa [hv])
    (by rw [Nat.zero_add, List.length_append]; exact fun h => hne (List.length_eq_zero.1 (by omega)))
  rw [List.append_nil, hv, Nat.zero_add] at this
  exact this

/-- **The texts `ParseCIDR` reads as IPv4 CIDRs**: canonical dotted-quad text, a slash, and a
    prefix length of at most 32 in decimal, with any number of leading zeros.  For such text it
    returns the address as written and the network of its block. -/
theorem parseCIDR_eq_ok_v4_iff {s : String} {ip : IP} {n : IPNet} :
    (parseCIDR s = .ok (ip, n) ∧ n.IsV4) ↔
      ∃ a b c d z ones, ∃ h : ones ≤ 32, s = paddedCIDRText a b c d z ones ∧
        ip = IPv4 a b c d ∧ n = (Net.Block.ofCIDR (IPv4.word a b c d) ones h).toIPNet := by
  constructor
  · rintro ⟨hs, hv4⟩
    obtain ⟨addr, iplen, ones, hA, -, hle, rfl, mask, hdata, hmask⟩ := parseCIDR_ok hs
    rcases parseCIDRAddr_cases hA with ⟨rfl, a, b, c, d, hb, rfl⟩ | ⟨rfl, -⟩
    · have h32 : ones ≤ 32 := by simpa [IPv4len] using hle
      obtain ⟨-, -, hc, hdig, hv⟩ := dtoi_go_spec hmask
      simp only [Nat.sub_zero, List.take_length] at hdig hv
      obtain ⟨z, hz⟩ := eq_zeros_toString_of_digits
        (List.ne_nil_of_length_pos (Nat.pos_of_ne_zero hc)) hdig
      rw [hv] at hz
      refine ⟨a, b, c, d, z, ones, h32, ?_, rfl, ?_⟩
      · apply String.ext
        rw [hdata, parseIPv4Bytes_eq_some hb, hz, paddedCIDRText]
        simp
      · rw [Net.Block.toIPNet_ofCIDR]
        simp [IPv4len, cidrMask_v4 h32]
    · obtain ⟨m, hm⟩ := hv4
      simp [IPv6len, cidrMask_v6 (show ones ≤ 128 by simpa [IPv6len] using hle)] at hm
  · rintro ⟨a, b, c, d, z, ones, h, rfl, rfl, rfl⟩
    have haddr : parseCIDRAddr (ipv4Text a b c d).data = (IPv4len, IPv4 a b c d) := by
      simp [parseCIDRAddr, parseIPv4_ipv4Text, IPv4]
    have hs : (paddedCIDRText a b c d z ones).data.span (· ≠ '/') =
        ((ipv4Text a b c d).data, '/' :: (List.replicate z '0' ++ (toString ones).data)) := by
      rw [paddedCIDRText, span_ipv4Text_slash, String.data_append]
    refine ⟨?_, toIPNet_isV4 _⟩
    rw [parseCIDR_of_span hs (dtoi_zeros_toString z (by unfold big; omega)) haddr (by simp [IPv4])
      (by simpa [IPv4len] using h), Net.Block.toIPNet_ofCIDR]
    simp [IPv4len, cidrMask_v4 h]

/-! ## §4. Text without a colon. -/

/-- A colon-free text fails `parseIPv6`'s first pass, or leaves it with one group and no
    ellipsis; either way `parseIPv6` returns nil. -/
theorem finish_loop_of_colon_not_mem {s : List Char} (hs : ':' ∉ s) (fuel : Nat) :
    parseIPv6.finish (parseIPv6Loop (fuel + 1) ⟨[], none, s⟩) = .nil := by
  have hdrop : ∀ c s', s.drop c ≠ ':' :: s' := fun c s' h =>
    hs (List.mem_of_mem_drop (h ▸ List.mem_cons_self _ _))
  rw [parseIPv6Loop]
  rcases hx : xtoi s with ⟨n, c, ok⟩
  simp only [hx, List.length_nil, Option.isNone_none, Option.isSome_none, List.nil_append, IPv6len,
    IPv4len, Nat.reduceLT, Nat.reduceSub, ne_eq, true_and, if_true, Bool.false_eq_true, if_false,
    Nat.zero_ne_add_one, not_false_eq_true, OfNat.zero_ne_ofNat]
  split_ifs with h1 h2
  · rfl
  · rfl
  · split
    · simp [parseIPv6.finish, IPv6len]
    · rfl
    · next h => exact absurd h (hdrop _ _)
    · next h => exact absurd h (hdrop _ _)
    · rfl

/-- Text without a colon is no IPv6 text. -/
theorem parseIPv6_of_colon_not_mem {s : List Char} (hs : ':' ∉ s) : parseIPv6 s = .nil := by
  cases s with
  | nil => rfl
  | cons x t =>
      rw [parseIPv6_of_ne_colon fun h => hs (h ▸ List.mem_cons_self _ _)]
      exact finish_loop_of_colon_not_mem hs 7

/-- **Text without a colon passes `ParseCIDR` exactly when it is canonical dotted-quad text, a
    slash and a prefix length of at most 32**, in decimal with any number of leading zeros. -/
theorem parseCIDR_ok_iff_of_colon_not_mem {s : String} (hs : ':' ∉ s.data) :
    (∃ r, parseCIDR s = .ok r) ↔
      ∃ a b c d z ones, ones ≤ 32 ∧ s = paddedCIDRText a b c d z ones := by
  constructor
  · rintro ⟨⟨ip, n⟩, h⟩
    -- the address was read as dotted-quad text: `parseIPv6` reads no colon-free text
    have hv4 : n.IsV4 := by
      obtain ⟨addr, iplen, ones, hA, hne, hle, rfl, mask, hdata, -⟩ := parseCIDR_ok h
      rcases parseCIDRAddr_cases hA with ⟨rfl, -⟩ | ⟨rfl, rfl⟩
      · exact ⟨_, cidrMask_v4 (by simpa [IPv4len] using hle)⟩
      · exact absurd (parseIPv6_of_colon_not_mem fun h' => hs (hdata ▸ List.mem_append_left _ h'))
          hne
    obtain ⟨a, b, c, d, z, ones, h32, hs', -, -⟩ := parseCIDR_eq_ok_v4_iff.1 ⟨h, hv4⟩
    exact ⟨a, b, c, d, z, ones, h32, hs'⟩
  · rintro ⟨a, b, c, d, z, ones, h32, rfl⟩
    exact ⟨_, (parseCIDR_eq_ok_v4_iff.2 ⟨a, b, c, d, z, ones, h32, rfl, rfl, rfl⟩).1⟩

end FabEdge.Go
