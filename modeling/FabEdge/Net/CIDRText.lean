/-
  FabEdge.Net.CIDRText — the canonical text of an IPv4 CIDR, and what `ParseCIDR` makes of it.

  `dtoi` reads a run of decimal digits as `Nat.toDigits 10` writes them (`dtoi_toString_append`),
  so the text `a.b.c.d/ones` of four bytes and a prefix length, each written in decimal without
  leading zeros, parses to the address `IPv4(a, b, c, d)` and the network of the block
  `ofCIDR (a.b.c.d) ones` (`parseCIDR_cidrText`).  With `parseCIDR_v4` this pins down what
  `ParseCIDR` returns for IPv4 text: exactly the results of canonical texts.

  Main results:
    * `parseCIDR_cidrText` — the round trip from a byte quad and a prefix length to their text
      and back through `ParseCIDR`,
    * `parseCIDR_v4_iff` — the IPv4 results of `ParseCIDR` are exactly an address and the
      network of a block it lies in,
    * `parseCIDR_mappedCIDRText` — the IPv4-mapped text `::ffff:a.b.c.d/ones` parses to the
      address `IPv4(a, b, c, d)` and a 16-byte network, through the ellipsis, the group and the
      IPv4 tail of `parseIPv6`.
-/
import FabEdge.Net.Block
import Mathlib.Data.List.Basic
import Mathlib.Data.Nat.Digits

namespace FabEdge.Go

/-! ## §1. Reading decimal digits. -/

/-- A loop that multiplies by its base and adds a digit never goes below where it started. -/
theorem le_foldl_mul_add {b : Nat} (hb : 0 < b) (val : Char → Nat) (n : Nat) (ds : List Char) :
    n ≤ ds.foldl (fun m c => m * b + val c) n := by
  induction ds generalizing n with
  | nil => exact Nat.le_refl n
  | cons c ds ih =>
      exact Nat.le_trans (Nat.le_add_right_of_le (Nat.le_mul_of_pos_right n hb)) (ih _)

/-- `dtoi`'s loop reads a run of digits, up to the first character that is not one. -/
theorem dtoi_go_append {ds rest : List Char} (hds : ∀ c ∈ ds, '0' ≤ c ∧ c ≤ '9')
    (hrest : ∀ c ∈ rest.head?, ¬ ('0' ≤ c ∧ c ≤ '9')) (n i : Nat)
    (hbig : ds.foldl digitStep n < big) (hi : i + ds.length ≠ 0) :
    dtoi.go (ds ++ rest) n i = (ds.foldl digitStep n, i + ds.length, true) := by
  induction ds generalizing n i with
  | nil =>
      have hi : i ≠ 0 := hi
      cases rest with
      | nil => simp [dtoi.go, hi]
      | cons c rest => simp [dtoi.go, hrest c rfl, hi]
  | cons c ds ih =>
      have hc := hds c (List.mem_cons_self c ds)
      have hlt : digitStep n c < big :=
        Nat.lt_of_le_of_lt (le_foldl_mul_add (by decide) (fun c => c.toNat - '0'.toNat) _ ds) hbig
      have hstep := ih (fun x hx => hds x (List.mem_cons_of_mem c hx)) (digitStep n c) (i + 1)
        hbig (by omega)
      simp only [digitStep] at hlt hstep
      simp only [List.cons_append, dtoi.go, if_pos hc, List.foldl_cons, digitStep,
        List.length_cons, if_neg (Nat.not_le.2 hlt), List.append_eq, hstep]
      simp only [Prod.mk.injEq, and_true, true_and]
      omega

/-- The digit characters `Nat.digitChar` writes for `0` to `9`. -/
theorem digitChar_spec : ∀ k < 10, ('0' ≤ Nat.digitChar k ∧ Nat.digitChar k ≤ '9') ∧
    (Nat.digitChar k).toNat - '0'.toNat = k := by
  decide

/-- One pass of `Nat.toDigitsCore`: the last digit goes in front of the accumulator. -/
theorem toDigitsCore_succ (b fuel n : Nat) (ds : List Char) :
    Nat.toDigitsCore b (fuel + 1) n ds =
      if n / b = 0 then Nat.digitChar (n % b) :: ds
      else Nat.toDigitsCore b fuel (n / b) (Nat.digitChar (n % b) :: ds) := rfl

/-- What `Nat.toDigitsCore b` puts in front of its accumulator: digits of base `b` worth the
    number, for any reading `val` of the digits that `Nat.digitChar` writes, with no leading
    zero. -/
theorem toDigitsCore_spec {b : Nat} (hb : 1 < b) (val : Char → Nat)
    (hval : ∀ k < b, val (Nat.digitChar k) = k) (fuel n : Nat) (ds : List Char) (h : n < fuel) :
    ∃ l, Nat.toDigitsCore b fuel n ds = l ++ ds ∧ l ≠ [] ∧
      (∀ c ∈ l, ∃ k < b, Nat.digitChar k = c) ∧ l.foldl (fun m c => m * b + val c) 0 = n ∧
      (l.head? = some '0' → l = ['0']) := by
  induction fuel generalizing n ds with
  | zero => exact absurd h (Nat.not_lt_zero n)
  | succ fuel ih =>
      have hd : n % b < b := Nat.mod_lt n (by omega)
      have hdiv := Nat.div_add_mod' n b
      by_cases hq : n / b = 0
      · refine ⟨[Nat.digitChar (n % b)], by rw [toDigitsCore_succ, if_pos hq]; rfl,
          List.cons_ne_nil _ _, by simpa using ⟨_, hd, rfl⟩, ?_, fun hh => by simpa using hh⟩
        simp only [hq, Nat.zero_mul, Nat.zero_add] at hdiv
        rw [List.foldl_cons, List.foldl_nil, hval _ hd, Nat.zero_mul, Nat.zero_add, hdiv]
      · obtain ⟨l, hl, hne, hdigits, hv, hhead⟩ := ih (n / b) (Nat.digitChar (n % b) :: ds)
          (Nat.lt_of_lt_of_le (Nat.div_lt_self (Nat.pos_of_ne_zero fun h0 => hq (by simp [h0])) hb)
            (Nat.le_of_lt_succ h))
        refine ⟨l ++ [Nat.digitChar (n % b)], by rw [toDigitsCore_succ, if_neg hq, hl]; simp,
          by simp, ?_, ?_, ?_⟩
        · exact fun c hc => (List.mem_append.1 hc).elim (hdigits c) fun hc =>
            ⟨_, hd, (List.mem_singleton.1 hc).symm⟩
        · simp only [List.foldl_append, hv, List.foldl_cons, List.foldl_nil, hval _ hd, hdiv]
        · -- a leading zero would make the higher digits worth `0`, but `n / b ≠ 0`
          intro hh
          obtain rfl := hhead (by rwa [List.head?_append_of_ne_nil _ hne] at hh)
          have h0 : val '0' = 0 := hval 0 (by omega)
          simp [h0] at hv
          exact absurd hv.symm hq

/-- The decimal text of a number: digits worth it, with no leading zero. -/
theorem toString_data_spec (x : Nat) :
    (toString x).data ≠ [] ∧ (∀ c ∈ (toString x).data, '0' ≤ c ∧ c ≤ '9') ∧
      (toString x).data.foldl digitStep 0 = x ∧
      ((toString x).data.head? = some '0' → (toString x).data = ['0']) := by
  obtain ⟨l, hl, hne, hdig, hv, hzero⟩ := toDigitsCore_spec (by decide : 1 < 10)
    (fun c => c.toNat - '0'.toNat) (fun k hk => (digitChar_spec k hk).2) (x + 1) x []
    (Nat.lt_succ_self x)
  have hx : (toString x).data = l := by
    simpa using hl
  refine hx ▸ ⟨hne, fun c hc => ?_, hv, hzero⟩
  obtain ⟨k, hk, rfl⟩ := hdig c hc
  exact (digitChar_spec k hk).1

/-- **`dtoi` reads back the decimal text of a number** below `big`. -/
theorem dtoi_toString_append {x : Nat} (hx : x < big) {rest : List Char}
    (hrest : ∀ c ∈ rest.head?, ¬ ('0' ≤ c ∧ c ≤ '9')) :
    dtoi ((toString x).data ++ rest) = (x, (toString x).data.length, true) := by
  obtain ⟨hne, hdig, hval, -⟩ := toString_data_spec x
  have hlen : 0 + (toString x).data.length ≠ 0 := by
    rw [Nat.zero_add]
    exact fun h => hne (List.length_eq_zero.1 h)
  show dtoi.go _ 0 0 = _
  rw [dtoi_go_append hdig hrest 0 0 (hval.symm ▸ hx) hlen, hval, Nat.zero_add]

theorem dtoi_toString {x : Nat} (hx : x < big) :
    dtoi (toString x).data = (x, (toString x).data.length, true) := by
  simpa using dtoi_toString_append hx
    (by simp : ∀ c ∈ ([] : List Char).head?, ¬ ('0' ≤ c ∧ c ≤ '9'))

/-! ## §2. Dotted-quad text. -/

/-- The dotted-quad text of an address: four bytes in decimal, without leading zeros. -/
def ipv4Text (a b c d : BitVec 8) : String :=
  toString a.toNat ++ "." ++ toString b.toNat ++ "." ++ toString c.toNat ++ "." ++
    toString d.toNat

/-- The canonical text of the CIDR `a.b.c.d/ones`. -/
def cidrText (a b c d : BitVec 8) (ones : Nat) : String :=
  ipv4Text a b c d ++ "/" ++ toString ones

example : cidrText 10 233 64 0 18 = "10.233.64.0/18" := by decide

theorem ipv4Text_data (a b c d : BitVec 8) :
    (ipv4Text a b c d).data = (toString a.toNat).data ++ '.' :: ((toString b.toNat).data ++ '.' ::
      ((toString c.toNat).data ++ '.' :: (toString d.toNat).data)) := by
  simp [ipv4Text]

/-- Dotted-quad text is digits and dots. -/
theorem mem_ipv4Text {a b c d : BitVec 8} {x : Char} (hx : x ∈ (ipv4Text a b c d).data) :
    x = '.' ∨ ('0' ≤ x ∧ x ≤ '9') := by
  have hdig := fun y : BitVec 8 => (toString_data_spec y.toNat).2.1
  simp only [ipv4Text_data, List.mem_append, List.mem_cons] at hx
  rcases hx with hx | hx | hx | hx | hx | hx | hx
  all_goals first | exact .inl hx | exact .inr (hdig _ x hx)

theorem toNat_lt_big (x : BitVec 8) : x.toNat < big :=
  Nat.lt_of_lt_of_le x.isLt (by decide)

/-- The first field of `parseIPv4`. -/
theorem parseIPv4Field_first (x : BitVec 8) {rest : List Char}
    (hrest : ∀ c ∈ rest.head?, ¬ ('0' ≤ c ∧ c ≤ '9')) :
    parseIPv4Field 0 ((toString x.toNat).data ++ rest) = some (x, rest) := by
  obtain ⟨hne, -, -, hzero⟩ := toString_data_spec x.toNat
  have hlead : ¬ ((toString x.toNat).data.length > 1 ∧
      ((toString x.toNat).data ++ rest).head? = some '0') := by
    rintro ⟨hl, hh⟩
    rw [List.head?_append_of_ne_nil _ hne] at hh
    simp [hzero hh] at hl
  simp only [parseIPv4Field, List.append_eq_nil, hne, false_and, if_false,
    dtoi_toString_append (toNat_lt_big x) hrest, Nat.lt_irrefl, gt_iff_lt, if_neg hlead]
  simp [Nat.not_lt.2 (Nat.le_of_lt_succ x.isLt)]

/-- A later field of `parseIPv4` reads, after its dot, as the first does. -/
theorem parseIPv4Field_dot {i : Nat} (hi : 0 < i) {s : List Char} (hs : s ≠ []) :
    parseIPv4Field i ('.' :: s) = parseIPv4Field 0 s := by
  simp [parseIPv4Field, hi, hs]

/-- A later field of `parseIPv4`, after its dot. -/
theorem parseIPv4Field_next (x : BitVec 8) (i : Nat) (hi : 0 < i) {rest : List Char}
    (hrest : ∀ c ∈ rest.head?, ¬ ('0' ≤ c ∧ c ≤ '9')) :
    parseIPv4Field i ('.' :: ((toString x.toNat).data ++ rest)) = some (x, rest) := by
  rw [parseIPv4Field_dot hi (by simp [(toString_data_spec x.toNat).1]),
    parseIPv4Field_first x hrest]

theorem not_digit_dot : ¬ ('0' ≤ '.' ∧ '.' ≤ '9') := by decide

/-- The four fields of dotted-quad text. -/
theorem parseIPv4Bytes_ipv4Text (a b c d : BitVec 8) :
    parseIPv4Bytes (ipv4Text a b c d).data = some (a, b, c, d) := by
  have hdot : ∀ {s : List Char}, ∀ c ∈ ('.' :: s).head?, ¬ ('0' ≤ c ∧ c ≤ '9') := by
    simp [not_digit_dot]
  have hnil : ∀ c ∈ ([] : List Char).head?, ¬ ('0' ≤ c ∧ c ≤ '9') := by simp
  simp only [ipv4Text, String.data_append, List.append_assoc]
  simp only [parseIPv4Bytes, show (".".data ++ ·) = ('.' :: ·) from rfl,
    parseIPv4Field_first a hdot, parseIPv4Field_next b 1 (by decide) hdot,
    parseIPv4Field_next c 2 (by decide) hdot, Option.bind_eq_bind, Option.some_bind]
  rw [← List.append_nil (toString d.toNat).data, parseIPv4Field_next d 3 (by decide) hnil]
  rfl

/-- **Dotted-quad text parses back.** -/
theorem parseIPv4_ipv4Text (a b c d : BitVec 8) : parseIPv4 (ipv4Text a b c d).data = IPv4 a b c d := by
  rw [parseIPv4, parseIPv4Bytes_ipv4Text]

/-! ## §3. CIDR text. -/

theorem ne_slash_of_digit {c : Char} (h : '0' ≤ c ∧ c ≤ '9') : c ≠ '/' := by
  rintro rfl
  exact absurd h.1 (by decide)

/-- No character of dotted-quad text is a slash. -/
theorem ne_slash_of_mem_ipv4Text {a b c d : BitVec 8} {x : Char}
    (hx : x ∈ (ipv4Text a b c d).data) : x ≠ '/' :=
  (mem_ipv4Text hx).elim (fun h => h ▸ by decide) ne_slash_of_digit

/-- Dotted-quad text and a slash: `ParseCIDR` cuts at that slash. -/
theorem span_ipv4Text_slash (a b c d : BitVec 8) (m : String) :
    (ipv4Text a b c d ++ "/" ++ m).data.span (· ≠ '/') = ((ipv4Text a b c d).data, '/' :: m.data) := by
  have hp : ∀ x ∈ (ipv4Text a b c d).data, decide (x ≠ '/') = true := fun x hx =>
    decide_eq_true (ne_slash_of_mem_ipv4Text hx)
  simp only [String.data_append, List.append_assoc, List.span_eq_take_drop,
    List.takeWhile_append_of_pos hp, List.dropWhile_append_of_pos hp,
    show "/".data = ['/'] from rfl, List.singleton_append]
  simp

theorem span_cidrText (a b c d : BitVec 8) (ones : Nat) :
    (cidrText a b c d ones).data.span (· ≠ '/') =
      ((ipv4Text a b c d).data, '/' :: (toString ones).data) :=
  span_ipv4Text_slash a b c d (toString ones)

/-- `ParseCIDR` of text cut at its slash into an address it reads and a prefix length, in
    decimal, that fits the address. -/
theorem parseCIDR_of_span {s : String} {addr mask : List Char} {ones iplen : Nat} {ip : IP}
    (hs : s.data.span (· ≠ '/') = (addr, '/' :: mask)) (hm : dtoi mask = (ones, mask.length, true))
    (ha : parseCIDRAddr addr = (iplen, ip)) (hip : ip ≠ .nil) (hle : ones ≤ 8 * iplen) :
    parseCIDR s = .ok (ip, ⟨ip.mask (cidrMask ones (8 * iplen)), cidrMask ones (8 * iplen)⟩) := by
  simp only [parseCIDR, hs, ha, hm, hip, false_or, Bool.false_eq_true, ne_eq, not_true_eq_false,
    Nat.not_lt.2 hle, gt_iff_lt, or_false, if_false, Bool.true_eq_false]

/-- **The canonical text of a CIDR parses back** to its address and the network of its block. -/
theorem parseCIDR_cidrText (a b c d : BitVec 8) {ones : Nat} (h : ones ≤ 32) :
    parseCIDR (cidrText a b c d ones) =
      .ok (IPv4 a b c d, (Net.Block.ofCIDR (IPv4.word a b c d) ones h).toIPNet) := by
  have haddr : parseCIDRAddr (ipv4Text a b c d).data = (IPv4len, IPv4 a b c d) := by
    simp [parseCIDRAddr, parseIPv4_ipv4Text, IPv4]
  rw [parseCIDR_of_span (span_cidrText a b c d ones) (dtoi_toString (by unfold big; omega)) haddr (by simp [IPv4])
    (by simpa [IPv4len] using h), Net.Block.toIPNet_ofCIDR]
  simp [IPv4len, cidrMask_v4 h]

/-- The network of a block stands for IPv4 text. -/
theorem toIPNet_isV4 (b : Net.Block) : b.toIPNet.IsV4 :=
  ⟨_, cidrMask_v4 b.prefixLen_le⟩

/-- **What `ParseCIDR` returns for IPv4 text**: an address `a.b.c.d` and the network of the
    block of `a.b.c.d/ones`, and each such pair is returned for some text. -/
theorem parseCIDR_v4_iff {ip : IP} {n : IPNet} :
    (∃ s, parseCIDR s = .ok (ip, n) ∧ n.IsV4) ↔
      ∃ a b c d ones, ∃ h : ones ≤ 32,
        ip = IPv4 a b c d ∧ n = (Net.Block.ofCIDR (IPv4.word a b c d) ones h).toIPNet := by
  constructor
  · rintro ⟨s, hs, hv4⟩
    obtain ⟨a, b, c, d, ones, h, rfl, rfl⟩ := parseCIDR_v4 hs hv4
    exact ⟨a, b, c, d, ones, h, rfl, (Net.Block.toIPNet_ofCIDR _ h).symm⟩
  · rintro ⟨a, b, c, d, ones, h, rfl, rfl⟩
    exact ⟨cidrText a b c d ones, parseCIDR_cidrText a b c d h, toIPNet_isV4 _⟩

/-! ## §4. IPv4-mapped IPv6 text.

  `::ffff:a.b.c.d` is IPv6 text with an ellipsis, one group and an IPv4 tail.  `parseIPv6`
  reads `ffff` as a group; it then reads the first decimal field of the tail as hexadecimal, up
  to the dot, which sends it to `parseIPv4` for the whole tail.  The address is `IPv4(a, b, c, d)`,
  as from the dotted-quad text, but the network keeps the 16-byte mask of the prefix length. -/

/-- The IPv4-mapped IPv6 text `::ffff:a.b.c.d/ones` of a CIDR. -/
def mappedCIDRText (a b c d : BitVec 8) (ones : Nat) : String := "::ffff:" ++ cidrText a b c d ones

/-- One step of `xtoi`'s loop, on a decimal digit. -/
def hexStep (n : Nat) (c : Char) : Nat := n * 16 + (c.toNat - '0'.toNat)

theorem digit_sub_le {c : Char} (h : '0' ≤ c ∧ c ≤ '9') : c.toNat - '0'.toNat ≤ 9 := by
  have h9 : c.toNat ≤ '9'.toNat := h.2
  have : '9'.toNat = 57 := rfl
  have : '0'.toNat = 48 := rfl
  omega

/-- A run of `k` decimal digits read as hexadecimal stays below `16 ^ k`, after a start `n`. -/
theorem foldl_hexStep_lt {ds : List Char} (hds : ∀ c ∈ ds, '0' ≤ c ∧ c ≤ '9') (n : Nat) :
    ds.foldl hexStep n < (n + 1) * 16 ^ ds.length := by
  induction ds generalizing n with
  | nil => simp
  | cons c ds ih =>
      have hd := digit_sub_le (hds c (List.mem_cons_self c ds))
      calc (c :: ds).foldl hexStep n
          < (hexStep n c + 1) * 16 ^ ds.length :=
            ih (fun x hx => hds x (List.mem_cons_of_mem c hx)) _
        _ ≤ (n + 1) * 16 * 16 ^ ds.length := Nat.mul_le_mul_right _ (by unfold hexStep; omega)
        _ = (n + 1) * 16 ^ (c :: ds).length := by
            rw [List.length_cons, Nat.pow_succ', Nat.mul_assoc]

/-- The digits `Nat.digitChar` writes for `0` to `15` are hex digits, worth what they stand for. -/
theorem hexDigit_digitChar : ∀ k < 16, hexDigit? (Nat.digitChar k) = some k := by
  decide

/-- `xtoi`'s loop reads a run of hex digits, up to the first character that is none. -/
theorem xtoi_go_append {ds rest : List Char} (val : Char → Nat)
    (hds : ∀ c ∈ ds, hexDigit? c = some (val c))
    (hrest : ∀ c ∈ rest.head?, hexDigit? c = none) (n i : Nat)
    (hbig : ds.foldl (fun m c => m * 16 + val c) n < big) (hi : i + ds.length ≠ 0) :
    xtoi.go (ds ++ rest) n i = (ds.foldl (fun m c => m * 16 + val c) n, i + ds.length, true) := by
  induction ds generalizing n i with
  | nil =>
      have hi : i ≠ 0 := hi
      cases rest with
      | nil => simp [xtoi.go, hi]
      | cons c rest => simp [xtoi.go, hrest c rfl, hi]
  | cons c ds ih =>
      have hlt : n * 16 + val c < big :=
        Nat.lt_of_le_of_lt (le_foldl_mul_add (by decide) val _ ds) hbig
      have hstep := ih (fun x hx => hds x (List.mem_cons_of_mem c hx)) (n * 16 + val c) (i + 1)
        hbig (by omega)
      simp only [List.cons_append, xtoi.go, hds c (List.mem_cons_self c ds), List.foldl_cons,
        List.length_cons, if_neg (Nat.not_le.2 hlt), List.append_eq, hstep]
      simp only [Prod.mk.injEq, and_true, true_and]
      omega

/-- `xtoi` reads the decimal text of a byte, up to a character that is no hex digit, as a
    number that fits a group. -/
theorem xtoi_byteText (x : BitVec 8) (rest : List Char)
    (hrest : ∀ c ∈ rest.head?, hexDigit? c = none) :
    ∃ n, n ≤ 0xFFFF ∧
      xtoi ((toString x.toNat).data ++ rest) = (n, (toString x.toNat).data.length, true) := by
  obtain ⟨hne, hdig, -, -⟩ := toString_data_spec x.toNat
  have hlen : (toString x.toNat).data.length ≤ 3 :=
    Nat.repr_length _ 3 (by decide) (Nat.lt_of_lt_of_le x.isLt (by decide))
  have hlt : (toString x.toNat).data.foldl hexStep 0 < 16 ^ 3 :=
    Nat.lt_of_lt_of_le (by simpa using foldl_hexStep_lt hdig 0)
      (Nat.pow_le_pow_right (by decide) hlen)
  refine ⟨(toString x.toNat).data.foldl hexStep 0, by omega, ?_⟩
  have hds : ∀ c ∈ (toString x.toNat).data, hexDigit? c = some (c.toNat - '0'.toNat) :=
    fun c hc => by simp only [hexDigit?, if_pos (hdig c hc)]
  show xtoi.go _ 0 0 = _
  rw [xtoi_go_append _ hds hrest 0 0 (Nat.lt_trans hlt (by decide))
    (by rw [Nat.zero_add]; exact fun h => hne (List.length_eq_zero.1 h)), Nat.zero_add]
  rfl

theorem toNat_append_eq_add {m n : Nat} (x : BitVec m) (y : BitVec n) :
    (x ++ y).toNat = x.toNat * 2 ^ n + y.toNat := by
  rw [BitVec.toNat_append, Nat.shiftLeft_eq, Nat.mul_comm, Nat.mul_add_lt_is_or y.isLt]

/-- The bytes `::ffff:a.b.c.d` stands for, after the ellipsis is expanded. -/
theorem bytesToWord_mapped (a b c d : BitVec 8) :
    bytesToWord (List.replicate 10 0 ++ [0xff, 0xff, a, b, c, d]) =
      0xffff#96 ++ IPv4.word a b c d := by
  apply BitVec.eq_of_toNat_eq
  have ha := a.isLt
  have hb := b.isLt
  have hc := c.isLt
  have hd := d.isLt
  simp only [bytesToWord, IPv4.word, BitVec.toNat_ofNat, toNat_append_eq_add]
  simp [List.replicate]
  omega

/-- **`::ffff:a.b.c.d` is read as `IPv4(a, b, c, d)`.** -/
theorem parseIPv6_mapped (a b c d : BitVec 8) :
    parseIPv6 ("::ffff:" ++ ipv4Text a b c d).data = IPv4 a b c d := by
  have hD := ipv4Text_data a b c d
  set R := (toString b.toNat).data ++ '.' ::
    ((toString c.toNat).data ++ '.' :: (toString d.toNat).data)
  obtain ⟨hne, hdig, -, -⟩ := toString_data_spec a.toNat
  obtain ⟨x, xs, hA⟩ := List.exists_cons_of_ne_nil hne
  have hx := hdig x (hA ▸ List.mem_cons_self x xs)
  obtain ⟨n, hn, hxtoi⟩ := xtoi_byteText a ('.' :: R) (by simp [hexDigit?])
  set A := (toString a.toNat).data
  -- the tail starts with a digit, so the colon before it is a separator, not an ellipsis
  have hcolon : (A ++ '.' :: R).head? ≠ some ':' := by
    rw [hA, List.cons_append, List.head?_cons]
    rintro ⟨⟩
    exact absurd hx (by decide)
  have hdot : (A ++ '.' :: R).get? A.length = some '.' := by
    rw [List.get?_eq_getElem?, List.getElem?_append_right (Nat.le_refl _), Nat.sub_self,
      List.getElem?_cons_zero]
  -- the group `ffff`, then the tail, read as an IPv4 address
  have hgroup := @parseIPv6Loop_group 7 0xffff 4
    ⟨[], some 0, 'f' :: 'f' :: 'f' :: 'f' :: ':' :: (A ++ '.' :: R)⟩
    (show 0 < 16 by decide) rfl (by decide) (show some ':' ≠ some '.' by decide) _ rfl (by simp)
    hcolon
  have htail := @parseIPv6Loop_ipv4 6 n A.length
    ⟨[] ++ [BitVec.ofNat 8 (0xffff / 256), BitVec.ofNat 8 0xffff], some 0, A ++ '.' :: R⟩
    (by simp [IPv6len]) hxtoi hn hdot rfl (by simp [IPv6len, IPv4len]) a b c d
    (hD ▸ parseIPv4Bytes_ipv4Text a b c d)
  rw [String.data_append, hD, show "::ffff:".data = [':', ':', 'f', 'f', 'f', 'f', ':'] from rfl]
  simp only [List.cons_append, List.nil_append]
  rw [parseIPv6_ellipsis (List.cons_ne_nil _ _), hgroup, htail, finish_ellipsis]
  · exact congrArg IP.v6 (bytesToWord_mapped a b c d)
  · simp [IPv6len]

theorem span_mappedCIDRText (a b c d : BitVec 8) (ones : Nat) :
    (mappedCIDRText a b c d ones).data.span (· ≠ '/') =
      (("::ffff:" ++ ipv4Text a b c d).data, '/' :: (toString ones).data) := by
  have hp1 : ∀ x ∈ "::ffff:".data, decide (x ≠ '/') = true := by decide
  have hp2 : ∀ x ∈ (ipv4Text a b c d).data, decide (x ≠ '/') = true := fun x hx =>
    decide_eq_true (ne_slash_of_mem_ipv4Text hx)
  simp only [mappedCIDRText, cidrText, String.data_append, List.append_assoc,
    List.span_eq_take_drop, List.takeWhile_append_of_pos hp1, List.takeWhile_append_of_pos hp2,
    List.dropWhile_append_of_pos hp1, List.dropWhile_append_of_pos hp2,
    show "/".data = ['/'] from rfl, List.singleton_append]
  simp

/-- **IPv4-mapped text parses** to the address of the dotted-quad text, and to the network of
    that address under the 16-byte mask of the prefix length. -/
theorem parseCIDR_mappedCIDRText (a b c d : BitVec 8) {ones : Nat} (h : ones ≤ 128) :
    parseCIDR (mappedCIDRText a b c d ones) =
      .ok (IPv4 a b c d, ⟨.v6 ((0xffff#96 ++ IPv4.word a b c d) &&& cidrBits 128 ones),
        .v6 (cidrBits 128 ones)⟩) := by
  have hv4 : parseIPv4 ("::ffff:" ++ ipv4Text a b c d).data = .nil := by
    rw [String.data_append]
    rfl
  have haddr : parseCIDRAddr ("::ffff:" ++ ipv4Text a b c d).data = (IPv6len, IPv4 a b c d) := by
    rw [parseCIDRAddr, hv4, parseIPv6_mapped]
  rw [parseCIDR_of_span (span_mappedCIDRText a b c d ones) (dtoi_toString (by unfold big; omega)) haddr
    (by simp [IPv4])
    (by simpa [IPv6len] using h)]
  simp [IPv6len, cidrMask_v6 h, IPv4, IPv4.word, IP.mask]

end FabEdge.Go
