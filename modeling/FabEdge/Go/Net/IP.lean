/-
  FabEdge.Go.Net.IP — the `net` package's addresses, masks and networks, as `options.go` uses them.

  A Go `net.IP` is a byte slice of length 0 (nil), `IPv4len = 4` or `IPv6len = 16`, and an IPv4
  address parsed from text is kept in the 16-byte form `::ffff:a.b.c.d`.  Here each slice is ONE
  big-endian word of its width, so the byte loops of `Mask` and `Contains`
  (`out[i] = ip[i] & mask[i]`, `nn[i]&m[i] == ip[i]&m[i]` for every `i`) are one `&&&` on the word,
  and `m[12:]` of a 16-byte mask is its low 32 bits.

  Main results:
    * `to4_IPv4`, `mask_IPv4_cidr` — what `To4` and `Mask` do to an address of dotted-quad text,
    * `contains_v4_iff` — `Contains` of an IPv4 network is agreement on the mask's bits,
    * `cidrBits_and_of_le` — a shorter CIDR mask is a sub-mask of a longer one,
    * `contains_v6_cidr_iff` — `Contains` of a 16-byte CIDR network, for an IPv4 address: only
      when the mask covers `::ffff`, as the IPv4 network 96 bits shorter.
-/
import Mathlib.Data.Nat.Bitwise

namespace FabEdge.Go

/-! ## §1. Slices as words. -/

/-- `net.IP`: nil, or the bytes of an `IPv4len` or `IPv6len` slice as one big-endian word. -/
inductive IP where
  | nil
  | v4 (a : BitVec 32)
  | v6 (a : BitVec 128)
  deriving DecidableEq, Repr

/-- `net.IPMask`, likewise. -/
inductive IPMask where
  | nil
  | v4 (m : BitVec 32)
  | v6 (m : BitVec 128)
  deriving DecidableEq, Repr

/-- `net.IPNet`: a network number and its mask. -/
structure IPNet where
  ip : IP
  mask : IPMask
  deriving DecidableEq, Repr

/-- `IPv4(a, b, c, d)`: the 16-byte form `::ffff:a.b.c.d`. -/
def IPv4 (a b c d : BitVec 8) : IP := .v6 (0xffff#96 ++ (a ++ b ++ c ++ d))

/-- `IP.To4`: the 4-byte form of an IPv4 address (also of `::ffff:a.b.c.d`), else nil. -/
def IP.to4 : IP → IP
  | .v4 a => .v4 a
  | .v6 a => if a >>> 32 = 0xffff#128 then .v4 (a.setWidth 32) else .nil
  | .nil => .nil

/-- The word of a CIDR mask: `ones` one-bits, then zeros. -/
def cidrBits (w ones : Nat) : BitVec w := BitVec.allOnes w <<< (w - ones)

/-- `CIDRMask(ones, bits)`; nil unless `bits` is 32 or 128 and `ones ≤ bits`. -/
def cidrMask (ones bits : Nat) : IPMask :=
  if bits = 32 ∧ ones ≤ 32 then .v4 (cidrBits 32 ones)
  else if bits = 128 ∧ ones ≤ 128 then .v6 (cidrBits 128 ones)
  else .nil

/-- `IP.Mask`: the address with the mask applied.  A 16-byte mask whose first 12 bytes are all
    ones is cut to its last 4 for an IPv4 address, an IPv4 address in 16-byte form is cut to its
    last 4 for a 4-byte mask, and any other length mismatch gives nil. -/
def IP.mask : IP → IPMask → IP
  | .v4 a, .v4 m => .v4 (a &&& m)
  | .v4 a, .v6 m => if m >>> 32 = BitVec.allOnes 128 >>> 32 then .v4 (a &&& m.setWidth 32) else .nil
  | .v6 a, .v4 m => if a >>> 32 = 0xffff#128 then .v4 (a.setWidth 32 &&& m) else .nil
  | .v6 a, .v6 m => .v6 (a &&& m)
  | _, _ => .nil

/-- `networkNumberAndMask`: the network number in its shortest form and a mask of the same
    length, or `(nil, nil)` when they do not fit together. -/
def networkNumberAndMask (n : IPNet) : IP × IPMask :=
  match n.ip.to4, n.ip, n.mask with
  | .v4 a, _, .v4 m => (.v4 a, .v4 m)
  | .v4 a, _, .v6 m => (.v4 a, .v4 (m.setWidth 32))
  | .nil, .v6 a, .v6 m => (.v6 a, .v6 m)
  | _, _, _ => (.nil, .nil)

/-- `(*IPNet).Contains`: the address, in its 4-byte form when it has one, must have the length
    of the network number and agree with it on the mask. -/
def IPNet.contains (n : IPNet) (ip : IP) : Bool :=
  let ip := match ip.to4 with
    | .nil => ip
    | x => x
  match networkNumberAndMask n, ip with
  | (.v4 nn, .v4 m), .v4 x => nn &&& m == x &&& m
  | (.v6 nn, .v6 m), .v6 x => nn &&& m == x &&& m
  | (.nil, _), .nil => true
  | _, _ => false

/-! ## §2. Addresses of dotted-quad text. -/

/-- The word of `IPv4(a, b, c, d)` after the 16-byte prefix. -/
def IPv4.word (a b c d : BitVec 8) : BitVec 32 := a ++ b ++ c ++ d

theorem v4InV6_ushiftRight (x : BitVec 32) : (0xffff#96 ++ x) >>> 32 = 0xffff#128 := by
  ext i
  simp only [BitVec.getLsbD_ushiftRight, BitVec.getLsbD_append, BitVec.getLsbD_ofNat]
  by_cases h : (i : Nat) < 96
  · simp [h, show ¬ 32 + (i : Nat) < 32 by omega, i.isLt]
  · have hbit : (0xffff : Nat).testBit i = false :=
      Nat.testBit_eq_false_of_lt (Nat.lt_of_lt_of_le (by decide : 0xffff < 2 ^ 16)
        (Nat.pow_le_pow_right (by decide) (by omega)))
    simp [h, hbit, show ¬ 32 + (i : Nat) < 32 by omega]

theorem v4InV6_setWidth (x : BitVec 32) : (0xffff#96 ++ x).setWidth 32 = x := by
  ext i
  rw [BitVec.getLsbD_setWidth, BitVec.getLsbD_append]
  simp [i.isLt]

@[simp] theorem to4_v4InV6 (x : BitVec 32) : (IP.v6 (0xffff#96 ++ x)).to4 = .v4 x := by
  simp [IP.to4, v4InV6_ushiftRight, v4InV6_setWidth]

@[simp] theorem to4_IPv4 (a b c d : BitVec 8) : (IPv4 a b c d).to4 = .v4 (IPv4.word a b c d) :=
  to4_v4InV6 _

@[simp] theorem cidrMask_v4 {ones : Nat} (h : ones ≤ 32) : cidrMask ones 32 = .v4 (cidrBits 32 ones) :=
  if_pos ⟨rfl, h⟩

theorem cidrMask_v6 {ones : Nat} (h : ones ≤ 128) :
    cidrMask ones 128 = .v6 (cidrBits 128 ones) := by
  simp [cidrMask, h]

/-- `Mask` of an address of dotted-quad text by an IPv4 CIDR mask keeps the masked 4-byte word. -/
@[simp] theorem mask_IPv4_cidr (a b c d : BitVec 8) (ones : Nat) :
    (IPv4 a b c d).mask (.v4 (cidrBits 32 ones)) = .v4 (IPv4.word a b c d &&& cidrBits 32 ones) := by
  simp [IPv4, IP.mask, IPv4.word, v4InV6_ushiftRight, v4InV6_setWidth]

/-! ## §3. `Contains` of an IPv4 network. -/

/-- **`Contains` of a 4-byte network is agreement on the mask's bits**, for any address. -/
theorem contains_v4_iff (nn m : BitVec 32) (ip : IP) :
    (IPNet.mk (.v4 nn) (.v4 m)).contains ip = true ↔ ∃ x, ip.to4 = .v4 x ∧ nn &&& m = x &&& m := by
  cases ip with
  | nil => simp [IPNet.contains, networkNumberAndMask, IP.to4]
  | v4 x => simp [IPNet.contains, networkNumberAndMask, IP.to4]
  | v6 x =>
      by_cases h : x >>> 32 = 0xffff#128 <;>
        simp [IPNet.contains, networkNumberAndMask, IP.to4, h]

/-! ## §4. CIDR masks are nested. -/

@[simp] theorem getLsbD_cidrBits (w ones i : Nat) :
    (cidrBits w ones).getLsbD i = (decide (i < w) && decide (w - ones ≤ i)) := by
  simp only [cidrBits, BitVec.getLsbD_shiftLeft, BitVec.getLsbD_allOnes]
  by_cases h1 : i < w
  · by_cases h2 : w - ones ≤ i
    · simp [h1, h2, show ¬ i < w - ones by omega, show i - (w - ones) < w by omega]
    · simp [h1, h2, show i < w - ones by omega]
  · simp [h1]

/-- A CIDR mask determines its prefix length. -/
theorem cidrBits_injective {w p q : Nat} (hp : p ≤ w) (hq : q ≤ w)
    (h : cidrBits w p = cidrBits w q) : p = q := by
  have key : ∀ {p q : Nat}, p < q → q ≤ w → cidrBits w p ≠ cidrBits w q := by
    intro p q hpq hq h
    have := congrArg (fun z => z.getLsbD (w - q)) h
    simp only [getLsbD_cidrBits] at this
    simp at this
    omega
  rcases Nat.lt_trichotomy p q with hlt | rfl | hgt
  · exact absurd h (key hlt hq)
  · rfl
  · exact absurd h.symm (key hgt hp)

/-- Masking by a CIDR mask keeps the high bits: the word's number rounded down to the block. -/
theorem toNat_and_cidrBits (x : BitVec 32) (ones : Nat) :
    (x &&& cidrBits 32 ones).toNat = x.toNat / 2 ^ (32 - ones) * 2 ^ (32 - ones) := by
  have hshift : x &&& cidrBits 32 ones = (x >>> (32 - ones)) <<< (32 - ones) := by
    ext i
    simp only [BitVec.getLsbD_and, getLsbD_cidrBits, BitVec.getLsbD_shiftLeft,
      BitVec.getLsbD_ushiftRight]
    by_cases hi : 32 - ones ≤ (i : Nat)
    · simp [hi, i.isLt, show ¬ (i : Nat) < 32 - ones by omega, Nat.add_sub_cancel' hi]
    · simp [hi, show (i : Nat) < 32 - ones by omega]
  rw [hshift, BitVec.toNat_shiftLeft, BitVec.toNat_ushiftRight, Nat.shiftLeft_eq,
    Nat.shiftRight_eq_div_pow]
  exact Nat.mod_eq_of_lt (Nat.lt_of_le_of_lt (Nat.div_mul_le_self _ _) x.isLt)

/-- Two words agree on a CIDR mask iff their numbers agree above its host bits. -/
theorem and_cidrBits_eq_iff (x y : BitVec 32) (ones : Nat) :
    x &&& cidrBits 32 ones = y &&& cidrBits 32 ones ↔
      x.toNat / 2 ^ (32 - ones) = y.toNat / 2 ^ (32 - ones) := by
  rw [BitVec.toNat_eq, toNat_and_cidrBits, toNat_and_cidrBits]
  exact Nat.mul_right_cancel_iff (Nat.two_pow_pos _)

/-- A shorter CIDR mask is a sub-mask of a longer one. -/
theorem cidrBits_and_of_le {w p q : Nat} (h : p ≤ q) :
    cidrBits w p &&& cidrBits w q = cidrBits w p := by
  ext i
  simp only [BitVec.getLsbD_and, getLsbD_cidrBits]
  by_cases h2 : w - p ≤ (i : Nat)
  · simp [h2, show w - q ≤ (i : Nat) by omega]
  · simp [h2]

/-! ## §5. IPv4-mapped IPv6 networks.

  A 16-byte network number is read as IPv4 by `To4` when its high 96 bits are `::ffff`; under a
  CIDR mask of `ones` bits that happens only when the mask covers them, `96 ≤ ones`, and then the
  low 32 bits of the mask are the IPv4 mask of `ones - 96` bits. -/

theorem to4_v6_eq_v4_iff {a : BitVec 128} {y : BitVec 32} :
    (IP.v6 a).to4 = .v4 y ↔ a >>> 32 = 0xffff#128 ∧ a.setWidth 32 = y := by
  simp only [IP.to4]
  split_ifs with h <;> simp [h]

/-- The low 32 bits of a 16-byte CIDR mask are the IPv4 CIDR mask 96 bits shorter. -/
theorem setWidth_cidrBits (ones : Nat) : (cidrBits 128 ones).setWidth 32 = cidrBits 32 (ones - 96) := by
  ext i
  simp only [BitVec.getLsbD_setWidth, getLsbD_cidrBits]
  have := i.isLt
  by_cases h : 128 - ones ≤ (i : Nat) <;> simp [h, this] <;> omega

/-- A masked 16-byte address keeps the `::ffff` prefix iff the mask covers it and the address
    has it. -/
theorem and_cidrBits_ushiftRight_eq_iff {a : BitVec 128} {ones : Nat} (h : ones ≤ 128) :
    (a &&& cidrBits 128 ones) >>> 32 = 0xffff#128 ↔ 96 ≤ ones ∧ a >>> 32 = 0xffff#128 := by
  by_cases hp : 96 ≤ ones
  · have hkeep : (a &&& cidrBits 128 ones) >>> 32 = a >>> 32 := by
      ext i
      simp only [BitVec.getLsbD_ushiftRight, BitVec.getLsbD_and, getLsbD_cidrBits]
      by_cases hi : 32 + (i : Nat) < 128
      · simp [hi, show 128 - ones ≤ 32 + (i : Nat) by omega]
      · simp [BitVec.getLsbD_ge a (32 + i) (by omega)]
    simp [hkeep, hp]
  · simp only [hp, false_and, iff_false]
    intro heq
    have := congrArg (fun z => z.getLsbD 0) heq
    simp only [BitVec.getLsbD_ushiftRight, BitVec.getLsbD_and, getLsbD_cidrBits] at this
    simp [show ¬ 128 - ones ≤ 32 by omega] at this

/-- **`Contains` of a 16-byte CIDR network, for an IPv4 address.** It holds only when the mask
    covers the `::ffff` prefix and the network number has it; the test is then that of the IPv4
    network of its low 32 bits, with a mask 96 bits shorter. -/
theorem contains_v6_cidr_iff {a : BitVec 128} {ones : Nat} (h : ones ≤ 128) {ip : IP}
    {w : BitVec 32} (hip : ip.to4 = .v4 w) :
    (IPNet.mk (.v6 (a &&& cidrBits 128 ones)) (.v6 (cidrBits 128 ones))).contains ip = true ↔
      96 ≤ ones ∧ a >>> 32 = 0xffff#128 ∧
        a.setWidth 32 &&& cidrBits 32 (ones - 96) = w &&& cidrBits 32 (ones - 96) := by
  unfold IPNet.contains networkNumberAndMask
  simp only [hip]
  by_cases hm : (a &&& cidrBits 128 ones) >>> 32 = 0xffff#128
  · simp [IP.to4, hm, (and_cidrBits_ushiftRight_eq_iff h).1 hm, BitVec.setWidth_and,
      setWidth_cidrBits, BitVec.and_assoc]
  · simp only [IP.to4, hm, if_false, Bool.false_eq_true, false_iff, not_and]
    exact fun h96 hff _ => hm ((and_cidrBits_ushiftRight_eq_iff h).2 ⟨h96, hff⟩)

/-- The network of `::ffff:x/(96 + q)` has the network number and mask of `x/q`. -/
theorem networkNumberAndMask_mapped (x : BitVec 32) {q : Nat} (hq : q ≤ 32) :
    networkNumberAndMask
        ⟨.v6 ((0xffff#96 ++ x) &&& cidrBits 128 (96 + q)), .v6 (cidrBits 128 (96 + q))⟩ =
      networkNumberAndMask ⟨.v4 (x &&& cidrBits 32 q), .v4 (cidrBits 32 q)⟩ := by
  have hm : ((0xffff#96 ++ x) &&& cidrBits 128 (96 + q)) >>> 32 = 0xffff#128 :=
    (and_cidrBits_ushiftRight_eq_iff (by omega)).2 ⟨by omega, v4InV6_ushiftRight x⟩
  simp [networkNumberAndMask, IP.to4, hm, BitVec.setWidth_and, v4InV6_setWidth, setWidth_cidrBits]

/-- **For `Contains`, the network of `::ffff:x/(96 + q)` is the network of `x/q`**, whatever the
    address tested. -/
theorem contains_mapped_eq (x : BitVec 32) {q : Nat} (hq : q ≤ 32) :
    (IPNet.mk (.v6 ((0xffff#96 ++ x) &&& cidrBits 128 (96 + q)))
        (.v6 (cidrBits 128 (96 + q)))).contains =
      (IPNet.mk (.v4 (x &&& cidrBits 32 q)) (.v4 (cidrBits 32 q))).contains := by
  funext ip
  unfold IPNet.contains
  rw [networkNumberAndMask_mapped x hq]

/-! ## §6. 16-byte networks that are not IPv4-mapped.

  Agreement on a CIDR mask is nested like the masks, so two networks of one width share a word
  iff one's number agrees with the other's on the SHORTER mask: the host-address test, made
  from both sides, decides it.  For IPv6, `Contains` makes that test only between a network
  number and an address that are both outside `::ffff`. -/

/-- Agreement on a longer CIDR mask implies agreement on a shorter one. -/
theorem and_cidrBits_and_of_le {w p q : Nat} (h : p ≤ q) (x : BitVec w) :
    x &&& cidrBits w q &&& cidrBits w p = x &&& cidrBits w p := by
  rw [BitVec.and_assoc, BitVec.and_comm (cidrBits w q), cidrBits_and_of_le h]

/-- **CIDR networks are nested or disjoint**, in bits: some word lies in both `x/p` and `y/q`
    iff `y` lies in `x/p` or `x` in `y/q`. -/
theorem exists_and_cidrBits_iff {w : Nat} (x y : BitVec w) (p q : Nat) :
    (∃ z, z &&& cidrBits w p = x &&& cidrBits w p ∧ z &&& cidrBits w q = y &&& cidrBits w q) ↔
      y &&& cidrBits w p = x &&& cidrBits w p ∨ x &&& cidrBits w q = y &&& cidrBits w q := by
  constructor
  · rintro ⟨z, hx, hy⟩
    rcases Nat.le_total p q with h | h
    · -- `z` and `y` agree on `q`, so on the shorter `p`, where `z` agrees with `x`
      left
      calc y &&& cidrBits w p
          = y &&& cidrBits w q &&& cidrBits w p := (and_cidrBits_and_of_le h y).symm
        _ = z &&& cidrBits w q &&& cidrBits w p := by rw [hy]
        _ = x &&& cidrBits w p := by rw [and_cidrBits_and_of_le h, hx]
    · right
      calc x &&& cidrBits w q
          = x &&& cidrBits w p &&& cidrBits w q := (and_cidrBits_and_of_le h x).symm
        _ = z &&& cidrBits w p &&& cidrBits w q := by rw [hx]
        _ = y &&& cidrBits w q := by rw [and_cidrBits_and_of_le h, hy]
  · rintro (h | h)
    · exact ⟨y, h, rfl⟩
    · exact ⟨x, rfl, h⟩

/-- `Contains` of a 16-byte network whose number is not IPv4-mapped holds only for a 16-byte
    address that is not either, agreeing with the number on the mask. -/
theorem contains_v6_v6_iff {nn m : BitVec 128} (hn : nn >>> 32 ≠ 0xffff#128) (ip : IP) :
    (IPNet.mk (.v6 nn) (.v6 m)).contains ip = true ↔
      ∃ a, ip = .v6 a ∧ a >>> 32 ≠ 0xffff#128 ∧ nn &&& m = a &&& m := by
  cases ip with
  | nil | v4 _ => simp [IPNet.contains, networkNumberAndMask, IP.to4, hn]
  | v6 a =>
      by_cases ha : a >>> 32 = 0xffff#128 <;>
        simp [IPNet.contains, networkNumberAndMask, IP.to4, hn, ha]

/-- `Contains` of a 16-byte CIDR network, for a 16-byte address that is not IPv4-mapped: it
    fails when the network number is read as IPv4, and is agreement on the mask otherwise. -/
theorem contains_v6_cidr_v6_iff {a : BitVec 128} {ones : Nat} (h : ones ≤ 128) {e : BitVec 128}
    (he : e >>> 32 ≠ 0xffff#128) :
    (IPNet.mk (.v6 (a &&& cidrBits 128 ones)) (.v6 (cidrBits 128 ones))).contains (.v6 e) = true ↔
      ¬ (96 ≤ ones ∧ a >>> 32 = 0xffff#128) ∧ a &&& cidrBits 128 ones = e &&& cidrBits 128 ones := by
  by_cases hm : (a &&& cidrBits 128 ones) >>> 32 = 0xffff#128
  · simp [IPNet.contains, networkNumberAndMask, IP.to4, hm, he,
      (and_cidrBits_ushiftRight_eq_iff h).1 hm]
  · rw [contains_v6_v6_iff hm, ← and_cidrBits_ushiftRight_eq_iff h]
    simp [hm, he, BitVec.and_assoc]

end FabEdge.Go
