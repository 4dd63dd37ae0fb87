/-
  FabEdge.Net.Block — IPv4 address blocks, the abstract meaning of a CIDR, and what Go's
  `Contains` computes about them.

  A block is an interval of the `2 ^ 32` addresses: `2 ^ (32 - prefixLen)` of them from a base
  aligned to that size.  Blocks are NESTED OR DISJOINT, so whether two blocks meet can be read off
  ONE address of each (`meet_iff`).  The network `ParseCIDR` returns for dotted-quad text stands
  for the block `ofCIDR`, and `Contains` on it is membership in that block
  (`contains_cidr_iff`): Go's mask test refines the interval.

  Main results:
    * `mem_of_meet` — a block meeting one with a longer prefix holds all of it,
    * `meet_iff`    — two blocks meet iff one holds a given address of the other,
    * `contains_cidr_iff`, `v4Range_cidr_iff` — the refinement of `IPNet.contains` and of the
      address range of an `IPNet`,
    * `contains_or_contains_iff` — the host-address test of an IPv4 network against a parsed
      network of either family: ranges that meet, or `MappedOverlap` for IPv6 text.
-/
import FabEdge.Go.Net.Parse

namespace FabEdge.Net

open FabEdge.Go

/-! ## §1. Blocks. -/

/-- An IPv4 address block: the `2 ^ (32 - prefixLen)` addresses from an aligned `base`. -/
@[ext] structure Block where
  base : Nat
  prefixLen : Nat
  prefixLen_le : prefixLen ≤ 32
  base_lt : base < 2 ^ 32
  aligned : base % 2 ^ (32 - prefixLen) = 0

namespace Block

/-- The number of addresses of a block. -/
def size (b : Block) : Nat := 2 ^ (32 - b.prefixLen)

/-- `x` is an address of the block. -/
def Mem (b : Block) (x : Nat) : Prop := b.base ≤ x ∧ x < b.base + b.size

instance (b : Block) (x : Nat) : Decidable (b.Mem x) := inferInstanceAs (Decidable (_ ∧ _))

theorem size_pos (b : Block) : 0 < b.size := Nat.two_pow_pos _

/-- Membership is agreement with the base above the host bits. -/
theorem mem_iff_div (b : Block) (x : Nat) : b.Mem x ↔ x / b.size = b.base / b.size := by
  have hbase : b.base = b.base / b.size * b.size := (Nat.div_mul_cancel
    (Nat.dvd_of_mod_eq_zero b.aligned)).symm
  constructor
  · rintro ⟨h1, h2⟩
    refine Nat.le_antisymm ?_ ((Nat.le_div_iff_mul_le b.size_pos).2 (hbase ▸ h1))
    refine Nat.le_of_lt_succ ((Nat.div_lt_iff_lt_mul b.size_pos).2 ?_)
    rw [Nat.succ_mul, ← hbase]
    exact h2
  · intro h
    have h1 := Nat.div_mul_le_self x b.size
    have h2 := Nat.lt_div_mul_add (a := x) b.size_pos
    rw [h, ← hbase] at h1 h2
    exact ⟨h1, h2⟩

/-- The size of a block with a shorter prefix is a power-of-two multiple. -/
theorem size_eq_mul {b c : Block} (h : b.prefixLen ≤ c.prefixLen) :
    b.size = c.size * 2 ^ (c.prefixLen - b.prefixLen) := by
  rw [size, size, ← Nat.pow_add]
  congr 1
  have := c.prefixLen_le
  omega

/-- **Blocks are nested or disjoint.** A block that meets one with a longer prefix holds all of
    that one's addresses. -/
theorem mem_of_meet {b c : Block} (h : b.prefixLen ≤ c.prefixLen) {x : Nat}
    (hbx : b.Mem x) (hcx : c.Mem x) {y : Nat} (hcy : c.Mem y) : b.Mem y := by
  rw [mem_iff_div] at hbx hcx hcy ⊢
  have hdiv : ∀ z, z / b.size = z / c.size / 2 ^ (c.prefixLen - b.prefixLen) := fun z => by
    rw [size_eq_mul h, Nat.div_div_eq_div_mul]
  rw [hdiv, hcy, ← hcx, ← hdiv, hbx]

/-- **Two blocks meet iff one holds a given address of the other.** -/
theorem meet_iff {b c : Block} {hb hc : Nat} (hbb : b.Mem hb) (hcc : c.Mem hc) :
    (∃ x, b.Mem x ∧ c.Mem x) ↔ b.Mem hc ∨ c.Mem hb := by
  constructor
  · rintro ⟨x, hbx, hcx⟩
    rcases Nat.le_total b.prefixLen c.prefixLen with h | h
    · exact .inl (mem_of_meet h hbx hcx hcc)
    · exact .inr (mem_of_meet h hcx hbx hbb)
  · rintro (h | h)
    · exact ⟨hc, h, hcc⟩
    · exact ⟨hb, hbb, h⟩

/-! ## §2. The block of a CIDR, and the `IPNet` of a block. -/

/-- The block of the network `x/ones`. -/
def ofCIDR (x : BitVec 32) (ones : Nat) (h : ones ≤ 32) : Block where
  base := (x &&& cidrBits 32 ones).toNat
  prefixLen := ones
  prefixLen_le := h
  base_lt := BitVec.isLt _
  aligned := by rw [toNat_and_cidrBits]; exact Nat.mul_mod_left _ _

/-- The `IPNet` that stands for a block: its base and the CIDR mask of its prefix length. -/
def toIPNet (b : Block) : IPNet := ⟨.v4 (BitVec.ofNat 32 b.base), cidrMask b.prefixLen 32⟩

theorem mem_ofCIDR {x : BitVec 32} {ones : Nat} {h : ones ≤ 32} {y : Nat} :
    (ofCIDR x ones h).Mem y ↔ y / 2 ^ (32 - ones) = x.toNat / 2 ^ (32 - ones) := by
  rw [mem_iff_div]
  simp only [ofCIDR, size, toNat_and_cidrBits, Nat.mul_div_cancel _ (Nat.two_pow_pos _)]

theorem toIPNet_ofCIDR (x : BitVec 32) {ones : Nat} (h : ones ≤ 32) :
    (ofCIDR x ones h).toIPNet = ⟨.v4 (x &&& cidrBits 32 ones), .v4 (cidrBits 32 ones)⟩ := by
  simp only [toIPNet, ofCIDR, BitVec.ofNat_toNat, BitVec.setWidth_eq, cidrMask_v4 h]

/-- A block is determined by its `IPNet`. -/
theorem toIPNet_injective {b c : Block} (h : b.toIPNet = c.toIPNet) : b = c := by
  simp only [toIPNet, IPNet.mk.injEq, IP.v4.injEq, cidrMask_v4 b.prefixLen_le,
    cidrMask_v4 c.prefixLen_le, IPMask.v4.injEq] at h
  obtain ⟨hbase, hmask⟩ := h
  have := congrArg BitVec.toNat hbase
  simp only [BitVec.toNat_ofNat, Nat.mod_eq_of_lt b.base_lt, Nat.mod_eq_of_lt c.base_lt] at this
  exact Block.ext this (cidrBits_injective b.prefixLen_le c.prefixLen_le hmask)

end Block

/-! ## §3. Go's `Contains` refines block membership. -/

open Block

/-- **`Contains` is block membership.** For the network of `x/ones`, Go's mask test on any
    address holds iff the address has a 4-byte form whose number lies in the block. -/
theorem contains_cidr_iff (x : BitVec 32) {ones : Nat} (h : ones ≤ 32) (ip : IP) :
    (IPNet.mk (.v4 (x &&& cidrBits 32 ones)) (.v4 (cidrBits 32 ones))).contains ip = true ↔
      ∃ y, ip.to4 = .v4 y ∧ (ofCIDR x ones h).Mem y.toNat := by
  simp only [contains_v4_iff, BitVec.and_assoc, BitVec.and_self, and_cidrBits_eq_iff, mem_ofCIDR]
  exact exists_congr fun _ => and_congr_right fun _ => eq_comm

end FabEdge.Net

namespace FabEdge.Go

/-- The addresses of an IPv4 network, as numbers: those of the block it stands for. -/
def IPNet.V4Range (n : IPNet) (x : Nat) : Prop :=
  ∃ b : Net.Block, b.toIPNet = n ∧ b.Mem x

end FabEdge.Go

namespace FabEdge.Net

open FabEdge.Go Block

/-- A network's own address lies in its block. -/
theorem mem_ofCIDR_self (x : BitVec 32) {ones : Nat} (h : ones ≤ 32) :
    (ofCIDR x ones h).Mem x.toNat :=
  mem_ofCIDR.2 rfl

/-- The range of the network of `x/ones` is the block `ofCIDR x ones`. -/
theorem v4Range_cidr_iff (x : BitVec 32) {ones : Nat} (h : ones ≤ 32) (y : Nat) :
    (IPNet.mk (.v4 (x &&& cidrBits 32 ones)) (.v4 (cidrBits 32 ones))).V4Range y ↔
      (ofCIDR x ones h).Mem y := by
  rw [← toIPNet_ofCIDR x h]
  exact ⟨fun ⟨b, hb, hy⟩ => toIPNet_injective hb ▸ hy, fun hy => ⟨_, rfl, hy⟩⟩

/-! ## §4. Two parsed networks. -/

/-- **The host-address test decides overlap.** For two networks of dotted-quad text, testing
    each against the OTHER's address as written, not its network number, holds iff their
    ranges meet. -/
theorem contains_or_contains_iff_meet {s1 s2 : String} {ip1 ip2 : IP} {n1 n2 : IPNet}
    (h1 : parseCIDR s1 = .ok (ip1, n1)) (hv1 : n1.IsV4)
    (h2 : parseCIDR s2 = .ok (ip2, n2)) (hv2 : n2.IsV4) :
    (n1.contains ip2 || n2.contains ip1) = true ↔ ∃ x, n1.V4Range x ∧ n2.V4Range x := by
  obtain ⟨a1, b1, c1, d1, o1, ho1, rfl, rfl⟩ := parseCIDR_v4 h1 hv1
  obtain ⟨a2, b2, c2, d2, o2, ho2, rfl, rfl⟩ := parseCIDR_v4 h2 hv2
  simp only [Bool.or_eq_true, contains_cidr_iff _ ho1, contains_cidr_iff _ ho2, to4_IPv4,
    IP.v4.injEq, exists_eq_left', v4Range_cidr_iff _ ho1, v4Range_cidr_iff _ ho2]
  exact (meet_iff (mem_ofCIDR_self _ ho1) (mem_ofCIDR_self _ ho2)).symm

end FabEdge.Net

namespace FabEdge.Go

/-- What the host-address test finds between the IPv4 network `n` and the IPv6 network of
    `a/ones`.  The address must be `::ffff:x`.  With a prefix of at least 96 the IPv6 network is
    the IPv4 network `x/(ones - 96)`, and the two ranges must meet; with a shorter one only `x`
    itself is tested against `n`'s range. -/
def IPNet.MappedOverlap (n : IPNet) (a : BitVec 128) (ones : Nat) : Prop :=
  a >>> 32 = 0xffff#128 ∧
    if 96 ≤ ones then
      ∃ x, n.V4Range x ∧ (IPNet.mk (.v4 (a.setWidth 32 &&& cidrBits 32 (ones - 96)))
        (.v4 (cidrBits 32 (ones - 96)))).V4Range x
    else n.V4Range (a.setWidth 32).toNat

end FabEdge.Go

namespace FabEdge.Net

open FabEdge.Go Block

/-- **The host-address test across address families.** For a network of dotted-quad text and
    the IPv6 network of `a/ones`, the test finds `MappedOverlap`: an address that is not
    `::ffff:x` is never found, and with a prefix shorter than 96 only `x` is tested, whatever
    else the IPv6 range holds. -/
theorem contains_or_contains_iff_mapped {s1 : String} {ip1 : IP} {n1 : IPNet}
    (h1 : parseCIDR s1 = .ok (ip1, n1)) (hv1 : n1.IsV4) (a : BitVec 128) {ones : Nat}
    (hle : ones ≤ 128) :
    (n1.contains (.v6 a) ||
        (IPNet.mk (.v6 (a &&& cidrBits 128 ones)) (.v6 (cidrBits 128 ones))).contains ip1) = true ↔
      n1.MappedOverlap a ones := by
  obtain ⟨a1, b1, c1, d1, o1, ho1, rfl, rfl⟩ := parseCIDR_v4 h1 hv1
  rw [Bool.or_eq_true, contains_cidr_iff _ ho1, contains_v6_cidr_iff hle (to4_IPv4 a1 b1 c1 d1)]
  simp only [to4_v6_eq_v4_iff, and_assoc, exists_and_left, exists_eq_left', IPNet.MappedOverlap,
    v4Range_cidr_iff _ ho1]
  by_cases hp : 96 ≤ ones
  · -- the IPv6 network is the IPv4 network `x/(ones - 96)`: the two tests decide a meet
    have hq : ones - 96 ≤ 32 := by omega
    rw [if_pos hp]
    simp only [hp, true_and, v4Range_cidr_iff _ hq, ← and_or_left]
    refine and_congr_right fun _ => ?_
    rw [meet_iff (mem_ofCIDR_self _ ho1) (mem_ofCIDR_self _ hq)]
    exact or_congr_right ((and_cidrBits_eq_iff _ _ _).trans (mem_ofCIDR.trans eq_comm).symm)
  · -- the IPv6 network holds no IPv4 address: only `x` is tested
    simp only [hp, if_false, false_and, or_false]

/-- A 16-byte CIDR network determines its address and prefix length. -/
theorem exists_v6_cidr_iff {a : BitVec 128} {p : Nat} (hp : p ≤ 128)
    (P : BitVec 128 → Nat → Prop) :
    (∃ a' p', p' ≤ 128 ∧ IP.v6 a = .v6 a' ∧
      IPNet.mk (.v6 (a &&& cidrBits 128 p)) (.v6 (cidrBits 128 p)) =
        ⟨.v6 (a' &&& cidrBits 128 p'), .v6 (cidrBits 128 p')⟩ ∧ P a' p') ↔ P a p := by
  refine ⟨?_, fun h => ⟨a, p, hp, rfl, rfl, h⟩⟩
  rintro ⟨a', p', hp', ha, hn, h⟩
  simp only [IP.v6.injEq, IPNet.mk.injEq, IPMask.v6.injEq] at ha hn
  subst ha
  rwa [cidrBits_injective hp hp' hn.2]

/-- The test against a network of dotted-quad text, by the family of the other network. -/
theorem contains_or_contains_iff {s1 s2 : String} {ip1 ip2 : IP} {n1 n2 : IPNet}
    (h1 : parseCIDR s1 = .ok (ip1, n1)) (hv1 : n1.IsV4) (h2 : parseCIDR s2 = .ok (ip2, n2)) :
    (n1.contains ip2 || n2.contains ip1) = true ↔
      (n2.IsV4 ∧ ∃ x, n1.V4Range x ∧ n2.V4Range x) ∨
      ∃ a ones, ones ≤ 128 ∧ ip2 = .v6 a ∧
        n2 = ⟨.v6 (a &&& cidrBits 128 ones), .v6 (cidrBits 128 ones)⟩ ∧ n1.MappedOverlap a ones := by
  by_cases hv2 : n2.IsV4
  · -- IPv4 text: the ranges meet
    have hno : ¬ ∃ a ones, ones ≤ 128 ∧ ip2 = .v6 a ∧
        n2 = ⟨.v6 (a &&& cidrBits 128 ones), .v6 (cidrBits 128 ones)⟩ ∧ n1.MappedOverlap a ones :=
      fun ⟨_, _, _, _, hn, _⟩ => by obtain ⟨m, hm⟩ := hv2; rw [hn] at hm; cases hm
    simp only [contains_or_contains_iff_meet h1 hv1 h2 hv2, hv2, true_and, hno, or_false]
  · -- IPv6 text: `MappedOverlap`, of the one `a/ones` the parse determines
    obtain ⟨a, ones, hle, rfl, rfl⟩ := parseCIDR_v6 h2 hv2
    rw [contains_or_contains_iff_mapped h1 hv1 a hle, exists_v6_cidr_iff hle]
    exact ⟨.inr, fun h => h.resolve_left fun hv => hv2 hv.1⟩

/-! ## §5. An IPv6 edge network. -/

/-- **The host-address test against an IPv6 network that is not IPv4-mapped.** A network of
    IPv4 text is never found.  A network of IPv6 text `a/p` is found, when `a` is not
    IPv4-mapped, iff the two ranges share an address; when `a` is `::ffff:x`, iff its prefix is
    shorter than 96 and the edge address lies in its range. -/
theorem contains_or_contains_iff_v6 {e : BitVec 128} {pe : Nat} (hpe : pe ≤ 128)
    (he : e >>> 32 ≠ 0xffff#128) {s2 : String} {ip2 : IP} {n2 : IPNet}
    (h2 : parseCIDR s2 = .ok (ip2, n2)) :
    (IPNet.contains ⟨.v6 (e &&& cidrBits 128 pe), .v6 (cidrBits 128 pe)⟩ ip2 ||
        n2.contains (.v6 e)) = true ↔
      ∃ a p, p ≤ 128 ∧ ip2 = .v6 a ∧ n2 = ⟨.v6 (a &&& cidrBits 128 p), .v6 (cidrBits 128 p)⟩ ∧
        if a >>> 32 = 0xffff#128 then p < 96 ∧ a &&& cidrBits 128 p = e &&& cidrBits 128 p
        else ∃ z, z &&& cidrBits 128 pe = e &&& cidrBits 128 pe ∧
          z &&& cidrBits 128 p = a &&& cidrBits 128 p := by
  have hn : (e &&& cidrBits 128 pe) >>> 32 ≠ 0xffff#128 := fun h =>
    he ((and_cidrBits_ushiftRight_eq_iff hpe).1 h).2
  by_cases hv2 : n2.IsV4
  · -- IPv4 text: an IPv4 address, and a network that holds only IPv4 addresses
    obtain ⟨a1, b1, c1, d1, o, -, rfl, rfl⟩ := parseCIDR_v4 h2 hv2
    simp [contains_v6_v6_iff hn, contains_v4_iff, to4_v6_eq_v4_iff, he, IPv4, v4InV6_ushiftRight]
  · -- IPv6 text `a/p`
    obtain ⟨a, p, hp, rfl, rfl⟩ := parseCIDR_v6 h2 hv2
    rw [exists_v6_cidr_iff hp, Bool.or_eq_true, contains_v6_v6_iff hn,
      contains_v6_cidr_v6_iff hp he]
    simp only [IP.v6.injEq, exists_eq_left', BitVec.and_assoc, BitVec.and_self]
    by_cases ha : a >>> 32 = 0xffff#128
    · simp [ha]
    · rw [if_neg ha, exists_and_cidrBits_iff]
      simp only [ne_eq, ha, not_false_eq_true, true_and, and_false, eq_comm]

end FabEdge.Net
