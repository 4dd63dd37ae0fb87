/-
  FabEdge.Operator.SubnetOverlap — the subnet checks of `Validate` (lines 329–347) decide
  overlap with the edge pod CIDR.

  The overlap loop tests `subnet.Contains(ip2) || subnet2.Contains(ip)` on the ADDRESSES
  `ParseCIDR` returned, not on the network numbers.  Because CIDR blocks are nested or disjoint
  (`FabEdge.Net.meet_iff`), this is exactly the test of whether the two ranges meet, and because
  the first loop has already parsed every connector subnet, the `ParseCIDR` whose error the
  overlap loop discards never fails there.

  A connector subnet of IPv6 text is tested through its `::ffff` form only: `Contains` reads a
  16-byte network as IPv4 only when its mask covers that prefix (`IPNet.MappedOverlap`).

  Main results:
    * `parseSubnets_ok_iff_paddedCIDRText` — the colon-free connector subnets that parse are
      canonical dotted quads with a prefix length that may be zero-padded,
    * `validateSubnets_error_iff` — with edge IPAM on, an IPv4 edge pod CIDR and connector
      subnets whose valid entries are IPv4 text, the checks return an error iff a subnet does not
      parse or a subnet's range meets the edge pod CIDR's, and they never panic,
    * `validateSubnets_error_iff_families` — the same with connector subnets of either family,
    * `validateSubnets_error_iff_v6` — against an edge pod CIDR of IPv6 text: ranges that share
      an address, IPv4 text never, and `::ffff:x/p` only below a prefix of 96,
    * `validateSubnets_mappedCIDRText`, `validateSubnets_mappedEdgePodCIDR` — a connector subnet
      or an edge pod CIDR written `::ffff:a.b.c.d/(96 + q)` is checked exactly as `a.b.c.d/q`.
-/
import FabEdge.Operator.Options
import FabEdge.Net.Block
import FabEdge.Net.CIDRText
import FabEdge.Net.IPv4Syntax

namespace FabEdge.Operator

open FabEdge.Go FabEdge.Net

/-! ## §1. The parse loop. -/

section ParseLoop

variable {l : List String}

theorem parseSubnets_ne_nilDereference (l : List String) :
    parseSubnets l ≠ .error .nilDereference := by
  induction l with
  | nil => simp [parseSubnets, pure, Except.pure]
  | cons s l ih =>
      unfold parseSubnets
      split
      · simp [throw, throwThe, MonadExceptOf.throw]
      · exact ih

theorem parseSubnets_error_iff :
    (∃ msg, parseSubnets l = .error (.error msg)) ↔ ∃ s ∈ l, ∃ e, parseCIDR s = .error e := by
  induction l with
  | nil => simp [parseSubnets, pure, Except.pure]
  | cons s l ih =>
      unfold parseSubnets
      split
      · rename_i e he
        simp only [throw, throwThe, MonadExceptOf.throw, Except.error.injEq, Failure.error.injEq,
          exists_eq', List.mem_cons, true_iff]
        exact ⟨s, .inl rfl, e, he⟩
      · rename_i r hr
        rw [ih]
        simp [hr]

theorem parseSubnets_ok_iff :
    parseSubnets l = .ok () ↔ ∀ s ∈ l, ∃ r, parseCIDR s = .ok r := by
  induction l with
  | nil => simp [parseSubnets, pure, Except.pure]
  | cons s l ih =>
      unfold parseSubnets
      split
      · rename_i e he
        simp [throw, throwThe, MonadExceptOf.throw, he]
      · rename_i r hr
        rw [ih, List.forall_mem_cons]
        exact ⟨fun h => ⟨⟨r, hr⟩, h⟩, And.right⟩

/-- **The connector subnets without a colon that pass the parse loop** are exactly canonical
    dotted-quad text, a slash, and a prefix length of at most 32 in decimal, which may have
    leading zeros: `010.0.0.0/8` fails, `10.0.0.0/008` passes. -/
theorem parseSubnets_ok_iff_paddedCIDRText (hl : ∀ s ∈ l, ':' ∉ s.data) :
    parseSubnets l = .ok () ↔
      ∀ s ∈ l, ∃ a b c d z ones, ones ≤ 32 ∧ s = paddedCIDRText a b c d z ones := by
  rw [parseSubnets_ok_iff]
  exact forall₂_congr fun s hs => parseCIDR_ok_iff_of_colon_not_mem (hl s hs)

/-- A connector subnet whose prefix length is written with a leading zero passes. -/
theorem parseSubnets_ok_paddedPrefix :
    (∀ s ∈ ["192.168.1.0/024"], ':' ∉ s.data) ∧ parseSubnets ["192.168.1.0/024"] = .ok () :=
  ⟨by decide, (parseSubnets_ok_iff_paddedCIDRText (by decide)).2 fun s hs =>
    ⟨192, 168, 1, 0, 1, 24, by decide, by rw [List.mem_singleton.1 hs]; decide⟩⟩

end ParseLoop

/-! ## §2. The overlap loop, once every subnet parses. -/

section OverlapLoop

variable {ip : IP} {subnet : IPNet} {l : List String}

theorem checkOverlap_ne_nilDereference (hall : ∀ s ∈ l, ∃ r, parseCIDR s = .ok r) :
    checkOverlap ip subnet l ≠ .error .nilDereference := by
  induction l with
  | nil => simp [checkOverlap, pure, Except.pure]
  | cons s l ih =>
      obtain ⟨⟨ip2, n2⟩, hs⟩ := hall s (List.mem_cons_self s l)
      simp only [checkOverlap, hs]
      split
      · simp [throw, throwThe, MonadExceptOf.throw]
      · exact ih fun t ht => hall t (List.mem_cons_of_mem s ht)

theorem checkOverlap_error_iff (hall : ∀ s ∈ l, ∃ r, parseCIDR s = .ok r) :
    (∃ msg, checkOverlap ip subnet l = .error (.error msg)) ↔
      ∃ s ∈ l, ∃ ip2 n2, parseCIDR s = .ok (ip2, n2) ∧
        (subnet.contains ip2 || n2.contains ip) = true := by
  induction l with
  | nil => simp [checkOverlap, pure, Except.pure]
  | cons s l ih =>
      obtain ⟨⟨ip2, n2⟩, hs⟩ := hall s (List.mem_cons_self s l)
      have hQ : (∃ a b, parseCIDR s = .ok (a, b) ∧ (subnet.contains a || b.contains ip) = true) ↔
          (subnet.contains ip2 || n2.contains ip) = true :=
        ⟨fun ⟨a, b, h, ht⟩ => by rw [hs] at h; cases h; exact ht, fun ht => ⟨_, _, hs, ht⟩⟩
      simp only [List.mem_cons, or_and_right, exists_or, exists_eq_left]
      rw [hQ]
      simp only [checkOverlap, hs]
      split
      · rename_i hhit
        simp [throw, throwThe, MonadExceptOf.throw, hhit]
      · rename_i hmiss
        rw [ih fun t ht => hall t (List.mem_cons_of_mem s ht)]
        simp [hmiss]

end OverlapLoop

/-! ## §3. Lines 329–347. -/

/-- With edge IPAM on and the edge pod CIDR parsed, the checks are the parse loop, then the
    overlap loop. -/
theorem validateSubnets_eq {opts : Options} (hIPAM : opts.agent.enableEdgeIPAM = true)
    {ip : IP} {n : IPNet} (hEdge : parseCIDR opts.edgePodCIDR = .ok (ip, n)) :
    validateSubnets opts =
      (parseSubnets opts.connector.providedSubnets >>= fun _ =>
        checkOverlap ip n opts.connector.providedSubnets) := by
  simp [validateSubnets, hIPAM, hEdge]

/-- The subnet checks never panic: the overlap loop reparses only subnets the parse loop has
    already parsed. -/
theorem validateSubnets_ne_nilDereference (opts : Options) :
    validateSubnets opts ≠ .error .nilDereference := by
  unfold validateSubnets
  rcases hp : parseSubnets opts.connector.providedSubnets with f | ⟨⟩
  · have hf := parseSubnets_ne_nilDereference opts.connector.providedSubnets
    rw [hp] at hf
    simpa [bind, Except.bind] using hf
  · have hall := parseSubnets_ok_iff.1 hp
    simp only [bind, Except.bind]
    split
    · split
      · simp [throw, throwThe, MonadExceptOf.throw]
      · exact checkOverlap_ne_nilDereference hall
    · simp [pure, Except.pure]

/-- **The subnet checks decide overlap, and never panic.** -/
theorem validateSubnets_error_iff (opts : Options) (hIPAM : opts.agent.enableEdgeIPAM = true)
    {ip : IP} {n : IPNet} (hEdge : parseCIDR opts.edgePodCIDR = .ok (ip, n)) (hEdgeV4 : n.IsV4)
    (hForm : ∀ s ∈ opts.connector.providedSubnets, ∀ ip2 n2,
      parseCIDR s = .ok (ip2, n2) → n2.IsV4) :
    ((∃ msg, validateSubnets opts = .error (.error msg)) ↔
      (∃ s ∈ opts.connector.providedSubnets, ∃ e, parseCIDR s = .error e) ∨
      (∃ s ∈ opts.connector.providedSubnets, ∃ ip2 n2, parseCIDR s = .ok (ip2, n2) ∧
        ∃ x, n.V4Range x ∧ n2.V4Range x)) ∧
    validateSubnets opts ≠ .error .nilDereference := by
  refine ⟨?_, validateSubnets_ne_nilDereference opts⟩
  rw [validateSubnets_eq hIPAM hEdge]
  set l := opts.connector.providedSubnets
  rcases hp : parseSubnets l with f | ⟨⟩
  · -- a subnet does not parse: the first loop's error is the result
    obtain ⟨msg, rfl⟩ : ∃ msg, f = .error msg := by
      cases f with
      | error msg => exact ⟨msg, rfl⟩
      | nilDereference => exact absurd hp (parseSubnets_ne_nilDereference l)
    exact ⟨fun _ => .inl (parseSubnets_error_iff.1 ⟨msg, hp⟩), fun _ => ⟨msg, rfl⟩⟩
  · -- every subnet parses: the result is the overlap loop's
    have hall := parseSubnets_ok_iff.1 hp
    have hnone : ¬ ∃ s ∈ l, ∃ e, parseCIDR s = .error e := fun ⟨s, hs, e, he⟩ => by
      obtain ⟨r, hr⟩ := hall s hs
      rw [hr] at he
      cases he
    simp only [bind, Except.bind, checkOverlap_error_iff hall, hnone, false_or]
    refine exists_congr fun s => and_congr_right fun hs => ?_
    refine exists_congr fun ip2 => exists_congr fun n2 => and_congr_right fun h2 => ?_
    exact contains_or_contains_iff_meet hEdge hEdgeV4 h2 (hForm s hs ip2 n2 h2)

/-- Edge IPAM on, the edge pod CIDR `10.233.64.0/18`, and one connector subnet, `10.233.0.0/16`,
    whose range holds it. -/
def overlappingOptions : Options :=
  { defaultOptions "" with
    edgePodCIDR := "10.233.64.0/18"
    agent := { (defaultOptions "").agent with enableEdgeIPAM := true }
    connector := { (defaultOptions "").connector with providedSubnets := ["10.233.0.0/16"] } }

theorem validateSubnets_error_iff_overlapping :
    overlappingOptions.agent.enableEdgeIPAM = true ∧
    parseCIDR overlappingOptions.edgePodCIDR =
      .ok (IPv4 10 233 64 0, ⟨.v4 0x0AE94000#32, .v4 0xFFFFC000#32⟩) ∧
    IPNet.IsV4 ⟨.v4 0x0AE94000#32, .v4 0xFFFFC000#32⟩ ∧
    (∀ s ∈ overlappingOptions.connector.providedSubnets, ∀ ip2 n2,
      parseCIDR s = .ok (ip2, n2) → n2.IsV4) ∧
    (((∃ msg, validateSubnets overlappingOptions = .error (.error msg)) ↔
      (∃ s ∈ overlappingOptions.connector.providedSubnets, ∃ e, parseCIDR s = .error e) ∨
      (∃ s ∈ overlappingOptions.connector.providedSubnets, ∃ ip2 n2,
        parseCIDR s = .ok (ip2, n2) ∧
        ∃ x, IPNet.V4Range ⟨.v4 0x0AE94000#32, .v4 0xFFFFC000#32⟩ x ∧ n2.V4Range x)) ∧
    validateSubnets overlappingOptions ≠ .error .nilDereference) := by
  have hEdge : parseCIDR overlappingOptions.edgePodCIDR =
      .ok (IPv4 10 233 64 0, ⟨.v4 0x0AE94000#32, .v4 0xFFFFC000#32⟩) := by decide
  have hForm : ∀ s ∈ overlappingOptions.connector.providedSubnets, ∀ ip2 n2,
      parseCIDR s = .ok (ip2, n2) → n2.IsV4 := by
    have hs : parseCIDR "10.233.0.0/16" =
        .ok (IPv4 10 233 0 0, ⟨.v4 0x0AE90000#32, .v4 0xFFFF0000#32⟩) := by decide
    simp only [overlappingOptions, List.mem_singleton, forall_eq, hs, Except.ok.injEq,
      Prod.mk.injEq, and_imp]
    rintro _ _ - rfl
    exact ⟨_, rfl⟩
  exact ⟨rfl, hEdge, ⟨_, rfl⟩, hForm,
    validateSubnets_error_iff overlappingOptions rfl hEdge ⟨_, rfl⟩ hForm⟩

/-! ## §4. Connector subnets of either family. -/

/-- With edge IPAM on and the edge pod CIDR parsed, the checks return an error iff a subnet does
    not parse or the host-address test holds for one. -/
theorem validateSubnets_error_iff_contains (opts : Options)
    (hIPAM : opts.agent.enableEdgeIPAM = true) {ip : IP} {n : IPNet}
    (hEdge : parseCIDR opts.edgePodCIDR = .ok (ip, n)) :
    (∃ msg, validateSubnets opts = .error (.error msg)) ↔
      (∃ s ∈ opts.connector.providedSubnets, ∃ e, parseCIDR s = .error e) ∨
      (∃ s ∈ opts.connector.providedSubnets, ∃ ip2 n2, parseCIDR s = .ok (ip2, n2) ∧
        (n.contains ip2 || n2.contains ip) = true) := by
  rw [validateSubnets_eq hIPAM hEdge]
  set l := opts.connector.providedSubnets
  rcases hp : parseSubnets l with f | ⟨⟩
  · -- a subnet does not parse: the first loop's error is the result
    obtain ⟨msg, rfl⟩ : ∃ msg, f = .error msg := by
      cases f with
      | error msg => exact ⟨msg, rfl⟩
      | nilDereference => exact absurd hp (parseSubnets_ne_nilDereference l)
    exact ⟨fun _ => .inl (parseSubnets_error_iff.1 ⟨msg, hp⟩), fun _ => ⟨msg, rfl⟩⟩
  · -- every subnet parses: the result is the overlap loop's
    have hall := parseSubnets_ok_iff.1 hp
    have hnone : ¬ ∃ s ∈ l, ∃ e, parseCIDR s = .error e := fun ⟨s, hs, e, he⟩ => by
      obtain ⟨r, hr⟩ := hall s hs
      rw [hr] at he
      cases he
    simp only [bind, Except.bind, checkOverlap_error_iff hall, hnone, false_or]

/-- **The subnet checks on connector subnets of either family.** With edge IPAM on and an IPv4
    edge pod CIDR, the checks return an error iff a subnet does not parse, the range of a subnet
    of IPv4 text meets the edge pod CIDR's, or a subnet of IPv6 text `a/ones` is found as
    `MappedOverlap` says: only `::ffff:x` addresses, and below a prefix of 96 only by `x`. -/
theorem validateSubnets_error_iff_families (opts : Options)
    (hIPAM : opts.agent.enableEdgeIPAM = true) {ip : IP} {n : IPNet}
    (hEdge : parseCIDR opts.edgePodCIDR = .ok (ip, n)) (hEdgeV4 : n.IsV4) :
    (∃ msg, validateSubnets opts = .error (.error msg)) ↔
      (∃ s ∈ opts.connector.providedSubnets, ∃ e, parseCIDR s = .error e) ∨
      (∃ s ∈ opts.connector.providedSubnets, ∃ ip2 n2, parseCIDR s = .ok (ip2, n2) ∧
        ((n2.IsV4 ∧ ∃ x, n.V4Range x ∧ n2.V4Range x) ∨
          ∃ a ones, ones ≤ 128 ∧ ip2 = .v6 a ∧
            n2 = ⟨.v6 (a &&& cidrBits 128 ones), .v6 (cidrBits 128 ones)⟩ ∧
            n.MappedOverlap a ones)) := by
  rw [validateSubnets_error_iff_contains opts hIPAM hEdge]
  refine or_congr_right (exists_congr fun s => and_congr_right fun _ => ?_)
  exact exists_congr fun ip2 => exists_congr fun n2 =>
    and_congr_right fun h2 => contains_or_contains_iff hEdge hEdgeV4 h2

/-- Edge IPAM on, the edge pod CIDR `10.233.64.0/18`, and one connector subnet of IPv6 text,
    `::ffff:10.0.0.0/95`, whose range holds the edge pod CIDR's addresses in their 16-byte
    form. -/
def mappedSubnetOptions : Options :=
  { overlappingOptions with
    connector := { overlappingOptions.connector with providedSubnets := ["::ffff:10.0.0.0/95"] } }

theorem validateSubnets_error_iff_families_mapped :
    mappedSubnetOptions.agent.enableEdgeIPAM = true ∧
    parseCIDR mappedSubnetOptions.edgePodCIDR =
      .ok (IPv4 10 233 64 0, ⟨.v4 0x0AE94000#32, .v4 0xFFFFC000#32⟩) ∧
    IPNet.IsV4 ⟨.v4 0x0AE94000#32, .v4 0xFFFFC000#32⟩ ∧
    ((∃ msg, validateSubnets mappedSubnetOptions = .error (.error msg)) ↔
      (∃ s ∈ mappedSubnetOptions.connector.providedSubnets, ∃ e, parseCIDR s = .error e) ∨
      (∃ s ∈ mappedSubnetOptions.connector.providedSubnets, ∃ ip2 n2,
        parseCIDR s = .ok (ip2, n2) ∧
        ((n2.IsV4 ∧ ∃ x, IPNet.V4Range ⟨.v4 0x0AE94000#32, .v4 0xFFFFC000#32⟩ x ∧ n2.V4Range x) ∨
          ∃ a ones, ones ≤ 128 ∧ ip2 = .v6 a ∧
            n2 = ⟨.v6 (a &&& cidrBits 128 ones), .v6 (cidrBits 128 ones)⟩ ∧
            IPNet.MappedOverlap ⟨.v4 0x0AE94000#32, .v4 0xFFFFC000#32⟩ a ones))) ∧
    validateSubnets mappedSubnetOptions = .ok () := by
  have hEdge : parseCIDR mappedSubnetOptions.edgePodCIDR =
      .ok (IPv4 10 233 64 0, ⟨.v4 0x0AE94000#32, .v4 0xFFFFC000#32⟩) := by decide
  exact ⟨rfl, hEdge, ⟨_, rfl⟩,
    validateSubnets_error_iff_families mappedSubnetOptions rfl hEdge ⟨_, rfl⟩, by decide⟩

/-- **The subnet checks against an IPv6 edge pod CIDR.** With edge IPAM on and an edge pod CIDR
    of IPv6 text whose address is not IPv4-mapped, the checks return an error iff a subnet does
    not parse, or a subnet of IPv6 text `a/p` shares an address with the edge pod CIDR when `a` is
    not IPv4-mapped, or has a prefix shorter than 96 whose range holds the edge pod CIDR's
    address when `a` is.  A subnet of IPv4 text is never reported. -/
theorem validateSubnets_error_iff_v6 (opts : Options) (hIPAM : opts.agent.enableEdgeIPAM = true)
    {e : BitVec 128} {pe : Nat} (hpe : pe ≤ 128)
    (hEdge : parseCIDR opts.edgePodCIDR =
      .ok (.v6 e, ⟨.v6 (e &&& cidrBits 128 pe), .v6 (cidrBits 128 pe)⟩))
    (he : e >>> 32 ≠ 0xffff#128) :
    (∃ msg, validateSubnets opts = .error (.error msg)) ↔
      (∃ s ∈ opts.connector.providedSubnets, ∃ err, parseCIDR s = .error err) ∨
      (∃ s ∈ opts.connector.providedSubnets, ∃ a p, p ≤ 128 ∧
        parseCIDR s = .ok (.v6 a, ⟨.v6 (a &&& cidrBits 128 p), .v6 (cidrBits 128 p)⟩) ∧
        if a >>> 32 = 0xffff#128 then p < 96 ∧ a &&& cidrBits 128 p = e &&& cidrBits 128 p
        else ∃ z, z &&& cidrBits 128 pe = e &&& cidrBits 128 pe ∧
          z &&& cidrBits 128 p = a &&& cidrBits 128 p) := by
  rw [validateSubnets_error_iff_contains opts hIPAM hEdge]
  refine or_congr_right (exists_congr fun s => and_congr_right fun _ => ⟨?_, ?_⟩)
  · rintro ⟨ip2, n2, h2, ht⟩
    obtain ⟨a, p, hp, rfl, rfl, hc⟩ := (contains_or_contains_iff_v6 hpe he h2).1 ht
    exact ⟨a, p, hp, h2, hc⟩
  · rintro ⟨a, p, hp, h2, hc⟩
    exact ⟨_, _, h2, (contains_or_contains_iff_v6 hpe he h2).2 ⟨a, p, hp, rfl, rfl, hc⟩⟩

/-- Edge IPAM on, the edge pod CIDR `fd00::/64`, and one connector subnet, `fd00:0:0:0:1::/80`,
    inside it. -/
def ipv6EdgeOptions : Options :=
  { overlappingOptions with
    edgePodCIDR := "fd00::/64"
    connector := { overlappingOptions.connector with providedSubnets := ["fd00:0:0:0:1::/80"] } }

theorem validateSubnets_error_iff_v6_fd00 :
    ipv6EdgeOptions.agent.enableEdgeIPAM = true ∧ 64 ≤ 128 ∧
    parseCIDR ipv6EdgeOptions.edgePodCIDR =
      .ok (.v6 0xfd000000000000000000000000000000#128,
        ⟨.v6 (0xfd000000000000000000000000000000#128 &&& cidrBits 128 64),
          .v6 (cidrBits 128 64)⟩) ∧
    0xfd000000000000000000000000000000#128 >>> 32 ≠ 0xffff#128 ∧
    ((∃ msg, validateSubnets ipv6EdgeOptions = .error (.error msg)) ↔
      (∃ s ∈ ipv6EdgeOptions.connector.providedSubnets, ∃ err, parseCIDR s = .error err) ∨
      (∃ s ∈ ipv6EdgeOptions.connector.providedSubnets, ∃ a p, p ≤ 128 ∧
        parseCIDR s = .ok (.v6 a, ⟨.v6 (a &&& cidrBits 128 p), .v6 (cidrBits 128 p)⟩) ∧
        if a >>> 32 = 0xffff#128 then
          p < 96 ∧ a &&& cidrBits 128 p = 0xfd000000000000000000000000000000#128 &&& cidrBits 128 p
        else ∃ z, z &&& cidrBits 128 64 = 0xfd000000000000000000000000000000#128 &&& cidrBits 128 64 ∧
          z &&& cidrBits 128 p = a &&& cidrBits 128 p)) := by
  have hEdge : parseCIDR ipv6EdgeOptions.edgePodCIDR =
      .ok (.v6 0xfd000000000000000000000000000000#128,
        ⟨.v6 (0xfd000000000000000000000000000000#128 &&& cidrBits 128 64),
          .v6 (cidrBits 128 64)⟩) := by decide
  have he : 0xfd000000000000000000000000000000#128 >>> 32 ≠ 0xffff#128 := by decide
  exact ⟨rfl, by decide, hEdge, he, validateSubnets_error_iff_v6 ipv6EdgeOptions rfl (by decide) hEdge he⟩

/-! ## §5. CIDRs written as IPv4-mapped IPv6 text.

  `::ffff:a.b.c.d/(96 + q)` parses to the same address as `a.b.c.d/q`, and to a 16-byte network
  that `Contains` cannot tell from the IPv4 one (`contains_mapped_eq`), so the checks cannot tell
  the two texts apart, as a connector subnet or as the edge pod CIDR. -/

section Swap

variable {ip : IP} {subnet : IPNet} {x y : String}

/-- The parse loop, with one subnet swapped for another that parses too. -/
theorem parseSubnets_swap (hx : ∃ r, parseCIDR x = .ok r) (hy : ∃ r, parseCIDR y = .ok r)
    (l1 l2 : List String) : parseSubnets (l1 ++ x :: l2) = parseSubnets (l1 ++ y :: l2) := by
  obtain ⟨rx, hx⟩ := hx
  obtain ⟨ry, hy⟩ := hy
  induction l1 with
  | nil => simp only [List.nil_append, parseSubnets, hx, hy]
  | cons s l1 ih => simp only [List.cons_append, parseSubnets, List.append_eq, ih]

/-- The overlap loop, with one subnet swapped for another that parses and is tested alike. -/
theorem checkOverlap_swap {ipx ipy : IP} {nx ny : IPNet} (hx : parseCIDR x = .ok (ipx, nx))
    (hy : parseCIDR y = .ok (ipy, ny))
    (htest : (subnet.contains ipx || nx.contains ip) = (subnet.contains ipy || ny.contains ip))
    (l1 l2 : List String) :
    checkOverlap ip subnet (l1 ++ x :: l2) = checkOverlap ip subnet (l1 ++ y :: l2) := by
  induction l1 with
  | nil => simp only [List.nil_append, checkOverlap, hx, hy, htest]
  | cons s l1 ih => simp only [List.cons_append, checkOverlap, List.append_eq, ih]

/-- The overlap loop reads the edge network only through `Contains`. -/
theorem checkOverlap_congr {subnet' : IPNet} (h : subnet.contains = subnet'.contains)
    (l : List String) : checkOverlap ip subnet l = checkOverlap ip subnet' l := by
  induction l with
  | nil => rfl
  | cons s l ih => simp only [checkOverlap, h, ih]

end Swap

/-- **A connector subnet in IPv4-mapped text is checked as in IPv4 text.**  The subnet checks of
    `Validate` return the same result when a connector subnet `a.b.c.d/q` is written
    `::ffff:a.b.c.d/(96 + q)`, whatever the other options. -/
theorem validateSubnets_mappedCIDRText (opts : Options) (l1 l2 : List String)
    (a b c d : BitVec 8) {q : Nat} (hq : q ≤ 32) :
    validateSubnets { opts with connector := { opts.connector with
        providedSubnets := l1 ++ mappedCIDRText a b c d (96 + q) :: l2 } } =
      validateSubnets { opts with connector := { opts.connector with
        providedSubnets := l1 ++ cidrText a b c d q :: l2 } } := by
  have hx := parseCIDR_mappedCIDRText a b c d (show 96 + q ≤ 128 by omega)
  have hy := parseCIDR_cidrText a b c d hq
  simp only [validateSubnets, parseSubnets_swap ⟨_, hx⟩ ⟨_, hy⟩ l1 l2]
  refine congrArg (bind _) (funext fun _ => ?_)
  split
  · split
    · rfl
    · rw [checkOverlap_swap hx hy (by rw [Block.toIPNet_ofCIDR, contains_mapped_eq _ hq])]
  · rfl

/-- The edge pod CIDR `10.233.64.0/18`, and the connector subnet `10.233.0.0/16` written as
    `::ffff:10.233.0.0/112`: rejected, as the IPv4 text is. -/
theorem validateSubnets_mappedCIDRText_overlapping :
    16 ≤ 32 ∧
    validateSubnets { overlappingOptions with connector := { overlappingOptions.connector with
        providedSubnets := [] ++ mappedCIDRText 10 233 0 0 (96 + 16) :: [] } } =
      validateSubnets { overlappingOptions with connector := { overlappingOptions.connector with
        providedSubnets := [] ++ cidrText 10 233 0 0 16 :: [] } } ∧
    validateSubnets { overlappingOptions with connector := { overlappingOptions.connector with
        providedSubnets := [] ++ cidrText 10 233 0 0 16 :: [] } } = .error (.error overlapMessage) :=
  ⟨by decide, validateSubnets_mappedCIDRText overlappingOptions [] [] 10 233 0 0 (by decide),
    by decide⟩

/-- **An edge pod CIDR in IPv4-mapped text is checked as in IPv4 text.**  The subnet checks of
    `Validate` return the same result when the edge pod CIDR `a.b.c.d/q` is written
    `::ffff:a.b.c.d/(96 + q)`, whatever the other options. -/
theorem validateSubnets_mappedEdgePodCIDR (opts : Options) (a b c d : BitVec 8) {q : Nat}
    (hq : q ≤ 32) :
    validateSubnets { opts with edgePodCIDR := mappedCIDRText a b c d (96 + q) } =
      validateSubnets { opts with edgePodCIDR := cidrText a b c d q } := by
  unfold validateSubnets
  rw [parseCIDR_mappedCIDRText a b c d (show 96 + q ≤ 128 by omega), parseCIDR_cidrText a b c d hq,
    Block.toIPNet_ofCIDR]
  dsimp only
  rw [checkOverlap_congr (contains_mapped_eq (IPv4.word a b c d) hq)]

/-- Edge IPAM on, the edge pod CIDR `10.233.64.0/18` written as `::ffff:10.233.64.0/114`, and the
    connector subnet `10.233.0.0/16`: rejected, as with the IPv4 text. -/
theorem validateSubnets_mappedEdgePodCIDR_overlapping :
    18 ≤ 32 ∧
    validateSubnets { overlappingOptions with edgePodCIDR := mappedCIDRText 10 233 64 0 (96 + 18) } =
      validateSubnets { overlappingOptions with edgePodCIDR := cidrText 10 233 64 0 18 } ∧
    validateSubnets { overlappingOptions with edgePodCIDR := cidrText 10 233 64 0 18 } =
      .error (.error overlapMessage) :=
  ⟨by decide, validateSubnets_mappedEdgePodCIDR overlappingOptions 10 233 64 0 (by decide),
    by decide⟩

end FabEdge.Operator
