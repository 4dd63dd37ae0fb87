/-
  FabEdge.Go.Net.Parse — `net.ParseCIDR` and the text parsers under it.

  As in the `net` package of Go 1.17 to 1.21: `ParseCIDR` cuts the text at its first `/`, reads the
  address as dotted-quad text and, failing that, as IPv6 text, and reads the prefix length in
  decimal; it returns the address as written and the network `{IP: ip.Mask(m), Mask: m}`.
  The parsers work on the characters of the text; every test they make is on ASCII characters,
  so this reads the same as Go's byte loops.

  Main results:
    * `parseCIDR_v4` — a successful parse with a 4-byte mask is dotted-quad text: its address is
      `IPv4(a, b, c, d)` and its network the masked word with the CIDR mask of its prefix length,
    * `parseCIDR_v6` — any other successful parse is IPv6 text: a 16-byte address and the
      16-byte CIDR mask of its prefix length,
    * `parseIPv6Loop_group`, `parseIPv6Loop_ipv4` — one pass of `parseIPv6`'s loop, on a group
      and on an IPv4 tail.
-/
import FabEdge.Go.Net.IP
import Mathlib.Data.List.Basic

namespace FabEdge.Go

/-! ## §1. Numbers. -/

/-- `big`: past this `dtoi` and `xtoi` give up. -/
def big : Nat := 0xFFFFFF

/-- `dtoi`: decimal to integer; the number, the characters consumed, success. -/
def dtoi (s : List Char) : Nat × Nat × Bool :=
  go s 0 0
where
  /-- The loop at character `i`, with `n` read so far. -/
  go : List Char → Nat → Nat → Nat × Nat × Bool
    | c :: s, n, i =>
        if '0' ≤ c ∧ c ≤ '9' then
          let n := n * 10 + (c.toNat - '0'.toNat)
          if n ≥ big then (big, i, false) else go s n (i + 1)
        else if i = 0 then (0, 0, false) else (n, i, true)
    | [], n, i => if i = 0 then (0, 0, false) else (n, i, true)

/-- One step of `dtoi`'s loop: the number read so far, extended by one digit. -/
def digitStep (n : Nat) (c : Char) : Nat := n * 10 + (c.toNat - '0'.toNat)

/-- **What `dtoi`'s loop accepts**: past its start `i` it has consumed at least one character, all
    digits, worth the number it returns. -/
theorem dtoi_go_spec {s : List Char} {n i m c : Nat} (h : dtoi.go s n i = (m, c, true)) :
    i ≤ c ∧ c - i ≤ s.length ∧ c ≠ 0 ∧ (∀ x ∈ s.take (c - i), '0' ≤ x ∧ x ≤ '9') ∧
      (s.take (c - i)).foldl digitStep n = m := by
  induction s generalizing n i with
  | nil =>
      simp only [dtoi.go] at h
      split_ifs at h with hi <;> cases h
      simp [hi]
  | cons x s ih =>
      simp only [dtoi.go] at h
      split_ifs at h with hx hbig hi
      · cases h
      · obtain ⟨hle, hlen, hc, hs, hv⟩ := ih h
        have hci : c - i = c - (i + 1) + 1 := by omega
        refine ⟨by omega, by simp only [List.length_cons]; omega, hc, fun y hy => ?_, ?_⟩
        · rw [hci, List.take_succ_cons] at hy
          exact (List.mem_cons.1 hy).elim (· ▸ hx) (hs y)
        · rw [hci, List.take_succ_cons, List.foldl_cons]
          exact hv
      · cases h
      · cases h
        simp [hi]

/-- The value of a hexadecimal digit. -/
def hexDigit? (c : Char) : Option Nat :=
  if '0' ≤ c ∧ c ≤ '9' then some (c.toNat - '0'.toNat)
  else if 'a' ≤ c ∧ c ≤ 'f' then some (c.toNat - 'a'.toNat + 10)
  else if 'A' ≤ c ∧ c ≤ 'F' then some (c.toNat - 'A'.toNat + 10)
  else none

/-- `xtoi`: hexadecimal to integer; the number, the characters consumed, success. -/
def xtoi (s : List Char) : Nat × Nat × Bool :=
  go s 0 0
where
  /-- The loop at character `i`, with `n` read so far. -/
  go : List Char → Nat → Nat → Nat × Nat × Bool
    | c :: s, n, i =>
        match hexDigit? c with
        | some d =>
            let n := n * 16 + d
            if n ≥ big then (0, i, false) else go s n (i + 1)
        | none => if i = 0 then (0, 0, false) else (n, i, true)
    | [], n, i => if i = 0 then (0, 0, false) else (n, i, true)

/-! ## §2. Addresses. -/

def IPv4len : Nat := 4

def IPv6len : Nat := 16

/-- One pass of `parseIPv4`'s loop: field `i`, after its `.` when `i > 0`.  A field of more
    than one digit that starts with `0` is rejected. -/
def parseIPv4Field (i : Nat) (s : List Char) : Option (BitVec 8 × List Char) :=
  if s = [] then none
  else
    let s? := if i > 0 then (if s.head? = some '.' then some s.tail else none) else some s
    match s? with
    | none => none
    | some s =>
        let (n, c, ok) := dtoi s
        if ok = false ∨ n > 0xFF then none
        else if c > 1 ∧ s.head? = some '0' then none
        else some (BitVec.ofNat 8 n, s.drop c)

/-- The four bytes `parseIPv4` writes, when the whole text is four fields. -/
def parseIPv4Bytes (s : List Char) : Option (BitVec 8 × BitVec 8 × BitVec 8 × BitVec 8) := do
  let (a, s) ← parseIPv4Field 0 s
  let (b, s) ← parseIPv4Field 1 s
  let (c, s) ← parseIPv4Field 2 s
  let (d, s) ← parseIPv4Field 3 s
  if s = [] then some (a, b, c, d) else none

/-- `parseIPv4`: dotted-quad text to `IPv4(a, b, c, d)`, else nil. -/
def parseIPv4 (s : List Char) : IP :=
  match parseIPv4Bytes s with
  | some (a, b, c, d) => IPv4 a b c d
  | none => .nil

/-! ### IPv6 text. -/

/-- The state of `parseIPv6`'s loop: the bytes written, the ellipsis position, the text left. -/
structure IPv6Scan where
  ip : List (BitVec 8)
  ellipsis : Option Nat
  s : List Char

/-- `parseIPv6`'s loop, for at most `fuel` passes; `none` is a `return nil` inside it.  A pass
    writes two bytes, or the four of a trailing IPv4 address and stops, so eight passes reach
    `IPv6len`. -/
def parseIPv6Loop : Nat → IPv6Scan → Option IPv6Scan
  | 0, st => some st
  | fuel + 1, st =>
    if st.ip.length < IPv6len then
      let (n, c, ok) := xtoi st.s
      if ok = false ∨ n > 0xFFFF then none
      else if st.s.get? c = some '.' then
        if st.ellipsis.isNone ∧ st.ip.length ≠ IPv6len - IPv4len then none
        else if st.ip.length + IPv4len > IPv6len then none
        else match parseIPv4Bytes st.s with
          | some (a, b, c, d) => some { st with ip := st.ip ++ [a, b, c, d], s := [] }
          | none => none
      else
        let ip := st.ip ++ [BitVec.ofNat 8 (n / 256), BitVec.ofNat 8 n]
        match st.s.drop c with
        | [] => some { st with ip, s := [] }
        | [_] => none
        | ':' :: ':' :: s =>
            if st.ellipsis.isSome then none
            else if s = [] then some ⟨ip, some ip.length, []⟩
            else parseIPv6Loop fuel ⟨ip, some ip.length, s⟩
        | ':' :: s => parseIPv6Loop fuel { st with ip, s }
        | _ => none
    else some st

/-- Sixteen bytes as one big-endian word. -/
def bytesToWord (bytes : List (BitVec 8)) : BitVec 128 :=
  BitVec.ofNat 128 (bytes.foldl (fun acc b => acc * 256 + b.toNat) 0)

/-- `parseIPv6`: IPv6 text, with at most one `::` and an optional trailing IPv4 address. -/
def parseIPv6 (s : List Char) : IP :=
  match s with
  | [':', ':'] => .v6 0
  | ':' :: ':' :: rest => finish (parseIPv6Loop 8 ⟨[], some 0, rest⟩)
  | _ => finish (parseIPv6Loop 8 ⟨[], none, s⟩)
where
  /-- After the loop: the text must be used up, and an ellipsis stands for at least one zero
      group, expanded in place. -/
  finish : Option IPv6Scan → IP
    | none => .nil
    | some st =>
        if st.s ≠ [] then .nil
        else if st.ip.length < IPv6len then
          match st.ellipsis with
          | none => .nil
          | some e =>
              .v6 (bytesToWord (st.ip.take e ++ List.replicate (IPv6len - st.ip.length) 0 ++
                st.ip.drop e))
        else if st.ellipsis.isSome then .nil
        else .v6 (bytesToWord st.ip)

/-! ### `parseIPv6`, one pass at a time. -/

section IPv6Loop

variable {fuel n c : Nat} {st : IPv6Scan}

/-- A pass that reads a group, then one colon and more text, goes on to the next pass. -/
theorem parseIPv6Loop_group (hlen : st.ip.length < IPv6len) (hx : xtoi st.s = (n, c, true))
    (hn : n ≤ 0xFFFF) (hdot : st.s.get? c ≠ some '.') {s : List Char}
    (hrest : st.s.drop c = ':' :: s) (hs : s ≠ []) (hcolon : s.head? ≠ some ':') :
    parseIPv6Loop (fuel + 1) st = parseIPv6Loop fuel
      { st with ip := st.ip ++ [BitVec.ofNat 8 (n / 256), BitVec.ofNat 8 n], s := s } := by
  simp only [parseIPv6Loop, if_pos hlen, hx, hdot, hrest, if_false, Bool.true_eq_false,
    false_or, if_neg (Nat.not_lt.2 hn)]
  split <;> simp_all

/-- A pass that reads a group up to the end of the text stops. -/
theorem parseIPv6Loop_end (hlen : st.ip.length < IPv6len) (hx : xtoi st.s = (n, c, true))
    (hn : n ≤ 0xFFFF) (hrest : st.s.drop c = []) :
    parseIPv6Loop (fuel + 1) st =
      some { st with ip := st.ip ++ [BitVec.ofNat 8 (n / 256), BitVec.ofNat 8 n], s := [] } := by
  have hdot : st.s.get? c = none := by
    rw [List.get?_eq_none]
    simpa using hrest
  simp only [parseIPv6Loop, if_pos hlen, hx, hdot, hrest, Bool.true_eq_false, false_or,
    if_neg (Nat.not_lt.2 hn), reduceCtorEq, if_false]

/-- A pass that meets a dot after its group reads the rest as an IPv4 address, and stops. -/
theorem parseIPv6Loop_ipv4 (hlen : st.ip.length < IPv6len) (hx : xtoi st.s = (n, c, true))
    (hn : n ≤ 0xFFFF) (hdot : st.s.get? c = some '.') (hell : st.ellipsis.isSome = true)
    (hfit : st.ip.length + IPv4len ≤ IPv6len) {a b c' d : BitVec 8}
    (hb : parseIPv4Bytes st.s = some (a, b, c', d)) :
    parseIPv6Loop (fuel + 1) st = some { st with ip := st.ip ++ [a, b, c', d], s := [] } := by
  have hnone : st.ellipsis.isNone = false := by cases h : st.ellipsis <;> simp_all
  simp only [parseIPv6Loop, if_pos hlen, hx, hdot, hb, hnone, if_true, Bool.true_eq_false,
    Bool.false_eq_true, false_or, false_and, if_false, if_neg (Nat.not_lt.2 hn),
    if_neg (Nat.not_lt.2 hfit)]

/-- Text that does not start with a colon: the loop starts with no ellipsis. -/
theorem parseIPv6_of_ne_colon {x : Char} (hx : x ≠ ':') (s : List Char) :
    parseIPv6 (x :: s) = parseIPv6.finish (parseIPv6Loop 8 ⟨[], none, x :: s⟩) := by
  simp [parseIPv6, hx]

/-- Text that starts with `::` and has more after it: the loop starts after an ellipsis. -/
theorem parseIPv6_ellipsis {s : List Char} (hs : s ≠ []) :
    parseIPv6 (':' :: ':' :: s) = parseIPv6.finish (parseIPv6Loop 8 ⟨[], some 0, s⟩) := by
  cases s with
  | nil => exact absurd rfl hs
  | cons _ _ => rfl

/-- The text used up, short of sixteen bytes, after an ellipsis: zeros fill its place. -/
theorem finish_ellipsis {ip : List (BitVec 8)} {e : Nat} (hlen : ip.length < IPv6len) :
    parseIPv6.finish (some ⟨ip, some e, []⟩) =
      .v6 (bytesToWord (ip.take e ++ List.replicate (IPv6len - ip.length) 0 ++ ip.drop e)) := by
  simp [parseIPv6.finish, hlen]

/-- The text used up, sixteen bytes and no ellipsis: the bytes are the address. -/
theorem finish_full {ip : List (BitVec 8)} (hlen : ip.length = IPv6len) :
    parseIPv6.finish (some ⟨ip, none, []⟩) = .v6 (bytesToWord ip) := by
  simp [parseIPv6.finish, hlen]

end IPv6Loop

/-! ## §3. `ParseCIDR`. -/

/-- `net.ParseError`. -/
structure ParseError where
  type : String
  text : String
  deriving DecidableEq, Repr

/-- `(*ParseError).Error`. -/
def ParseError.error (e : ParseError) : String := "invalid " ++ e.type ++ ": " ++ e.text

/-- The address half of `ParseCIDR`: dotted-quad text first, else IPv6 text, with its length. -/
def parseCIDRAddr (addr : List Char) : Nat × IP :=
  match parseIPv4 addr with
  | .nil => (IPv6len, parseIPv6 addr)
  | ip => (IPv4len, ip)

/-- `net.ParseCIDR`: the address as written and the network it lies in. -/
def parseCIDR (s : String) : Except ParseError (IP × IPNet) :=
  let err : ParseError := ⟨"CIDR address", s⟩
  match s.data.span (· ≠ '/') with
  | (_, []) => .error err
  | (addr, _ :: mask) =>
      match parseCIDRAddr addr, dtoi mask with
      | (iplen, ip), (n, i, ok) =>
          if ip = .nil ∨ ok = false ∨ i ≠ mask.length ∨ n > 8 * iplen then .error err
          else
            let m := cidrMask n (8 * iplen)
            .ok (ip, ⟨ip.mask m, m⟩)

/-- The network of IPv4 text: a 4-byte mask. -/
def IPNet.IsV4 (n : IPNet) : Prop := ∃ m, n.mask = .v4 m

/-- What a successful `ParseCIDR` returned: a non-nil address, its length, and a prefix length
    that fits it. -/
theorem parseCIDR_ok {s : String} {ip : IP} {n : IPNet} (h : parseCIDR s = .ok (ip, n)) :
    ∃ addr iplen ones, parseCIDRAddr addr = (iplen, ip) ∧ ip ≠ .nil ∧ ones ≤ 8 * iplen ∧
      n = ⟨ip.mask (cidrMask ones (8 * iplen)), cidrMask ones (8 * iplen)⟩ ∧
      ∃ mask, s.data = addr ++ '/' :: mask ∧ dtoi mask = (ones, mask.length, true) := by
  unfold parseCIDR at h
  split at h
  · cases h
  · rename_i addr x mask hspan
    split at h
    rename_i iplen ip' ones i ok hA hd
    split_ifs at h with hc
    simp only [Except.ok.injEq, Prod.mk.injEq] at h
    obtain ⟨rfl, rfl⟩ := h
    simp only [not_or, Bool.not_eq_false, ne_eq, Decidable.not_not, gt_iff_lt, Nat.not_lt] at hc
    obtain ⟨hne, rfl, rfl, hle⟩ := hc
    refine ⟨addr, iplen, ones, hA, hne, hle, rfl, mask, ?_, hd⟩
    rw [List.span_eq_take_drop, Prod.mk.injEq] at hspan
    have hx : x = '/' := by
      have := List.head?_dropWhile_not (fun c => decide (c ≠ '/')) s.data
      rw [hspan.2] at this
      simpa using this
    rw [← List.takeWhile_append_dropWhile (· ≠ '/') s.data, hspan.1, hspan.2, hx]

/-- The address half reads dotted-quad text as `IPv4(a, b, c, d)`, or else returns, with length
    16, what `parseIPv6` reads. -/
theorem parseCIDRAddr_cases {addr : List Char} {iplen : Nat} {ip : IP}
    (h : parseCIDRAddr addr = (iplen, ip)) :
    (iplen = IPv4len ∧ ∃ a b c d, parseIPv4Bytes addr = some (a, b, c, d) ∧ ip = IPv4 a b c d) ∨
      (iplen = IPv6len ∧ ip = parseIPv6 addr) := by
  unfold parseCIDRAddr parseIPv4 at h
  rcases hb : parseIPv4Bytes addr with _ | ⟨a, b, c, d⟩ <;>
    simp only [hb, IPv4, Prod.mk.injEq] at h
  · exact .inr ⟨h.1.symm, h.2.symm⟩
  · exact .inl ⟨h.1.symm, a, b, c, d, rfl, h.2.symm⟩

/-- **IPv4 text.** A parse whose mask has 4 bytes read dotted-quad text: the address is
    `IPv4(a, b, c, d)` and the network its word under the CIDR mask of the prefix length. -/
theorem parseCIDR_v4 {s : String} {ip : IP} {n : IPNet} (h : parseCIDR s = .ok (ip, n))
    (hv4 : n.IsV4) :
    ∃ a b c d ones, ones ≤ 32 ∧ ip = IPv4 a b c d ∧
      n = ⟨.v4 (IPv4.word a b c d &&& cidrBits 32 ones), .v4 (cidrBits 32 ones)⟩ := by
  obtain ⟨m, hm⟩ := hv4
  obtain ⟨addr, iplen, ones, hA, -, hle, rfl, -⟩ := parseCIDR_ok h
  rcases parseCIDRAddr_cases hA with ⟨rfl, a, b, c, d, -, rfl⟩ | ⟨rfl, -⟩
  · simp only [IPv4len] at hle
    exact ⟨a, b, c, d, ones, hle, rfl, by simp [IPv4len, cidrMask_v4 hle]⟩
  · simp [IPv6len, cidrMask_v6 (show ones ≤ 128 by simpa [IPv6len] using hle)] at hm

/-- `parseIPv6` returns nil or 16 bytes, never a 4-byte slice. -/
theorem parseIPv6_ne_v4 (s : List Char) (x : BitVec 32) : parseIPv6 s ≠ .v4 x := by
  have hfinish : ∀ o, parseIPv6.finish o ≠ .v4 x := by
    intro o
    unfold parseIPv6.finish
    split
    · nofun
    · split_ifs <;> (try split) <;> nofun
  unfold parseIPv6
  split
  · nofun
  all_goals exact hfinish _

/-- Every address the address half returns is nil or in the 16-byte form. -/
theorem parseCIDRAddr_ne_v4 {addr : List Char} {iplen : Nat} {ip : IP}
    (h : parseCIDRAddr addr = (iplen, ip)) (x : BitVec 32) : ip ≠ .v4 x := by
  unfold parseCIDRAddr at h
  split at h <;> cases h
  · exact parseIPv6_ne_v4 addr x
  · unfold parseIPv4
    split <;> nofun

/-- **IPv6 text.** A parse whose mask does not have 4 bytes read IPv6 text: the address is a
    16-byte word and the network that word under the 16-byte CIDR mask of the prefix length. -/
theorem parseCIDR_v6 {s : String} {ip : IP} {n : IPNet} (h : parseCIDR s = .ok (ip, n))
    (hv6 : ¬ n.IsV4) :
    ∃ a ones, ones ≤ 128 ∧ ip = .v6 a ∧
      n = ⟨.v6 (a &&& cidrBits 128 ones), .v6 (cidrBits 128 ones)⟩ := by
  obtain ⟨addr, iplen, ones, hA, hne, hle, rfl, -⟩ := parseCIDR_ok h
  rcases parseCIDRAddr_cases hA with ⟨rfl, -⟩ | ⟨rfl, -⟩
  · exact absurd ⟨_, cidrMask_v4 (by simpa [IPv4len] using hle)⟩ hv6
  · have h128 : ones ≤ 128 := by simpa [IPv6len] using hle
    cases ip with
    | nil => exact absurd rfl hne
    | v4 x => exact absurd rfl (parseCIDRAddr_ne_v4 hA x)
    | v6 a => exact ⟨a, ones, h128, rfl, by simp [IPv6len, cidrMask_v6 h128, IP.mask]⟩

end FabEdge.Go
