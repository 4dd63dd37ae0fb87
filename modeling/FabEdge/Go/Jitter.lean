/-
  FabEdge.Go.Jitter — `time.Duration(JitterFactor*float64(d))` is `⌊6d/5⌋` for every duration
  from 1 ns to `2 ^ 50` ns (about thirteen days).

  The constant `1.2` is stored as `J · 2 ^ -52` with `5J = 6 · 2 ^ 52 - 1`, just below `6/5`.
  The product `J · d` is rounded to 53 bits by dropping `s` low bits, `s ≤ 50` in this range,
  and truncated.  The error of the constant shifts `J · d / 2 ^ 52` below `6d/5` by less than
  `d / (5 · 2 ^ 52)`, and the rounding moves it by at most `2 ^ (s - 53)`; neither carries it
  across an integer (`roundShift_div_eq`).  So the check of `Validate` that uses it reads, in
  exact arithmetic, `5 · renewDeadline > 6 · retryPeriod`.

  Main result:
    * `jitteredDuration_eq` — `jitteredDuration d = 6 * d / 5` for `1 ≤ d ≤ 2 ^ 50`.
-/
import FabEdge.Go.Runtime

namespace FabEdge.Go

/-! ## §1. Bit length and rounding. -/

theorem bitLength_zero (fuel : Nat) : bitLength fuel 0 = 0 := by
  cases fuel <;> rfl

/-- `bitLength` is the number of binary digits: `n` lies between `2 ^ (len - 1)` and
    `2 ^ len`. -/
theorem bitLength_spec {fuel n : Nat} (h0 : 0 < n) (hf : n < 2 ^ fuel) :
    2 ^ (bitLength fuel n - 1) ≤ n ∧ n < 2 ^ bitLength fuel n := by
  induction fuel generalizing n with
  | zero => omega
  | succ fuel ih =>
      have hstep : bitLength (fuel + 1) n = bitLength fuel (n / 2) + 1 := by
        simp [bitLength, Nat.pos_iff_ne_zero.1 h0]
      rw [hstep, Nat.add_sub_cancel, Nat.pow_succ]
      by_cases h1 : n / 2 = 0
      · rw [h1, bitLength_zero]
        omega
      · obtain ⟨hlo, hhi⟩ := ih (Nat.pos_of_ne_zero h1) (by rw [Nat.pow_succ] at hf; omega)
        have hb : bitLength fuel (n / 2) ≠ 0 := fun hb => by rw [hb] at hhi; omega
        obtain ⟨b, hb'⟩ := Nat.exists_eq_succ_of_ne_zero hb
        rw [hb', Nat.pow_succ] at hhi ⊢
        rw [hb', Nat.succ_sub_one] at hlo
        omega

/-- A number below `2 ^ L` has at most `L` binary digits. -/
theorem bitLength_le {fuel n L : Nat} (h : n < 2 ^ L) : bitLength fuel n ≤ L := by
  rcases Nat.eq_zero_or_pos n with rfl | h0
  · rw [bitLength_zero]; exact Nat.zero_le L
  · induction fuel generalizing n L with
    | zero => exact Nat.zero_le L
    | succ fuel ih =>
        simp only [bitLength, Nat.pos_iff_ne_zero.1 h0, if_false]
        rcases L with _ | L
        · omega
        · rcases Nat.eq_zero_or_pos (n / 2) with h2 | h2
          · rw [h2, bitLength_zero]; omega
          · exact Nat.succ_le_succ (ih (by rw [Nat.pow_succ] at h; omega) h2)

theorem roundShift_zero (n : Nat) : roundShift n 0 = n := by
  simp [roundShift, Nat.mod_one]

/-- Rounding to a multiple of `2 ^ k` moves a number by at most half of it. -/
theorem roundShift_bounds (n k : Nat) :
    2 * n ≤ 2 * (roundShift n k * 2 ^ k) + 2 ^ k ∧
      2 * (roundShift n k * 2 ^ k) ≤ 2 * n + 2 ^ k := by
  have hn := Nat.div_add_mod n (2 ^ k)
  have hr := Nat.mod_lt n (Nat.two_pow_pos k)
  simp only [roundShift]
  split_ifs with h
  · rw [Nat.add_mul, Nat.one_mul, Nat.mul_comm (n / 2 ^ k)]
    omega
  · rw [Nat.mul_comm (n / 2 ^ k)]
    omega

/-- A natural significand keeps its top 53 bits, rounded, and the exponent grows by the number
    of bits dropped (none when it fits). -/
theorem round_natCast (M : Nat) (e : Int) :
    Float64.round M e =
      ⟨roundShift M (bitLength 256 M - 53), e + (bitLength 256 M - 53 : Nat)⟩ := by
  by_cases h : bitLength 256 M ≤ 53
  · simp [Float64.round, h, Nat.sub_eq_zero_of_le h, roundShift_zero]
  · simp [Float64.round, h, Int.not_lt.2 (Int.natCast_nonneg M)]

/-! ## §2. The product with the stored constant. -/

/-- The significand of the stored `1.2`. -/
theorem jitterFactor_m : jitterFactor.m = 5404319552844595 := rfl

/-- **Rounding and truncation give `⌊6d/5⌋`.**  `M = J · d` has at most `53 + s` binary
    digits, `s ≤ 50`; rounding it to a multiple of `2 ^ s` and dividing by the remaining `2 ^ (52 - s)`
    leaves `⌊6d/5⌋`. -/
theorem roundShift_div_eq {d s : Nat} (hs : s ≤ 50) (hhi : 5404319552844595 * d < 2 ^ (53 + s)) :
    roundShift (5404319552844595 * d) s / 2 ^ (52 - s) = 6 * d / 5 := by
  obtain ⟨hr1, hr2⟩ := roundShift_bounds (5404319552844595 * d) s
  set A := 2 ^ s with hA
  set B := 2 ^ (52 - s) with hB
  set R := roundShift (5404319552844595 * d) s
  have hAB : A * B = 4503599627370496 := by
    rw [hA, hB, ← Nat.pow_add, Nat.add_sub_cancel' (by omega)]
  have hA50 : A ≤ 1125899906842624 := by
    rw [hA]
    exact Nat.le_trans (Nat.pow_le_pow_right (by decide : 2 > 0) hs) (by decide)
  have hAd : 2 ^ (53 + s) = 9007199254740992 * A := by rw [Nat.pow_add]
  have hq := Nat.div_add_mod (6 * d) 5
  have hq5 := Nat.mod_lt (6 * d) (by decide : 0 < 5)
  set q := 6 * d / 5
  refine Nat.div_eq_of_lt_le ?_ ?_
  · -- below: otherwise the rounding would have moved `M` by more than `A / 2`
    by_contra hlt
    have h1 : (R + 1) * A ≤ q * B * A := Nat.mul_le_mul_right A (by omega)
    rw [Nat.mul_assoc, Nat.mul_comm B A, hAB, Nat.succ_mul] at h1
    omega
  · -- above: the constant's error and the rounding together stay below one
    by_contra hge
    have h1 : (q + 1) * B * A ≤ R * A := Nat.mul_le_mul_right A (by omega)
    rw [Nat.mul_assoc, Nat.mul_comm B A, hAB] at h1
    omega

/-! ## §3. `time.Duration(JitterFactor*float64(d))`. -/

/-- A float `R · 2 ^ -k` with a natural significand and `k > 0` truncates to `R / 2 ^ k`. -/
theorem toDuration_neg_exp {R k : Nat} (hk : 0 < k) (hR : R / 2 ^ k < 2 ^ 63) :
    Float64.toDuration ⟨R, -k⟩ = (R / 2 ^ k : Nat) := by
  have he : ¬ (0 ≤ -(k : Int)) := by omega
  simp only [Float64.toDuration, if_neg he, neg_neg, Int.toNat_ofNat]
  have ht : (R : Int).tdiv (2 ^ k) = (R / 2 ^ k : Nat) := by
    rw [Int.ofNat_tdiv]; norm_cast
  rw [ht]
  generalize R / 2 ^ k = q at hR ⊢
  exact if_pos (by omega)

/-- **The jittered bound is `⌊6d/5⌋`** for every duration from 1 ns to `2 ^ 50` ns: the
    binary64 arithmetic never moves it off the exact value. -/
theorem jitteredDuration_eq {d : Int} (h1 : 1 ≤ d) (h2 : d ≤ 2 ^ 50) :
    jitteredDuration d = 6 * d / 5 := by
  obtain ⟨D, rfl⟩ := Int.eq_ofNat_of_zero_le (by omega : 0 ≤ d)
  have hofInt : Float64.ofInt D = ⟨D, 0⟩ := by
    rw [Float64.ofInt, round_natCast, Nat.sub_eq_zero_of_le (bitLength_le (by omega)),
      roundShift_zero]
    rfl
  set M := 5404319552844595 * D
  have hmul : jitterFactor.mul ⟨D, 0⟩ = Float64.round M (-52) := by
    simp only [Float64.mul, jitterFactor, M]; push_cast; rfl
  -- `M` has between 53 and 103 binary digits, so rounding drops `s = len - 53 ≤ 50` of them
  obtain ⟨-, hM⟩ := bitLength_spec (by omega : 0 < M) (by omega : M < 2 ^ 256)
  set len := bitLength 256 M
  have hlen1 : 53 ≤ len := (Nat.pow_lt_pow_iff_right (by decide)).1 (by omega : 2 ^ 52 < 2 ^ len)
  have hlen2 : len ≤ 103 := bitLength_le (by omega)
  have hexp : (-52 + (len - 53 : Nat) : Int) = -((52 - (len - 53) : Nat) : Int) := by omega
  have hdiv := roundShift_div_eq (d := D) (s := len - 53) (by omega)
    (by rwa [show 53 + (len - 53) = len by omega])
  rw [jitteredDuration, hofInt, hmul, round_natCast, hexp, toDuration_neg_exp (by omega)
    (by rw [hdiv]; omega), hdiv]
  omega

end FabEdge.Go
