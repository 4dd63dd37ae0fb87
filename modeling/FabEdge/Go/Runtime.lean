/-
  FabEdge.Go.Runtime — how a Go call ends, what `os.Stat` answers, and the binary64 arithmetic
  of `time.Duration(JitterFactor*float64(retryPeriod))`.

  A function of `options.go` that returns `error` either returns nil, returns an error with a
  message, or panics; the panics these functions can reach are method calls on a nil pointer or
  a nil interface.  Binary64 numbers are kept exactly as `m · 2 ^ e`; every value met here is
  an integer of at most 64 bits or such an integer times `1.2`, so no subnormal and no overflow
  of the exponent arises, and rounding to a 53-bit significand, ties to even, is all of IEEE 754
  that is needed.
-/
import Mathlib.Algebra.Group.Int

namespace FabEdge.Go

/-! ## §1. Outcomes and the file system. -/

/-- How a Go call that returns `error` ends, when it does not return nil. -/
inductive Failure where
  /-- A non-nil `error`, by its message. -/
  | error (msg : String)
  /-- The run-time panic of a method call on a nil pointer or a nil interface. -/
  | nilDereference
  deriving DecidableEq, Repr

/-- Outcomes compare by constructor and payload, so that a run's result can be checked by
    `decide`. -/
instance decEqExcept {ε α : Type} [DecidableEq ε] [DecidableEq α] : DecidableEq (Except ε α)
  | .error a, .error b => decidable_of_iff (a = b) (by simp)
  | .ok a, .ok b => decidable_of_iff (a = b) (by simp)
  | .error _, .ok _ => isFalse (by simp)
  | .ok _, .error _ => isFalse (by simp)

/-! ### Chains of early returns.

  A Go function that checks one condition after another and returns an error at the first that
  holds is a chain of `if c then throw e` in `Except Failure Unit`; these lemmas read such a chain
  off one check at a time. -/

section Checks

variable {c : Prop} [Decidable c] {e : Failure} {k : Unit → Except Failure Unit}

theorem check_bind_eq_ok :
    (if c then throw e >>= k else pure () >>= k) = .ok () ↔ ¬ c ∧ k () = .ok () := by
  split_ifs with h <;> simp [h, throw, throwThe, MonadExceptOf.throw, bind, Except.bind, pure,
    Except.pure]

theorem check_eq_ok : (if c then throw e else pure ()) = (.ok () : Except Failure Unit) ↔ ¬ c := by
  split_ifs with h <;> simp [h, throw, throwThe, MonadExceptOf.throw, pure, Except.pure]

theorem check_bind_eq_nilDereference {msg : String} :
    (if c then throw (.error msg) >>= k else pure () >>= k) = .error .nilDereference ↔
      ¬ c ∧ k () = .error .nilDereference := by
  split_ifs with h <;> simp [h, throw, throwThe, MonadExceptOf.throw, bind, Except.bind, pure,
    Except.pure]

theorem check_ne_nilDereference {msg : String} :
    (if c then throw (.error msg) else pure ()) ≠ (.error .nilDereference : Except Failure Unit) := by
  split_ifs <;> simp [throw, throwThe, MonadExceptOf.throw, pure, Except.pure]

theorem bind_eq_ok {x : Except Failure Unit} : (x >>= k) = .ok () ↔ x = .ok () ∧ k () = .ok () := by
  rcases x with _ | ⟨⟩ <;> simp [bind, Except.bind]

/-- A step that cannot panic, followed by steps that cannot, cannot. -/
theorem bind_ne_nilDereference {α : Type} {x : Except Failure α} {f : α → Except Failure Unit}
    (hx : x ≠ .error .nilDereference) (hf : ∀ a, f a ≠ .error .nilDereference) :
    (x >>= f) ≠ .error .nilDereference := by
  rcases x with _ | a
  · simpa [bind, Except.bind] using hx
  · exact hf a

end Checks

/-- A result passed on: `x >>= f` returns `b` when `x` returns some `a` on which `f` does. -/
theorem bind_eq_ok_iff {α β : Type} {x : Except Failure α} {f : α → Except Failure β} {b : β} :
    (x >>= f) = .ok b ↔ ∃ a, x = .ok a ∧ f a = .ok b := by
  rcases x with _ | a <;> simp [bind, Except.bind]

@[simp] theorem ok_bind {α β : Type} (a : α) (f : α → Except Failure β) :
    (Except.ok a >>= f) = f a := rfl

@[simp] theorem bind_ok {α : Type} (x : Except Failure α) : (x >>= Except.ok) = x := by
  cases x <;> rfl

/-- What `os.Stat` reports for a path. -/
inductive Stat where
  /-- An error for which `os.IsNotExist` holds. -/
  | notExist
  /-- Any other error (permission denied, a file where a directory is expected, ...); the
      returned `FileInfo` is then nil. -/
  | otherError
  /-- A `FileInfo`, by its `IsDir()`. -/
  | found (isDir : Bool)
  deriving DecidableEq, Repr

/-- The file system, as `os.Stat` sees it. -/
def FileSystem : Type := String → Stat

/-! ## §2. Binary64. -/

/-- A finite binary64 number `m · 2 ^ e`. -/
structure Float64 where
  m : Int
  e : Int
  deriving DecidableEq, Repr

/-- The number of binary digits of `n`, for `n < 2 ^ fuel`. -/
def bitLength : Nat → Nat → Nat
  | 0, _ => 0
  | fuel + 1, n => if n = 0 then 0 else bitLength fuel (n / 2) + 1

/-- `n / 2 ^ k` rounded to the nearest natural, ties to even. -/
def roundShift (n k : Nat) : Nat :=
  let q := n / 2 ^ k
  let r := n % 2 ^ k
  if 2 * r > 2 ^ k ∨ (2 * r = 2 ^ k ∧ q % 2 = 1) then q + 1 else q

/-- `m · 2 ^ e` rounded to a 53-bit significand, ties to even. -/
def Float64.round (m e : Int) : Float64 :=
  let len := bitLength 256 m.natAbs
  if len ≤ 53 then ⟨m, e⟩
  else
    let r : Int := roundShift m.natAbs (len - 53)
    ⟨if m < 0 then -r else r, e + (len - 53 : Nat)⟩

/-- `float64(d)` of an integer. -/
def Float64.ofInt (d : Int) : Float64 := Float64.round d 0

/-- `x*y`. -/
def Float64.mul (x y : Float64) : Float64 := Float64.round (x.m * y.m) (x.e + y.e)

/-- The untyped constant `1.2` as a float64 operand: the nearest binary64,
    `5404319552844595 · 2 ^ -52`. -/
def jitterFactor : Float64 := ⟨5404319552844595, -52⟩

/-- `time.Duration(f)`: truncation toward zero.  Go leaves a value outside int64 to the
    implementation; on amd64 it is the minimum int64. -/
def Float64.toDuration (f : Float64) : Int :=
  let t : Int := if 0 ≤ f.e then f.m * 2 ^ f.e.toNat else f.m.tdiv (2 ^ (-f.e).toNat)
  if -2 ^ 63 ≤ t ∧ t < 2 ^ 63 then t else -2 ^ 63

/-- `time.Duration(JitterFactor*float64(d))`, the bound `Validate` puts under `renewDeadline`. -/
def jitteredDuration (d : Int) : Int := (jitterFactor.mul (Float64.ofInt d)).toDuration

end FabEdge.Go
