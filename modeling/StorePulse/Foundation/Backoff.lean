import Mathlib.Algebra.Order.Field.Basic
import Mathlib.Tactic.Linarith

/-!
# Capped exponential backoff

The wait before the next attempt doubles with every attempt up to a cap, and is
then drawn from an interval around that value.  Attempts are counted from one.
-/

namespace StorePulse

variable {K : Type*} [Field K] [LinearOrder K]

/-- The wait after attempt number `n`. -/
def cappedBackoff (initial cap : K) (n : Nat) : K := min (initial * 2 ^ (n - 1)) cap

/-- The point of the interval `[base - jitter, base + jitter]` at the fraction `u`. -/
def jittered (base jitter u : K) : K :=
  (base - jitter) + ((base + jitter) - (base - jitter)) * u

theorem cappedBackoff_le_cap (initial cap : K) (n : Nat) : cappedBackoff initial cap n ≤ cap :=
  min_le_right _ _

variable [IsStrictOrderedRing K]

theorem cappedBackoff_nonneg {initial cap : K} (h₀ : 0 ≤ initial) (h : initial ≤ cap) (n : Nat) :
    0 ≤ cappedBackoff initial cap n :=
  le_min (mul_nonneg h₀ (by positivity)) (h₀.trans h)

/-- One attempt more never shortens the wait. -/
theorem cappedBackoff_le_succ {initial : K} (h₀ : 0 ≤ initial) (cap : K) (n : Nat) :
    cappedBackoff initial cap n ≤ cappedBackoff initial cap (n + 1) := by
  have hexp : n - 1 ≤ n + 1 - 1 := by omega
  have hpow : (2 : K) ^ (n - 1) ≤ 2 ^ (n + 1 - 1) := pow_le_pow_right₀ one_le_two hexp
  exact min_le_min_right _ (mul_le_mul_of_nonneg_left hpow h₀)

theorem cappedBackoff_mono {initial : K} (h₀ : 0 ≤ initial) (cap : K) {m n : Nat} (h : m ≤ n) :
    cappedBackoff initial cap m ≤ cappedBackoff initial cap n := by
  induction h with
  | refl => exact le_rfl
  | step _ ih => exact ih.trans (cappedBackoff_le_succ h₀ cap _)

theorem jittered_lower {base jitter u : K} (hj : 0 ≤ jitter) (hu : 0 ≤ u) :
    base - jitter ≤ jittered base jitter u := by
  have hspan : 0 ≤ (base + jitter) - (base - jitter) := by linarith
  have := mul_nonneg hspan hu
  rw [jittered]
  linarith

theorem jittered_upper {base jitter u : K} (hj : 0 ≤ jitter) (hu : u ≤ 1) :
    jittered base jitter u ≤ base + jitter := by
  have hspan : 0 ≤ (base + jitter) - (base - jitter) := by linarith
  have := mul_le_of_le_one_right hspan hu
  rw [jittered]
  linarith

end StorePulse
