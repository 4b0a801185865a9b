import Mathlib.Data.Rat.Floor
import StorePulse.Python.Values

/-!
# Arithmetic of Python floats

Sums and products of floats, with finite values taken as exact rationals (no
rounding, and no sign of zero) and with the infinities and NaN of IEEE 754.
`rounded` rounds a result.  An `int` operand is converted to a double first, which
raises `OverflowError` from 2^1024 on.
-/

namespace StorePulse

/-- The exceptions of the language and its library that a modelled function lets escape. -/
inductive PyError where
  | overflowError
  | typeError
deriving DecidableEq

namespace PyFloat

/-- `-a`. -/
def neg : PyFloat → PyFloat
  | .finite a => .finite (-a)
  | .inf negative => .inf !negative
  | .nan => .nan

/-- `a + b`. -/
def add : PyFloat → PyFloat → PyFloat
  | .finite a, .finite b => .finite (a + b)
  | .inf s, .inf t => if s = t then .inf s else .nan
  | .inf s, .finite _ => .inf s
  | .finite _, .inf s => .inf s
  | .nan, _ => .nan
  | _, .nan => .nan

/-- `a - b`. -/
def sub (a b : PyFloat) : PyFloat := a.add b.neg

/-- `a * b`. -/
def mul : PyFloat → PyFloat → PyFloat
  | .finite a, .finite b => .finite (a * b)
  | .inf s, .inf t => .inf (s != t)
  | .inf s, .finite a => if a = 0 then .nan else .inf (s != decide (a < 0))
  | .finite a, .inf s => if a = 0 then .nan else .inf (s != decide (a < 0))
  | .nan, _ => .nan
  | _, .nan => .nan

/-- The rounding of an exact result. -/
def rounded (round : Rat → PyFloat) : PyFloat → PyFloat
  | .finite a => round a
  | x => x

@[simp] theorem rounded_exact (x : PyFloat) : x.rounded .finite = x := by cases x <;> rfl

/-- `min(a, b)`: the first unless the second is less. -/
def min (a b : PyFloat) : PyFloat := if b.lt a then b else a

/-- `max(a, b)`: the first unless the second is greater. -/
def max (a b : PyFloat) : PyFloat := if a.lt b then b else a

/-- The double of a non-negative `int`. -/
def ofNat (n : Nat) : Except PyError PyFloat :=
  if 2 ^ 1024 ≤ n then .error .overflowError else .ok (.finite n)

/-- The number a finite value is. -/
def value : PyFloat → Rat
  | .finite a => a
  | _ => 0

/-! ## Finite operands -/

theorem eq_finite_value {x : PyFloat} (h : x.isFinite = true) : x = .finite x.value := by
  cases x with
  | finite a => rfl
  | inf s => cases h
  | nan => cases h

@[simp] theorem le_finite (a b : Rat) : (finite a).le (.finite b) = decide (a ≤ b) := rfl

@[simp] theorem lt_finite (a b : Rat) : (finite a).lt (.finite b) = decide (a < b) := by
  rw [Bool.eq_iff_iff]
  simp [lt, lt_iff_le_and_ne]

@[simp] theorem pyEq_finite (a b : Rat) : (finite a).pyEq (.finite b) = decide (a = b) := by
  rw [Bool.eq_iff_iff]
  simp [pyEq]

@[simp] theorem add_finite (a b : Rat) : (finite a).add (.finite b) = .finite (a + b) := rfl

@[simp] theorem sub_finite (a b : Rat) : (finite a).sub (.finite b) = .finite (a - b) := by
  rw [sub, neg, add, sub_eq_add_neg]

@[simp] theorem mul_finite (a b : Rat) : (finite a).mul (.finite b) = .finite (a * b) := rfl

@[simp] theorem min_finite (a b : Rat) :
    (finite a).min (.finite b) = .finite (Min.min a b) := by
  rw [PyFloat.min, lt_finite]
  rcases lt_or_ge b a with h | h
  · simp [h, min_eq_right h.le]
  · simp [not_lt.2 h, min_eq_left h]

@[simp] theorem max_finite (a b : Rat) :
    (finite a).max (.finite b) = .finite (Max.max a b) := by
  rw [PyFloat.max, lt_finite]
  rcases lt_or_ge a b with h | h
  · simp [h, max_eq_right h.le]
  · simp [not_lt.2 h, max_eq_left h]

/-! ## Powers of two as doubles -/

theorem ofNat_two_pow_of_lt {k : Nat} (h : k < 1024) :
    ofNat (2 ^ k) = .ok (.finite (2 ^ k)) := by
  have hpow : ∀ m : Nat, k < m → ¬ 2 ^ m ≤ 2 ^ k := fun m hm =>
    Nat.not_le.2 (Nat.pow_lt_pow_right Nat.one_lt_two hm)
  unfold ofNat
  rw [if_neg (hpow _ h), Nat.cast_pow, Nat.cast_ofNat]

theorem ofNat_two_pow_of_le {k : Nat} (h : 1024 ≤ k) :
    ofNat (2 ^ k) = .error .overflowError := by
  have hpow : ∀ m : Nat, m ≤ k → 2 ^ m ≤ 2 ^ k := fun m hm => Nat.pow_le_pow_right Nat.two_pos hm
  unfold ofNat
  rw [if_pos (hpow _ h)]

end PyFloat

end StorePulse
