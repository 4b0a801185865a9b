import StorePulse.Foundation.Rounding
import StorePulse.Python.Text
import StorePulse.Python.Values

/-!
# Numbers in strings

`float(s)` and `int(s)` for a string, which raise `ValueError` on what is not a
number.  White space at the ends is ignored, and single underscores may stand
between digits.  A decimal number is rounded to the nearest double, ties to even;
what is too large for a double becomes an infinity, without an exception.
-/

namespace StorePulse

/-! ## Digits -/

/-- The values of a part made of digits, with single underscores between them. -/
def digitPart : List Char → Option (List Nat)
  | [] => none
  | [c] => (digitValue c).map fun d => [d]
  | c :: '_' :: cs => do
      let d ← digitValue c
      let ds ← digitPart cs
      return d :: ds
  | c :: cs => do
      let d ← digitValue c
      let ds ← digitPart cs
      return d :: ds

/-- The number written with some decimal digits. -/
def ofDigits (ds : List Nat) : Nat := ds.foldl (fun n d => 10 * n + d) 0

/-- An optional sign, and what follows: whether it is a minus. -/
def splitSign : List Char → Bool × List Char
  | '-' :: cs => (true, cs)
  | '+' :: cs => (false, cs)
  | cs => (false, cs)

/-- A number with the sign. -/
def withSign (negative : Bool) (n : Nat) : Int := if negative then -n else n

/-- `int(s)`: at most 4300 digits are read. -/
def pyInt (s : String) : Option Int :=
  let (negative, cs) := splitSign (stripBy isWhitespace s.toList)
  (digitPart cs).bind fun ds =>
    if ds.length ≤ 4300 then some (withSign negative (ofDigits ds)) else none

/-! ## Doubles -/

/-- The nearest double: 53 bits, and no bit below 2^-1074. -/
def PyFloat.ofRat (q : Rat) : PyFloat :=
  if q = 0 then .finite 0
  else
    let magnitude := if q < 0 then -q else q
    let rounded := roundBinary 53 (-1074) magnitude
    if powInt 2 1024 ≤ rounded then .inf (q < 0)
    else .finite (if q < 0 then -rounded else rounded)

/-- A rational that is a double, and not negative. -/
structure IsDouble (r : Rat) : Prop where
  representable : Representable 53 (-1074) r
  finite : r < 2 ^ 1024

/-- The least number that is rounded to an infinity. -/
def doubleBound : Rat := 2 ^ 1024 - 2 ^ 970

section

variable {q r : Rat}

theorem doubleBound_pos : 0 < doubleBound :=
  sub_pos.mpr (pow_lt_pow_right₀ one_lt_two (by decide))

theorem overflowBound_double : overflowBound 53 1024 = doubleBound := by
  rw [overflowBound, doubleBound]
  norm_num

theorem roundBinary_double_lt_iff (hq : 0 ≤ q) :
    roundBinary 53 (-1074) q < 2 ^ 1024 ↔ q < doubleBound := by
  have h := @roundBinary_lt_iff 53 (-1074) 1024 q (by decide) (by decide) hq
  rw [overflowBound_double] at h
  exact_mod_cast h

theorem PyFloat.ofRat_of_lt (hq : 0 ≤ q) (h : q < doubleBound) :
    PyFloat.ofRat q = .finite (roundBinary 53 (-1074) q) := by
  rcases hq.eq_or_lt with rfl | hpos
  · rw [roundBinary_zero]
    rfl
  have hround := (roundBinary_double_lt_iff hq).mpr h
  have hnot : ¬ powInt 2 1024 ≤ roundBinary 53 (-1074) q := by
    rw [powInt_two]
    exact_mod_cast not_le.mpr hround
  simp only [PyFloat.ofRat, if_neg hpos.ne', if_neg (not_lt.mpr hq), if_neg hnot]

theorem PyFloat.ofRat_of_le (h : doubleBound ≤ q) : PyFloat.ofRat q = .inf false := by
  have hpos : 0 < q := doubleBound_pos.trans_le h
  have hround := mt (roundBinary_double_lt_iff hpos.le).mp (not_lt.mpr h)
  have hle : powInt 2 1024 ≤ roundBinary 53 (-1074) q := by
    rw [powInt_two]
    exact_mod_cast not_lt.mp hround
  have hnot : ¬ q < 0 := not_lt.mpr hpos.le
  simp only [PyFloat.ofRat, if_neg hpos.ne', if_neg hnot, if_pos hle, decide_eq_false hnot]

/-- What is rounded to a double that is not negative. -/
theorem PyFloat.isDouble_of_ofRat (h : PyFloat.ofRat q = .finite r) (hr : 0 ≤ r) : IsDouble r := by
  rcases lt_or_ge q 0 with hneg | hq
  · -- zero, the rounding of a negative number
    have hround := @roundBinary_nonneg 53 (-1074) (-q) (neg_nonneg.mpr hneg.le)
    simp only [PyFloat.ofRat, if_neg hneg.ne, if_pos hneg] at h
    split at h
    · cases h
    · cases h
      rw [show -roundBinary 53 (-1074) (-q) = 0 by linarith]
      exact ⟨representable_zero, by norm_num⟩
  · rcases lt_or_ge q doubleBound with hlt | hge
    · rw [PyFloat.ofRat_of_lt hq hlt] at h
      cases h
      exact ⟨representable_roundBinary hq, (roundBinary_double_lt_iff hq).mpr hlt⟩
    · rw [PyFloat.ofRat_of_le hge] at h
      cases h

theorem IsDouble.nonneg (h : IsDouble r) : 0 ≤ r := h.representable.nonneg

/-- A double is less than what is rounded to an infinity. -/
theorem IsDouble.lt_doubleBound (h : IsDouble r) : r < doubleBound := by
  rw [← roundBinary_double_lt_iff h.nonneg, h.representable.round_eq (by decide)]
  exact h.finite

end

/-! ## Decimal numbers -/

/-- Digits with at most one point among them or beside them, and how many follow it. -/
def mantissa (cs : List Char) : Option (Nat × Nat) :=
  let whole := cs.takeWhile (· != '.')
  match cs.dropWhile (· != '.') with
  | [] => (digitPart whole).map fun ds => (ofDigits ds, 0)
  | _ :: fraction =>
      if whole.isEmpty && fraction.isEmpty then none
      else do
        let ws ← if whole.isEmpty then some [] else digitPart whole
        let fs ← if fraction.isEmpty then some [] else digitPart fraction
        return (ofDigits (ws ++ fs), fs.length)

/-- The exponent after its letter, or zero when there is none. -/
def exponentPart : List Char → Option Int
  | [] => some 0
  | _ :: cs =>
      let (negative, ds) := splitSign cs
      (digitPart ds).map fun ds => withSign negative (ofDigits ds)

/-- A decimal number without a sign. -/
def decimalNumber (cs : List Char) : Option Rat := do
  let (digits, places) ← mantissa (cs.takeWhile fun c => c != 'e' && c != 'E')
  let exponent ← exponentPart (cs.dropWhile fun c => c != 'e' && c != 'E')
  return digits * powInt 10 (exponent - places)

/-- `float(s)`. -/
def pyFloat (s : String) : Option PyFloat :=
  let (negative, cs) := splitSign (stripBy isWhitespace s.toList)
  let word := String.ofList (cs.map Char.toLower)
  if word = "inf" ∨ word = "infinity" then some (.inf negative)
  else if word = "nan" then some .nan
  else (decimalNumber cs).map fun q => .ofRat (if negative then -q else q)

/-- A tenth has no double. -/
example : pyFloat " 1_0.0e-2 " = some (.finite (3602879701896397 / 36028797018963968)) := by
  decide +kernel

/-- A number too large for a double is read as an infinity. -/
example : pyFloat "-1e400" = some (.inf true) := by decide +kernel

end StorePulse
