import StorePulse.Python.Numbers
import StorePulse.Simulator.RetryLoop

/-!
# The sleeps of a simulator, in doubles

The waits between two sales and between two attempts are computed in doubles,
and what is too large for a double becomes an infinity, without an exception.

A wait between two sales is the quotient of a logarithm by the rate, so it is
infinite for a rate near zero (`expovariate_finite_iff`).  A wait between two
attempts is drawn from an interval around the capped exponential.  When the upper
end of the interval has no double every draw but zero gives an infinity, and
otherwise no draw does (`retryDelay_finite_iff`).
-/

namespace StorePulse

/-- A finite number with a property. -/
def FiniteAnd (p : Rat → Prop) (x : PyFloat) : Prop := ∃ q, x = .finite q ∧ p q

theorem FiniteAnd.isFinite {p : Rat → Prop} {x : PyFloat} (h : FiniteAnd p x) :
    x.isFinite = true := by
  obtain ⟨q, rfl, -⟩ := h
  rfl

/-- The value of `rng.random()` with these 53 bits. -/
def randomValue (bits : Nat) : Rat := bits / 2 ^ 53

theorem randomValue_mem {bits : Nat} (h : bits < 2 ^ 53) :
    0 ≤ randomValue bits ∧ randomValue bits ≤ 1 - 2 ^ (-(53 : Nat) : Int) := by
  have hle : (bits : Rat) ≤ 2 ^ 53 - 1 := by
    rw [le_sub_iff_add_le]
    exact_mod_cast h
  refine ⟨by unfold randomValue; positivity, ?_⟩
  rw [randomValue, div_le_iff₀ (by norm_num)]
  norm_num at hle ⊢
  linarith

theorem rngRandom_randomValue {bits : Nat} (h : bits < 2 ^ 53) :
    rngRandom (randomValue bits) = some (.finite (randomValue bits)) := by
  obtain ⟨h₀, h₁⟩ := randomValue_mem h
  have hpos := two_zpow_pos (-(53 : Nat) : Int)
  rw [rngRandom, if_pos ⟨h₀, by linarith⟩]

/-! ## Between two sales -/

/-- `rng.expovariate(rate)` for a rate that is not zero; `u` is `-log(1 - random())`. -/
def expovariate (u : Rat) : PyFloat → PyFloat
  | .finite rate => .ofRat (u / rate)
  | .inf _ => .finite 0
  | .nan => .nan

/-- The greatest value of `-log(1 - random())`: the double of `-log(2^-53)`. -/
def greatestLog : Rat := 2585122521193469 / 2 ^ 46

/-- Every wait is a number when the longest one has a double. -/
theorem expovariate_finite_iff {rate : Rat} (hrate : 0 < rate) :
    (∀ u, 0 ≤ u → u ≤ greatestLog → FiniteAnd (0 ≤ ·) (expovariate u (.finite rate))) ↔
      greatestLog / rate < doubleBound := by
  have hlog : 0 ≤ greatestLog := by norm_num [greatestLog]
  constructor
  · intro h
    by_contra hge
    obtain ⟨q, hq, -⟩ := h greatestLog hlog le_rfl
    rw [expovariate, PyFloat.ofRat_of_le (not_lt.mp hge)] at hq
    cases hq
  · intro h u hu hle
    have hquotient : 0 ≤ u / rate := div_nonneg hu hrate.le
    have hlt : u / rate < doubleBound := (div_le_div_of_nonneg_right hle hrate.le).trans_lt h
    exact ⟨_, PyFloat.ofRat_of_lt hquotient hlt, roundBinary_nonneg hquotient⟩

/-! ## Between two attempts -/

/-- The nearest double of a number that has one. -/
abbrev nearest (q : Rat) : Rat := roundBinary 53 (-1074) q

/-- The upper end of the interval that a wait is drawn from, before it is rounded. -/
def waitEnd (initial cap ratio : Rat) (attempt : Nat) : Rat :=
  cappedBackoff initial cap attempt + nearest (cappedBackoff initial cap attempt * ratio)

section

variable {initial cap : Rat} {attempt : Nat}

/-- The capped exponential of doubles is a double. -/
theorem IsDouble.cappedBackoff (hi : IsDouble initial) (hc : IsDouble cap) (attempt : Nat) :
    IsDouble (cappedBackoff initial cap attempt) := by
  rw [StorePulse.cappedBackoff]
  rcases le_total (initial * 2 ^ (attempt - 1)) cap with h | h
  · rw [min_eq_left h]
    exact ⟨hi.representable.mul_two_pow _, h.trans_lt hc.finite⟩
  · rw [min_eq_right h]
    exact hc

/-- The product that is too large for a double does not count, for the cap is smaller. -/
theorem min_ofRat (hi : IsDouble initial) (hc : IsDouble cap) :
    (PyFloat.ofRat (initial * 2 ^ (attempt - 1))).min (.finite cap) =
      .finite (StorePulse.cappedBackoff initial cap attempt) := by
  have hrep := hi.representable.mul_two_pow (attempt - 1)
  rcases lt_or_ge (initial * 2 ^ (attempt - 1)) doubleBound with h | h
  · rw [PyFloat.ofRat_of_lt hrep.nonneg h, hrep.round_eq (by decide), PyFloat.min_finite]
    rfl
  · rw [PyFloat.ofRat_of_le h, StorePulse.cappedBackoff,
      min_eq_right (hc.lt_doubleBound.le.trans h)]
    rfl

end

/-- A point of an interval around a double, in doubles. -/
def drawn (base jitter draw : Rat) : PyFloat :=
  let low := (PyFloat.finite (base - jitter)).rounded .ofRat
  let high := (PyFloat.finite (base + jitter)).rounded .ofRat
  let span := (high.sub low).rounded .ofRat
  PyFloat.zero.max ((low.add ((span.mul (.finite draw)).rounded .ofRat)).rounded .ofRat)

section

variable {base jitter draw : Rat}

theorem IsDouble.ofRat_sub (hb : IsDouble base) (hj : 0 ≤ jitter) (hle : jitter ≤ base) :
    PyFloat.ofRat (base - jitter) = .finite (nearest (base - jitter)) :=
  PyFloat.ofRat_of_lt (sub_nonneg.mpr hle) ((sub_le_self base hj).trans_lt hb.lt_doubleBound)

/-- The draw is a number when the end of the interval has a double. -/
theorem IsDouble.drawn_finite (hb : IsDouble base) (hj : 0 ≤ jitter) (hle : jitter ≤ base)
    (h₀ : 0 ≤ draw) (h₁ : draw ≤ 1 - 2 ^ (-(53 : Nat) : Int))
    (hend : base + jitter < doubleBound) : FiniteAnd (0 ≤ ·) (drawn base jitter draw) := by
  have hsum : 0 ≤ base + jitter := add_nonneg hb.nonneg hj
  have hlow₀ : 0 ≤ nearest (base - jitter) := roundBinary_nonneg (sub_nonneg.mpr hle)
  have hlow : nearest (base - jitter) ≤ base :=
    roundBinary_le (by decide) hb.representable (sub_nonneg.mpr hle) (sub_le_self base hj)
  have hhigh : IsDouble (nearest (base + jitter)) :=
    ⟨representable_roundBinary hsum, (roundBinary_double_lt_iff hsum).mpr hend⟩
  have hbase : base ≤ nearest (base + jitter) := by
    rcases hsum.eq_or_lt with hzero | hpos
    · have : base = 0 := by linarith [hb.nonneg]
      exact this ▸ hhigh.nonneg
    · exact le_roundBinary (by decide) hb.representable hpos (by linarith)
  set low := nearest (base - jitter) with hlowEq
  set high := nearest (base + jitter) with hhighEq
  have hdistance : 0 ≤ high - low := by linarith
  have hspan : nearest (high - low) ≤ high :=
    roundBinary_le (by decide) hhigh.representable hdistance (sub_le_self high hlow₀)
  have hspan₀ : 0 ≤ nearest (high - low) := roundBinary_nonneg hdistance
  have hdraw₁ : draw ≤ 1 := by
    have := two_zpow_pos (-(53 : Nat) : Int)
    linarith
  have hproduct₀ : 0 ≤ nearest (high - low) * draw := mul_nonneg hspan₀ h₀
  have hproduct : nearest (high - low) * draw ≤ high :=
    (mul_le_of_le_one_right hspan₀ hdraw₁).trans hspan
  -- the point between the two ends
  have hpoint : low + nearest (nearest (high - low) * draw) < doubleBound := by
    rw [← overflowBound_double]
    refine add_roundBinary_mul_lt (by decide) (by decide) hhigh.representable hlow₀
      (hlow.trans hbase) ?_ h₀ h₁
    exact_mod_cast hhigh.finite
  have hpoint₀ : 0 ≤ low + nearest (nearest (high - low) * draw) :=
    add_nonneg hlow₀ (roundBinary_nonneg hproduct₀)
  have heq : drawn base jitter draw =
      .finite (max 0 (nearest (low + nearest (nearest (high - low) * draw)))) := by
    simp only [drawn, PyFloat.rounded, hb.ofRat_sub hj hle, PyFloat.ofRat_of_lt hsum hend,
      PyFloat.sub_finite, ← hlowEq, ← hhighEq, PyFloat.mul_finite, PyFloat.add_finite,
      PyFloat.ofRat_of_lt hdistance ((sub_le_self high hlow₀).trans_lt hhigh.lt_doubleBound),
      PyFloat.ofRat_of_lt hproduct₀ (hproduct.trans_lt hhigh.lt_doubleBound),
      PyFloat.ofRat_of_lt hpoint₀ hpoint, PyFloat.zero, PyFloat.max_finite]
  exact ⟨_, heq, le_max_left _ _⟩

/-- Every draw but zero is infinite when the end of the interval has no double. -/
theorem IsDouble.drawn_infinite (hb : IsDouble base) (hj : 0 ≤ jitter) (hle : jitter ≤ base)
    (h₀ : 0 < draw) (hend : doubleBound ≤ base + jitter) :
    drawn base jitter draw = .inf false := by
  have hnot : ¬ draw < 0 := not_lt.mpr h₀.le
  simp only [drawn, PyFloat.rounded, hb.ofRat_sub hj hle, PyFloat.ofRat_of_le hend, PyFloat.sub,
    PyFloat.neg, PyFloat.add, PyFloat.mul, if_neg h₀.ne', hnot, decide_false, Bool.bne_false]
  rfl

end

namespace SimulatorConfig.RetryNumbers

variable {c : SimulatorConfig} {initial cap ratio : Rat} {attempt : Nat}

/-- The wait in doubles. -/
theorem retryDelay_double (hr : c.RetryNumbers initial cap ratio) (hi : IsDouble initial)
    (hc : IsDouble cap) (h : attempt ≤ 1024) (bits : Nat) (hbits : bits < 2 ^ 53) :
    retryDelayWith .ofRat c attempt (randomValue bits) = some (.ok
      (if cappedBackoff initial cap attempt = 0 ∨ ratio = 0 then
        .finite (cappedBackoff initial cap attempt)
      else drawn (cappedBackoff initial cap attempt)
        (nearest (cappedBackoff initial cap attempt * ratio)) (randomValue bits))) := by
  have hbase := hi.cappedBackoff hc attempt
  have hjitter : 0 ≤ cappedBackoff initial cap attempt * ratio :=
    mul_nonneg hbase.nonneg hr.ratio_nonneg
  have hsmall : cappedBackoff initial cap attempt * ratio < doubleBound :=
    (mul_le_of_le_one_right hbase.nonneg hr.ratio_le_one).trans_lt hbase.lt_doubleBound
  unfold retryDelayWith
  rw [PyFloat.ofNat_two_pow_of_lt (show attempt - 1 < 1024 by omega)]
  simp only [hr.initial_eq, hr.cap_eq, hr.ratio_eq, rngRandom_randomValue hbits, PyFloat.zero,
    PyFloat.mul_finite, PyFloat.rounded, min_ofRat hi hc, PyFloat.pyEq_finite, PyFloat.sub_finite,
    PyFloat.add_finite, PyFloat.ofRat_of_lt hjitter hsmall, Bool.or_eq_true, decide_eq_true_eq,
    Option.map_some, drawn]
  split
  · rfl
  · rfl

/-- Every wait after an attempt is a number when the end of its interval has a double. -/
theorem retryDelay_finite_iff (hr : c.RetryNumbers initial cap ratio) (hi : IsDouble initial)
    (hc : IsDouble cap) (h : attempt ≤ 1024) :
    (∀ bits < 2 ^ 53, ∀ delay, retryDelayWith .ofRat c attempt (randomValue bits) =
      some (.ok delay) → FiniteAnd (0 ≤ ·) delay) ↔
      waitEnd initial cap ratio attempt < doubleBound := by
  have hbase := hi.cappedBackoff hc attempt
  have hjitter : 0 ≤ nearest (cappedBackoff initial cap attempt * ratio) :=
    roundBinary_nonneg (mul_nonneg hbase.nonneg hr.ratio_nonneg)
  have hle : nearest (cappedBackoff initial cap attempt * ratio) ≤
      cappedBackoff initial cap attempt :=
    roundBinary_le (by decide) hbase.representable (mul_nonneg hbase.nonneg hr.ratio_nonneg)
      (mul_le_of_le_one_right hbase.nonneg hr.ratio_le_one)
  by_cases hfixed : cappedBackoff initial cap attempt = 0 ∨ ratio = 0
  · -- no jitter
    have hnone : nearest (cappedBackoff initial cap attempt * ratio) = 0 := by
      rw [nearest, mul_eq_zero.mpr hfixed, roundBinary_zero]
    refine iff_of_true (fun bits hbits delay hdelay => ?_) ?_
    · rw [hr.retryDelay_double hi hc h bits hbits, if_pos hfixed] at hdelay
      cases hdelay
      exact ⟨_, rfl, hbase.nonneg⟩
    · rw [waitEnd, hnone, add_zero]
      exact hbase.lt_doubleBound
  constructor
  · intro hall
    by_contra hge
    have hdelay := hr.retryDelay_double hi hc h 1 (by decide)
    have hpos : 0 < randomValue 1 := by norm_num [randomValue]
    rw [if_neg hfixed, hbase.drawn_infinite hjitter hle hpos (not_lt.mp hge)] at hdelay
    obtain ⟨q, hq, -⟩ := hall 1 (by decide) _ hdelay
    cases hq
  · intro hend bits hbits delay hdelay
    rw [hr.retryDelay_double hi hc h bits hbits, if_neg hfixed] at hdelay
    cases hdelay
    obtain ⟨h₀, h₁⟩ := randomValue_mem hbits
    exact hbase.drawn_finite hjitter hle h₀ h₁ hend

end SimulatorConfig.RetryNumbers

end StorePulse
