import Mathlib.Tactic.NormNum
import StorePulse.Foundation.Backoff
import StorePulse.Simulator.Transport

/-!
# The wait between two attempts

`_retry_delay` doubles an `int` and multiplies a `float` by it.  The `int` grows
without bound when attempts are not limited, and from 2^1024 on there is no
double for it: the call raises `OverflowError` whatever the settings are, also
where the wait has long been at its cap.  Up to attempt number 1024 the wait is
the capped exponential with its jitter.
-/

namespace StorePulse

namespace SimulatorConfig

/-- The float fields are finite. -/
def Finite (c : SimulatorConfig) : Prop := ∀ x ∈ c.floatFields, x.isFinite = true

instance (c : SimulatorConfig) : Decidable c.Finite :=
  inferInstanceAs (Decidable (∀ x ∈ c.floatFields, x.isFinite = true))

/-- The wait before jitter, as a number. -/
def backoff (c : SimulatorConfig) (attempt : Nat) : Rat :=
  cappedBackoff c.retryInitialSeconds.value c.retryMaxSeconds.value attempt

/-- What `_retry_delay` owes at one attempt, whatever the random source gives. -/
structure BackoffSound (c : SimulatorConfig) (attempt : Nat) : Prop where
  returns : ∀ draw : Rat, 0 ≤ draw → draw < 1 → ∃ delay : Rat,
    retryDelay c attempt draw = some (.ok (.finite delay)) ∧
    (1 - c.retryJitterRatio.value) * c.backoff attempt ≤ delay ∧
    delay ≤ (1 + c.retryJitterRatio.value) * c.backoff attempt ∧
    0 ≤ delay ∧ delay ≤ (1 + c.retryJitterRatio.value) * c.retryMaxSeconds.value
  increasing : ∀ later, attempt ≤ later → c.backoff attempt ≤ c.backoff later

/-- The numbers of the retry settings. -/
structure RetryNumbers (c : SimulatorConfig) (initial cap ratio : Rat) : Prop where
  initial_eq : c.retryInitialSeconds = .finite initial
  cap_eq : c.retryMaxSeconds = .finite cap
  ratio_eq : c.retryJitterRatio = .finite ratio
  initial_nonneg : 0 ≤ initial
  initial_le_cap : initial ≤ cap
  ratio_nonneg : 0 ≤ ratio
  ratio_le_one : ratio ≤ 1

variable {c : SimulatorConfig}

theorem Valid.retryNumbers (hv : c.Valid) (hf : c.Finite) :
    c.RetryNumbers c.retryInitialSeconds.value c.retryMaxSeconds.value
      c.retryJitterRatio.value := by
  have hinitial := PyFloat.eq_finite_value (hf c.retryInitialSeconds (by simp [floatFields]))
  have hcap := PyFloat.eq_finite_value (hf c.retryMaxSeconds (by simp [floatFields]))
  have hratio := PyFloat.eq_finite_value (hf c.retryJitterRatio (by simp [floatFields]))
  have h₀ := hv.retryInitialSeconds
  rw [hinitial, PyFloat.zero, PyFloat.lt_finite, decide_eq_false_iff_not, not_lt] at h₀
  have h₁ := hv.retryMaxSeconds
  rw [hcap, hinitial, PyFloat.lt_finite, decide_eq_false_iff_not, not_lt] at h₁
  have h₂ := hv.retryJitterRatio
  rw [hratio, outsideUnit_finite] at h₂
  exact ⟨hinitial, hcap, hratio, h₀, h₁, h₂.1, h₂.2⟩

end SimulatorConfig

/-! ## The wait -/

/-- From attempt number 1025 on the call raises, whatever the settings. -/
theorem retryDelayWith_overflows (round : Rat → PyFloat) (c : SimulatorConfig) {attempt : Nat}
    (h : 1024 < attempt) (draw : Rat) :
    retryDelayWith round c attempt draw = some (.error .overflowError) := by
  unfold retryDelayWith
  rw [PyFloat.ofNat_two_pow_of_le (show 1024 ≤ attempt - 1 by omega)]

theorem retryDelay_overflows (c : SimulatorConfig) {attempt : Nat} (h : 1024 < attempt)
    (draw : Rat) : retryDelay c attempt draw = some (.error .overflowError) :=
  retryDelayWith_overflows .finite c h draw

namespace SimulatorConfig.RetryNumbers

variable {c : SimulatorConfig} {initial cap ratio : Rat}

/-- The wait is the point that the draw picks around the capped exponential. -/
theorem retryDelay_eq (hr : c.RetryNumbers initial cap ratio) {attempt : Nat}
    (h : attempt ≤ 1024) {draw : Rat} (h₀ : 0 ≤ draw) (h₁ : draw < 1) :
    retryDelay c attempt draw = some (.ok (.finite
      (if cappedBackoff initial cap attempt = 0 ∨ ratio = 0 then cappedBackoff initial cap attempt
      else max 0 (jittered (cappedBackoff initial cap attempt)
        (cappedBackoff initial cap attempt * ratio) draw)))) := by
  have hdraw : rngRandom draw = some (.finite draw) := by rw [rngRandom, if_pos ⟨h₀, h₁⟩]
  unfold retryDelay retryDelayWith
  rw [PyFloat.ofNat_two_pow_of_lt (show attempt - 1 < 1024 by omega)]
  simp only [PyFloat.rounded_exact, hr.initial_eq, hr.cap_eq, hr.ratio_eq, hdraw, PyFloat.zero,
    PyFloat.mul_finite, PyFloat.min_finite, PyFloat.pyEq_finite, PyFloat.sub_finite,
    PyFloat.add_finite, PyFloat.max_finite, Bool.or_eq_true, decide_eq_true_eq, Option.map_some]
  rw [← cappedBackoff]
  split
  · rfl
  · rfl

/-- The interval the wait lies in. -/
theorem wait_mem (hr : c.RetryNumbers initial cap ratio) (attempt : Nat) {draw : Rat}
    (h₀ : 0 ≤ draw) (h₁ : draw < 1) {base delay : Rat}
    (hbase : base = cappedBackoff initial cap attempt)
    (hdelay : delay = if base = 0 ∨ ratio = 0 then base
      else max 0 (jittered base (base * ratio) draw)) :
    (1 - ratio) * base ≤ delay ∧ delay ≤ (1 + ratio) * base ∧ 0 ≤ delay := by
  have hnonneg : 0 ≤ base := hbase ▸ cappedBackoff_nonneg hr.initial_nonneg hr.initial_le_cap _
  have hjitter : 0 ≤ base * ratio := mul_nonneg hnonneg hr.ratio_nonneg
  have hlow : 0 ≤ base - base * ratio :=
    sub_nonneg.2 (mul_le_of_le_one_right hnonneg hr.ratio_le_one)
  split at hdelay
  · subst hdelay
    exact ⟨by linarith, by linarith, hnonneg⟩
  · have hlower : base - base * ratio ≤ jittered base (base * ratio) draw :=
      jittered_lower hjitter h₀
    have hupper : jittered base (base * ratio) draw ≤ base + base * ratio :=
      jittered_upper hjitter h₁.le
    rw [max_eq_right (hlow.trans hlower)] at hdelay
    subst hdelay
    exact ⟨by linarith, by linarith, hlow.trans hlower⟩

end SimulatorConfig.RetryNumbers

/-- Up to attempt number 1024 the wait is bounded and never shrinks. -/
theorem SimulatorConfig.Valid.backoffSound {c : SimulatorConfig} (hv : c.Valid) (hf : c.Finite)
    {attempt : Nat} (h : attempt ≤ 1024) : c.BackoffSound attempt := by
  have hr := hv.retryNumbers hf
  refine ⟨fun draw h₀ h₁ => ?_, fun later hle => cappedBackoff_mono hr.initial_nonneg _ hle⟩
  obtain ⟨hlower, hupper, hnonneg⟩ := hr.wait_mem attempt h₀ h₁ rfl rfl
  refine ⟨_, hr.retryDelay_eq h h₀ h₁, hlower, hupper, hnonneg, hupper.trans ?_⟩
  have hratio : 0 ≤ 1 + c.retryJitterRatio.value := by linarith [hr.ratio_nonneg]
  exact mul_le_mul_of_nonneg_left (cappedBackoff_le_cap _ _ _) hratio

/-- **Backoff.**  Under settings that `validate` admits and that are finite, the wait after an
attempt is as documented exactly up to attempt number 1024. -/
theorem backoff_sound_iff (c : SimulatorConfig) (hv : c.validate = .ok ()) (hf : c.Finite)
    (attempt : Nat) : c.BackoffSound attempt ↔ attempt ≤ 1024 := by
  constructor
  · intro hs
    by_contra hgt
    obtain ⟨delay, hdelay, _⟩ := hs.returns 0 le_rfl one_pos
    rw [retryDelay_overflows c (not_le.1 hgt)] at hdelay
    cases hdelay
  · exact (SimulatorConfig.validate_ok_iff.1 hv).backoffSound hf

namespace Sample

/-- Settings that never give up. -/
def patientConfig : SimulatorConfig where
  backendUrl := "http://backend:8000"
  storeCode := "POA-CENTRO"
  instanceLabel := "simulator"
  runTag := "demo"
  heartbeatInterval := .finite 5
  eventsPerSecond := .finite 1
  refundRate := .finite (1 / 5)
  duplicateRate := .finite (2 / 25)
  lateEventRate := .finite (1 / 10)
  maxLateSeconds := 7200
  maxQuantity := 3
  requestTimeoutSeconds := .finite 5
  retryInitialSeconds := .finite (1 / 4)
  retryMaxSeconds := .finite 5
  retryJitterRatio := .finite (1 / 5)
  maxRetryAttempts := 0
  queueSize := 1000
  workerCount := 2
  statsIntervalSeconds := .finite 30
  randomSeed := 1

theorem patientConfig_validate : patientConfig.validate = .ok () := by decide +kernel

theorem patientConfig_finite : patientConfig.Finite := by decide

end Sample

/-- The last attempt with a wait. -/
theorem backoff_sound_at_limit : Sample.patientConfig.BackoffSound 1024 :=
  (backoff_sound_iff Sample.patientConfig Sample.patientConfig_validate
    Sample.patientConfig_finite 1024).2 le_rfl

/-- The next attempt has none. -/
theorem backoff_unsound_past_limit :
    Sample.patientConfig.validate = .ok () ∧ Sample.patientConfig.Finite ∧
      ¬ Sample.patientConfig.BackoffSound 1025 := by
  refine ⟨Sample.patientConfig_validate, Sample.patientConfig_finite, fun hs => ?_⟩
  obtain ⟨delay, hdelay, _⟩ := hs.returns 0 le_rfl one_pos
  rw [retryDelay_overflows _ (by decide)] at hdelay
  cases hdelay

end StorePulse
