import StorePulse.Python.Values

/-!
# The configuration of a simulator

`SimulatorConfig` and its `validate`, which raises `ValueError` at the first
check that fails.
-/

namespace StorePulse

/-- `SimulatorConfig`. -/
structure SimulatorConfig where
  backendUrl : String
  storeCode : String
  instanceLabel : String
  runTag : String
  heartbeatInterval : PyFloat
  eventsPerSecond : PyFloat
  refundRate : PyFloat
  duplicateRate : PyFloat
  lateEventRate : PyFloat
  maxLateSeconds : Int
  maxQuantity : Int
  requestTimeoutSeconds : PyFloat
  retryInitialSeconds : PyFloat
  retryMaxSeconds : PyFloat
  retryJitterRatio : PyFloat
  maxRetryAttempts : Int
  queueSize : Int
  workerCount : Int
  statsIntervalSeconds : PyFloat
  randomSeed : Int

/-- The float zero. -/
def PyFloat.zero : PyFloat := .finite 0

/-- The float one. -/
def PyFloat.one : PyFloat := .finite 1

namespace SimulatorConfig

/-- `if ...: raise ValueError(message)`. -/
def raiseIf (failed : Bool) (message : String) : Except String Unit :=
  if failed then .error message else .ok ()

/-- `not 0.0 <= value <= 1.0`. -/
def outsideUnit (value : PyFloat) : Bool := !(PyFloat.zero.le value && value.le .one)

/-- `validate`. -/
def validate (c : SimulatorConfig) : Except String Unit := do
  raiseIf c.backendUrl.isEmpty "BACKEND_URL must not be empty"
  raiseIf c.storeCode.isEmpty "STORE_CODE must not be empty"
  raiseIf c.instanceLabel.isEmpty "INSTANCE_LABEL must not be empty"
  raiseIf c.runTag.isEmpty "RUN_TAG must not be empty"
  raiseIf (c.heartbeatInterval.le .zero) "HEARTBEAT_INTERVAL must be positive"
  raiseIf (c.eventsPerSecond.le .zero) "EVENTS_PER_SECOND must be positive"
  raiseIf (outsideUnit c.refundRate) "REFUND_RATE must be between 0 and 1"
  raiseIf (outsideUnit c.duplicateRate) "DUPLICATE_RATE must be between 0 and 1"
  raiseIf (outsideUnit c.lateEventRate) "LATE_EVENT_RATE must be between 0 and 1"
  raiseIf (c.maxLateSeconds < 1) "MAX_LATE_SECONDS must be at least 1"
  raiseIf (c.maxQuantity < 1) "MAX_QUANTITY must be at least 1"
  raiseIf (c.requestTimeoutSeconds.le .zero) "REQUEST_TIMEOUT_SECONDS must be positive"
  raiseIf (c.retryInitialSeconds.lt .zero) "RETRY_INITIAL_SECONDS must be non-negative"
  raiseIf (c.retryMaxSeconds.lt c.retryInitialSeconds)
    "RETRY_MAX_SECONDS must be >= RETRY_INITIAL_SECONDS"
  raiseIf (outsideUnit c.retryJitterRatio) "RETRY_JITTER_RATIO must be between 0 and 1"
  raiseIf (c.maxRetryAttempts < 0) "MAX_RETRY_ATTEMPTS must be non-negative"
  raiseIf (c.queueSize < 1) "QUEUE_SIZE must be at least 1"
  raiseIf (c.workerCount < 1) "WORKER_COUNT must be at least 1"
  raiseIf (c.statsIntervalSeconds.le .zero) "STATS_INTERVAL_SECONDS must be positive"

/-- The float fields. -/
def floatFields (c : SimulatorConfig) : List PyFloat :=
  [c.heartbeatInterval, c.eventsPerSecond, c.refundRate, c.duplicateRate, c.lateEventRate,
    c.requestTimeoutSeconds, c.retryInitialSeconds, c.retryMaxSeconds, c.retryJitterRatio,
    c.statsIntervalSeconds]

/-- The configuration `run` works with: the label names the run and the host. -/
def effective (c : SimulatorConfig) (hostname : String) : SimulatorConfig :=
  { c with instanceLabel := c.instanceLabel ++ ":" ++ c.runTag ++ ":" ++ hostname }

/-! ## What `validate` admits -/

/-- No check of `validate` fails. -/
structure Valid (c : SimulatorConfig) : Prop where
  backendUrl : c.backendUrl.isEmpty = false
  storeCode : c.storeCode.isEmpty = false
  instanceLabel : c.instanceLabel.isEmpty = false
  runTag : c.runTag.isEmpty = false
  heartbeatInterval : c.heartbeatInterval.le .zero = false
  eventsPerSecond : c.eventsPerSecond.le .zero = false
  refundRate : outsideUnit c.refundRate = false
  duplicateRate : outsideUnit c.duplicateRate = false
  lateEventRate : outsideUnit c.lateEventRate = false
  maxLateSeconds : 1 ≤ c.maxLateSeconds
  maxQuantity : 1 ≤ c.maxQuantity
  requestTimeoutSeconds : c.requestTimeoutSeconds.le .zero = false
  retryInitialSeconds : c.retryInitialSeconds.lt .zero = false
  retryMaxSeconds : c.retryMaxSeconds.lt c.retryInitialSeconds = false
  retryJitterRatio : outsideUnit c.retryJitterRatio = false
  maxRetryAttempts : 0 ≤ c.maxRetryAttempts
  queueSize : 1 ≤ c.queueSize
  workerCount : 1 ≤ c.workerCount
  statsIntervalSeconds : c.statsIntervalSeconds.le .zero = false

theorem raiseIf_ok_iff {failed : Bool} {message : String} {u : Unit} :
    raiseIf failed message = .ok u ↔ failed = false := by
  cases failed <;> simp [raiseIf]

/-- A sequence of checks passes when the first does and the rest do. -/
theorem raiseIf_bind_ok_iff {failed : Bool} {message : String}
    {rest : Unit → Except String Unit} {u : Unit} :
    (raiseIf failed message >>= rest) = .ok u ↔ failed = false ∧ rest () = .ok u := by
  cases failed <;> simp [raiseIf, bind, Except.bind]

theorem validate_ok_iff {c : SimulatorConfig} : c.validate = .ok () ↔ c.Valid := by
  simp only [validate, raiseIf_bind_ok_iff, raiseIf_ok_iff, decide_eq_false_iff_not,
    Int.not_lt]
  constructor
  · rintro ⟨h₁, h₂, h₃, h₄, h₅, h₆, h₇, h₈, h₉, h₁₀, h₁₁, h₁₂, h₁₃, h₁₄, h₁₅, h₁₆, h₁₇, h₁₈, h₁₉⟩
    exact ⟨h₁, h₂, h₃, h₄, h₅, h₆, h₇, h₈, h₉, h₁₀, h₁₁, h₁₂, h₁₃, h₁₄, h₁₅, h₁₆, h₁₇, h₁₈, h₁₉⟩
  · intro h
    exact ⟨h.backendUrl, h.storeCode, h.instanceLabel, h.runTag, h.heartbeatInterval,
      h.eventsPerSecond, h.refundRate, h.duplicateRate, h.lateEventRate, h.maxLateSeconds,
      h.maxQuantity, h.requestTimeoutSeconds, h.retryInitialSeconds, h.retryMaxSeconds,
      h.retryJitterRatio, h.maxRetryAttempts, h.queueSize, h.workerCount, h.statsIntervalSeconds⟩

/-- A finite value passes the check of a unit interval exactly when it lies in it. -/
theorem outsideUnit_finite {x : Rat} :
    outsideUnit (.finite x) = false ↔ 0 ≤ x ∧ x ≤ 1 := by
  simp [outsideUnit, PyFloat.zero, PyFloat.one, PyFloat.le]

end SimulatorConfig

end StorePulse
