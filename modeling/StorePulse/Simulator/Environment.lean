import StorePulse.Simulator.Sleeps

/-!
# The configuration in the environment

`from_env` reads twenty variables and lets `validate` check what they give.  The
checks of the form `x <= 0` and `x < y` hold back no NaN, since every comparison
with NaN is false, and nothing holds back an infinity on the far side of a bound.
The six variables checked this way are `unguardedVariables`.  Finite settings may
still give an infinite wait, since a quotient by a rate near zero has no double
(`TrafficFits`), nor has the upper end of an interval of waits near the greatest
double (`RetryFits`).
-/

namespace StorePulse

/-- `Mapping[str, str]`, by its `get`. -/
abbrev Environment := String → Option String

namespace SimulatorConfig

/-! ## The parser -/

/-- A variable that is read by a function of the language: the default when it is not set or
empty, and `ValueError` when it cannot be read. -/
def parseVariable {α : Type} (read : String → Option α) (complaint : String) (env : Environment)
    (name : String) (default : α) : Except String α :=
  match env name with
  | none => .ok default
  | some raw =>
      if raw = "" then .ok default
      else match read raw with
        | some a => .ok a
        | none => .error (name ++ complaint)

/-- `_parse_float`. -/
def parseFloat : Environment → String → PyFloat → Except String PyFloat :=
  parseVariable pyFloat " must be a number"

/-- `_parse_int`. -/
def parseInt : Environment → String → Int → Except String Int :=
  parseVariable pyInt " must be an integer"

/-- The four texts: `BACKEND_URL` without slashes at its end, and the others stripped. -/
def readBackendUrl (env : Environment) : String :=
  rstripSlash ((env "BACKEND_URL").getD "http://localhost:8000")

def readStoreCode (env : Environment) : String :=
  pyStrip ((env "STORE_CODE").getD "MAD-MADRID")

def readInstanceLabel (env : Environment) : String :=
  pyStrip ((env "INSTANCE_LABEL").getD "storepulse-pos")

def readRunTag (env : Environment) : String := pyStrip ((env "RUN_TAG").getD "demo")

/-- `from_env`. -/
def fromEnv (env : Environment) : Except String SimulatorConfig := do
  let heartbeatInterval ← parseFloat env "HEARTBEAT_INTERVAL" (.finite 5)
  let eventsPerSecond ← parseFloat env "EVENTS_PER_SECOND" (.finite 1)
  let refundRate ← parseFloat env "REFUND_RATE" (.ofRat (1 / 5))
  let duplicateRate ← parseFloat env "DUPLICATE_RATE" (.ofRat (2 / 25))
  let lateEventRate ← parseFloat env "LATE_EVENT_RATE" (.ofRat (1 / 10))
  let maxLateSeconds ← parseInt env "MAX_LATE_SECONDS" 7200
  let maxQuantity ← parseInt env "MAX_QUANTITY" 3
  let requestTimeoutSeconds ← parseFloat env "REQUEST_TIMEOUT_SECONDS" (.finite 5)
  let retryInitialSeconds ← parseFloat env "RETRY_INITIAL_SECONDS" (.finite (1 / 4))
  let retryMaxSeconds ← parseFloat env "RETRY_MAX_SECONDS" (.finite 5)
  let retryJitterRatio ← parseFloat env "RETRY_JITTER_RATIO" (.ofRat (1 / 5))
  let maxRetryAttempts ← parseInt env "MAX_RETRY_ATTEMPTS" 0
  let queueSize ← parseInt env "QUEUE_SIZE" 1000
  let workerCount ← parseInt env "WORKER_COUNT" 2
  let statsIntervalSeconds ← parseFloat env "STATS_INTERVAL_SECONDS" (.finite 30)
  let randomSeed ← parseInt env "RANDOM_SEED" 1
  let config : SimulatorConfig := {
    backendUrl := readBackendUrl env
    storeCode := readStoreCode env
    instanceLabel := readInstanceLabel env
    runTag := readRunTag env
    heartbeatInterval, eventsPerSecond, refundRate, duplicateRate, lateEventRate
    maxLateSeconds, maxQuantity, requestTimeoutSeconds, retryInitialSeconds, retryMaxSeconds
    retryJitterRatio, maxRetryAttempts, queueSize, workerCount, statsIntervalSeconds, randomSeed }
  config.validate
  return config

/-- No variable is set: every default passes its own check. -/
theorem fromEnv_defaults : ∃ c, fromEnv (fun _ => none) = .ok c := by
  have h : (fromEnv fun _ => none).toOption.isSome = true := by decide +kernel
  cases hc : fromEnv fun _ => none with
  | error m => simp [hc, Except.toOption] at h
  | ok c => exact ⟨c, rfl⟩

/-- What `from_env` reads, before `validate`. -/
structure Reads (env : Environment) (c : SimulatorConfig) : Prop where
  backendUrl : c.backendUrl = readBackendUrl env
  storeCode : c.storeCode = readStoreCode env
  instanceLabel : c.instanceLabel = readInstanceLabel env
  runTag : c.runTag = readRunTag env
  heartbeatInterval :
    parseFloat env "HEARTBEAT_INTERVAL" (.finite 5) = .ok c.heartbeatInterval
  eventsPerSecond : parseFloat env "EVENTS_PER_SECOND" (.finite 1) = .ok c.eventsPerSecond
  refundRate : parseFloat env "REFUND_RATE" (.ofRat (1 / 5)) = .ok c.refundRate
  duplicateRate : parseFloat env "DUPLICATE_RATE" (.ofRat (2 / 25)) = .ok c.duplicateRate
  lateEventRate : parseFloat env "LATE_EVENT_RATE" (.ofRat (1 / 10)) = .ok c.lateEventRate
  maxLateSeconds : parseInt env "MAX_LATE_SECONDS" 7200 = .ok c.maxLateSeconds
  maxQuantity : parseInt env "MAX_QUANTITY" 3 = .ok c.maxQuantity
  requestTimeoutSeconds :
    parseFloat env "REQUEST_TIMEOUT_SECONDS" (.finite 5) = .ok c.requestTimeoutSeconds
  retryInitialSeconds :
    parseFloat env "RETRY_INITIAL_SECONDS" (.finite (1 / 4)) = .ok c.retryInitialSeconds
  retryMaxSeconds : parseFloat env "RETRY_MAX_SECONDS" (.finite 5) = .ok c.retryMaxSeconds
  retryJitterRatio :
    parseFloat env "RETRY_JITTER_RATIO" (.ofRat (1 / 5)) = .ok c.retryJitterRatio
  maxRetryAttempts : parseInt env "MAX_RETRY_ATTEMPTS" 0 = .ok c.maxRetryAttempts
  queueSize : parseInt env "QUEUE_SIZE" 1000 = .ok c.queueSize
  workerCount : parseInt env "WORKER_COUNT" 2 = .ok c.workerCount
  statsIntervalSeconds :
    parseFloat env "STATS_INTERVAL_SECONDS" (.finite 30) = .ok c.statsIntervalSeconds
  randomSeed : parseInt env "RANDOM_SEED" 1 = .ok c.randomSeed

theorem bind_ok_iff {α β : Type} {x : Except String α} {f : α → Except String β} {b : β} :
    (x >>= f) = .ok b ↔ ∃ a, x = .ok a ∧ f a = .ok b := by
  cases x with
  | error m => simp [bind, Except.bind]
  | ok a => simp [bind, Except.bind]

/-- `from_env` returns what it reads when that is valid. -/
theorem fromEnv_ok_iff {env : Environment} {c : SimulatorConfig} :
    fromEnv env = .ok c ↔ Reads env c ∧ c.Valid := by
  simp only [fromEnv, bind_ok_iff]
  constructor
  · rintro ⟨x₁, h₁, x₂, h₂, x₃, h₃, x₄, h₄, x₅, h₅, x₆, h₆, x₇, h₇, x₈, h₈, x₉, h₉, x₁₀, h₁₀,
      x₁₁, h₁₁, x₁₂, h₁₂, x₁₃, h₁₃, x₁₄, h₁₄, x₁₅, h₁₅, x₁₆, h₁₆, ⟨⟩, hv, hc⟩
    cases hc
    exact ⟨⟨rfl, rfl, rfl, rfl, h₁, h₂, h₃, h₄, h₅, h₆, h₇, h₈, h₉, h₁₀, h₁₁, h₁₂, h₁₃, h₁₄, h₁₅,
      h₁₆⟩, validate_ok_iff.1 hv⟩
  · rintro ⟨hr, hv⟩
    have hc : { c with
        backendUrl := readBackendUrl env
        storeCode := readStoreCode env
        instanceLabel := readInstanceLabel env
        runTag := readRunTag env } = c := by
      rw [← hr.backendUrl, ← hr.storeCode, ← hr.instanceLabel, ← hr.runTag]
    exact ⟨_, hr.heartbeatInterval, _, hr.eventsPerSecond, _, hr.refundRate, _, hr.duplicateRate,
      _, hr.lateEventRate, _, hr.maxLateSeconds, _, hr.maxQuantity, _, hr.requestTimeoutSeconds,
      _, hr.retryInitialSeconds, _, hr.retryMaxSeconds, _, hr.retryJitterRatio,
      _, hr.maxRetryAttempts, _, hr.queueSize, _, hr.workerCount, _, hr.statsIntervalSeconds,
      _, hr.randomSeed, (), validate_ok_iff.2 (hc.symm ▸ hv), congrArg Except.ok hc⟩

/-! ## What a configuration owes -/

/-- Every number of the configuration is usable, and so is every sleep derived from it, in
doubles. -/
structure Usable (c : SimulatorConfig) : Prop where
  heartbeatInterval : FiniteAnd (0 < ·) c.heartbeatInterval
  eventsPerSecond : FiniteAnd (0 < ·) c.eventsPerSecond
  requestTimeoutSeconds : FiniteAnd (0 < ·) c.requestTimeoutSeconds
  statsIntervalSeconds : FiniteAnd (0 < ·) c.statsIntervalSeconds
  refundRate : FiniteAnd (fun q => 0 ≤ q ∧ q ≤ 1) c.refundRate
  duplicateRate : FiniteAnd (fun q => 0 ≤ q ∧ q ≤ 1) c.duplicateRate
  lateEventRate : FiniteAnd (fun q => 0 ≤ q ∧ q ≤ 1) c.lateEventRate
  retryJitterRatio : FiniteAnd (fun q => 0 ≤ q ∧ q ≤ 1) c.retryJitterRatio
  retryInitialSeconds : FiniteAnd (0 ≤ ·) c.retryInitialSeconds
  retryMaxSeconds : FiniteAnd (c.retryInitialSeconds.value ≤ ·) c.retryMaxSeconds
  maxLateSeconds : 1 ≤ c.maxLateSeconds
  maxQuantity : 1 ≤ c.maxQuantity
  maxRetryAttempts : 0 ≤ c.maxRetryAttempts
  queueSize : 1 ≤ c.queueSize
  workerCount : 1 ≤ c.workerCount
  trafficSleep : ∀ u, 0 ≤ u → u ≤ greatestLog →
    FiniteAnd (0 ≤ ·) (expovariate u c.eventsPerSecond)
  retrySleep : ∀ attempt result bits delay, 1 ≤ attempt → bits < 2 ^ 53 →
    retryDelayWith .ofRat c attempt (randomValue bits) = some (.ok delay) →
    afterAttemptWith c attempt result delay = .sleeping delay → FiniteAnd (0 ≤ ·) delay

/-- The variables that must be positive. -/
def positiveVariables : List (String × PyFloat) :=
  [("HEARTBEAT_INTERVAL", .finite 5), ("EVENTS_PER_SECOND", .finite 1),
    ("REQUEST_TIMEOUT_SECONDS", .finite 5), ("STATS_INTERVAL_SECONDS", .finite 30)]

/-- The variables that must lie between zero and one. -/
def unitVariables : List (String × PyFloat) :=
  [("REFUND_RATE", .ofRat (1 / 5)), ("DUPLICATE_RATE", .ofRat (2 / 25)),
    ("LATE_EVENT_RATE", .ofRat (1 / 10)), ("RETRY_JITTER_RATIO", .ofRat (1 / 5))]

/-- The least and the greatest wait between two attempts. -/
def retryVariables : List (String × PyFloat) :=
  [("RETRY_INITIAL_SECONDS", .finite (1 / 4)), ("RETRY_MAX_SECONDS", .finite 5)]

/-- The variables with an integer, each with its default and its least value. -/
def intVariables : List (String × Int × Option Int) :=
  [("MAX_LATE_SECONDS", 7200, some 1), ("MAX_QUANTITY", 3, some 1),
    ("MAX_RETRY_ATTEMPTS", 0, some 0), ("QUEUE_SIZE", 1000, some 1), ("WORKER_COUNT", 2, some 1),
    ("RANDOM_SEED", 1, none)]

/-- The variables whose checks let NaN and infinities through. -/
def unguardedVariables : List (String × PyFloat) := positiveVariables ++ retryVariables

/-- The environment breaks a rule: a text is empty, a number is malformed or out of bounds. -/
inductive Refused (env : Environment) : Prop where
  | backendUrl : (readBackendUrl env).isEmpty = true → Refused env
  | text (text : String) :
      text ∈ [readStoreCode env, readInstanceLabel env, readRunTag env] → text.isEmpty = true →
      Refused env
  | malformedFloat (v : String × PyFloat) (raw : String) :
      v ∈ unguardedVariables ++ unitVariables → env v.1 = some raw → raw ≠ "" →
      pyFloat raw = none → Refused env
  | malformedInt (v : String × Int × Option Int) (raw : String) :
      v ∈ intVariables → env v.1 = some raw → raw ≠ "" → pyInt raw = none → Refused env
  | notPositive (v : String × PyFloat) (x : PyFloat) :
      v ∈ positiveVariables → parseFloat env v.1 v.2 = .ok x → x.le .zero = true → Refused env
  | outsideUnit (v : String × PyFloat) (x : PyFloat) :
      v ∈ unitVariables → parseFloat env v.1 v.2 = .ok x → outsideUnit x = true → Refused env
  | tooSmall (v : String × Int × Option Int) (n least : Int) :
      v ∈ intVariables → v.2.2 = some least → parseInt env v.1 v.2.1 = .ok n → n < least →
      Refused env
  | negativeInitial (x : PyFloat) :
      parseFloat env "RETRY_INITIAL_SECONDS" (.finite (1 / 4)) = .ok x → x.lt .zero = true →
      Refused env
  | maxBelowInitial (x y : PyFloat) :
      parseFloat env "RETRY_INITIAL_SECONDS" (.finite (1 / 4)) = .ok x →
      parseFloat env "RETRY_MAX_SECONDS" (.finite 5) = .ok y → y.lt x = true → Refused env

/-- An unguarded variable that is set is read as a finite number. -/
def UnguardedFinite (env : Environment) : Prop :=
  ∀ v ∈ unguardedVariables, ∀ raw, env v.1 = some raw → raw ≠ "" →
    ∀ x, pyFloat raw = some x → x.isFinite = true

/-- The longest wait between two sales has a double. -/
def TrafficFits (env : Environment) : Prop :=
  ∀ rate, parseFloat env "EVENTS_PER_SECOND" (.finite 1) = .ok (.finite rate) →
    greatestLog / rate < doubleBound

/-- The loop sleeps after this attempt, and `_retry_delay` does not raise. -/
def Sleeps (limit : Int) (attempt : Nat) : Prop :=
  1 ≤ attempt ∧ attempt ≤ 1024 ∧ (limit = 0 ∨ attempt < limit)

/-- The longest wait after an attempt has a double. -/
def RetryFits (env : Environment) : Prop :=
  ∀ initial cap ratio limit,
    parseFloat env "RETRY_INITIAL_SECONDS" (.finite (1 / 4)) = .ok (.finite initial) →
    parseFloat env "RETRY_MAX_SECONDS" (.finite 5) = .ok (.finite cap) →
    parseFloat env "RETRY_JITTER_RATIO" (.ofRat (1 / 5)) = .ok (.finite ratio) →
    parseInt env "MAX_RETRY_ATTEMPTS" 0 = .ok limit →
    ∀ attempt, Sleeps limit attempt → waitEnd initial cap ratio attempt < doubleBound

/-! ## When it is refused -/

variable {env : Environment} {c : SimulatorConfig}

section

variable {α : Type} {read : String → Option α} {complaint name : String} {default : α}

/-- A variable is refused when it is set and cannot be read. -/
theorem parseVariable_error_iff :
    (∃ message, parseVariable read complaint env name default = .error message) ↔
      ∃ raw, env name = some raw ∧ raw ≠ "" ∧ read raw = none := by
  rw [parseVariable]
  cases env name with
  | none => simp
  | some raw =>
      by_cases hraw : raw = ""
      · simp [hraw]
      · cases hx : read raw <;> simp [hraw, hx]

/-- A variable gives its default, or what is read where it is set. -/
theorem parseVariable_ok {a : α} (h : parseVariable read complaint env name default = .ok a) :
    a = default ∨ ∃ raw, env name = some raw ∧ raw ≠ "" ∧ read raw = some a := by
  rw [parseVariable] at h
  cases hraw : env name with
  | none =>
      simp only [hraw, Except.ok.injEq] at h
      exact .inl h.symm
  | some raw =>
      by_cases hne : raw = ""
      · simp only [hraw, if_pos hne, Except.ok.injEq] at h
        exact .inl h.symm
      · cases hy : read raw with
        | none => simp [hraw, hne, hy] at h
        | some b =>
            simp only [hraw, if_neg hne, hy, Except.ok.injEq] at h
            exact .inr ⟨raw, rfl, hne, h ▸ hy⟩

theorem parseVariable_of_raw {raw : String} {a : α} (hraw : env name = some raw) (hne : raw ≠ "")
    (ha : read raw = some a) : parseVariable read complaint env name default = .ok a := by
  rw [parseVariable, hraw]
  simp [hne, ha]

end

/-- What is no error is a value. -/
theorem ok_of_not_error {α : Type} {x : Except String α} (h : ¬ ∃ message, x = .error message) :
    ∃ a, x = .ok a := by
  cases x with
  | error m => exact absurd ⟨m, rfl⟩ h
  | ok a => exact ⟨a, rfl⟩

/-- An environment that breaks no rule has all its numbers. -/
theorem parseFloat_of_not_refused (h : ¬ Refused env) {v : String × PyFloat}
    (hv : v ∈ unguardedVariables ++ unitVariables) : ∃ x, parseFloat env v.1 v.2 = .ok x := by
  refine ok_of_not_error fun he => h ?_
  obtain ⟨raw, hraw, hne, hx⟩ := parseVariable_error_iff.1 he
  exact .malformedFloat v raw hv hraw hne hx

theorem parseInt_of_not_refused (h : ¬ Refused env) {v : String × Int × Option Int}
    (hv : v ∈ intVariables) : ∃ n, parseInt env v.1 v.2.1 = .ok n := by
  refine ok_of_not_error fun he => h ?_
  obtain ⟨raw, hraw, hne, hx⟩ := parseVariable_error_iff.1 he
  exact .malformedInt v raw hv hraw hne hx

/-! The value of a variable of each kind, when no rule is broken. -/

theorem positive_of_not_refused (h : ¬ Refused env) {name : String} {default x : PyFloat}
    (hx : parseFloat env name default = .ok x) (hv : (name, default) ∈ positiveVariables) :
    x.le .zero = false := by
  rw [← Bool.not_eq_true]
  exact fun he => h (.notPositive (name, default) x hv hx he)

theorem unit_of_not_refused (h : ¬ Refused env) {name : String} {default x : PyFloat}
    (hx : parseFloat env name default = .ok x) (hv : (name, default) ∈ unitVariables) :
    outsideUnit x = false := by
  rw [← Bool.not_eq_true]
  exact fun he => h (.outsideUnit (name, default) x hv hx he)

theorem least_of_not_refused (h : ¬ Refused env) {name : String} {default n least : Int}
    (hn : parseInt env name default = .ok n) (hv : (name, default, some least) ∈ intVariables) :
    least ≤ n :=
  Int.not_lt.1 fun he => h (.tooSmall (name, default, some least) n least hv rfl hn he)

theorem text_of_not_refused (h : ¬ Refused env) {text : String}
    (hv : text ∈ [readStoreCode env, readInstanceLabel env, readRunTag env]) :
    text.isEmpty = false := by
  rw [← Bool.not_eq_true]
  exact fun he => h (.text text hv he)

/-- What is read from an environment that breaks no rule is valid. -/
theorem Reads.valid (hr : Reads env c) (h : ¬ Refused env) : c.Valid where
  backendUrl := by
    rw [hr.backendUrl, ← Bool.not_eq_true]
    exact fun he => h (.backendUrl he)
  storeCode := hr.storeCode ▸ text_of_not_refused h (by simp)
  instanceLabel := hr.instanceLabel ▸ text_of_not_refused h (by simp)
  runTag := hr.runTag ▸ text_of_not_refused h (by simp)
  heartbeatInterval := positive_of_not_refused h hr.heartbeatInterval (by simp [positiveVariables])
  eventsPerSecond := positive_of_not_refused h hr.eventsPerSecond (by simp [positiveVariables])
  refundRate := unit_of_not_refused h hr.refundRate (by simp [unitVariables])
  duplicateRate := unit_of_not_refused h hr.duplicateRate (by simp [unitVariables])
  lateEventRate := unit_of_not_refused h hr.lateEventRate (by simp [unitVariables])
  maxLateSeconds := least_of_not_refused h hr.maxLateSeconds (by simp [intVariables])
  maxQuantity := least_of_not_refused h hr.maxQuantity (by simp [intVariables])
  requestTimeoutSeconds :=
    positive_of_not_refused h hr.requestTimeoutSeconds (by simp [positiveVariables])
  retryInitialSeconds := by
    rw [← Bool.not_eq_true]
    exact fun he => h (.negativeInitial _ hr.retryInitialSeconds he)
  retryMaxSeconds := by
    rw [← Bool.not_eq_true]
    exact fun he => h (.maxBelowInitial _ _ hr.retryInitialSeconds hr.retryMaxSeconds he)
  retryJitterRatio := unit_of_not_refused h hr.retryJitterRatio (by simp [unitVariables])
  maxRetryAttempts := least_of_not_refused h hr.maxRetryAttempts (by simp [intVariables])
  queueSize := least_of_not_refused h hr.queueSize (by simp [intVariables])
  workerCount := least_of_not_refused h hr.workerCount (by simp [intVariables])
  statsIntervalSeconds :=
    positive_of_not_refused h hr.statsIntervalSeconds (by simp [positiveVariables])

/-- An environment that breaks no rule gives a configuration. -/
theorem exists_reads (h : ¬ Refused env) : ∃ c, Reads env c := by
  have hfloat : ∀ v ∈ unguardedVariables ++ unitVariables, ∃ x, parseFloat env v.1 v.2 = .ok x :=
    fun v hv => parseFloat_of_not_refused h hv
  have hint : ∀ v ∈ intVariables, ∃ n, parseInt env v.1 v.2.1 = .ok n :=
    fun v hv => parseInt_of_not_refused h hv
  simp only [unguardedVariables, positiveVariables, retryVariables, unitVariables,
    List.cons_append, List.nil_append, List.forall_mem_cons, intVariables] at hfloat hint
  obtain ⟨⟨heartbeat, h₁⟩, ⟨rate, h₂⟩, ⟨timeout, h₃⟩, ⟨stats, h₄⟩, ⟨initial, h₅⟩, ⟨cap, h₆⟩,
    ⟨refund, h₇⟩, ⟨duplicate, h₈⟩, ⟨late, h₉⟩, ⟨jitter, h₁₀⟩, -⟩ := hfloat
  obtain ⟨⟨lateSeconds, k₁⟩, ⟨quantity, k₂⟩, ⟨attempts, k₃⟩, ⟨queue, k₄⟩, ⟨workers, k₅⟩,
    ⟨seed, k₆⟩, -⟩ := hint
  exact ⟨{
      backendUrl := readBackendUrl env
      storeCode := readStoreCode env
      instanceLabel := readInstanceLabel env
      runTag := readRunTag env
      heartbeatInterval := heartbeat
      eventsPerSecond := rate
      refundRate := refund
      duplicateRate := duplicate
      lateEventRate := late
      maxLateSeconds := lateSeconds
      maxQuantity := quantity
      requestTimeoutSeconds := timeout
      retryInitialSeconds := initial
      retryMaxSeconds := cap
      retryJitterRatio := jitter
      maxRetryAttempts := attempts
      queueSize := queue
      workerCount := workers
      statsIntervalSeconds := stats
      randomSeed := seed },
    ⟨rfl, rfl, rfl, rfl, h₁, h₂, h₇, h₈, h₉, k₁, k₂, h₃, h₅, h₆, h₁₀, k₃, k₄, k₅, h₄, k₆⟩⟩

/-- What is read and valid breaks no rule. -/
theorem Reads.not_refused (hr : Reads env c) (hv : c.Valid) : ¬ Refused env := by
  have hfloat : ∀ {name : String} {default x : PyFloat}, parseFloat env name default = .ok x →
      ¬ ∃ raw, env name = some raw ∧ raw ≠ "" ∧ pyFloat raw = none := fun hx hbad => by
    obtain ⟨m, hm⟩ := parseVariable_error_iff.2 hbad
    cases hx.symm.trans hm
  have hint : ∀ {name : String} {default n : Int}, parseInt env name default = .ok n →
      ¬ ∃ raw, env name = some raw ∧ raw ≠ "" ∧ pyInt raw = none := fun hn hbad => by
    obtain ⟨m, hm⟩ := parseVariable_error_iff.2 hbad
    cases hn.symm.trans hm
  intro h
  cases h with
  | backendUrl he =>
      have := hv.backendUrl
      rw [hr.backendUrl, he] at this
      cases this
  | text text hmem he =>
      have hnot : ∀ t ∈ [readStoreCode env, readInstanceLabel env, readRunTag env],
          t.isEmpty = false := by
        simp only [List.forall_mem_cons, ← hr.storeCode, ← hr.instanceLabel, ← hr.runTag]
        exact ⟨hv.storeCode, hv.instanceLabel, hv.runTag, nofun⟩
      rw [hnot text hmem] at he
      cases he
  | malformedFloat v raw hmem hraw hne hx =>
      have hnot : ∀ v ∈ unguardedVariables ++ unitVariables,
          ¬ ∃ raw, env v.1 = some raw ∧ raw ≠ "" ∧ pyFloat raw = none := by
        simp only [unguardedVariables, positiveVariables, retryVariables, unitVariables,
          List.cons_append, List.nil_append, List.forall_mem_cons]
        exact ⟨hfloat hr.heartbeatInterval, hfloat hr.eventsPerSecond,
          hfloat hr.requestTimeoutSeconds, hfloat hr.statsIntervalSeconds,
          hfloat hr.retryInitialSeconds, hfloat hr.retryMaxSeconds, hfloat hr.refundRate,
          hfloat hr.duplicateRate, hfloat hr.lateEventRate, hfloat hr.retryJitterRatio, nofun⟩
      exact hnot v hmem ⟨raw, hraw, hne, hx⟩
  | malformedInt v raw hmem hraw hne hx =>
      have hnot : ∀ v ∈ intVariables,
          ¬ ∃ raw, env v.1 = some raw ∧ raw ≠ "" ∧ pyInt raw = none := by
        simp only [intVariables, List.forall_mem_cons]
        exact ⟨hint hr.maxLateSeconds, hint hr.maxQuantity, hint hr.maxRetryAttempts,
          hint hr.queueSize, hint hr.workerCount, hint hr.randomSeed, nofun⟩
      exact hnot v hmem ⟨raw, hraw, hne, hx⟩
  | notPositive v x hmem hx he =>
      have hnot : ∀ v ∈ positiveVariables, ∀ x, parseFloat env v.1 v.2 = .ok x →
          x.le .zero = false := by
        simp only [positiveVariables, List.forall_mem_cons, hr.heartbeatInterval,
          hr.eventsPerSecond, hr.requestTimeoutSeconds, hr.statsIntervalSeconds, Except.ok.injEq,
          forall_eq']
        exact ⟨hv.heartbeatInterval, hv.eventsPerSecond, hv.requestTimeoutSeconds,
          hv.statsIntervalSeconds, nofun⟩
      rw [hnot v hmem x hx] at he
      cases he
  | outsideUnit v x hmem hx he =>
      have hnot : ∀ v ∈ unitVariables, ∀ x, parseFloat env v.1 v.2 = .ok x →
          SimulatorConfig.outsideUnit x = false := by
        simp only [unitVariables, List.forall_mem_cons, hr.refundRate, hr.duplicateRate,
          hr.lateEventRate, hr.retryJitterRatio, Except.ok.injEq, forall_eq']
        exact ⟨hv.refundRate, hv.duplicateRate, hv.lateEventRate, hv.retryJitterRatio, nofun⟩
      rw [hnot v hmem x hx] at he
      cases he
  | tooSmall v n least hmem hleast hn hlt =>
      have hnot : ∀ v ∈ intVariables, ∀ n least, v.2.2 = some least →
          parseInt env v.1 v.2.1 = .ok n → least ≤ n := by
        simp only [intVariables, List.forall_mem_cons, hr.maxLateSeconds, hr.maxQuantity,
          hr.maxRetryAttempts, hr.queueSize, hr.workerCount, hr.randomSeed, Except.ok.injEq,
          Option.some.injEq, forall_eq', reduceCtorEq, false_implies, implies_true, true_and]
        exact ⟨hv.maxLateSeconds, hv.maxQuantity, hv.maxRetryAttempts, hv.queueSize,
          hv.workerCount, nofun⟩
      exact absurd hlt (Int.not_lt.2 (hnot v hmem n least hleast hn))
  | negativeInitial x hx he =>
      cases hr.retryInitialSeconds.symm.trans hx
      rw [hv.retryInitialSeconds] at he
      cases he
  | maxBelowInitial x y hx hy he =>
      cases hr.retryInitialSeconds.symm.trans hx
      cases hr.retryMaxSeconds.symm.trans hy
      rw [hv.retryMaxSeconds] at he
      cases he

/-- `from_env` raises exactly when the environment breaks a rule. -/
theorem refused_iff : Refused env ↔ ¬ ∃ c, fromEnv env = .ok c := by
  constructor
  · rintro h ⟨c, hc⟩
    obtain ⟨hr, hv⟩ := fromEnv_ok_iff.1 hc
    exact hr.not_refused hv h
  · intro h
    by_contra hnot
    obtain ⟨c, hr⟩ := exists_reads hnot
    exact h ⟨c, fromEnv_ok_iff.2 ⟨hr, hr.valid hnot⟩⟩

/-! ## When it is usable -/

theorem finiteAnd_pos {x : PyFloat} (hx : x.isFinite = true) (h : x.le .zero = false) :
    FiniteAnd (0 < ·) x := by
  refine ⟨x.value, PyFloat.eq_finite_value hx, ?_⟩
  rw [PyFloat.eq_finite_value hx, PyFloat.zero, PyFloat.le_finite] at h
  simpa using h

/-- The check of a unit interval lets no special value through. -/
theorem finiteAnd_unit {x : PyFloat} (h : outsideUnit x = false) :
    FiniteAnd (fun q => 0 ≤ q ∧ q ≤ 1) x := by
  cases x with
  | finite q => exact ⟨q, rfl, outsideUnit_finite.1 h⟩
  | inf negative => cases negative <;> cases h
  | nan => cases h

/-! Numbers that were read are doubles. -/

theorem pyFloat_isDouble {raw : String} {r : Rat} (h : pyFloat raw = some (.finite r))
    (hr : 0 ≤ r) : IsDouble r := by
  simp only [pyFloat] at h
  split at h
  · cases h
  · split at h
    · cases h
    · obtain ⟨q, -, hq⟩ := Option.map_eq_some_iff.1 h
      exact PyFloat.isDouble_of_ofRat hq hr

theorem parseFloat_isDouble {name : String} {default r : Rat} (hd : IsDouble default)
    (h : parseFloat env name (.finite default) = .ok (.finite r)) (hr : 0 ≤ r) : IsDouble r := by
  rcases parseVariable_ok h with he | ⟨raw, -, -, hread⟩
  · cases he
    exact hd
  · exact pyFloat_isDouble hread hr

/-- Eight and less is far from the end of the doubles. -/
theorem lt_two_pow_1024 {r : Rat} (h : r < 2 ^ 3) : r < 2 ^ 1024 :=
  h.trans_le (pow_le_pow_right₀ one_le_two (by decide))

theorem isDouble_quarter : IsDouble (1 / 4) :=
  ⟨⟨1, -2, by decide, by decide, by norm_num⟩, lt_two_pow_1024 (by norm_num)⟩

theorem isDouble_five : IsDouble 5 :=
  ⟨⟨5, 0, by decide, by decide, by norm_num⟩, lt_two_pow_1024 (by norm_num)⟩

theorem Reads.isDouble (hr : Reads env c) {initial cap ratio : Rat}
    (hn : c.RetryNumbers initial cap ratio) : IsDouble initial ∧ IsDouble cap :=
  ⟨parseFloat_isDouble isDouble_quarter (hr.retryInitialSeconds.trans (by rw [hn.initial_eq]))
      hn.initial_nonneg,
    parseFloat_isDouble isDouble_five (hr.retryMaxSeconds.trans (by rw [hn.cap_eq]))
      (hn.initial_nonneg.trans hn.initial_le_cap)⟩

/-- The bound on the waits, for the settings that are read. -/
theorem Reads.retryFits_iff (hr : Reads env c) {initial cap ratio : Rat}
    (hn : c.RetryNumbers initial cap ratio) : RetryFits env ↔
      ∀ attempt, Sleeps c.maxRetryAttempts attempt →
        waitEnd initial cap ratio attempt < doubleBound := by
  have hinitial := hr.retryInitialSeconds
  have hcap := hr.retryMaxSeconds
  have hratio := hr.retryJitterRatio
  rw [hn.initial_eq] at hinitial
  rw [hn.cap_eq] at hcap
  rw [hn.ratio_eq] at hratio
  constructor
  · intro h
    exact h initial cap ratio _ hinitial hcap hratio hr.maxRetryAttempts
  · intro h initial' cap' ratio' limit hinitial' hcap' hratio' hlimit
    cases hinitial.symm.trans hinitial'
    cases hcap.symm.trans hcap'
    cases hratio.symm.trans hratio'
    cases hr.maxRetryAttempts.symm.trans hlimit
    exact h

/-- The loop goes on to sleep exactly below the limit. -/
theorem sleeping_iff {attempt : Nat} {delay : PyFloat} :
    (∃ result, afterAttemptWith c attempt result delay = .sleeping delay) ↔
      c.maxRetryAttempts = 0 ∨ attempt < c.maxRetryAttempts := by
  constructor
  · rintro ⟨result, h⟩
    rw [afterAttemptWith] at h
    split at h
    · cases h
    · cases h
    · cases h
    · split at h
      · cases h
      · omega
  · intro h
    refine ⟨.transportError, ?_⟩
    rw [afterAttemptWith, PostResult.attempt]
    exact if_neg (by omega)

/-- The waits between two attempts are numbers exactly when the ends of their intervals have
doubles. -/
theorem RetryNumbers.retrySleep_iff {initial cap ratio : Rat}
    (hn : c.RetryNumbers initial cap ratio) (hi : IsDouble initial) (hc : IsDouble cap) :
    (∀ attempt result bits delay, 1 ≤ attempt → bits < 2 ^ 53 →
      retryDelayWith .ofRat c attempt (randomValue bits) = some (.ok delay) →
      afterAttemptWith c attempt result delay = .sleeping delay → FiniteAnd (0 ≤ ·) delay) ↔
    ∀ attempt, Sleeps c.maxRetryAttempts attempt →
      waitEnd initial cap ratio attempt < doubleBound := by
  constructor
  · rintro h attempt ⟨hone, hle, hmax⟩
    refine (hn.retryDelay_finite_iff hi hc hle).1 fun bits hbits delay hdelay => ?_
    obtain ⟨result, hsleeps⟩ := sleeping_iff.2 hmax
    exact h attempt result bits delay hone hbits hdelay hsleeps
  · intro h attempt result bits delay hone hbits hdelay hsleeps
    have hle : attempt ≤ 1024 := by
      by_contra hgt
      rw [retryDelayWith_overflows _ c (not_le.1 hgt)] at hdelay
      cases hdelay
    exact (hn.retryDelay_finite_iff hi hc hle).2
      (h attempt ⟨hone, hle, sleeping_iff.1 ⟨result, hsleeps⟩⟩) bits hbits delay hdelay

/-- A valid configuration of finite numbers is usable when its waits have doubles. -/
theorem Reads.usable (hr : Reads env c) (hv : c.Valid) (hf : c.Finite) (ht : TrafficFits env)
    (hw : RetryFits env) : c.Usable := by
  have hn := hv.retryNumbers hf
  simp only [Finite, floatFields, List.forall_mem_cons] at hf
  obtain ⟨f₁, f₂, -, -, -, f₃, -, -, -, f₄, -⟩ := hf
  have hrate := finiteAnd_pos f₂ hv.eventsPerSecond
  exact {
    heartbeatInterval := finiteAnd_pos f₁ hv.heartbeatInterval
    eventsPerSecond := hrate
    requestTimeoutSeconds := finiteAnd_pos f₃ hv.requestTimeoutSeconds
    statsIntervalSeconds := finiteAnd_pos f₄ hv.statsIntervalSeconds
    refundRate := finiteAnd_unit hv.refundRate
    duplicateRate := finiteAnd_unit hv.duplicateRate
    lateEventRate := finiteAnd_unit hv.lateEventRate
    retryJitterRatio := finiteAnd_unit hv.retryJitterRatio
    retryInitialSeconds := ⟨_, hn.initial_eq, hn.initial_nonneg⟩
    retryMaxSeconds := ⟨_, hn.cap_eq, hn.initial_le_cap⟩
    maxLateSeconds := hv.maxLateSeconds
    maxQuantity := hv.maxQuantity
    maxRetryAttempts := hv.maxRetryAttempts
    queueSize := hv.queueSize
    workerCount := hv.workerCount
    trafficSleep := by
      obtain ⟨rate, hq, hpos⟩ := hrate
      rw [hq]
      exact (expovariate_finite_iff hpos).2 (ht rate (hr.eventsPerSecond.trans (by rw [hq])))
    retrySleep := (hn.retrySleep_iff (hr.isDouble hn).1 (hr.isDouble hn).2).2
      ((hr.retryFits_iff hn).1 hw) }

theorem Usable.finite (h : c.Usable) : c.Finite := by
  simp only [Finite, floatFields, List.forall_mem_cons]
  exact ⟨h.heartbeatInterval.isFinite, h.eventsPerSecond.isFinite, h.refundRate.isFinite,
    h.duplicateRate.isFinite, h.lateEventRate.isFinite, h.requestTimeoutSeconds.isFinite,
    h.retryInitialSeconds.isFinite, h.retryMaxSeconds.isFinite, h.retryJitterRatio.isFinite,
    h.statsIntervalSeconds.isFinite, List.forall_mem_nil _⟩

/-- A variable that is read as a finite number, where it is set, gives one. -/
theorem UnguardedFinite.isFinite (h : UnguardedFinite env) {name : String} {default x : PyFloat}
    (hx : parseFloat env name default = .ok x) (hv : (name, default) ∈ unguardedVariables) :
    x.isFinite = true := by
  have hdefault : ∀ v ∈ unguardedVariables, v.2.isFinite = true := by decide
  rcases parseVariable_ok hx with rfl | ⟨raw, hraw, hne, hread⟩
  · exact hdefault _ hv
  · exact h _ hv raw hraw hne x hread

/-- Among valid configurations the finite ones come from the environments whose unguarded
variables are read as finite numbers. -/
theorem Reads.finite_iff (hr : Reads env c) (hv : c.Valid) : c.Finite ↔ UnguardedFinite env := by
  constructor
  · intro hf
    have hfields : ∀ v ∈ unguardedVariables, ∀ x, parseFloat env v.1 v.2 = .ok x →
        x.isFinite = true := by
      simp only [Finite, floatFields, List.forall_mem_cons] at hf
      obtain ⟨f₁, f₂, -, -, -, f₃, f₄, f₅, -, f₆, -⟩ := hf
      simp only [unguardedVariables, positiveVariables, retryVariables, List.cons_append,
        List.nil_append, List.forall_mem_cons, hr.heartbeatInterval, hr.eventsPerSecond,
        hr.requestTimeoutSeconds, hr.statsIntervalSeconds, hr.retryInitialSeconds,
        hr.retryMaxSeconds, Except.ok.injEq, forall_eq']
      exact ⟨f₁, f₂, f₃, f₆, f₄, f₅, List.forall_mem_nil _⟩
    exact fun v hmem raw hraw hne x hx => hfields v hmem x (parseVariable_of_raw hraw hne hx)
  · intro h
    have hmem : ∀ v ∈ positiveVariables ++ retryVariables, (v.1, v.2) ∈ unguardedVariables :=
      fun v hv => hv
    simp only [positiveVariables, retryVariables, List.cons_append, List.nil_append,
      List.forall_mem_cons] at hmem
    obtain ⟨m₁, m₂, m₃, m₄, m₅, m₆, -⟩ := hmem
    simp only [Finite, floatFields, List.forall_mem_cons]
    exact ⟨h.isFinite hr.heartbeatInterval m₁, h.isFinite hr.eventsPerSecond m₂,
      (finiteAnd_unit hv.refundRate).isFinite, (finiteAnd_unit hv.duplicateRate).isFinite,
      (finiteAnd_unit hv.lateEventRate).isFinite, h.isFinite hr.requestTimeoutSeconds m₃,
      h.isFinite hr.retryInitialSeconds m₅, h.isFinite hr.retryMaxSeconds m₆,
      (finiteAnd_unit hv.retryJitterRatio).isFinite, h.isFinite hr.statsIntervalSeconds m₄,
      List.forall_mem_nil _⟩

/-- The waits of a usable configuration have doubles. -/
theorem Usable.fits (h : c.Usable) (hr : Reads env c) (hv : c.Valid) :
    TrafficFits env ∧ RetryFits env := by
  have hn := hv.retryNumbers h.finite
  obtain ⟨hi, hc⟩ := hr.isDouble hn
  refine ⟨fun rate hrate => ?_,
    (hr.retryFits_iff hn).2 ((hn.retrySleep_iff hi hc).1 h.retrySleep)⟩
  have heq : c.eventsPerSecond = .finite rate :=
    Except.ok.inj (hr.eventsPerSecond.symm.trans hrate)
  obtain ⟨q, hq, hpos⟩ := h.eventsPerSecond
  cases heq.symm.trans hq
  have hsleep := h.trafficSleep
  rw [heq] at hsleep
  exact (expovariate_finite_iff hpos).1 hsleep

/-- **The configuration parser.**  `from_env` raises or returns a usable configuration exactly
when the environment breaks a rule, or its unguarded variables are read as finite numbers and the
longest waits they give have doubles. -/
theorem from_env_usable_iff (env : Environment) :
    (∀ c, fromEnv env = .ok c → c.Usable) ↔
      Refused env ∨ UnguardedFinite env ∧ TrafficFits env ∧ RetryFits env := by
  constructor
  · intro h
    by_cases href : Refused env
    · exact .inl href
    · obtain ⟨c, hr⟩ := exists_reads href
      have hv := hr.valid href
      have husable := h c (fromEnv_ok_iff.2 ⟨hr, hv⟩)
      exact .inr ⟨(hr.finite_iff hv).1 husable.finite, husable.fits hr hv⟩
  · rintro (href | ⟨hfinite, htraffic, hretry⟩) c hc
    · exact absurd ⟨c, hc⟩ (refused_iff.1 href)
    · obtain ⟨hr, hv⟩ := fromEnv_ok_iff.1 hc
      exact hr.usable hv ((hr.finite_iff hv).2 hfinite) htraffic hretry

end SimulatorConfig

namespace Sample

/-- One variable is set, and it is not a number. -/
def nanEnvironment : Environment := fun name =>
  if name = "HEARTBEAT_INTERVAL" then some "nan" else none

end Sample

/-- A heartbeat interval of NaN passes every check. -/
theorem from_env_admits_nan :
    ¬ ∀ env c, SimulatorConfig.fromEnv env = .ok c → c.Usable := by
  intro h
  have hnan : ((SimulatorConfig.fromEnv Sample.nanEnvironment).toOption.map
      fun c => c.heartbeatInterval) = some .nan := by decide +kernel
  cases hc : SimulatorConfig.fromEnv Sample.nanEnvironment with
  | error m => simp [hc, Except.toOption] at hnan
  | ok c =>
      simp only [hc, Except.toOption, Option.map_some, Option.some.injEq] at hnan
      obtain ⟨q, hq, -⟩ := (h Sample.nanEnvironment c hc).heartbeatInterval
      rw [hnan] at hq
      cases hq

end StorePulse
