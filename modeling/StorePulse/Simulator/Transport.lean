import StorePulse.Python.Floats
import StorePulse.Simulator.Domain

/-!
# The retrying transport

`transport.py`.  `post_event_with_retry` is a loop around `client.post`.  What
one attempt meets is a `PostResult`; `afterAttempt` is the body of the loop after
the call has ended, up to the next `await`.
-/

namespace StorePulse

/-- `RETRYABLE_STATUS_CODES`. -/
def retryableStatusCodes : List Nat := [408, 425, 429, 500, 502, 503, 504]

/-- `SUCCESS_STATUS_CODES`. -/
def successStatusCodes : List Nat := [200, 201]

/-- An HTTP response. -/
structure Response where
  statusCode : Nat
  /-- `response.text`. -/
  text : String
  /-- `response.json()`, or nothing when it raises `ValueError`. -/
  json : Option Json

/-- How `client.post` ends. -/
inductive PostResult where
  /-- `httpx.TransportError`. -/
  | transportError
  | response (response : Response)

/-- `retry_reason`, by what its text says. -/
inductive RetryReason where
  | transportError
  /-- The body cannot be parsed, or `body["status"]` fails. -/
  | invalidSuccessResponse
  | invalidSuccessStatus (status : Json)
  | retryableHttp (statusCode : Nat)

/-- The `status` of a receipt. -/
inductive ReceiptStatus where
  | accepted
  | duplicate
deriving DecidableEq

/-- `DeliveryReceipt`. -/
structure DeliveryReceipt where
  status : ReceiptStatus
  httpStatus : Nat
  attempts : Nat
deriving DecidableEq

/-- What `post_event_with_retry` raises on purpose. -/
inductive DeliveryError where
  /-- `PermanentDeliveryError`, with the status code and the start of the text. -/
  | permanent (statusCode : Nat) (detail : String)
  /-- `RetryExhaustedError`. -/
  | retryExhausted (attempts : Nat) (reason : RetryReason)

/-! ## One attempt -/

/-- What one attempt tells. -/
inductive Attempt where
  | succeeded (status : ReceiptStatus) (httpStatus : Nat)
  | retryable (reason : RetryReason)
  | permanent (statusCode : Nat) (detail : String)
  /-- An exception the loop does not catch. -/
  | escaped (error : PyError)

/-- `body["status"]`, where it does not fail. -/
def bodyStatus : Json → Option Json
  | .obj fields => fields.lookup "status"
  | _ => none

/-- `status not in {"accepted", "duplicate"}`.  The members of a set are hashed, and a list
or a dict has no hash. -/
def successStatus (status : Json) (httpStatus : Nat) : Attempt :=
  match status with
  | .arr _ => .escaped .typeError
  | .obj _ => .escaped .typeError
  | .str "accepted" => .succeeded .accepted httpStatus
  | .str "duplicate" => .succeeded .duplicate httpStatus
  | status => .retryable (.invalidSuccessStatus status)

/-- The `try` statement of the loop. -/
def PostResult.attempt : PostResult → Attempt
  | .transportError => .retryable .transportError
  | .response r =>
      if r.statusCode ∈ successStatusCodes then
        match r.json.bind bodyStatus with
        | none => .retryable .invalidSuccessResponse
        | some status => successStatus status r.statusCode
      else if r.statusCode ∈ retryableStatusCodes then .retryable (.retryableHttp r.statusCode)
      else .permanent r.statusCode (String.ofList (r.text.toList.take 500))

/-! ## The loop -/

/-- `_retry_delay`, with the rounding of its arithmetic and what `rng.random()` gives inside
`uniform`. -/
def retryDelayWith (round : Rat → PyFloat) (config : SimulatorConfig) (attempt : Nat)
    (draw : Rat) : Option (Except PyError PyFloat) :=
  match PyFloat.ofNat (2 ^ (attempt - 1)) with
  | .error e => some (.error e)
  | .ok factor =>
      let base := ((config.retryInitialSeconds.mul factor).rounded round).min
        config.retryMaxSeconds
      if base.pyEq .zero || config.retryJitterRatio.pyEq .zero then some (.ok base)
      else
        let jitter := (base.mul config.retryJitterRatio).rounded round
        let low := (base.sub jitter).rounded round
        let high := (base.add jitter).rounded round
        let span := (high.sub low).rounded round
        (rngRandom draw).map fun u =>
          .ok (PyFloat.zero.max ((low.add ((span.mul u).rounded round)).rounded round))

/-- `_retry_delay` in exact arithmetic. -/
def retryDelay : SimulatorConfig → Nat → Rat → Option (Except PyError PyFloat) :=
  retryDelayWith .finite

/-- What follows an attempt. -/
inductive AfterAttempt where
  | returned (receipt : DeliveryReceipt)
  | raised (error : DeliveryError)
  | escaped (error : PyError)
  /-- `asyncio.sleep`, and then the next attempt. -/
  | sleeping (delay : PyFloat)

/-- The rest of the loop's body after attempt number `attempt`. -/
def afterAttempt (config : SimulatorConfig) (attempt : Nat) (result : PostResult) (draw : Rat) :
    Option AfterAttempt :=
  match result.attempt with
  | .succeeded status httpStatus => some (.returned ⟨status, httpStatus, attempt⟩)
  | .permanent statusCode detail => some (.raised (.permanent statusCode detail))
  | .escaped e => some (.escaped e)
  | .retryable reason =>
      if config.maxRetryAttempts ≠ 0 ∧ (attempt : Int) ≥ config.maxRetryAttempts then
        some (.raised (.retryExhausted attempt reason))
      else (retryDelay config attempt draw).map fun
        | .error e => .escaped e
        | .ok delay => .sleeping delay

/-! ## What an attempt means -/

/-- The ways to go on after an attempt. -/
inductive AfterAttempt.Follows (config : SimulatorConfig) (attempt : Nat) (result : PostResult)
    (draw : Rat) : AfterAttempt → Prop where
  | returned {status : ReceiptStatus} {httpStatus : Nat} :
      result.attempt = .succeeded status httpStatus →
      Follows config attempt result draw (.returned ⟨status, httpStatus, attempt⟩)
  | permanent {statusCode : Nat} {detail : String} :
      result.attempt = .permanent statusCode detail →
      Follows config attempt result draw (.raised (.permanent statusCode detail))
  | escaped {error : PyError} : result.attempt = .escaped error →
      Follows config attempt result draw (.escaped error)
  | exhausted {reason : RetryReason} : result.attempt = .retryable reason →
      config.maxRetryAttempts ≠ 0 → config.maxRetryAttempts ≤ attempt →
      Follows config attempt result draw (.raised (.retryExhausted attempt reason))
  | noDelay {error : PyError} : retryDelay config attempt draw = some (.error error) →
      Follows config attempt result draw (.escaped error)
  | sleeping {delay : PyFloat} : retryDelay config attempt draw = some (.ok delay) →
      Follows config attempt result draw (.sleeping delay)

section

variable {config : SimulatorConfig} {attempt : Nat} {result : PostResult} {draw : Rat}

theorem afterAttempt_follows {a : AfterAttempt}
    (h : afterAttempt config attempt result draw = some a) :
    a.Follows config attempt result draw := by
  rw [afterAttempt] at h
  split at h
  · next hr =>
    cases h
    exact .returned hr
  · next hr =>
    cases h
    exact .permanent hr
  · next hr =>
    cases h
    exact .escaped hr
  · next hr =>
    split at h
    · next hmax =>
      cases h
      exact .exhausted hr hmax.1 hmax.2
    · obtain ⟨delay, hd, rfl⟩ := Option.map_eq_some_iff.1 h
      cases delay with
      | error e => exact .noDelay hd
      | ok delay => exact .sleeping hd

/-- A receipt carries the status of the response the attempt met. -/
theorem afterAttempt_returned {receipt : DeliveryReceipt}
    (h : afterAttempt config attempt result draw = some (.returned receipt)) :
    result.attempt = .succeeded receipt.status receipt.httpStatus ∧
      receipt.attempts = attempt := by
  cases afterAttempt_follows h with
  | returned hr => exact ⟨hr, rfl⟩

/-- A delivery is given up after a refusal, or after the last attempt allowed. -/
theorem afterAttempt_raised {error : DeliveryError}
    (h : afterAttempt config attempt result draw = some (.raised error)) :
    (∃ statusCode detail, result.attempt = .permanent statusCode detail ∧
      error = .permanent statusCode detail) ∨
    ∃ reason, result.attempt = .retryable reason ∧ error = .retryExhausted attempt reason ∧
      config.maxRetryAttempts ≠ 0 ∧ config.maxRetryAttempts ≤ attempt := by
  cases afterAttempt_follows h with
  | permanent hr => exact Or.inl ⟨_, _, hr, rfl⟩
  | exhausted hr hne hle => exact Or.inr ⟨_, hr, rfl, hne, hle⟩

/-- The loop sleeps for as long as `_retry_delay` says. -/
theorem afterAttempt_sleeping {delay : PyFloat}
    (h : afterAttempt config attempt result draw = some (.sleeping delay)) :
    retryDelay config attempt draw = some (.ok delay) := by
  cases afterAttempt_follows h with
  | sleeping hd => exact hd

end

/-- What a permanent error means: neither success nor a retryable status. -/
theorem PostResult.attempt_permanent {result : PostResult} {statusCode : Nat} {detail : String}
    (h : result.attempt = .permanent statusCode detail) :
    ∃ r, result = .response r ∧ r.statusCode = statusCode ∧
      statusCode ∉ successStatusCodes ∧ statusCode ∉ retryableStatusCodes := by
  cases result with
  | transportError => cases h
  | response r =>
      rw [PostResult.attempt] at h
      split at h
      · split at h
        · cases h
        · unfold successStatus at h
          split at h <;> cases h
      · next hsuccess =>
        split at h
        · cases h
        · next hretry =>
          cases h
          exact ⟨r, rfl, rfl, hsuccess, hretry⟩

end StorePulse
