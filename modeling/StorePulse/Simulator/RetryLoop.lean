import StorePulse.Foundation.AttemptLoop
import StorePulse.Simulator.Backoff

/-!
# The whole call of `post_event_with_retry`

The loop takes turns: it posts the payload, looks at what came back, and then
ends the call or sleeps.  What `client.post` gives and what `_retry_delay`
returns come from outside, one of each for every attempt.

`PostResult.outcome` says what an attempt means by its response alone, and
`RetryLaw` what the call owes for a sequence of outcomes.  The call breaks the
law in two ways only: a success whose `status` is a JSON array or object has no
hash, so the test for a known status raises `TypeError`; and a negative limit,
which `validate` refuses, ends the call after the first attempt.
-/

namespace StorePulse

/-! ## The loop -/

/-- What the call does that can be observed. -/
inductive RetryEvent (Payload : Type) where
  /-- `client.post(endpoint, json=payload)`. -/
  | posted (payload : Payload)
  /-- `asyncio.sleep(delay)`. -/
  | slept (delay : PyFloat)

/-- What follows an attempt when `_retry_delay` returns. -/
def afterAttemptWith (config : SimulatorConfig) (attempt : Nat) (result : PostResult)
    (delay : PyFloat) : AfterAttempt :=
  match result.attempt with
  | .succeeded status httpStatus => .returned ⟨status, httpStatus, attempt⟩
  | .permanent statusCode detail => .raised (.permanent statusCode detail)
  | .escaped e => .escaped e
  | .retryable reason =>
      if config.maxRetryAttempts ≠ 0 ∧ (attempt : Int) ≥ config.maxRetryAttempts then
        .raised (.retryExhausted attempt reason)
      else .sleeping delay

variable {Payload : Type}

/-- One turn of `while True`: the events of it, and how the call ends when it does. -/
def retryTurn (config : SimulatorConfig) (payload : Payload) (results : Nat → PostResult)
    (delays : Nat → PyFloat) (attempt : Nat) : List (RetryEvent Payload) × Option AfterAttempt :=
  match afterAttemptWith config attempt (results attempt) (delays attempt) with
  | .sleeping delay => ([.posted payload, .slept delay], none)
  | ending => ([.posted payload], some ending)

/-- `post_event_with_retry`, through at most `turns` turns of its loop. -/
def postEventWithRetry (config : SimulatorConfig) (payload : Payload) (results : Nat → PostResult)
    (delays : Nat → PyFloat) (turns : Nat) : List (RetryEvent Payload) × Option AfterAttempt :=
  attemptLoop (retryTurn config payload results delays) turns 1

/-- A worker's step is the turn, where `_retry_delay` returns. -/
theorem afterAttempt_eq {config : SimulatorConfig} {attempt : Nat} {draw : Rat} {delay : PyFloat}
    (h : retryDelay config attempt draw = some (.ok delay)) (result : PostResult) :
    afterAttempt config attempt result draw =
      some (afterAttemptWith config attempt result delay) := by
  rw [afterAttempt, afterAttemptWith]
  cases result.attempt with
  | succeeded status httpStatus => rfl
  | permanent statusCode detail => rfl
  | escaped e => rfl
  | retryable reason =>
      simp only [h, Option.map_some]
      split <;> rfl

/-! ## What an attempt means -/

/-- An attempt's outcome. -/
inductive AttemptOutcome where
  | finalOk (status : ReceiptStatus) (httpStatus : Nat)
  | retryable
  | permanent (statusCode : Nat)
deriving DecidableEq

/-- The receipt status a JSON value names. -/
def knownStatus : Json → Option ReceiptStatus
  | .str "accepted" => some .accepted
  | .str "duplicate" => some .duplicate
  | _ => none

/-- The outcome of an attempt, by its response alone. -/
def PostResult.outcome : PostResult → AttemptOutcome
  | .transportError => .retryable
  | .response r =>
      if r.statusCode ∈ successStatusCodes then
        match (r.json.bind bodyStatus).bind knownStatus with
        | some status => .finalOk status r.statusCode
        | none => .retryable
      else if r.statusCode ∈ retryableStatusCodes then .retryable
      else .permanent r.statusCode

/-- A list or a dict has no hash. -/
def Json.unhashable : Json → Bool
  | .arr _ => true
  | .obj _ => true
  | _ => false

/-- A success whose body is an object with a `status` that is an array or an object. -/
def PostResult.unhashableStatus : PostResult → Bool
  | .transportError => false
  | .response r =>
      r.statusCode ∈ successStatusCodes && (r.json.bind bodyStatus).any Json.unhashable

/-- What an outcome makes of an attempt. -/
inductive AttemptOutcome.Gives : AttemptOutcome → Attempt → Prop where
  | finalOk {status : ReceiptStatus} {httpStatus : Nat} :
      Gives (.finalOk status httpStatus) (.succeeded status httpStatus)
  | retryable {reason : RetryReason} : Gives .retryable (.retryable reason)
  | permanent {statusCode : Nat} {detail : String} :
      Gives (.permanent statusCode) (.permanent statusCode detail)

namespace AttemptOutcome.Gives

variable {a : Attempt}

theorem finalOk_eq {status : ReceiptStatus} {httpStatus : Nat}
    (h : (AttemptOutcome.finalOk status httpStatus).Gives a) :
    a = .succeeded status httpStatus := by
  cases h
  rfl

theorem permanent_eq {statusCode : Nat} (h : (AttemptOutcome.permanent statusCode).Gives a) :
    ∃ detail, a = .permanent statusCode detail := by
  cases h
  exact ⟨_, rfl⟩

theorem retryable_eq (h : AttemptOutcome.retryable.Gives a) : ∃ reason, a = .retryable reason := by
  cases h
  exact ⟨_, rfl⟩

end AttemptOutcome.Gives

theorem successStatus_of_unhashable {status : Json} (h : status.unhashable = true)
    (httpStatus : Nat) : successStatus status httpStatus = .escaped .typeError := by
  cases status with
  | arr items => rfl
  | obj fields => rfl
  | _ => cases h

/-- The test for a known status, where the status has a hash. -/
theorem successStatus_of_hashable {status : Json} (h : status.unhashable = false)
    (httpStatus : Nat) :
    successStatus status httpStatus =
      match knownStatus status with
      | some known => .succeeded known httpStatus
      | none => .retryable (.invalidSuccessStatus status) := by
  unfold successStatus
  split
  · cases h
  · cases h
  · rfl
  · rfl
  · next hne₁ hne₂ =>
    rw [knownStatus]
    · exact hne₁
    · exact hne₂

theorem PostResult.attempt_of_unhashable {result : PostResult}
    (h : result.unhashableStatus = true) : result.attempt = .escaped .typeError := by
  cases result with
  | transportError => cases h
  | response r =>
      simp only [unhashableStatus, Bool.and_eq_true, decide_eq_true_eq, Option.any_eq_true] at h
      obtain ⟨hcode, status, hstatus, hun⟩ := h
      rw [attempt, if_pos hcode, hstatus]
      exact successStatus_of_unhashable hun _

/-- Where the status has a hash, the code makes of an attempt what its outcome says. -/
theorem PostResult.outcome_gives {result : PostResult} (h : result.unhashableStatus = false) :
    result.outcome.Gives result.attempt := by
  cases result with
  | transportError => exact .retryable
  | response r =>
      rw [outcome, attempt]
      by_cases hcode : r.statusCode ∈ successStatusCodes
      · rw [if_pos hcode, if_pos hcode]
        cases hstatus : r.json.bind bodyStatus with
        | none => exact .retryable
        | some status =>
            have hhash : status.unhashable = false := by
              simpa [unhashableStatus, hcode, hstatus] using h
            simp only [successStatus_of_hashable hhash, Option.bind_some]
            cases knownStatus status with
            | none => exact .retryable
            | some known => exact .finalOk
      · rw [if_neg hcode, if_neg hcode]
        split
        · exact .retryable
        · exact .permanent

/-! ## What the call owes -/

/-- The call has to end after this attempt, by its outcome and by the limit. -/
def Stops (config : SimulatorConfig) (results : Nat → PostResult) (attempt : Nat) : Prop :=
  (results attempt).outcome ≠ .retryable ∨
    (0 < config.maxRetryAttempts ∧ (attempt : Int) = config.maxRetryAttempts)

/-- No attempt before this one has to be the last. -/
def Reached (config : SimulatorConfig) (results : Nat → PostResult) (attempt : Nat) : Prop :=
  1 ≤ attempt ∧ ∀ earlier, 1 ≤ earlier → earlier < attempt → ¬ Stops config results earlier

/-- How the call has to end after an attempt with an outcome. -/
inductive AttemptOutcome.Ends (attempt : Nat) : AttemptOutcome → AfterAttempt → Prop where
  | finalOk {status : ReceiptStatus} {httpStatus : Nat} :
      Ends attempt (.finalOk status httpStatus) (.returned ⟨status, httpStatus, attempt⟩)
  | permanent {statusCode : Nat} {detail : String} :
      Ends attempt (.permanent statusCode) (.raised (.permanent statusCode detail))
  | retryable {reason : RetryReason} :
      Ends attempt .retryable (.raised (.retryExhausted attempt reason))

theorem AttemptOutcome.not_ends_escaped {attempt : Nat} {o : AttemptOutcome} {error : PyError} :
    ¬ o.Ends attempt (.escaped error) := nofun

theorem AttemptOutcome.Ends.of_exhausted {attempt n : Nat} {o : AttemptOutcome}
    {reason : RetryReason} (h : o.Ends attempt (.raised (.retryExhausted n reason))) :
    o = .retryable ∧ n = attempt := by
  cases h
  exact ⟨rfl, rfl⟩

/-- The turns of a call that only retries, from the first attempt on. -/
def retries (payload : Payload) (delays : Nat → PyFloat) (attempts : Nat) :
    List (RetryEvent Payload) :=
  (List.range' 1 attempts).flatMap fun m => [.posted payload, .slept (delays m)]

/-- The trace law: the call ends after the first attempt that has to be the last, as its outcome
says, and it goes on retrying when there is no such attempt.  Every post has the payload. -/
structure RetryLaw (config : SimulatorConfig) (payload : Payload) (results : Nat → PostResult)
    (delays : Nat → PyFloat) : Prop where
  ends : ∀ k, Reached config results k → Stops config results k →
    ∃ ending, (results k).outcome.Ends k ending ∧ ∀ turns, k ≤ turns →
      postEventWithRetry config payload results delays turns =
        (retries payload delays (k - 1) ++ [.posted payload], some ending)
  goesOn : (∀ k, 1 ≤ k → ¬ Stops config results k) → ∀ turns,
    postEventWithRetry config payload results delays turns = (retries payload delays turns, none)

/-- What the law needs: no attempt the call reaches is a success whose status has no hash, and
the limit is not negative or plays no part. -/
structure Retriable (config : SimulatorConfig) (results : Nat → PostResult) : Prop where
  limit : 0 ≤ config.maxRetryAttempts ∨ (results 1).outcome ≠ .retryable
  hashable : ∀ m, Reached config results m → (results m).unhashableStatus = false

/-! ## One turn -/

variable {config : SimulatorConfig} {payload : Payload} {results : Nat → PostResult}
  {delays : Nat → PyFloat}

theorem Reached.one : Reached config results 1 :=
  ⟨le_rfl, fun earlier h₁ h₂ => by omega⟩

theorem Reached.earlier {m k : Nat} (h : Reached config results k) (hm : 1 ≤ m) (hmk : m ≤ k) :
    Reached config results m :=
  ⟨hm, fun earlier h₁ h₂ => h.2 earlier h₁ (by omega)⟩

/-- At an attempt that is reached and retryable, the test of the code is the claim's limit. -/
theorem Reached.limit_iff {m : Nat} (h : Reached config results m)
    (hlimit : 0 ≤ config.maxRetryAttempts ∨ (results 1).outcome ≠ .retryable)
    (hretry : (results m).outcome = .retryable) :
    (config.maxRetryAttempts ≠ 0 ∧ (m : Int) ≥ config.maxRetryAttempts) ↔
      Stops config results m := by
  have hbound : config.maxRetryAttempts ≤ 0 ∨ (m : Int) ≤ config.maxRetryAttempts := by
    by_contra hgt
    have hat := h.2 config.maxRetryAttempts.toNat (by omega) (by omega)
    exact hat (.inr ⟨by omega, by omega⟩)
  have hnonneg : 0 ≤ config.maxRetryAttempts := by
    rcases hlimit with hlimit | hlimit
    · exact hlimit
    · -- the first attempt is the last, so it is this one, which is retryable
      have hone : m = 1 := by
        by_contra hne
        exact h.2 1 le_rfl (by have := h.1; omega) (.inl hlimit)
      exact absurd (hone ▸ hretry) hlimit
  simp only [Stops, hretry, ne_eq, not_true_eq_false, false_or]
  omega

theorem retryTurn_of_escaped {m : Nat} (h : (results m).unhashableStatus = true) :
    (retryTurn config payload results delays m).2 = some (.escaped .typeError) := by
  rw [retryTurn, afterAttemptWith, PostResult.attempt_of_unhashable h]

/-- A turn that has to be the last ends the call as its outcome says. -/
theorem Reached.turn_of_stops {m : Nat} (h : Reached config results m) (payload : Payload)
    (delays : Nat → PyFloat)
    (hlimit : 0 ≤ config.maxRetryAttempts ∨ (results 1).outcome ≠ .retryable)
    (hhash : (results m).unhashableStatus = false) (hs : Stops config results m) :
    ∃ ending, (results m).outcome.Ends m ending ∧
      retryTurn config payload results delays m = ([.posted payload], some ending) := by
  have hgives := PostResult.outcome_gives hhash
  rw [retryTurn, afterAttemptWith]
  cases hout : (results m).outcome with
  | finalOk status httpStatus =>
      rw [hout] at hgives
      rw [hgives.finalOk_eq]
      exact ⟨_, .finalOk, rfl⟩
  | permanent statusCode =>
      rw [hout] at hgives
      obtain ⟨detail, ha⟩ := hgives.permanent_eq
      rw [ha]
      exact ⟨_, .permanent, rfl⟩
  | retryable =>
      rw [hout] at hgives
      obtain ⟨reason, ha⟩ := hgives.retryable_eq
      simp only [ha, if_pos ((h.limit_iff hlimit hout).2 hs)]
      exact ⟨_, .retryable, rfl⟩

/-- Every other turn that is reached sleeps. -/
theorem Reached.turn_of_not_stops {m : Nat} (h : Reached config results m)
    (hlimit : 0 ≤ config.maxRetryAttempts ∨ (results 1).outcome ≠ .retryable)
    (hhash : (results m).unhashableStatus = false) (hs : ¬ Stops config results m) :
    retryTurn config payload results delays m =
      ([.posted payload, .slept (delays m)], none) := by
  have hout : (results m).outcome = .retryable := by
    by_contra hne
    exact hs (.inl hne)
  have hgives := PostResult.outcome_gives hhash
  rw [hout] at hgives
  obtain ⟨reason, ha⟩ := hgives.retryable_eq
  rw [retryTurn, afterAttemptWith]
  simp only [ha, if_neg (mt (h.limit_iff hlimit hout).1 hs)]

/-- Below zero the limit ends the call at its first attempt, if nothing else does. -/
theorem first_turn_of_negative (hneg : config.maxRetryAttempts < 0)
    (hretry : (results 1).outcome = .retryable) :
    (retryTurn config payload results delays 1).2 = some (.escaped .typeError) ∨
      ∃ reason, (retryTurn config payload results delays 1).2 =
        some (.raised (.retryExhausted 1 reason)) := by
  cases hhash : (results 1).unhashableStatus with
  | true => exact .inl (retryTurn_of_escaped hhash)
  | false =>
      have hgives := PostResult.outcome_gives hhash
      rw [hretry] at hgives
      obtain ⟨reason, ha⟩ := hgives.retryable_eq
      have hlimit : config.maxRetryAttempts ≠ 0 ∧ ((1 : Nat) : Int) ≥ config.maxRetryAttempts := by
        omega
      refine .inr ⟨reason, ?_⟩
      rw [retryTurn, afterAttemptWith]
      simp only [ha, if_pos hlimit]

/-! ## The law -/

/-- The turns before an attempt, when each of them sleeps. -/
theorem turns_eq_retries {attempts : Nat}
    (h : ∀ m, 1 ≤ m → m ≤ attempts → retryTurn config payload results delays m =
      ([.posted payload, .slept (delays m)], none)) :
    ((List.range' 1 attempts).flatMap fun m => (retryTurn config payload results delays m).1) =
      retries payload delays attempts := by
  refine List.flatMap_congr fun m hm => ?_
  rw [List.mem_range'_1] at hm
  rw [h m hm.1 (by omega)]

/-- Among the attempts that have to be the last there is a first. -/
theorem exists_reached (h : ∃ k, 1 ≤ k ∧ Stops config results k) :
    ∃ k, Reached config results k ∧ Stops config results k := by
  classical
  refine ⟨Nat.find h, ⟨(Nat.find_spec h).1, fun earlier h₁ h₂ hs => ?_⟩, (Nat.find_spec h).2⟩
  exact Nat.find_min h h₂ ⟨h₁, hs⟩

/-- Under the law a call that has ended has ended at its last attempt. -/
theorem RetryLaw.of_ended (hlaw : RetryLaw config payload results delays) {n : Nat}
    {ending : AfterAttempt} (h : ∀ turns, n ≤ turns →
      (postEventWithRetry config payload results delays turns).2 = some ending) :
    ∃ k, Stops config results k ∧ (results k).outcome.Ends k ending := by
  by_cases hk : ∃ k, 1 ≤ k ∧ Stops config results k
  · obtain ⟨k, hreached, hs⟩ := exists_reached hk
    obtain ⟨ending', hends, heq⟩ := hlaw.ends k hreached hs
    have hlast := h (max n k) (le_max_left _ _)
    rw [heq _ (le_max_right _ _)] at hlast
    cases hlast
    exact ⟨k, hs, hends⟩
  · have hnone := hlaw.goesOn (fun k hk₁ hs => hk ⟨k, hk₁, hs⟩) n
    have hsome := h n le_rfl
    rw [hnone] at hsome
    cases hsome

/-- The law holds where its conditions do. -/
theorem Retriable.retryLaw (hr : Retriable config results) :
    RetryLaw config payload results delays := by
  have hturn : ∀ m, Reached config results m → ¬ Stops config results m →
      retryTurn config payload results delays m = ([.posted payload, .slept (delays m)], none) :=
    fun m hm hs => hm.turn_of_not_stops hr.limit (hr.hashable m hm) hs
  constructor
  · intro k hk hs
    obtain ⟨ending, hends, hlast⟩ :=
      hk.turn_of_stops payload delays hr.limit (hr.hashable k hk) hs
    have hbefore : ∀ m, 1 ≤ m → m < k →
        retryTurn config payload results delays m = ([.posted payload, .slept (delays m)], none) :=
      fun m hm hmk => hturn m (hk.earlier hm hmk.le) (hk.2 m hm hmk)
    refine ⟨ending, hends, fun turns hturns => ?_⟩
    rw [postEventWithRetry, attemptLoop_of_end (by rw [hlast]) hk.1
      (fun m hm hmk => by rw [hbefore m hm hmk]) (by omega), hlast,
      turns_eq_retries fun m hm hmk => hbefore m hm (by have := hk.1; omega)]
  · intro hnever turns
    have hall : ∀ m, 1 ≤ m →
        retryTurn config payload results delays m = ([.posted payload, .slept (delays m)], none) :=
      fun m hm => hturn m ⟨hm, fun earlier h₁ _ => hnever earlier h₁⟩ (hnever m hm)
    rw [postEventWithRetry, attemptLoop_of_no_end fun m hm => by rw [hall m hm],
      turns_eq_retries fun m hm _ => hall m hm]

theorem RetryLaw.limit (hlaw : RetryLaw config payload results delays) :
    0 ≤ config.maxRetryAttempts ∨ (results 1).outcome ≠ .retryable := by
  by_contra hnot
  rw [not_or, not_le, not_not] at hnot
  have hended : ∀ ending, (retryTurn config payload results delays 1).2 = some ending →
      ∃ k, Stops config results k ∧ (results k).outcome.Ends k ending := by
    intro ending hone
    refine hlaw.of_ended (n := 1) fun turns hturns => ?_
    rw [postEventWithRetry, attemptLoop_of_end hone le_rfl (by omega) (by omega)]
  rcases first_turn_of_negative hnot.1 hnot.2 with hone | ⟨reason, hone⟩
  · obtain ⟨k, -, hends⟩ := hended _ hone
    exact AttemptOutcome.not_ends_escaped hends
  · obtain ⟨k, hs, hends⟩ := hended _ hone
    obtain ⟨hout, rfl⟩ := hends.of_exhausted
    rcases hs with hs | hs
    · exact hs hout
    · omega

/-- Under the law no attempt that is reached meets a status without a hash. -/
theorem RetryLaw.hashable (hlaw : RetryLaw config payload results delays) {m : Nat}
    (hm : Reached config results m) : (results m).unhashableStatus = false := by
  induction m using Nat.strong_induction_on with
  | _ m ih =>
      by_contra hun
      rw [Bool.not_eq_false] at hun
      have hbefore : ∀ i, 1 ≤ i → i < m →
          (retryTurn config payload results delays i).2 = none := by
        intro i hi him
        have hreached := hm.earlier hi him.le
        rw [hreached.turn_of_not_stops hlaw.limit (ih i him hreached) (hm.2 i hi him)]
      have hended : ∀ turns, m ≤ turns →
          (postEventWithRetry config payload results delays turns).2 =
            some (.escaped .typeError) := by
        intro turns hturns
        rw [postEventWithRetry,
          attemptLoop_of_end (retryTurn_of_escaped hun) hm.1 hbefore (by omega)]
      obtain ⟨k, -, hends⟩ := hlaw.of_ended hended
      exact AttemptOutcome.not_ends_escaped hends

/-- **Trace law of the retry loop.**  For every configuration, payload, sequence of results and
sequence of delays, the call keeps the law exactly when no attempt it reaches is a success whose
`status` is an array or an object, and the limit is not negative or plays no part. -/
theorem retry_law_iff (config : SimulatorConfig) (payload : Payload) (results : Nat → PostResult)
    (delays : Nat → PyFloat) :
    RetryLaw config payload results delays ↔ Retriable config results :=
  ⟨fun hlaw => ⟨hlaw.limit, fun _ hm => hlaw.hashable hm⟩, Retriable.retryLaw⟩

namespace Sample

def retryPayload : Json := .obj [("event_type", .str "SALE")]

/-- A success whose `status` is an empty list. -/
def listStatus : PostResult := .response ⟨200, "", some (.obj [("status", .arr [])])⟩

/-- An attempt limit of one. -/
def singleAttempt : SimulatorConfig := { patientConfig with maxRetryAttempts := 1 }

end Sample

/-- A success with a list for its `status` is no success, so the call should give up with
`RetryExhaustedError` after its one attempt; it ends with `TypeError`. -/
theorem retry_law_broken_by_list_status :
    ¬ ∀ (config : SimulatorConfig) (payload : Json) (results : Nat → PostResult)
      (delays : Nat → PyFloat), config.validate = .ok () →
      RetryLaw config payload results delays := by
  intro h
  have hlaw := h Sample.singleAttempt Sample.retryPayload (fun _ => Sample.listStatus)
    (fun _ => .zero) (by decide +kernel)
  have hs : Stops Sample.singleAttempt (fun _ => Sample.listStatus) 1 := .inr (by decide)
  obtain ⟨ending, hends, hlast⟩ := hlaw.ends 1 .one hs
  have hescaped : (postEventWithRetry Sample.singleAttempt Sample.retryPayload
      (fun _ => Sample.listStatus) (fun _ => .zero) 1).2 = some (.escaped .typeError) := rfl
  rw [hlast 1 le_rfl] at hescaped
  cases hescaped
  exact AttemptOutcome.not_ends_escaped hends

end StorePulse
