import StorePulse.Backend.EventIngestion

/-!
# The write endpoints

`create_event` and `heartbeat` of `app/main.py`.  `create_event` turns each
ingestion error into an `HTTPException` raised from it, so an answer keeps its
cause.  An exception that no `except` clause names escapes, and the framework
answers 500.
-/

namespace StorePulse

/-- The answer to a request. -/
inductive Answer where
  /-- `EventIngestResponse` with the status code of the response. -/
  | event (statusCode : Nat) (body : EventIngestionResult)
  /-- `HeartbeatResponse` with status `accepted`. -/
  | heartbeat (storeCode : String) (lastSeenAt : Instant)
  /-- An `HTTPException` and the exception it was raised from. -/
  | httpException (statusCode : Nat) (detail : String) (cause : Option Exception)
  /-- An exception escaped. -/
  | serverError (cause : Exception)
deriving DecidableEq

/-- The status code of an answer. -/
def Answer.statusCode : Answer → Nat
  | .event statusCode _ => statusCode
  | .heartbeat _ _ => 200
  | .httpException statusCode _ _ => statusCode
  | .serverError _ => 500

/-- The `except` clauses of `create_event`. -/
def raiseHttp : Exception → Answer
  | .unknownStore c => .httpException 404 "unknown store" (some (.unknownStore c))
  | .unknownProduct s => .httpException 404 "unknown product" (some (.unknownProduct s))
  | .originalSaleNotFound e =>
      .httpException 404 "original sale not found" (some (.originalSaleNotFound e))
  | .invalidOriginalSale e =>
      .httpException 422 "original_event_id must reference a SALE" (some (.invalidOriginalSale e))
  | .refundReferenceMismatch m => .httpException 422 m (some (.refundReferenceMismatch m))
  | .refundLimitExceeded m => .httpException 409 m (some (.refundLimitExceeded m))
  | .eventConflict e =>
      .httpException 409 "event_id already exists with different payload"
        (some (.eventConflict e))
  | .runtimeError m => .serverError (.runtimeError m)
  | .sqlError e => .serverError (.sqlError e)

/-- What became of an event. -/
inductive Outcome where
  | accepted
  | duplicate
  | rejected
deriving DecidableEq

/-- The class of an answer. -/
def Answer.outcome : Answer → Outcome
  | .event _ result =>
      match result.status with
      | .accepted => .accepted
      | .duplicate => .duplicate
  | _ => .rejected

/-- An exception is a rejection. -/
theorem raiseHttp_outcome (x : Exception) : (raiseHttp x).outcome = .rejected := by
  cases x <;> rfl

/-- The status codes of the rejections. -/
theorem raiseHttp_statusCode (x : Exception) : (raiseHttp x).statusCode ∈ [404, 409, 422, 500] := by
  cases x <;> simp [raiseHttp, Answer.statusCode]

/-- An answer names the exception it was raised from. -/
theorem raiseHttp_injective : Function.Injective raiseHttp := by
  intro x y h
  cases x <;> cases y <;> simp_all [raiseHttp]

/-- The call of the ingestion service in `create_event`. -/
def ingestEvent : EventCreate → Ingest EventIngestionResult
  | .refund p => ingestRefundEvent p
  | .sale p => ingestSaleEvent p

/-- What `create_event` does with the outcome of ingestion. -/
def respond (payload : EventCreate) :
    Except Exception EventIngestionResult → Program Effects Answer
  | .error e => return raiseHttp e
  | .ok result =>
      if result.status = .duplicate then
        return .event 200 result
      else do
        let _ ← Program.perform (S := Effects) (.broadcast (.eventsChanged payload.storeCode))
        return .event 201 result

/-- `create_event`. -/
def createEvent (payload : EventCreate) : Program Effects Answer :=
  (ingestEvent payload).run.bind (respond payload)

/-- The body of `heartbeat` up to its commit: the store, and the time written to it. -/
def heartbeatStore (storeCode : String) : Ingest (Option (LoadedStore × Instant)) := do
  sql .begin
  match ← sql (.selectStore storeCode) with
  | none => return none
  | some store =>
      let now ← ExceptT.lift (Program.perform (S := Effects) .now)
      flushLastSeen store now
      sql .commit
      return some (store, now)

/-- What `heartbeat` does after its commit. -/
def respondHeartbeat : Except Exception (Option (LoadedStore × Instant)) → Program Effects Answer
  | .error e => return .serverError e
  | .ok none => return .httpException 404 "unknown store" none
  | .ok (some (store, now)) => do
      let _ ← Program.perform (S := Effects) (.broadcast (.storesChanged store.code))
      return .heartbeat store.code now

/-- `heartbeat`. -/
def heartbeat (storeCode : String) : Program Effects Answer :=
  (heartbeatStore storeCode).run.bind respondHeartbeat

end StorePulse
