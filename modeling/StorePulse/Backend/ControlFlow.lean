import StorePulse.Backend.Server

/-!
# Control points of a request

A request of `create_event` that is still running is at one of the points below:
it is about to perform the effect the point is named after.  `Point.resume` is
the rest of the program at a point, and the `resume_` equations say which effect
comes next and at which point each reply continues.  They are proved from the
source functions, so a request runs through these points and no others
(`createEvent_eq`).  `HeartbeatPoint` does the same for `heartbeat`.

The three points where a request can notice a stored row with its own key are
`precheck`, `recheck` and `classifyEvent`.
-/

namespace StorePulse

/-- Where a request of `create_event` is. -/
inductive Point where
  | begin
  /-- The first lookup by `event_id`. -/
  | precheck
  | classifyStore (existing : PosEvent)
  | classifyProduct (existing : PosEvent) (storeMatches : Bool) (storeId : UUID)
  | findStore
  | findProduct (store : LoadedStore)
  /-- `SELECT ... FOR UPDATE` of the original. -/
  | lockOriginal (original : UUID) (store : LoadedStore) (product : Product)
  /-- The second lookup by `event_id`, with the original locked. -/
  | recheck (store : LoadedStore) (product : Product) (original : PosEvent)
  | sumRefunds (store : LoadedStore) (product : Product) (original : PosEvent)
  | insert (store : LoadedStore) (product : Product) (original : Option PosEvent)
  /-- The lookup by `event_id` after an insert conflict. -/
  | classifyEvent (store : Store) (product : Product)
  /-- The flush, when `received_at` is not the loaded `last_seen_at`. -/
  | updateStore (store : LoadedStore) (receivedAt : Instant)
  | commit (store : LoadedStore) (receivedAt : Instant)
  | rollback (outcome : Except Exception EventIngestionResult)
  | broadcast (result : EventIngestionResult)
  | done (answer : Answer)

/-- How `_classify_existing_event` ends once it knows the store and the product. -/
def classification (existing : PosEvent) (payload : EventCreate) (storeMatches : Bool)
    (storeId : UUID) (productMatches : Bool) (productId : UUID) :
    Except Exception EventIngestionResult :=
  if !(storeMatches && productMatches &&
      matchesEventPayload existing storeId productId payload) then
    .error (.eventConflict payload.eventId)
  else
    .ok { eventId := existing.eventId, status := .duplicate, receivedAt := existing.receivedAt }

/-- `classification` with the store and the product of the request. -/
def classificationWith (existing : PosEvent) (payload : EventCreate) (store : Store)
    (product : Product) : Except Exception EventIngestionResult :=
  classification existing payload (existing.storeId == store.id) store.id
    (existing.productId == product.id) product.id

namespace Point

/-! ## The rest of ingestion at a point -/

section Tails

variable (p : EventCreate)

/-- From the `ROLLBACK` after a classification. -/
def fromRollback (outcome : Except Exception EventIngestionResult) :
    Ingest EventIngestionResult :=
  ExceptT.mk do
    match ← (sql .rollback).run with
    | .error e => return .error e
    | .ok () => return outcome

/-- From the read of the stored event's product. -/
def fromClassifyProduct (existing : PosEvent) (storeMatches : Bool) (storeId : UUID) :
    Ingest EventIngestionResult :=
  ExceptT.mk do
    match ← (sql (.getProduct existing.productId)).run with
    | .error e => (fromRollback (.error e)).run
    | .ok none =>
        (fromRollback (.error (.runtimeError "stored event references a missing product"))).run
    | .ok (some storedProduct) =>
        (fromRollback (classification existing p storeMatches storeId
          (storedProduct.sku == p.productSku) storedProduct.id)).run

/-- From the `COMMIT`. -/
def fromCommit (receivedAt : Instant) : Ingest EventIngestionResult := do
  sql .commit
  return { eventId := p.eventId, status := .accepted, receivedAt := receivedAt }

/-- From the `UPDATE` of the store. -/
def fromUpdateStore (store : LoadedStore) (receivedAt : Instant) :
    Ingest EventIngestionResult := do
  sql (.updateLastSeen store.id receivedAt)
  fromCommit p receivedAt

/-- From the `INSERT`. -/
def fromInsert (store : LoadedStore) (product : Product) (original : Option PosEvent) :
    Ingest EventIngestionResult := do
  match ← insertEvent p store product with
  | none => classifyExistingAndRollback original.toList p (some store) (some product)
  | some receivedAt => commitAcceptedEvent p store receivedAt

/-- From the `SUM` over the refunds of the original. -/
def fromSumRefunds (store : LoadedStore) (product : Product) (original : PosEvent) :
    Ingest EventIngestionResult := do
  (do
    let (refundedQuantity, refundedAmountCents) ← sql (.sumRefunds original.eventId)
    if refundedQuantity + p.base.quantity > original.quantity then
      throw (.refundLimitExceeded "refund exceeds remaining sale quantity")
    else if refundedAmountCents + p.base.amountCents > original.amountCents then
      throw (.refundLimitExceeded "refund exceeds remaining sale amount")
    else
      return () : Ingest Unit)
  fromInsert p store product (some original)

/-- From the second lookup. -/
def fromRecheck (store : LoadedStore) (product : Product) (original : PosEvent) :
    Ingest EventIngestionResult := do
  match ← sql (.selectEvent p.eventId) with
  | some existing =>
      classifyExistingAndRollback [existing, original] p (some store) (some product)
  | none =>
      validateRefundReference original store product p
      fromInsert p store product (some original)

/-- From the lock of the original. -/
def fromLockOriginal (original : UUID) (store : LoadedStore) (product : Product) :
    Ingest EventIngestionResult := do
  let original ← lockOriginalSale original
  fromRecheck p store product original

/-- What follows the lookup of the product. -/
def afterFindProduct (store : LoadedStore) (product : Product) : Ingest EventIngestionResult :=
  match payloadOriginalEventId p with
  | none => fromInsert p store product none
  | some original => fromLockOriginal p original store product

/-- From the lookup of the product. -/
def fromFindProduct (store : LoadedStore) : Ingest EventIngestionResult := do
  let product ← StorePulse.findProduct p.productSku
  afterFindProduct p store product

/-- From the lookup of the store. -/
def fromFindStore : Ingest EventIngestionResult := do
  let store ← StorePulse.findStore p.storeCode
  fromFindProduct p store

/-- From the first lookup. -/
def fromPrecheck : Ingest EventIngestionResult := do
  match ← sessionGetEvent [] p.eventId with
  | some existing => classifyExistingAndRollback [existing] p none none
  | none => fromFindStore p

end Tails

/-- The rest of the program at a point. -/
def resume (p : EventCreate) : Point → Program Effects Answer
  | .begin => createEvent p
  | .precheck => (fromPrecheck p).run.bind (respond p)
  | .classifyStore existing =>
      (classifyExistingAndRollback [existing] p none none).run.bind (respond p)
  | .classifyProduct existing storeMatches storeId =>
      (fromClassifyProduct p existing storeMatches storeId).run.bind (respond p)
  | .findStore => (fromFindStore p).run.bind (respond p)
  | .findProduct store => (fromFindProduct p store).run.bind (respond p)
  | .lockOriginal original store product =>
      (fromLockOriginal p original store product).run.bind (respond p)
  | .recheck store product original =>
      (fromRecheck p store product original).run.bind (respond p)
  | .sumRefunds store product original =>
      (fromSumRefunds p store product original).run.bind (respond p)
  | .insert store product original =>
      (fromInsert p store product original).run.bind (respond p)
  | .classifyEvent store product =>
      (classifyExistingAndRollback [] p (some store) (some product)).run.bind (respond p)
  | .updateStore store receivedAt => (fromUpdateStore p store receivedAt).run.bind (respond p)
  | .commit _ receivedAt => (fromCommit p receivedAt).run.bind (respond p)
  | .rollback outcome => (fromRollback outcome).run.bind (respond p)
  | .broadcast result => do
      let _ ← Program.perform (S := Effects) (.broadcast (.eventsChanged p.storeCode))
      return .event 201 result
  | .done answer => .ret answer

variable (p : EventCreate)

/-- A request starts at the first point. -/
theorem createEvent_eq : createEvent p = resume p .begin := rfl

/-! ## The effect at each point -/

theorem resume_begin : resume p .begin = .call (.sql .begin) fun
    | .error e => resume p (.done (raiseHttp (.sqlError e)))
    | .ok () => resume p .precheck := by
  cases p with
  | sale p =>
      show Program.call (S := Effects) _ _ = _
      congr 1
      funext r
      cases r <;> rfl
  | refund p =>
      show Program.call (S := Effects) _ _ = _
      congr 1
      funext r
      cases r <;> rfl

theorem resume_precheck : resume p .precheck = .call (.sql (.selectEvent p.eventId)) fun
    | .error e => resume p (.done (raiseHttp (.sqlError e)))
    | .ok none => resume p .findStore
    | .ok (some existing) => resume p (.classifyStore existing) := by
  show Program.call (S := Effects) _ _ = _
  congr 1
  funext r
  rcases r with e | _ | existing <;> rfl

theorem resume_findStore : resume p .findStore = .call (.sql (.selectStore p.storeCode)) fun
    | .error e => resume p (.done (raiseHttp (.sqlError e)))
    | .ok none => resume p (.done (raiseHttp (.unknownStore p.storeCode)))
    | .ok (some store) => resume p (.findProduct store) := by
  show Program.call (S := Effects) _ _ = _
  congr 1
  funext r
  rcases r with e | _ | store <;> rfl

theorem resume_findProduct (store : LoadedStore) :
    resume p (.findProduct store) = .call (.sql (.selectProduct p.productSku)) fun
    | .error e => resume p (.done (raiseHttp (.sqlError e)))
    | .ok none => resume p (.done (raiseHttp (.unknownProduct p.productSku)))
    | .ok (some product) =>
        match payloadOriginalEventId p with
        | none => resume p (.insert store product none)
        | some original => resume p (.lockOriginal original store product) := by
  show Program.call (S := Effects) _ _ = _
  congr 1
  funext r
  rcases r with e | _ | product
  · rfl
  · rfl
  · cases p <;> rfl

theorem resume_lockOriginal (original : UUID) (store : LoadedStore) (product : Product) :
    resume p (.lockOriginal original store product) = .call (.sql (.lockEvent original)) fun
    | .error e => resume p (.done (raiseHttp (.sqlError e)))
    | .ok none => resume p (.done (raiseHttp (.originalSaleNotFound original)))
    | .ok (some event) =>
        if event.eventType ≠ .sale ∨ event.originalEventId ≠ none then
          resume p (.done (raiseHttp (.invalidOriginalSale original)))
        else resume p (.recheck store product event) := by
  show Program.call (S := Effects) _ _ = _
  congr 1
  funext r
  rcases r with e | _ | event
  · rfl
  · rfl
  · simp only [Except.mapError, Program.bind, ExceptT.bindCont]
    split <;> rfl

theorem resume_recheck (store : LoadedStore) (product : Product) (original : PosEvent) :
    resume p (.recheck store product original) = .call (.sql (.selectEvent p.eventId)) fun
    | .error e => resume p (.done (raiseHttp (.sqlError e)))
    | .ok (some existing) =>
        (classifyExistingAndRollback [existing, original] p (some store) (some product)).run.bind
          (respond p)
    | .ok none =>
        if original.storeId ≠ store.id then
          resume p (.done (raiseHttp
            (.refundReferenceMismatch "refund store must match original sale")))
        else if original.productId ≠ product.id then
          resume p (.done (raiseHttp
            (.refundReferenceMismatch "refund product must match original sale")))
        else resume p (.sumRefunds store product original) := by
  show Program.call (S := Effects) _ _ = _
  congr 1
  funext r
  rcases r with e | _ | existing
  · rfl
  · simp only [Except.mapError, Program.bind, ExceptT.bindCont, validateRefundReference]
    split
    · rfl
    · split <;> rfl
  · rfl

theorem resume_sumRefunds (store : LoadedStore) (product : Product) (original : PosEvent) :
    resume p (.sumRefunds store product original) =
      .call (.sql (.sumRefunds original.eventId)) fun
    | .error e => resume p (.done (raiseHttp (.sqlError e)))
    | .ok sums =>
        if sums.1 + p.base.quantity > original.quantity then
          resume p (.done (raiseHttp
            (.refundLimitExceeded "refund exceeds remaining sale quantity")))
        else if sums.2 + p.base.amountCents > original.amountCents then
          resume p (.done (raiseHttp
            (.refundLimitExceeded "refund exceeds remaining sale amount")))
        else resume p (.insert store product (some original)) := by
  show Program.call (S := Effects) _ _ = _
  congr 1
  funext r
  rcases r with e | ⟨quantity, amount⟩
  · rfl
  · simp only [Except.mapError, Program.bind, ExceptT.bindCont]
    split
    · rfl
    · split <;> rfl

/-- The commit of an accepted event starts with the flush of the store. -/
theorem commitAcceptedEvent_eq (store : LoadedStore) (receivedAt : Instant) :
    commitAcceptedEvent p store receivedAt =
      if store.lastSeenAt = some receivedAt then fromCommit p receivedAt
      else fromUpdateStore p store receivedAt := by
  rw [commitAcceptedEvent, flushLastSeen]
  split <;> rfl

theorem resume_insert (store : LoadedStore) (product : Product) (original : Option PosEvent) :
    resume p (.insert store product original) =
      .call (.sql (.insertEvent (p.values store product))) fun
    | .error e => resume p (.done (raiseHttp (.sqlError e)))
    | .ok none =>
        (classifyExistingAndRollback original.toList p (some store) (some product)).run.bind
          (respond p)
    | .ok (some receivedAt) =>
        if store.lastSeenAt = some receivedAt then resume p (.commit store receivedAt)
        else resume p (.updateStore store receivedAt) := by
  show Program.call (S := Effects) _ _ = _
  congr 1
  funext r
  rcases r with e | _ | receivedAt
  · rfl
  · rfl
  · show (commitAcceptedEvent p store receivedAt).run.bind (respond p) = ite _ _ _
    rw [commitAcceptedEvent_eq]
    split <;> rfl

theorem resume_updateStore (store : LoadedStore) (receivedAt : Instant) :
    resume p (.updateStore store receivedAt) =
      .call (.sql (.updateLastSeen store.id receivedAt)) fun
    | .error e => resume p (.done (raiseHttp (.sqlError e)))
    | .ok () => resume p (.commit store receivedAt) := by
  show Program.call (S := Effects) _ _ = _
  congr 1
  funext r
  cases r <;> rfl

theorem resume_commit (store : LoadedStore) (receivedAt : Instant) :
    resume p (.commit store receivedAt) = .call (.sql .commit) fun
    | .error e => resume p (.done (raiseHttp (.sqlError e)))
    | .ok () => resume p (.broadcast
        { eventId := p.eventId, status := .accepted, receivedAt := receivedAt }) := by
  show Program.call (S := Effects) _ _ = _
  congr 1
  funext r
  cases r <;> rfl

theorem resume_broadcast (result : EventIngestionResult) :
    resume p (.broadcast result) =
      .call (.broadcast (.eventsChanged p.storeCode)) fun _ =>
        resume p (.done (.event 201 result)) := rfl

/-! ## The points of a classification -/

/-- The end of `_classify_existing_event`, as the source has it. -/
def conclude (existing : PosEvent) (payload : EventCreate) (storeMatches : Bool) (storeId : UUID)
    (productMatches : Bool) (productId : UUID) : Ingest EventIngestionResult :=
  if !(storeMatches && productMatches &&
      matchesEventPayload existing storeId productId payload) then
    throw (.eventConflict payload.eventId)
  else
    return {
      eventId := existing.eventId
      status := .duplicate
      receivedAt := existing.receivedAt }

theorem conclude_run (existing : PosEvent) (payload : EventCreate) (storeMatches : Bool)
    (storeId : UUID) (productMatches : Bool) (productId : UUID) :
    (conclude existing payload storeMatches storeId productMatches productId).run =
      .ret (classification existing payload storeMatches storeId productMatches productId) := by
  rw [conclude, classification]
  split <;> rfl

theorem resume_classifyStore {existing : PosEvent} (h : existing.eventId = p.eventId) :
    resume p (.classifyStore existing) = .call (.sql (.getStore existing.storeId)) fun
    | .error e => resume p (.rollback (.error (.sqlError e)))
    | .ok none => resume p (.rollback
        (.error (.runtimeError "stored event references a missing store")))
    | .ok (some store) =>
        resume p (.classifyProduct existing (store.code == p.storeCode) store.id) := by
  have hfind : findEvent [existing] p.eventId = some existing := by simp [findEvent, h]
  rw [resume, classifyExistingAndRollback, classifyExistingEvent, sessionGetEvent, hfind]
  show Program.call (S := Effects) _ _ = _
  congr 1
  funext r
  rcases r with e | _ | store
  · rfl
  · rfl
  · show Program.call (S := Effects) _ _ = Program.call _ _
    congr 1
    funext r
    rcases r with e | _ | product
    · rfl
    · rfl
    · show ((conclude existing p (store.code == p.storeCode) store.id
        (product.sku == p.productSku) product.id).run.bind _).bind _ = _
      rw [conclude_run]
      rfl

theorem resume_classifyProduct (existing : PosEvent) (storeMatches : Bool) (storeId : UUID) :
    resume p (.classifyProduct existing storeMatches storeId) =
      .call (.sql (.getProduct existing.productId)) fun
    | .error e => resume p (.rollback (.error (.sqlError e)))
    | .ok none => resume p (.rollback
        (.error (.runtimeError "stored event references a missing product")))
    | .ok (some product) => resume p (.rollback (classification existing p storeMatches storeId
        (product.sku == p.productSku) product.id)) := by
  show Program.call (S := Effects) _ _ = _
  congr 1
  funext r
  rcases r with e | _ | product <;> rfl

/-- With the stored row loaded and the store and the product at hand, the
classification sends no statement before the `ROLLBACK`. -/
theorem resume_loaded {existing : PosEvent} (h : existing.eventId = p.eventId)
    (loaded : List PosEvent) (store : Store) (product : Product) :
    (classifyExistingAndRollback (existing :: loaded) p (some store) (some product)).run.bind
      (respond p) = resume p (.rollback (classificationWith existing p store product)) := by
  have hfind : findEvent (existing :: loaded) p.eventId = some existing := by
    simp [findEvent, h]
  rw [classifyExistingAndRollback, classifyExistingEvent, sessionGetEvent, hfind]
  show ((conclude existing p (existing.storeId == store.id) store.id
    (existing.productId == product.id) product.id).run.bind _).bind _ = _
  rw [conclude_run]
  rfl

/-- With the stored row not loaded, the classification first reads it. -/
theorem resume_unloaded {loaded : List PosEvent} (h : ∀ e ∈ loaded, e.eventId ≠ p.eventId)
    (store : Store) (product : Product) :
    (classifyExistingAndRollback loaded p (some store) (some product)).run.bind (respond p) =
      resume p (.classifyEvent store product) := by
  have hfind : findEvent loaded p.eventId = none := by
    simpa [findEvent] using h
  rw [resume, classifyExistingAndRollback, classifyExistingAndRollback, classifyExistingEvent,
    classifyExistingEvent, sessionGetEvent, sessionGetEvent, hfind]
  rfl

theorem resume_classifyEvent (store : Store) (product : Product) :
    resume p (.classifyEvent store product) = .call (.sql (.selectEvent p.eventId)) fun
    | .error e => resume p (.rollback (.error (.sqlError e)))
    | .ok none => resume p (.rollback (.error (.runtimeError
        "event conflict was reported but the existing row is not visible")))
    | .ok (some existing) =>
        resume p (.rollback (classificationWith existing p store product)) := by
  show Program.call (S := Effects) _ _ = _
  congr 1
  funext r
  rcases r with e | _ | existing
  · rfl
  · rfl
  · show ((conclude existing p (existing.storeId == store.id) store.id
      (existing.productId == product.id) product.id).run.bind _).bind _ = _
    rw [conclude_run]
    rfl

/-- Where a request goes when its transaction has ended with an outcome. -/
def afterRollback : Except Exception EventIngestionResult → Point
  | .error e => .done (raiseHttp e)
  | .ok result =>
      if result.status = .duplicate then .done (.event 200 result) else .broadcast result

theorem respond_eq (outcome : Except Exception EventIngestionResult) :
    respond p outcome = resume p (afterRollback outcome) := by
  cases outcome with
  | error e => rfl
  | ok result =>
      simp only [respond, afterRollback]
      split <;> rfl

theorem resume_rollback (outcome : Except Exception EventIngestionResult) :
    resume p (.rollback outcome) = .call (.sql .rollback) fun
    | .error e => resume p (.done (raiseHttp (.sqlError e)))
    | .ok () => resume p (afterRollback outcome) := by
  rw [← respond_eq]
  show Program.call (S := Effects) _ _ = _
  congr 1
  funext r
  cases r <;> rfl

end Point

/-! ## The points of a heartbeat -/

/-- Where a request of `heartbeat` is. -/
inductive HeartbeatPoint where
  | begin
  | selectStore
  /-- `datetime.now(UTC)`. -/
  | now (store : LoadedStore)
  /-- The flush, when the time is not the loaded `last_seen_at`. -/
  | updateStore (store : LoadedStore) (now : Instant)
  | commit (store : LoadedStore) (now : Instant)
  | broadcast (store : LoadedStore) (now : Instant)
  | done (answer : Answer)

namespace HeartbeatPoint

/-- From the `COMMIT`. -/
def fromCommit (store : LoadedStore) (t : Instant) : Ingest (Option (LoadedStore × Instant)) := do
  sql .commit
  return some (store, t)

/-- From the `UPDATE`. -/
def fromUpdateStore (store : LoadedStore) (t : Instant) :
    Ingest (Option (LoadedStore × Instant)) := do
  sql (.updateLastSeen store.id t)
  fromCommit store t

/-- What follows the clock. -/
def afterNow (store : LoadedStore) (t : Instant) : Ingest (Option (LoadedStore × Instant)) := do
  flushLastSeen store t
  fromCommit store t

theorem afterNow_eq (store : LoadedStore) (t : Instant) :
    afterNow store t =
      if store.lastSeenAt = some t then fromCommit store t else fromUpdateStore store t := by
  rw [afterNow, flushLastSeen]
  split <;> rfl

/-- From the lookup of the store. -/
def fromSelectStore (storeCode : String) : Ingest (Option (LoadedStore × Instant)) := do
  match ← sql (.selectStore storeCode) with
  | none => return none
  | some store =>
      let t ← ExceptT.lift (Program.perform (S := Effects) .now)
      afterNow store t

/-- The rest of the program at a point. -/
def resume (storeCode : String) : HeartbeatPoint → Program Effects Answer
  | .begin => heartbeat storeCode
  | .selectStore => (fromSelectStore storeCode).run.bind respondHeartbeat
  | .now store => .call .now fun t => (afterNow store t).run.bind respondHeartbeat
  | .updateStore store t => (fromUpdateStore store t).run.bind respondHeartbeat
  | .commit store t => (fromCommit store t).run.bind respondHeartbeat
  | .broadcast store t => do
      let _ ← Program.perform (S := Effects) (.broadcast (.storesChanged store.code))
      return .heartbeat store.code t
  | .done answer => .ret answer

variable (c : String)

/-- A heartbeat starts at the first point. -/
theorem heartbeat_eq : heartbeat c = resume c .begin := rfl

theorem resume_begin : resume c .begin = .call (.sql .begin) fun
    | .error e => resume c (.done (.serverError (.sqlError e)))
    | .ok () => resume c .selectStore := by
  show Program.call (S := Effects) _ _ = _
  congr 1
  funext r
  cases r <;> rfl

theorem resume_selectStore : resume c .selectStore = .call (.sql (.selectStore c)) fun
    | .error e => resume c (.done (.serverError (.sqlError e)))
    | .ok none => resume c (.done (.httpException 404 "unknown store" none))
    | .ok (some store) => resume c (.now store) := by
  show Program.call (S := Effects) _ _ = _
  congr 1
  funext r
  rcases r with e | _ | store <;> rfl

theorem resume_now (store : LoadedStore) :
    resume c (.now store) = .call .now fun t =>
      if store.lastSeenAt = some t then resume c (.commit store t)
      else resume c (.updateStore store t) := by
  show Program.call (S := Effects) _ _ = _
  congr 1
  funext t
  rw [afterNow_eq]
  split <;> rfl

theorem resume_updateStore (store : LoadedStore) (t : Instant) :
    resume c (.updateStore store t) = .call (.sql (.updateLastSeen store.id t)) fun
    | .error e => resume c (.done (.serverError (.sqlError e)))
    | .ok () => resume c (.commit store t) := by
  show Program.call (S := Effects) _ _ = _
  congr 1
  funext r
  cases r <;> rfl

theorem resume_commit (store : LoadedStore) (t : Instant) :
    resume c (.commit store t) = .call (.sql .commit) fun
    | .error e => resume c (.done (.serverError (.sqlError e)))
    | .ok () => resume c (.broadcast store t) := by
  show Program.call (S := Effects) _ _ = _
  congr 1
  funext r
  cases r <;> rfl

theorem resume_broadcast (store : LoadedStore) (t : Instant) :
    resume c (.broadcast store t) = .call (.broadcast (.storesChanged store.code)) fun _ =>
      resume c (.done (.heartbeat store.code t)) := rfl

end HeartbeatPoint

end StorePulse
