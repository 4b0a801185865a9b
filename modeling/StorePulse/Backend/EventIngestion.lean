import StorePulse.Backend.Database
import StorePulse.Backend.Schemas
import StorePulse.Foundation.Program

/-!
# Event ingestion

`app/event_ingestion.py`, function by function.  A function is a program over
the statements of the database (and the two other effects a request has: the
clock of the process and the WebSocket broadcast), with Python's exceptions as
the error of an `ExceptT`.

`session.get` first looks among the objects the session has loaded and sends a
statement only when the object is not there; the loaded events are passed to
`classifyExistingEvent`.  No store and no product has been loaded when that
function gets one by its id.

A session keeps the objects it has loaded, and its commit sends an `UPDATE` for
an object only when a value assigned to it differs from the loaded one
(`flushLastSeen`).
-/

namespace StorePulse

/-! ## Effects -/

/-- A WebSocket message. -/
inductive Message where
  /-- `{"type": "events.changed", "store_code": ...}`. -/
  | eventsChanged (storeCode : String)
  /-- `{"type": "stores.changed", "store_code": ...}`. -/
  | storesChanged (storeCode : String)
deriving DecidableEq

/-- What a request asks of its environment. -/
inductive Op where
  /-- A statement. -/
  | sql (s : Stmt)
  /-- `datetime.now(UTC)`. -/
  | now
  /-- `manager.broadcast(...)`. -/
  | broadcast (message : Message)

/-- The reply to an effect. -/
abbrev Op.Reply : Op → Type
  | .sql s => Except SqlError s.Result
  | .now => Instant
  | .broadcast _ => Unit

/-- The effects of a request. -/
abbrev Effects : Signature := ⟨Op, Op.Reply⟩

/-! ## Exceptions and results -/

/-- What ingestion can raise: its seven errors, `RuntimeError`, and an error of the driver. -/
inductive Exception where
  | unknownStore (storeCode : String)
  | unknownProduct (productSku : String)
  | eventConflict (eventId : UUID)
  | originalSaleNotFound (originalEventId : UUID)
  | invalidOriginalSale (originalEventId : UUID)
  | refundReferenceMismatch (message : String)
  | refundLimitExceeded (message : String)
  | runtimeError (message : String)
  | sqlError (error : SqlError)
deriving DecidableEq

/-- The `status` of a result. -/
inductive EventStatus where
  | accepted
  | duplicate
deriving DecidableEq

/-- `EventIngestionResult`. -/
structure EventIngestionResult where
  eventId : UUID
  status : EventStatus
  receivedAt : Instant
deriving DecidableEq

/-- A computation of the ingestion service. -/
abbrev Ingest := ExceptT Exception (Program Effects)

/-- Send a statement.  An error of the driver is raised. -/
def sql (s : Stmt) : Ingest s.Result :=
  ExceptT.mk (.call (.sql s) fun r => .ret (r.mapError .sqlError))

/-! ## Lookups -/

/-- `_find_store`. -/
def findStore (storeCode : String) : Ingest LoadedStore := do
  match ← sql (.selectStore storeCode) with
  | none => throw (.unknownStore storeCode)
  | some store => return store

/-- `_find_product`. -/
def findProduct (productSku : String) : Ingest Product := do
  match ← sql (.selectProduct productSku) with
  | none => throw (.unknownProduct productSku)
  | some product => return product

/-- `session.get(PosEvent, event_id)`. -/
def sessionGetEvent (loaded : List PosEvent) (eventId : UUID) : Ingest (Option PosEvent) :=
  match findEvent loaded eventId with
  | some event => return some event
  | none => sql (.selectEvent eventId)

/-! ## Classification -/

/-- `_matches_event_payload`. -/
def matchesEventPayload (existing : PosEvent) (storeId productId : UUID)
    (payload : EventCreate) : Bool :=
  existing.storeId == storeId &&
  existing.productId == productId &&
  existing.eventType == payload.eventType &&
  existing.quantity == payload.base.quantity &&
  existing.amountCents == payload.base.amountCents &&
  existing.occurredAt == payload.base.occurredAt &&
  existing.originalEventId == payloadOriginalEventId payload &&
  existing.sourceInstance == payload.base.sourceInstance &&
  JsonObject.pyEq? existing.metadataJson payload.base.metadata &&
  existing.note == payload.base.note

/-- `_classify_existing_event`. -/
def classifyExistingEvent (loaded : List PosEvent) (payload : EventCreate)
    (store : Option Store) (product : Option Product) : Ingest EventIngestionResult := do
  match ← sessionGetEvent loaded payload.eventId with
  | none =>
      throw (.runtimeError "event conflict was reported but the existing row is not visible")
  | some existing =>
      let (storeMatches, storeId) ← (match store with
        | none => do
            match ← sql (.getStore existing.storeId) with
            | none => throw (.runtimeError "stored event references a missing store")
            | some storedStore =>
                return (storedStore.code == payload.storeCode, storedStore.id)
        | some store => return (existing.storeId == store.id, store.id) : Ingest (Bool × UUID))
      let (productMatches, productId) ← (match product with
        | none => do
            match ← sql (.getProduct existing.productId) with
            | none => throw (.runtimeError "stored event references a missing product")
            | some storedProduct =>
                return (storedProduct.sku == payload.productSku, storedProduct.id)
        | some product => return (existing.productId == product.id, product.id) :
          Ingest (Bool × UUID))
      if !(storeMatches && productMatches &&
          matchesEventPayload existing storeId productId payload) then
        throw (.eventConflict payload.eventId)
      else
        return {
          eventId := existing.eventId
          status := .duplicate
          receivedAt := existing.receivedAt }

/-- `_classify_existing_and_rollback`: `try: return await ... finally: await
session.rollback()`.  An error of the rollback would replace the outcome. -/
def classifyExistingAndRollback (loaded : List PosEvent) (payload : EventCreate)
    (store : Option Store) (product : Option Product) : Ingest EventIngestionResult :=
  ExceptT.mk do
    let outcome ← (classifyExistingEvent loaded payload store product).run
    match ← (sql .rollback).run with
    | .error e => return .error e
    | .ok () => return outcome

/-! ## Insertion -/

/-- The values `_insert_event` binds. -/
def EventCreate.values (payload : EventCreate) (store : Store) (product : Product) :
    EventValues where
  eventId := payload.eventId
  storeId := store.id
  productId := product.id
  eventType := payload.eventType
  quantity := payload.base.quantity
  amountCents := payload.base.amountCents
  occurredAt := payload.base.occurredAt
  originalEventId := payloadOriginalEventId payload
  sourceInstance := payload.base.sourceInstance
  metadataJson := payload.base.metadata
  note := payload.base.note

/-- `_insert_event`. -/
def insertEvent (payload : EventCreate) (store : Store) (product : Product) :
    Ingest (Option Instant) :=
  sql (.insertEvent (payload.values store product))

/-- The flush of an assignment to `store.last_seen_at`.  The session compares the value with
the one it loaded and sends no `UPDATE` when they are equal. -/
def flushLastSeen (store : LoadedStore) (lastSeenAt : Instant) : Ingest Unit :=
  if store.lastSeenAt = some lastSeenAt then return ()
  else sql (.updateLastSeen store.id lastSeenAt)

/-- `_commit_accepted_event`.  The commit first flushes the assignment to
`store.last_seen_at`. -/
def commitAcceptedEvent (payload : EventCreate) (store : LoadedStore) (receivedAt : Instant) :
    Ingest EventIngestionResult := do
  flushLastSeen store receivedAt
  sql .commit
  return { eventId := payload.eventId, status := .accepted, receivedAt := receivedAt }

/-! ## SALE -/

/-- `ingest_sale_event`. -/
def ingestSaleEvent (p : SaleEventCreate) : Ingest EventIngestionResult := do
  let payload := EventCreate.sale p
  sql .begin
  match ← sessionGetEvent [] payload.eventId with
  | some existing => classifyExistingAndRollback [existing] payload none none
  | none =>
      let store ← findStore payload.storeCode
      let product ← findProduct payload.productSku
      match ← insertEvent payload store product with
      | none => classifyExistingAndRollback [] payload (some store) (some product)
      | some receivedAt => commitAcceptedEvent payload store receivedAt

/-! ## REFUND -/

/-- `_lock_original_sale`. -/
def lockOriginalSale (originalEventId : UUID) : Ingest PosEvent := do
  match ← sql (.lockEvent originalEventId) with
  | none => throw (.originalSaleNotFound originalEventId)
  | some original =>
      if original.eventType ≠ .sale ∨ original.originalEventId ≠ none then
        throw (.invalidOriginalSale originalEventId)
      else
        return original

/-- `_validate_refund_reference`. -/
def validateRefundReference (original : PosEvent) (store : Store) (product : Product)
    (payload : EventCreate) : Ingest Unit := do
  if original.storeId ≠ store.id then
    throw (.refundReferenceMismatch "refund store must match original sale")
  else if original.productId ≠ product.id then
    throw (.refundReferenceMismatch "refund product must match original sale")
  else
    let (refundedQuantity, refundedAmountCents) ← sql (.sumRefunds original.eventId)
    if refundedQuantity + payload.base.quantity > original.quantity then
      throw (.refundLimitExceeded "refund exceeds remaining sale quantity")
    else if refundedAmountCents + payload.base.amountCents > original.amountCents then
      throw (.refundLimitExceeded "refund exceeds remaining sale amount")
    else
      return ()

/-- `ingest_refund_event`. -/
def ingestRefundEvent (p : RefundEventCreate) : Ingest EventIngestionResult := do
  let payload := EventCreate.refund p
  sql .begin
  match ← sessionGetEvent [] payload.eventId with
  | some existing => classifyExistingAndRollback [existing] payload none none
  | none =>
      let store ← findStore payload.storeCode
      let product ← findProduct payload.productSku
      let original ← lockOriginalSale p.originalEventId
      -- an identical refund may have committed while this request waited for the lock
      match ← sql (.selectEvent payload.eventId) with
      | some existing =>
          classifyExistingAndRollback [existing, original] payload (some store) (some product)
      | none =>
          validateRefundReference original store product payload
          match ← insertEvent payload store product with
          | none => classifyExistingAndRollback [original] payload (some store) (some product)
          | some receivedAt => commitAcceptedEvent payload store receivedAt

end StorePulse
