import StorePulse.Backend.Database
import StorePulse.Foundation.Wildcards
import StorePulse.Harness.SqlText
import StorePulse.Simulator.Config

/-!
# Cleaning up after a run

The tables as the smoke harness changes them, and what its statements do to
them.  The harness deletes the events of its run in one transaction, the refunds
before their sales since `original_event_id` is a foreign key with `ON DELETE
RESTRICT`, and puts the connectivity columns of the stores back to a snapshot.
Two queries then count what the transaction left.

A statement is kept as the values in its text (`CleanupStmt.text` gives the text
back).  `json_to_recordset` is taken to read the items of the snapshot back from
their JSON; the casts of their texts to `uuid` and `timestamptz` are a parameter.
-/

namespace StorePulse

/-! ## Tables -/

/-- A row of `stores`. -/
structure StoreRow where
  id : UUID
  name : String
  code : String
  timezone : String
  dailyTargetCents : Int
  responsibleName : String
  responsibleEmail : String
  isActive : Bool
  lastSeenAt : Option Instant
  createdAt : Instant
  updatedAt : Instant
deriving DecidableEq

/-- A row of `products`. -/
structure ProductRow where
  id : UUID
  sku : String
  name : String
  category : Option String
  createdAt : Instant
deriving DecidableEq

/-- The tables of the database. -/
structure Tables where
  stores : List StoreRow
  products : List ProductRow
  events : List PosEvent

/-- The keys of the tables, and what `ck_pos_events_original_reference` and ingestion keep of
the originals. -/
structure Tables.Consistent (t : Tables) : Prop where
  eventIds : (t.events.map fun e => e.eventId).Nodup
  storeForeignKey : ∀ e ∈ t.events, ∃ s ∈ t.stores, s.id = e.storeId
  productForeignKey : ∀ e ∈ t.events, ∃ p ∈ t.products, p.id = e.productId
  originalForeignKey : ∀ e ∈ t.events, ∀ o, e.originalEventId = some o →
    ∃ s ∈ t.events, s.eventId = o
  saleOriginal : ∀ e ∈ t.events, e.eventType = .sale → e.originalEventId = none
  refundOriginal : ∀ e ∈ t.events, e.eventType = .refund →
    ∃ s ∈ t.events, s.eventType = .sale ∧ e.originalEventId = some s.eventId

/-! ## Values in a statement -/

/-- `text LIKE pattern`, or `none` when the pattern is in error. -/
def like (text pattern : String) : Option Bool :=
  (Like.parse pattern.toList).map fun tokens => Like.matchesTokens tokens text.toList

/-- The casts from text. -/
structure Casts where
  /-- `::uuid`. -/
  uuid : String → Option UUID
  /-- `::timestamptz`. -/
  timestamptz : String → Option Instant

/-- A row of `json_to_recordset`. -/
structure SnapshotRow where
  id : UUID
  lastSeenAt : Option Instant
  updatedAt : Instant
deriving DecidableEq

/-- The row of an item, unless a cast fails. -/
def SnapshotItem.row (casts : Casts) (item : SnapshotItem) : Option SnapshotRow := do
  let id ← casts.uuid item.id
  let lastSeenAt ← match item.lastSeenAt with
    | none => some none
    | some text => (casts.timestamptz text).map some
  let updatedAt ← casts.timestamptz item.updatedAt
  return ⟨id, lastSeenAt, updatedAt⟩

/-- The rows of a snapshot. -/
def snapshotRows (casts : Casts) (snapshot : List SnapshotItem) :
    Except SqlError (List SnapshotRow) :=
  match snapshot.mapM (SnapshotItem.row casts) with
  | none => .error .dataError
  | some rows => .ok rows

/-! ## Statements -/

/-- A statement of the cleanup transaction. -/
inductive CleanupStmt where
  /-- `DELETE FROM pos_events`. -/
  | delete (pattern : String) (eventType : EventType)
  /-- `UPDATE stores ... FROM snapshot`. -/
  | restore (snapshot : List SnapshotItem)

/-- The text of a statement. -/
def CleanupStmt.text : CleanupStmt → String
  | .delete pattern eventType =>
      "DELETE FROM pos_events\nWHERE source_instance LIKE " ++ sqlLiteral pattern ++
      "\n  AND event_type = " ++ sqlLiteral eventType.text ++ ";"
  | .restore snapshot => buildRestoreSql snapshot

/-- The statements between `BEGIN` and `COMMIT`. -/
def cleanupStatements (runTag : String) (snapshot : List SnapshotItem) : List CleanupStmt :=
  [.delete (sourcePattern runTag) .refund, .delete (sourcePattern runTag) .sale, .restore snapshot]

theorem buildCleanupTransactionSql_text (runTag : String) (snapshot : List SnapshotItem) :
    buildCleanupTransactionSql runTag snapshot = .ok ("\n".intercalate
      (["BEGIN;"] ++ (cleanupStatements runTag snapshot).map CleanupStmt.text ++ ["COMMIT;"])) :=
  buildCleanupTransactionSql_eq runTag snapshot

/-- The event is one a deletion is for. -/
def doomed (tokens : List (Like.Token Char)) (eventType : EventType) (e : PosEvent) : Bool :=
  Like.matchesTokens tokens e.sourceInstance.toList && e.eventType == eventType

/-- Some event of `kept` names an event of `gone` as its original. -/
def refers (kept gone : List PosEvent) : Bool :=
  kept.any fun e => gone.any fun d => e.originalEventId == some d.eventId

/-- The row of a store after the `UPDATE`: a row of the snapshot with its id replaces the two
columns. -/
def SnapshotRow.restore (rows : List SnapshotRow) (store : StoreRow) : StoreRow :=
  match rows.find? fun row => row.id == store.id with
  | none => store
  | some row => { store with lastSeenAt := row.lastSeenAt, updatedAt := row.updatedAt }

namespace Tables

/-- `DELETE FROM pos_events`.  The foreign key is checked at the end of the statement. -/
def deleteEvents (t : Tables) (pattern : String) (eventType : EventType) :
    Except SqlError Tables :=
  match Like.parse pattern.toList with
  | none => .error .dataError
  | some tokens =>
      let gone := t.events.filter (doomed tokens eventType)
      let kept := t.events.filter fun e => !doomed tokens eventType e
      if refers kept gone then .error (.violation .originalForeignKey)
      else .ok { t with events := kept }

/-- `UPDATE stores ... FROM snapshot`. -/
def restoreStores (casts : Casts) (t : Tables) (snapshot : List SnapshotItem) :
    Except SqlError Tables := do
  let rows ← snapshotRows casts snapshot
  return { t with stores := t.stores.map (SnapshotRow.restore rows) }

/-- One statement. -/
def exec (casts : Casts) (t : Tables) : CleanupStmt → Except SqlError Tables
  | .delete pattern eventType => t.deleteEvents pattern eventType
  | .restore snapshot => t.restoreStores casts snapshot

/-- A transaction: an error of any statement rolls all of them back. -/
def transact (casts : Casts) (t : Tables) (statements : List CleanupStmt) :
    Except SqlError Unit × Tables :=
  match statements.foldlM (exec casts) t with
  | .ok t' => (.ok (), t')
  | .error e => (.error e, t)

/-- The query of `build_remaining_sql`. -/
def remaining (t : Tables) (pattern : String) : Except SqlError Nat :=
  match Like.parse pattern.toList with
  | none => .error .dataError
  | some tokens =>
      .ok (t.events.countP fun e => Like.matchesTokens tokens e.sourceInstance.toList)

/-- The rows of `snapshot LEFT JOIN stores` for one row of the snapshot, and how many of them
the query counts. -/
def mismatchesOf (t : Tables) (row : SnapshotRow) : Nat :=
  match t.stores.filter fun s => s.id == row.id with
  | [] => 1
  | joined => joined.countP fun s =>
      s.lastSeenAt != row.lastSeenAt || s.updatedAt != row.updatedAt

/-- The query of `build_snapshot_mismatch_sql`. -/
def snapshotMismatches (casts : Casts) (t : Tables) (snapshot : List SnapshotItem) :
    Except SqlError Nat := do
  let rows ← snapshotRows casts snapshot
  return (rows.map t.mismatchesOf).sum

end Tables

end StorePulse
