import StorePulse.Backend.Models
import StorePulse.Foundation.LockTable
import StorePulse.Foundation.TransactionalTable

/-!
# The database under READ COMMITTED

A transaction is identified by a number, and its statements are executed one at
a time, interleaved with those of other transactions.  Each statement sees the
rows committed when it starts and the rows its transaction wrote.  A statement
that needs locks is executed when no other transaction stands in the way, and
until then it is not enabled (`Db.exec` gives `none`).  Locks are kept to the
end of the transaction.

The locks are the row locks of `SELECT ... FOR UPDATE`, of `UPDATE` and of the
foreign key checks, and the unique index entry of an uncommitted row, for which
an `INSERT` of the same key waits (`Resource.eventKey`).

An update of `stores.last_seen_at` makes a new version of the row.  A statement
that reads the row sees the last version visible to its transaction.
-/

namespace StorePulse

/-! ## Locks -/

/-- What a lock protects. -/
inductive Resource where
  /-- A row of `pos_events`. -/
  | event (id : UUID)
  /-- A row of `stores`. -/
  | store (id : UUID)
  /-- A row of `products`. -/
  | product (id : UUID)
  /-- The primary key entry of an uncommitted row of `pos_events`. -/
  | eventKey (id : UUID)
deriving DecidableEq

/-- The row lock modes. -/
inductive LockMode where
  | forKeyShare
  | forShare
  | forNoKeyUpdate
  | forUpdate
deriving DecidableEq

/-- Which modes conflict on one row. -/
def LockMode.conflicts : LockMode → LockMode → Bool
  | .forUpdate, _ => true
  | _, .forUpdate => true
  | .forKeyShare, _ => false
  | _, .forKeyShare => false
  | .forShare, .forShare => false
  | .forShare, .forNoKeyUpdate => true
  | .forNoKeyUpdate, _ => true

theorem LockMode.conflicts_symm (a b : LockMode) : a.conflicts b = b.conflicts a := by
  cases a <;> cases b <;> rfl

/-- A lock: what it protects, and its mode. -/
abbrev Lock := Resource × LockMode

/-! ## Statements -/

/-- How a statement can fail. -/
inductive SqlError where
  /-- A bound value is not in the domain of its column. -/
  | dataError
  /-- A constraint is violated. -/
  | violation (c : Constraint)
deriving DecidableEq

/-- The statements a request sends. -/
inductive Stmt where
  /-- `BEGIN`, which the session sends before its first statement. -/
  | begin
  /-- Read an event by its primary key. -/
  | selectEvent (eventId : UUID)
  /-- Read a store by its code. -/
  | selectStore (code : String)
  /-- Read a product by its SKU. -/
  | selectProduct (sku : String)
  /-- Read a store by its primary key. -/
  | getStore (id : UUID)
  /-- Read a product by its primary key. -/
  | getProduct (id : UUID)
  /-- Read an event by its primary key, `FOR UPDATE`. -/
  | lockEvent (eventId : UUID)
  /-- `COALESCE(SUM(quantity), 0)` and `COALESCE(SUM(amount_cents), 0)` of the refunds of an
  event. -/
  | sumRefunds (original : UUID)
  /-- `INSERT ... ON CONFLICT (event_id) DO NOTHING RETURNING received_at`. -/
  | insertEvent (values : EventValues)
  /-- `UPDATE stores SET last_seen_at = ...`. -/
  | updateLastSeen (store : UUID) (lastSeenAt : Instant)
  | commit
  | rollback

/-- What a statement returns. -/
abbrev Stmt.Result : Stmt → Type
  | .begin => Unit
  | .selectEvent _ => Option PosEvent
  | .selectStore _ => Option LoadedStore
  | .selectProduct _ => Option Product
  | .getStore _ => Option Store
  | .getProduct _ => Option Product
  | .lockEvent _ => Option PosEvent
  | .sumRefunds _ => Int × Int
  | .insertEvent _ => Option Instant
  | .updateLastSeen _ _ => Unit
  | .commit => Unit
  | .rollback => Unit

/-! ## The state -/

/-- The state of the database. -/
structure Db where
  /-- The current time. -/
  clock : Instant
  /-- The open transactions, each with the time of its `BEGIN`. -/
  sessions : List (Nat × Instant)
  /-- `pos_events`. -/
  events : TxTable PosEvent
  /-- The versions of `stores.last_seen_at`: store and value. -/
  lastSeen : TxTable (UUID × Instant)
  /-- The locks held. -/
  locks : LockTable Resource LockMode

/-- The value of the last version of `last_seen_at` of a store. -/
def lastVersion (versions : List (UUID × Instant)) (store : UUID) : Option Instant :=
  ((versions.filter fun v => v.1 == store).getLast?).map Prod.snd

namespace Db

/-- The database before any request. -/
def initial (clock : Instant) : Db := ⟨clock, [], .empty, .empty, .empty⟩

/-- The committed value of `stores.last_seen_at`. -/
def lastSeenAt (db : Db) (store : UUID) : Option Instant := lastVersion db.lastSeen.committed store

/-- A store with the `last_seen_at` a statement of transaction `i` sees. -/
def loadStore (db : Db) (i : Nat) (store : Store) : LoadedStore :=
  { store with lastSeenAt := lastVersion (db.lastSeen.visible i) store.id }

/-- `now()`: the start of the transaction. -/
def transactionStart (db : Db) (i : Nat) : Instant :=
  ((ownedBy db.sessions i).head?).getD db.clock

/-- Make the writes of transaction `i` visible and end it. -/
def commit (db : Db) (i : Nat) : Db :=
  { db with
    sessions := disown db.sessions i
    events := db.events.commit i
    lastSeen := db.lastSeen.commit i
    locks := db.locks.release i }

/-- Drop the writes of transaction `i` and end it. -/
def rollback (db : Db) (i : Nat) : Db :=
  { db with
    sessions := disown db.sessions i
    events := db.events.rollback i
    lastSeen := db.lastSeen.rollback i
    locks := db.locks.release i }

end Db

/-- The locks an `INSERT` takes: the index entry of its key, and `FOR KEY SHARE` on the
rows its foreign keys name. -/
def EventValues.locks (v : EventValues) : List Lock :=
  [(.eventKey v.eventId, .forUpdate), (.store v.storeId, .forKeyShare),
    (.product v.productId, .forKeyShare)] ++
  (v.originalEventId.toList.map fun original => (.event original, .forKeyShare))

namespace Db

/-- The locks a statement of transaction `i` must get before it is executed.  An
`INSERT` that fails, or that finds its key committed, takes none. -/
def needs (db : Db) (i : Nat) : Stmt → List Lock
  | .lockEvent eventId =>
      if (findEvent (db.events.visible i) eventId).isSome then [(.event eventId, .forUpdate)]
      else []
  | .insertEvent v =>
      if v.fitsColumns && v.violatedCheck.isNone &&
          (findEvent (db.events.visible i) v.eventId).isNone then v.locks
      else []
  | .updateLastSeen store _ => [(.store store, .forNoKeyUpdate)]
  | _ => []

/-- The `INSERT`, with its locks granted.  Values and checks come first, then the
arbitration of `ON CONFLICT`, then the index and the foreign keys. -/
def insertEvent (cat : Catalogue) (db : Db) (i : Nat) (v : EventValues) :
    Except SqlError (Option Instant) × Db :=
  let row : PosEvent := { v with receivedAt := db.transactionStart i }
  if ¬ v.fitsColumns then (.error .dataError, db)
  else match v.violatedCheck with
    | some c => (.error (.violation c), db)
    | none =>
        if (findEvent (db.events.visible i) v.eventId).isSome then (.ok none, db)
        else if (db.events.committed ++ db.events.pending.map Prod.snd).any
            fun e => e.eventId == v.eventId then (.error (.violation .primaryKey), db)
        else match v.violatedForeignKey cat (db.events.visible i ++ [row]) with
          | some c => (.error (.violation c), db)
          | none => (.ok (some row.receivedAt), { db with events := db.events.write i row })

/-- A statement of transaction `i`, with its locks granted. -/
def effect (cat : Catalogue) (db : Db) (i : Nat) : (s : Stmt) → Except SqlError s.Result × Db
  | .begin => (.ok (), { db with sessions := db.sessions ++ [db.clock].map fun t => (i, t) })
  | .selectEvent eventId => (.ok (findEvent (db.events.visible i) eventId), db)
  | .selectStore code =>
      (if noNul code then .ok ((cat.storeByCode code).map (db.loadStore i))
        else .error .dataError, db)
  | .selectProduct sku =>
      (if noNul sku then .ok (cat.productBySku sku) else .error .dataError, db)
  | .getStore id => (.ok (cat.storeById id), db)
  | .getProduct id => (.ok (cat.productById id), db)
  | .lockEvent eventId => (.ok (findEvent (db.events.visible i) eventId), db)
  | .sumRefunds original =>
      (.ok (sumOfRefunds (fun e => e.quantity) (db.events.visible i) original,
        sumOfRefunds (fun e => e.amountCents) (db.events.visible i) original), db)
  | .insertEvent v => db.insertEvent cat i v
  | .updateLastSeen store lastSeenAt =>
      (.ok (), { db with lastSeen := db.lastSeen.write i (store, lastSeenAt) })
  | .commit => (.ok (), db.commit i)
  | .rollback => (.ok (), db.rollback i)

/-- Execute a statement of transaction `i`, or wait. -/
def exec (cat : Catalogue) (db : Db) (i : Nat) (s : Stmt) :
    Option (Except SqlError s.Result × Db) :=
  if db.locks.grantable LockMode.conflicts i (db.needs i s) then
    some ({ db with locks := db.locks.acquire i (db.needs i s) }.effect cat i s)
  else none

end Db

end StorePulse
