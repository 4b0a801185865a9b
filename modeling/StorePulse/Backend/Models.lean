import Mathlib.Algebra.Ring.Int.Defs
import Mathlib.Algebra.Ring.Nat
import StorePulse.Python.Values

/-!
# Rows and constraints

The tables `stores`, `products` and `pos_events`.  No endpoint adds, removes or
renames a store or a product, so the columns that ingestion reads (`id`, `code`
and `sku`) form a fixed `Catalogue`, whose fields carry the primary keys and the
unique indexes of the two tables.  The one column of a store that changes,
`last_seen_at`, lives in the database state; a session that loads a store gets
the value with it (`LoadedStore`).

An `INSERT` into `pos_events` binds `EventValues`.  `received_at` is filled by
the server default.  The columns are taken to hold what is written to them;
which values they can hold at all is `EventValues.fitsColumns`.
-/

namespace StorePulse

/-! ## Stores and products -/

/-- The columns of a store that ingestion reads. -/
structure Store where
  id : UUID
  code : String
deriving DecidableEq

/-- A store as a session loads it: with the `last_seen_at` its `SELECT` saw. -/
structure LoadedStore extends Store where
  lastSeenAt : Option Instant
deriving DecidableEq

instance : Coe LoadedStore Store := ⟨LoadedStore.toStore⟩

/-- The versions of `last_seen_at` the session writes once `t` is assigned to a loaded store.
A flush sends no `UPDATE` when the value is the one it loaded. -/
def LoadedStore.versions (store : LoadedStore) (t : Instant) : List (UUID × Instant) :=
  if store.lastSeenAt = some t then [] else [(store.id, t)]

namespace LoadedStore

variable {store : LoadedStore} {t : Instant}

theorem versions_of_eq (h : store.lastSeenAt = some t) : store.versions t = [] := if_pos h

theorem versions_of_ne (h : store.lastSeenAt ≠ some t) : store.versions t = [(store.id, t)] :=
  if_neg h

end LoadedStore

/-- The columns of a product that ingestion reads. -/
structure Product where
  id : UUID
  sku : String
deriving DecidableEq

/-- The stores and products, which no request changes. -/
structure Catalogue where
  stores : List Store
  products : List Product
  /-- The primary key of `stores`. -/
  store_ids : (stores.map Store.id).Nodup
  /-- The unique index `ix_stores_code`. -/
  store_codes : (stores.map Store.code).Nodup
  /-- The primary key of `products`. -/
  product_ids : (products.map Product.id).Nodup
  /-- The unique constraint on `sku`. -/
  product_skus : (products.map Product.sku).Nodup

namespace Catalogue

/-- `SELECT ... FROM stores WHERE id = ...`. -/
def storeById (cat : Catalogue) (id : UUID) : Option Store :=
  cat.stores.find? fun s => s.id == id

/-- `SELECT ... FROM stores WHERE code = ...`. -/
def storeByCode (cat : Catalogue) (code : String) : Option Store :=
  cat.stores.find? fun s => s.code == code

/-- `SELECT ... FROM products WHERE id = ...`. -/
def productById (cat : Catalogue) (id : UUID) : Option Product :=
  cat.products.find? fun p => p.id == id

/-- `SELECT ... FROM products WHERE sku = ...`. -/
def productBySku (cat : Catalogue) (sku : String) : Option Product :=
  cat.products.find? fun p => p.sku == sku

end Catalogue

/-- A lookup by a column with distinct values finds the row that has the value. -/
theorem find?_of_nodup_map {α κ : Type} [DecidableEq κ] {f : α → κ} :
    ∀ {xs : List α}, (xs.map f).Nodup → ∀ {x : α}, x ∈ xs →
      (xs.find? fun y => f y == f x) = some x
  | [], _, _, h => by cases h
  | y :: ys, hd, x, h => by
      rw [List.map_cons, List.nodup_cons] at hd
      rcases List.mem_cons.mp h with rfl | hm
      · simp
      · have hne : f y ≠ f x := by
          intro he
          exact hd.1 (he ▸ List.mem_map_of_mem hm)
        rw [List.find?_cons_of_neg (by simpa using hne)]
        exact find?_of_nodup_map hd.2 hm

namespace Catalogue

variable {cat : Catalogue} {store : Store} {product : Product} {code sku : String} {id : UUID}

theorem storeByCode_code (h : cat.storeByCode code = some store) : store.code = code := by
  simpa using List.find?_some h

theorem productBySku_sku (h : cat.productBySku sku = some product) : product.sku = sku := by
  simpa using List.find?_some h

theorem storeById_id (h : cat.storeById id = some store) : store.id = id := by
  simpa using List.find?_some h

theorem productById_id (h : cat.productById id = some product) : product.id = id := by
  simpa using List.find?_some h

/-- The store found by its code is found by its id. -/
theorem storeById_of_code (h : cat.storeByCode code = some store) :
    cat.storeById store.id = some store :=
  find?_of_nodup_map cat.store_ids (List.mem_of_find?_eq_some h)

/-- The store found by its id is found by its code. -/
theorem storeByCode_of_id (h : cat.storeById id = some store) :
    cat.storeByCode store.code = some store :=
  find?_of_nodup_map cat.store_codes (List.mem_of_find?_eq_some h)

theorem productById_of_sku (h : cat.productBySku sku = some product) :
    cat.productById product.id = some product :=
  find?_of_nodup_map cat.product_ids (List.mem_of_find?_eq_some h)

theorem productBySku_of_id (h : cat.productById id = some product) :
    cat.productBySku product.sku = some product :=
  find?_of_nodup_map cat.product_skus (List.mem_of_find?_eq_some h)

end Catalogue

/-! ## Events -/

/-- The column `event_type`.  With two constructors the check `ck_pos_events_type`
holds of every value. -/
inductive EventType where
  | sale
  | refund
deriving DecidableEq

/-- What an `INSERT` into `pos_events` binds. -/
structure EventValues where
  eventId : UUID
  storeId : UUID
  productId : UUID
  eventType : EventType
  quantity : Int
  amountCents : Int
  occurredAt : Instant
  originalEventId : Option UUID
  sourceInstance : String
  metadataJson : Option JsonObject
  note : Option String

/-- A row of `pos_events`. -/
structure PosEvent extends EventValues where
  /-- `received_at`, by default the start of the inserting transaction. -/
  receivedAt : Instant

/-! ## Constraints -/

/-- The largest value of a `BIGINT` column. -/
def bigintMax : Int := 2 ^ 63 - 1

/-- Every value lies in the domain of its column: `BIGINT`, `VARCHAR(120)`, `TEXT`,
`JSONB`, and `timestamptz` as the driver can encode it. -/
def EventValues.fitsColumns (v : EventValues) : Bool :=
  decide (-bigintMax - 1 ≤ v.quantity ∧ v.quantity ≤ bigintMax) &&
  decide (-bigintMax - 1 ≤ v.amountCents ∧ v.amountCents ≤ bigintMax) &&
  decide (0 ≤ v.occurredAt ∧ v.occurredAt ≤ datetimeMax) &&
  decide (v.sourceInstance.length ≤ 120) && noNul v.sourceInstance &&
  JsonObject.fits? v.metadataJson &&
  (match v.note with | none => true | some note => noNul note)

/-- The constraints of `pos_events` an `INSERT` can violate. -/
inductive Constraint where
  | primaryKey
  | ckQuantityPositive
  | ckAmountPositive
  | ckOriginalReference
  | ckNotSelfReference
  | storeForeignKey
  | productForeignKey
  | originalForeignKey
deriving DecidableEq

/-- The first `CHECK` the values violate. -/
def EventValues.violatedCheck (v : EventValues) : Option Constraint :=
  if ¬ 0 < v.quantity then some .ckQuantityPositive
  else if ¬ 0 < v.amountCents then some .ckAmountPositive
  else if ¬ ((v.eventType = .sale ∧ v.originalEventId = none) ∨
      (v.eventType = .refund ∧ v.originalEventId ≠ none)) then some .ckOriginalReference
  else if v.originalEventId = some v.eventId then some .ckNotSelfReference
  else none

/-- The first foreign key the values violate, when `visible` are the events the
check sees. -/
def EventValues.violatedForeignKey (cat : Catalogue) (visible : List PosEvent)
    (v : EventValues) : Option Constraint :=
  if (cat.storeById v.storeId).isNone then some .storeForeignKey
  else if (cat.productById v.productId).isNone then some .productForeignKey
  else match v.originalEventId with
    | none => none
    | some original =>
        if visible.any fun e => e.eventId == original then none else some .originalForeignKey

/-- `SELECT ... FROM pos_events WHERE event_id = ...` over the visible rows. -/
def findEvent (visible : List PosEvent) (eventId : UUID) : Option PosEvent :=
  visible.find? fun e => e.eventId == eventId

theorem findEvent_mem {visible : List PosEvent} {eventId : UUID} {e : PosEvent}
    (h : findEvent visible eventId = some e) : e ∈ visible ∧ e.eventId = eventId :=
  ⟨List.mem_of_find?_eq_some h, by simpa using List.find?_some h⟩

theorem findEvent_none {visible : List PosEvent} {eventId : UUID}
    (h : findEvent visible eventId = none) : ∀ e ∈ visible, e.eventId ≠ eventId := by
  intro e he
  simpa using List.find?_eq_none.mp h e he

/-- `SUM` of a column over the refunds of one event, 0 when there are none. -/
def sumOfRefunds (column : PosEvent → Int) (visible : List PosEvent) (original : UUID) : Int :=
  ((visible.filter fun e => e.eventType == .refund && e.originalEventId == some original).map
    column).sum

end StorePulse
