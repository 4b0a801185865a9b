import StorePulse.Backend.RefundLimits
import StorePulse.Foundation.ProgramRuns

/-!
# Two ways to classify an existing event

The first lookup of a request classifies the row it finds without a store and a
product: it reads those of the row and compares the code and the SKU.  The
lookups after the lock and after an insert conflict have resolved the store and
the product of the payload and compare ids.  The two agree since ids, codes and
SKUs are unique and every row names a store and a product that exist.
-/

namespace StorePulse

variable {cat : Catalogue} {db : Db} {i : Nat} {e : PosEvent} {payload : EventCreate}
  {loaded : List PosEvent} {store : Store} {product : Product}

/-- The outcome of a computation of transaction `i`, and the database after it, when nothing
happens in between.  A statement that has to wait gives `none`. -/
def Ingest.outcome {α : Type} (cat : Catalogue) (db : Db) (i : Nat) (m : Ingest α) :
    Option (Except Exception α × Db) :=
  m.run.execute (fun db op => World.perform cat db i op) db

/-- The events transaction `i` sees have unique keys, and their stores and products exist. -/
structure Db.Sound (cat : Catalogue) (db : Db) (i : Nat) : Prop where
  eventIds : ((db.events.visible i).map fun e => e.eventId).Nodup
  stores : ∀ e ∈ db.events.visible i, ∃ store, cat.storeById e.storeId = some store
  products : ∀ e ∈ db.events.visible i, ∃ product, cat.productById e.productId = some product

/-- Two rows with one key are the same row. -/
theorem Db.Sound.unique (h : db.Sound cat i) {e' : PosEvent} (he : e ∈ db.events.visible i)
    (he' : e' ∈ db.events.visible i) (hid : e'.eventId = e.eventId) : e' = e :=
  List.inj_on_of_nodup_map h.eventIds he' he hid

/-- The lookup by key finds the stored row. -/
theorem Db.Sound.lookup (h : db.Sound cat i) (he : e ∈ db.events.visible i) :
    findEvent (db.events.visible i) e.eventId = some e :=
  find?_of_nodup_map h.eventIds he

/-- The session finds the stored row, loaded or not. -/
theorem outcome_classify (h : db.Sound cat i) (he : e ∈ db.events.visible i)
    (hloaded : ∀ l ∈ loaded, l ∈ db.events.visible i) (hid : payload.eventId = e.eventId)
    (store : Option Store) (product : Option Product) :
    Ingest.outcome cat db i (classifyExistingEvent loaded payload store product) =
      Ingest.outcome cat db i (classifyExistingEvent [e] payload store product) := by
  have hone : findEvent [e] payload.eventId = some e := by simp [findEvent, hid]
  cases hfind : findEvent loaded payload.eventId with
  | some l =>
      obtain ⟨hl, hlid⟩ := findEvent_mem hfind
      rw [h.unique he (hloaded l hl) (hlid.trans hid)] at hfind
      rw [classifyExistingEvent, classifyExistingEvent, sessionGetEvent, sessionGetEvent, hfind,
        hone]
  | none =>
      rw [classifyExistingEvent, classifyExistingEvent, sessionGetEvent, sessionGetEvent, hfind,
        hone]
      show (db.exec cat i (.selectEvent payload.eventId)).bind _ = _
      rw [Db.exec_selectEvent, hid, h.lookup he]
      rfl

/-- Without a store and a product, the stored row's own are read. -/
theorem outcome_classify_none (hid : payload.eventId = e.eventId)
    (hstore : cat.storeById e.storeId = some store)
    (hproduct : cat.productById e.productId = some product) :
    Ingest.outcome cat db i (classifyExistingEvent [e] payload none none) =
      some (classification e payload (store.code == payload.storeCode) store.id
        (product.sku == payload.productSku) product.id, db) := by
  have hone : findEvent [e] payload.eventId = some e := by simp [findEvent, hid]
  rw [classifyExistingEvent, sessionGetEvent, hone]
  show (db.exec cat i (.getStore e.storeId)).bind _ = _
  rw [Db.exec_getStore, hstore]
  show (db.exec cat i (.getProduct e.productId)).bind _ = _
  rw [Db.exec_getProduct, hproduct]
  show Ingest.outcome cat db i (Point.conclude e payload (store.code == payload.storeCode) store.id
    (product.sku == payload.productSku) product.id) = _
  rw [Ingest.outcome, Point.conclude_run]
  rfl

/-- With a store and a product, nothing is read. -/
theorem outcome_classify_some (hid : payload.eventId = e.eventId) (store : Store)
    (product : Product) :
    Ingest.outcome cat db i (classifyExistingEvent [e] payload (some store) (some product)) =
      some (classificationWith e payload store product, db) := by
  have hone : findEvent [e] payload.eventId = some e := by simp [findEvent, hid]
  rw [classifyExistingEvent, sessionGetEvent, hone]
  show Ingest.outcome cat db i (Point.conclude e payload (e.storeId == store.id) store.id
    (e.productId == product.id) product.id) = _
  rw [Ingest.outcome, Point.conclude_run]
  rfl

/-! ## Comparing by code and comparing by id -/

/-- The store of a row has the code of the payload exactly when it is the payload's store. -/
theorem storeMatches_iff {stored : Store} {id : UUID} {code : String}
    (hstored : cat.storeById id = some stored) (hstore : cat.storeByCode code = some store) :
    stored.code = code ↔ id = store.id := by
  constructor
  · rintro rfl
    rw [Catalogue.storeByCode_of_id hstored] at hstore
    cases hstore
    exact (Catalogue.storeById_id hstored).symm
  · rintro rfl
    rw [Catalogue.storeById_of_code hstore] at hstored
    cases hstored
    exact Catalogue.storeByCode_code hstore

/-- The same of products. -/
theorem productMatches_iff {stored : Product} {id : UUID} {sku : String}
    (hstored : cat.productById id = some stored) (hproduct : cat.productBySku sku = some product) :
    stored.sku = sku ↔ id = product.id := by
  constructor
  · rintro rfl
    rw [Catalogue.productBySku_of_id hstored] at hproduct
    cases hproduct
    exact (Catalogue.productById_id hstored).symm
  · rintro rfl
    rw [Catalogue.productById_of_sku hproduct] at hstored
    cases hstored
    exact Catalogue.productBySku_sku hproduct

/-- A classification has two results. -/
theorem classification_cases (e : PosEvent) (payload : EventCreate) (storeMatches : Bool)
    (storeId : UUID) (productMatches : Bool) (productId : UUID) :
    classification e payload storeMatches storeId productMatches productId =
        .ok ⟨e.eventId, .duplicate, e.receivedAt⟩ ∨
      classification e payload storeMatches storeId productMatches productId =
        .error (.eventConflict payload.eventId) := by
  rw [classification]
  split
  · exact Or.inr rfl
  · exact Or.inl rfl

/-- A store or a product that does not match is a conflict. -/
theorem classification_conflict {storeMatches productMatches : Bool} {storeId productId : UUID}
    (h : (storeMatches && productMatches) = false) :
    classification e payload storeMatches storeId productMatches productId =
      .error (.eventConflict payload.eventId) := by
  rw [classification, h]
  rfl

/-- The row's own store and product lead to the result the payload's lead to. -/
theorem classification_eq {storedStore : Store} {storedProduct : Product}
    (hs : cat.storeById e.storeId = some storedStore)
    (hp : cat.productById e.productId = some storedProduct)
    (hstore : cat.storeByCode payload.storeCode = some store)
    (hproduct : cat.productBySku payload.productSku = some product) :
    classification e payload (storedStore.code == payload.storeCode) storedStore.id
        (storedProduct.sku == payload.productSku) storedProduct.id =
      classificationWith e payload store product := by
  have hcode : (storedStore.code == payload.storeCode) = (e.storeId == store.id) := by
    rw [Bool.eq_iff_iff, beq_iff_eq, beq_iff_eq]
    exact storeMatches_iff hs hstore
  have hsku : (storedProduct.sku == payload.productSku) = (e.productId == product.id) := by
    rw [Bool.eq_iff_iff, beq_iff_eq, beq_iff_eq]
    exact productMatches_iff hp hproduct
  rw [classificationWith, hcode, hsku]
  cases hmatch : (e.storeId == store.id && e.productId == product.id) with
  | false => rw [classification_conflict hmatch, classification_conflict hmatch]
  | true =>
      -- both pairs of ids are those of the row
      obtain ⟨hsid, hpid⟩ := Bool.and_eq_true_iff.mp hmatch
      rw [Catalogue.storeById_id hs, Catalogue.productById_id hp, ← beq_iff_eq.mp hsid,
        ← beq_iff_eq.mp hpid]

/-- With a code or a SKU nobody has, the row does not match. -/
theorem classification_unresolved {storedStore : Store} {storedProduct : Product}
    (hs : cat.storeById e.storeId = some storedStore)
    (hp : cat.productById e.productId = some storedProduct)
    (h : cat.storeByCode payload.storeCode = none ∨ cat.productBySku payload.productSku = none) :
    classification e payload (storedStore.code == payload.storeCode) storedStore.id
        (storedProduct.sku == payload.productSku) storedProduct.id =
      .error (.eventConflict payload.eventId) := by
  refine classification_conflict ?_
  rw [Bool.and_eq_false_iff, beq_eq_false_iff_ne, beq_eq_false_iff_ne]
  rcases h with hnone | hnone
  · refine Or.inl ?_
    rintro hcode
    rw [← hcode, Catalogue.storeByCode_of_id hs] at hnone
    cases hnone
  · refine Or.inr ?_
    rintro hsku
    rw [← hsku, Catalogue.productBySku_of_id hp] at hnone
    cases hnone

/-- Without and with the resolved store and product, a stored event is classified alike: as a
duplicate with its time of receipt, or as a conflict.  When the code or the SKU is unknown, it is
a conflict.  The rows the session has loaded make no difference. -/
theorem classification_paths_agree (h : db.Sound cat i) (he : e ∈ db.events.visible i)
    (hid : payload.eventId = e.eventId) {loaded' : List PosEvent}
    (hloaded : ∀ l ∈ loaded, l ∈ db.events.visible i)
    (hloaded' : ∀ l ∈ loaded', l ∈ db.events.visible i) :
    (∀ store product, cat.storeByCode payload.storeCode = some store →
      cat.productBySku payload.productSku = some product →
      ∃ result,
        Ingest.outcome cat db i (classifyExistingEvent loaded payload none none) =
          some (result, db) ∧
        Ingest.outcome cat db i
            (classifyExistingEvent loaded' payload (some store) (some product)) =
          some (result, db) ∧
        (result = .ok ⟨e.eventId, .duplicate, e.receivedAt⟩ ∨
          result = .error (.eventConflict payload.eventId))) ∧
    (cat.storeByCode payload.storeCode = none ∨ cat.productBySku payload.productSku = none →
      Ingest.outcome cat db i (classifyExistingEvent loaded payload none none) =
        some (.error (.eventConflict payload.eventId), db)) := by
  obtain ⟨storedStore, hs⟩ := h.stores e he
  obtain ⟨storedProduct, hp⟩ := h.products e he
  have hnone := (outcome_classify h he hloaded hid none none).trans
    (outcome_classify_none hid hs hp)
  refine ⟨fun store product hstore hproduct => ?_, fun hunresolved => ?_⟩
  · refine ⟨classificationWith e payload store product, ?_, ?_, classification_cases ..⟩
    · rw [hnone, classification_eq hs hp hstore hproduct]
    · rw [outcome_classify h he hloaded' hid, outcome_classify_some hid]
  · rw [hnone, classification_unresolved hs hp hunresolved]

/-- The stored SALE arrives again, once as it was, which is a duplicate, and once with a product
nobody has. -/
theorem classification_paths_agree_on_sale :
    let db : Db := { Db.initial 0 with events := ⟨[Sample.saleRow], []⟩ }
    let unknown : EventCreate := .sale { Sample.base 10 3 (by decide) with
      productSku := "TEA", productSku_length := by decide }
    (Ingest.outcome Sample.catalogue db 0
        (classifyExistingEvent [Sample.saleRow] Sample.sale none none) =
        some (.ok ⟨10, .duplicate, Sample.saleRow.receivedAt⟩, db) ∧
      Ingest.outcome Sample.catalogue db 0 (classifyExistingEvent [] Sample.sale
        (some ⟨1, "POA-CENTRO"⟩) (some ⟨2, "COFFEE"⟩)) =
        some (.ok ⟨10, .duplicate, Sample.saleRow.receivedAt⟩, db)) ∧
    Ingest.outcome Sample.catalogue db 0
        (classifyExistingEvent [Sample.saleRow] unknown none none) =
      some (.error (.eventConflict 10), db) := by
  intro db unknown
  have hsound : db.Sound Sample.catalogue 0 :=
    { eventIds := by decide
      stores := by
        intro e he
        rw [List.mem_singleton.mp he]
        exact ⟨⟨1, "POA-CENTRO"⟩, rfl⟩
      products := by
        intro e he
        rw [List.mem_singleton.mp he]
        exact ⟨⟨2, "COFFEE"⟩, rfl⟩ }
  have hrow : Sample.saleRow ∈ db.events.visible 0 := List.mem_singleton.mpr rfl
  have hone : ∀ l ∈ [Sample.saleRow], l ∈ db.events.visible 0 := fun l hl => hl
  have hempty : ∀ l ∈ ([] : List PosEvent), l ∈ db.events.visible 0 := nofun
  have hsale : Sample.sale.eventId = Sample.saleRow.eventId := rfl
  have hunknown : unknown.eventId = Sample.saleRow.eventId := rfl
  constructor
  · obtain ⟨result, hnone, hsome, hresult⟩ := (classification_paths_agree hsound hrow hsale hone
      hempty).1 ⟨1, "POA-CENTRO"⟩ ⟨2, "COFFEE"⟩ rfl rfl
    have hmatches : (Ingest.outcome Sample.catalogue db 0
        (classifyExistingEvent [Sample.saleRow] Sample.sale none none)).any
          (fun r => r.1.toBool) = true := by decide +kernel
    rcases hresult with rfl | rfl
    · exact ⟨hnone, hsome⟩
    · rw [hnone] at hmatches
      cases hmatches
  · exact (classification_paths_agree hsound hrow hunknown hone hempty).2 (Or.inr rfl)

end StorePulse
