import StorePulse.Backend.ControlFlow
import StorePulse.Backend.Statements

/-!
# Moves

`Point.Move` lists what one effect of a running request can do: from which point
it goes to which, on what condition, and the database after it.  A request makes
these moves and no others (`Point.step_cases`).  The moves that lead to a
`RuntimeError` or to a violated constraint are listed too; that a request never
makes them is for the invariant to say.
-/

namespace StorePulse

variable {cat : Catalogue} {db db' : Db} {i : Nat}

namespace Point

/-- A loaded row is where `session.get` expects it. -/
def Aligned (p : EventCreate) : Point → Prop
  | .classifyStore existing => existing.eventId = p.eventId
  | .insert _ _ (some original) => original.eventId ≠ p.eventId
  | _ => True

/-- The effect a point is named after. -/
def effect (p : EventCreate) : Point → Option Op
  | .begin => some (.sql .begin)
  | .precheck => some (.sql (.selectEvent p.eventId))
  | .classifyStore existing => some (.sql (.getStore existing.storeId))
  | .classifyProduct existing _ _ => some (.sql (.getProduct existing.productId))
  | .findStore => some (.sql (.selectStore p.storeCode))
  | .findProduct _ => some (.sql (.selectProduct p.productSku))
  | .lockOriginal original _ _ => some (.sql (.lockEvent original))
  | .recheck _ _ _ => some (.sql (.selectEvent p.eventId))
  | .sumRefunds _ _ original => some (.sql (.sumRefunds original.eventId))
  | .insert store product _ => some (.sql (.insertEvent (p.values store product)))
  | .classifyEvent _ _ => some (.sql (.selectEvent p.eventId))
  | .updateStore store receivedAt => some (.sql (.updateLastSeen store.id receivedAt))
  | .commit _ _ => some (.sql .commit)
  | .rollback _ => some (.sql .rollback)
  | .broadcast _ => some (.broadcast (.eventsChanged p.storeCode))
  | .done _ => none

section Effect

variable {p : EventCreate} {pt : Point} {op : Op}

/-- A point starts with its effect. -/
theorem resume_effect (ha : pt.Aligned p) (he : pt.effect p = some op) :
    ∃ k, pt.resume p = .call op k := by
  cases pt with
  | begin => cases he; exact ⟨_, resume_begin p⟩
  | precheck => cases he; exact ⟨_, resume_precheck p⟩
  | classifyStore e => cases he; exact ⟨_, resume_classifyStore p ha⟩
  | classifyProduct e b id => cases he; exact ⟨_, resume_classifyProduct p e b id⟩
  | findStore => cases he; exact ⟨_, resume_findStore p⟩
  | findProduct store => cases he; exact ⟨_, resume_findProduct p store⟩
  | lockOriginal o store product => cases he; exact ⟨_, resume_lockOriginal p o store product⟩
  | recheck store product original => cases he; exact ⟨_, resume_recheck p store product original⟩
  | sumRefunds store product original =>
      cases he
      exact ⟨_, resume_sumRefunds p store product original⟩
  | insert store product original => cases he; exact ⟨_, resume_insert p store product original⟩
  | classifyEvent store product => cases he; exact ⟨_, resume_classifyEvent p store product⟩
  | updateStore store t => cases he; exact ⟨_, resume_updateStore p store t⟩
  | commit store t => cases he; exact ⟨_, resume_commit p store t⟩
  | rollback outcome => cases he; exact ⟨_, resume_rollback p outcome⟩
  | broadcast result => cases he; exact ⟨_, resume_broadcast p result⟩
  | done answer => cases he

/-- A program at a point that performs an effect performs that of the point. -/
theorem effect_of_call {k : op.Reply → Program Effects Answer} (ha : pt.Aligned p)
    (hc : pt.resume p = .call op k) : pt.effect p = some op := by
  cases he : pt.effect p with
  | none =>
      cases pt with
      | done answer => cases hc
      | _ => cases he
  | some op' =>
      obtain ⟨k', hk⟩ := resume_effect ha he
      rw [hc] at hk
      cases hk
      rfl

/-- A program that has ended is at the last point. -/
theorem eq_done {a : Answer} (ha : pt.Aligned p) (h : pt.resume p = .ret a) : pt = .done a := by
  cases pt with
  | done b => cases h; rfl
  | _ =>
      obtain ⟨k, hk⟩ := resume_effect ha rfl
      rw [h] at hk
      cases hk

end Effect

/-- The limit a refund exceeds, when `sums` have been refunded. -/
def exceeded (p : EventCreate) (original : PosEvent) (sums : Int × Int) : Option String :=
  if sums.1 + p.base.quantity > original.quantity then
    some "refund exceeds remaining sale quantity"
  else if sums.2 + p.base.amountCents > original.amountCents then
    some "refund exceeds remaining sale amount"
  else none

/-- In which of store and product a refund differs from its original. -/
def mismatch (store : Store) (product : Product) (original : PosEvent) : Option String :=
  if original.storeId ≠ store.id then some "refund store must match original sale"
  else if original.productId ≠ product.id then some "refund product must match original sale"
  else none

/-- The sums transaction `i` reads. -/
def sums (db : Db) (i : Nat) (original : UUID) : Int × Int :=
  (sumOfRefunds (fun e => e.quantity) (db.events.visible i) original,
    sumOfRefunds (fun e => e.amountCents) (db.events.visible i) original)

/-- The end of a request whose statement failed. -/
def failed (e : SqlError) : Point := .done (raiseHttp (.sqlError e))

/-- What one effect of request `i` can do. -/
inductive Move (cat : Catalogue) (db : Db) (i : Nat) (p : EventCreate) : Point → Point → Db → Prop
  | begin :
      Move cat db i p .begin .precheck { db with sessions := db.sessions ++ [(i, db.clock)] }
  | precheckMiss : findEvent (db.events.visible i) p.eventId = none →
      Move cat db i p .precheck .findStore db
  | precheckHit {e : PosEvent} : findEvent (db.events.visible i) p.eventId = some e →
      Move cat db i p .precheck (.classifyStore e) db
  | storeMissing {e : PosEvent} : cat.storeById e.storeId = none →
      Move cat db i p (.classifyStore e)
        (.rollback (.error (.runtimeError "stored event references a missing store"))) db
  | storeRead {e : PosEvent} {store : Store} : cat.storeById e.storeId = some store →
      Move cat db i p (.classifyStore e)
        (.classifyProduct e (store.code == p.storeCode) store.id) db
  | productMissing {e : PosEvent} {b : Bool} {id : UUID} : cat.productById e.productId = none →
      Move cat db i p (.classifyProduct e b id)
        (.rollback (.error (.runtimeError "stored event references a missing product"))) db
  | productRead {e : PosEvent} {b : Bool} {id : UUID} {product : Product} :
      cat.productById e.productId = some product →
      Move cat db i p (.classifyProduct e b id)
        (.rollback (classification e p b id (product.sku == p.productSku) product.id)) db
  | storeUnreadable : noNul p.storeCode = false → Move cat db i p .findStore (failed .dataError) db
  | storeUnknown : cat.storeByCode p.storeCode = none → noNul p.storeCode = true →
      Move cat db i p .findStore (.done (raiseHttp (.unknownStore p.storeCode))) db
  | storeFound {store : Store} : cat.storeByCode p.storeCode = some store →
      noNul p.storeCode = true →
      Move cat db i p .findStore (.findProduct (db.loadStore i store)) db
  | productUnreadable {store : LoadedStore} : noNul p.productSku = false →
      Move cat db i p (.findProduct store) (failed .dataError) db
  | productUnknown {store : LoadedStore} : cat.productBySku p.productSku = none →
      noNul p.productSku = true →
      Move cat db i p (.findProduct store) (.done (raiseHttp (.unknownProduct p.productSku))) db
  | productOfSale {store : LoadedStore} {product : Product} :
      cat.productBySku p.productSku = some product → noNul p.productSku = true →
      payloadOriginalEventId p = none →
      Move cat db i p (.findProduct store) (.insert store product none) db
  | productOfRefund {store : LoadedStore} {product : Product} {original : UUID} :
      cat.productBySku p.productSku = some product → noNul p.productSku = true →
      payloadOriginalEventId p = some original →
      Move cat db i p (.findProduct store) (.lockOriginal original store product) db
  | originalMissing {o : UUID} {store : LoadedStore} {product : Product} :
      findEvent (db.events.visible i) o = none →
      Move cat db i p (.lockOriginal o store product)
        (.done (raiseHttp (.originalSaleNotFound o))) db
  | originalInvalid {o : UUID} {store : LoadedStore} {product : Product} {e : PosEvent} :
      findEvent (db.events.visible i) o = some e →
      e.eventType ≠ .sale ∨ e.originalEventId ≠ none →
      Move cat db i p (.lockOriginal o store product) (.done (raiseHttp (.invalidOriginalSale o)))
        (db.lock i [(.event o, .forUpdate)])
  | originalLocked {o : UUID} {store : LoadedStore} {product : Product} {e : PosEvent} :
      findEvent (db.events.visible i) o = some e → e.eventType = .sale →
      e.originalEventId = none →
      Move cat db i p (.lockOriginal o store product) (.recheck store product e)
        (db.lock i [(.event o, .forUpdate)])
  | recheckHit {store : LoadedStore} {product : Product} {original e : PosEvent} :
      findEvent (db.events.visible i) p.eventId = some e →
      Move cat db i p (.recheck store product original)
        (.rollback (classificationWith e p store product)) db
  | recheckMismatch {store : LoadedStore} {product : Product} {original : PosEvent} {m : String} :
      findEvent (db.events.visible i) p.eventId = none →
      mismatch store product original = some m →
      Move cat db i p (.recheck store product original)
        (.done (raiseHttp (.refundReferenceMismatch m))) db
  | recheckMiss {store : LoadedStore} {product : Product} {original : PosEvent} :
      findEvent (db.events.visible i) p.eventId = none → mismatch store product original = none →
      Move cat db i p (.recheck store product original) (.sumRefunds store product original) db
  | limitExceeded {store : LoadedStore} {product : Product} {original : PosEvent} {m : String} :
      exceeded p original (sums db i original.eventId) = some m →
      Move cat db i p (.sumRefunds store product original)
        (.done (raiseHttp (.refundLimitExceeded m))) db
  | limitKept {store : LoadedStore} {product : Product} {original : PosEvent} :
      exceeded p original (sums db i original.eventId) = none →
      Move cat db i p (.sumRefunds store product original) (.insert store product (some original))
        db
  | insertUnfit {store : LoadedStore} {product : Product} {original : Option PosEvent} :
      (p.values store product).fitsColumns = false →
      Move cat db i p (.insert store product original) (failed .dataError) db
  | insertChecked {store : LoadedStore} {product : Product} {original : Option PosEvent}
      {c : Constraint} : (p.values store product).violatedCheck = some c →
      Move cat db i p (.insert store product original) (failed (.violation c)) db
  | insertConflict {store : LoadedStore} {product : Product} {original : Option PosEvent}
      {e : PosEvent} : findEvent (db.events.visible i) p.eventId = some e →
      Move cat db i p (.insert store product original) (.classifyEvent store product) db
  | insertDuplicateKey {store : LoadedStore} {product : Product} {original : Option PosEvent}
      {e : PosEvent} : findEvent (db.events.visible i) p.eventId = none →
      e ∈ db.events.committed ++ db.events.pending.map Prod.snd → e.eventId = p.eventId →
      db.locks.grantable LockMode.conflicts i (p.values store product).locks = true →
      Move cat db i p (.insert store product original) (failed (.violation .primaryKey))
        (db.lock i (p.values store product).locks)
  | insertForeignKey {store : LoadedStore} {product : Product} {original : Option PosEvent}
      {c : Constraint} :
      (p.values store product).violatedForeignKey cat
        (db.events.visible i ++ [db.newRow i (p.values store product)]) = some c →
      Move cat db i p (.insert store product original) (failed (.violation c))
        (db.lock i (p.values store product).locks)
  | inserted {store : LoadedStore} {product : Product} {original : Option PosEvent} :
      (p.values store product).fitsColumns = true →
      (p.values store product).violatedCheck = none →
      findEvent (db.events.visible i) p.eventId = none →
      (p.values store product).violatedForeignKey cat
        (db.events.visible i ++ [db.newRow i (p.values store product)]) = none →
      store.lastSeenAt ≠ some (db.transactionStart i) →
      Move cat db i p (.insert store product original)
        (.updateStore store (db.transactionStart i))
        { db.lock i (p.values store product).locks with
          events := db.events.write i (db.newRow i (p.values store product)) }
  /-- The session loaded `received_at` as `last_seen_at`, so there is nothing to flush. -/
  | insertedSeen {store : LoadedStore} {product : Product} {original : Option PosEvent} :
      (p.values store product).fitsColumns = true →
      (p.values store product).violatedCheck = none →
      findEvent (db.events.visible i) p.eventId = none →
      (p.values store product).violatedForeignKey cat
        (db.events.visible i ++ [db.newRow i (p.values store product)]) = none →
      store.lastSeenAt = some (db.transactionStart i) →
      Move cat db i p (.insert store product original) (.commit store (db.transactionStart i))
        { db.lock i (p.values store product).locks with
          events := db.events.write i (db.newRow i (p.values store product)) }
  | classifiedInvisible {store : Store} {product : Product} :
      findEvent (db.events.visible i) p.eventId = none →
      Move cat db i p (.classifyEvent store product) (.rollback (.error (.runtimeError
        "event conflict was reported but the existing row is not visible"))) db
  | classified {store : Store} {product : Product} {e : PosEvent} :
      findEvent (db.events.visible i) p.eventId = some e →
      Move cat db i p (.classifyEvent store product)
        (.rollback (classificationWith e p store product)) db
  | storeUpdated {store : LoadedStore} {t : Instant} :
      Move cat db i p (.updateStore store t) (.commit store t)
        { db.lock i [(.store store.id, .forNoKeyUpdate)] with
          lastSeen := db.lastSeen.write i (store.id, t) }
  | committed {store : LoadedStore} {t : Instant} :
      Move cat db i p (.commit store t) (.broadcast ⟨p.eventId, .accepted, t⟩) (db.commit i)
  | rolledBack {outcome : Except Exception EventIngestionResult} :
      Move cat db i p (.rollback outcome) (afterRollback outcome) (db.rollback i)
  | broadcast {result : EventIngestionResult} :
      Move cat db i p (.broadcast result) (.done (.event 201 result)) db

/-- The limit check of the source, as one value. -/
theorem limits_eq {α : Type} (p : EventCreate) (original : PosEvent) (sums : Int × Int)
    (refused : String → α) (kept : α) :
    (if sums.1 + p.base.quantity > original.quantity then
      refused "refund exceeds remaining sale quantity"
    else if sums.2 + p.base.amountCents > original.amountCents then
      refused "refund exceeds remaining sale amount"
    else kept) =
    match exceeded p original sums with
    | some m => refused m
    | none => kept := by
  rw [exceeded]
  split
  · rfl
  · split <;> rfl

/-- The reference check of the source, as one value. -/
theorem references_eq {α : Type} (store : Store) (product : Product) (original : PosEvent)
    (refused : String → α) (kept : α) :
    (if original.storeId ≠ store.id then refused "refund store must match original sale"
    else if original.productId ≠ product.id then refused "refund product must match original sale"
    else kept) =
    match mismatch store product original with
    | some m => refused m
    | none => kept := by
  rw [mismatch]
  split
  · rfl
  · split <;> rfl

/-- What a running request can do next. -/
theorem step_cases {p : EventCreate} {pt : Point} {op : Op}
    {k : op.Reply → Program Effects Answer} {reply : op.Reply} (ha : pt.Aligned p)
    (hc : pt.resume p = .call op k) (hp : World.perform cat db i op = some (reply, db')) :
    ∃ pt', k reply = pt'.resume p ∧ Move cat db i p pt pt' db' := by
  cases pt with
  | begin =>
      rw [resume_begin] at hc
      cases hc
      simp only [World.perform, Db.exec_begin, Option.some.injEq, Prod.mk.injEq] at hp
      obtain ⟨rfl, rfl⟩ := hp
      exact ⟨_, rfl, .begin⟩
  | precheck =>
      rw [resume_precheck] at hc
      cases hc
      simp only [World.perform, Db.exec_selectEvent, Option.some.injEq, Prod.mk.injEq] at hp
      obtain ⟨rfl, rfl⟩ := hp
      cases hf : findEvent (db.events.visible i) p.eventId with
      | none => exact ⟨_, rfl, .precheckMiss hf⟩
      | some e => exact ⟨_, rfl, .precheckHit hf⟩
  | classifyStore e =>
      rw [resume_classifyStore p ha] at hc
      cases hc
      simp only [World.perform, Db.exec_getStore, Option.some.injEq, Prod.mk.injEq] at hp
      obtain ⟨rfl, rfl⟩ := hp
      cases hf : cat.storeById e.storeId with
      | none => exact ⟨_, rfl, .storeMissing hf⟩
      | some store => exact ⟨_, rfl, .storeRead hf⟩
  | classifyProduct e b id =>
      rw [resume_classifyProduct] at hc
      cases hc
      simp only [World.perform, Db.exec_getProduct, Option.some.injEq, Prod.mk.injEq] at hp
      obtain ⟨rfl, rfl⟩ := hp
      cases hf : cat.productById e.productId with
      | none => exact ⟨_, rfl, .productMissing hf⟩
      | some product => exact ⟨_, rfl, .productRead hf⟩
  | findStore =>
      rw [resume_findStore] at hc
      cases hc
      simp only [World.perform, Db.exec_selectStore, Option.some.injEq, Prod.mk.injEq] at hp
      obtain ⟨rfl, rfl⟩ := hp
      cases hn : noNul p.storeCode with
      | false => exact ⟨_, rfl, .storeUnreadable hn⟩
      | true =>
          cases hf : cat.storeByCode p.storeCode with
          | none => exact ⟨_, rfl, .storeUnknown hf hn⟩
          | some store => exact ⟨_, rfl, .storeFound hf hn⟩
  | findProduct store =>
      rw [resume_findProduct] at hc
      cases hc
      simp only [World.perform, Db.exec_selectProduct, Option.some.injEq, Prod.mk.injEq] at hp
      obtain ⟨rfl, rfl⟩ := hp
      cases hn : noNul p.productSku with
      | false => exact ⟨_, rfl, .productUnreadable hn⟩
      | true =>
          cases hf : cat.productBySku p.productSku with
          | none => exact ⟨_, rfl, .productUnknown hf hn⟩
          | some product =>
              cases ho : payloadOriginalEventId p with
              | none => exact ⟨_, rfl, .productOfSale hf hn ho⟩
              | some o => exact ⟨_, rfl, .productOfRefund hf hn ho⟩
  | lockOriginal o store product =>
      rw [resume_lockOriginal] at hc
      cases hc
      rcases Db.exec_lockEvent hp with ⟨rfl, hf, rfl⟩ | ⟨e, rfl, hf, rfl⟩
      · exact ⟨_, rfl, .originalMissing hf⟩
      · by_cases hinv : e.eventType ≠ .sale ∨ e.originalEventId ≠ none
        · exact ⟨_, if_pos hinv, .originalInvalid hf hinv⟩
        · refine ⟨_, if_neg hinv, ?_⟩
          rw [not_or, not_not, not_not] at hinv
          exact .originalLocked hf hinv.1 hinv.2
  | recheck store product original =>
      rw [resume_recheck] at hc
      cases hc
      simp only [World.perform, Db.exec_selectEvent, Option.some.injEq, Prod.mk.injEq] at hp
      obtain ⟨rfl, rfl⟩ := hp
      cases hf : findEvent (db.events.visible i) p.eventId with
      | some e =>
          exact ⟨_, resume_loaded p (findEvent_mem hf).2 [original] store product,
            .recheckHit hf⟩
      | none =>
          simp only [references_eq store product original fun m =>
            resume p (.done (raiseHttp (.refundReferenceMismatch m)))]
          cases hm : mismatch store product original with
          | some m => exact ⟨_, rfl, .recheckMismatch hf hm⟩
          | none => exact ⟨_, rfl, .recheckMiss hf hm⟩
  | sumRefunds store product original =>
      rw [resume_sumRefunds] at hc
      cases hc
      simp only [World.perform, Db.exec_sumRefunds, Option.some.injEq, Prod.mk.injEq] at hp
      obtain ⟨rfl, rfl⟩ := hp
      have hl := limits_eq p original (sums db i original.eventId)
        (fun m => resume p (.done (raiseHttp (.refundLimitExceeded m))))
        (resume p (.insert store product (some original)))
      cases he : exceeded p original (sums db i original.eventId) with
      | some m => exact ⟨_, by rw [he] at hl; exact hl, .limitExceeded he⟩
      | none => exact ⟨_, by rw [he] at hl; exact hl, .limitKept he⟩
  | insert store product original =>
      rw [resume_insert] at hc
      cases hc
      rcases Db.exec_insertEvent hp with ⟨rfl, hfit, rfl⟩ | ⟨c, rfl, hcheck, rfl⟩ |
        ⟨e, rfl, hf, rfl⟩ | ⟨rfl, hf, ⟨e, he, hid⟩, hg, rfl⟩ | ⟨c, rfl, hfk, rfl⟩ |
        ⟨rfl, hfit, hcheck, hf, hfk, rfl⟩
      · exact ⟨_, rfl, .insertUnfit hfit⟩
      · exact ⟨_, rfl, .insertChecked hcheck⟩
      · refine ⟨_, resume_unloaded p ?_ store product, .insertConflict hf⟩
        intro l hl
        cases original with
        | none => cases hl
        | some o =>
            obtain rfl := List.mem_singleton.mp hl
            exact ha
      · exact ⟨_, rfl, .insertDuplicateKey hf he hid hg⟩
      · exact ⟨_, rfl, .insertForeignKey hfk⟩
      · by_cases hseen : store.lastSeenAt = some (db.transactionStart i)
        · exact ⟨_, if_pos hseen, .insertedSeen hfit hcheck hf hfk hseen⟩
        · exact ⟨_, if_neg hseen, .inserted hfit hcheck hf hfk hseen⟩
  | classifyEvent store product =>
      rw [resume_classifyEvent] at hc
      cases hc
      simp only [World.perform, Db.exec_selectEvent, Option.some.injEq, Prod.mk.injEq] at hp
      obtain ⟨rfl, rfl⟩ := hp
      cases hf : findEvent (db.events.visible i) p.eventId with
      | none => exact ⟨_, rfl, .classifiedInvisible hf⟩
      | some e => exact ⟨_, rfl, .classified hf⟩
  | updateStore store t =>
      rw [resume_updateStore] at hc
      cases hc
      obtain ⟨rfl, rfl⟩ := Db.exec_updateLastSeen hp
      exact ⟨_, rfl, .storeUpdated⟩
  | commit store t =>
      rw [resume_commit] at hc
      cases hc
      simp only [World.perform, Db.exec_commit, Option.some.injEq, Prod.mk.injEq] at hp
      obtain ⟨rfl, rfl⟩ := hp
      exact ⟨_, rfl, .committed⟩
  | rollback outcome =>
      rw [resume_rollback] at hc
      cases hc
      simp only [World.perform, Db.exec_rollback, Option.some.injEq, Prod.mk.injEq] at hp
      obtain ⟨rfl, rfl⟩ := hp
      exact ⟨_, rfl, .rolledBack⟩
  | broadcast result =>
      rw [resume_broadcast] at hc
      cases hc
      cases hp
      exact ⟨_, rfl, .broadcast⟩
  | done answer => cases hc

end Point

namespace HeartbeatPoint

/-- The effect a point is named after. -/
def effect (c : String) : HeartbeatPoint → Option Op
  | .begin => some (.sql .begin)
  | .selectStore => some (.sql (.selectStore c))
  | .now _ => some .now
  | .updateStore store t => some (.sql (.updateLastSeen store.id t))
  | .commit _ _ => some (.sql .commit)
  | .broadcast store _ => some (.broadcast (.storesChanged store.code))
  | .done _ => none

/-- A program at a point that performs an effect performs that of the point. -/
theorem effect_of_call {c : String} {pt : HeartbeatPoint} {op : Op}
    {k : op.Reply → Program Effects Answer} (hc : pt.resume c = .call op k) :
    pt.effect c = some op := by
  cases pt with
  | begin => rw [resume_begin] at hc; cases hc; rfl
  | selectStore => rw [resume_selectStore] at hc; cases hc; rfl
  | now store => rw [resume_now] at hc; cases hc; rfl
  | updateStore store t => rw [resume_updateStore] at hc; cases hc; rfl
  | commit store t => rw [resume_commit] at hc; cases hc; rfl
  | broadcast store t => rw [resume_broadcast] at hc; cases hc; rfl
  | done answer => cases hc

/-- What one effect of a heartbeat can do. -/
inductive Move (cat : Catalogue) (db : Db) (i : Nat) (c : String) :
    HeartbeatPoint → HeartbeatPoint → Db → Prop
  | begin :
      Move cat db i c .begin .selectStore { db with sessions := db.sessions ++ [(i, db.clock)] }
  | storeUnreadable : noNul c = false →
      Move cat db i c .selectStore (.done (.serverError (.sqlError .dataError))) db
  | storeUnknown : cat.storeByCode c = none →
      Move cat db i c .selectStore (.done (.httpException 404 "unknown store" none)) db
  | storeFound {store : Store} : cat.storeByCode c = some store →
      Move cat db i c .selectStore (.now (db.loadStore i store)) db
  | now {store : LoadedStore} : store.lastSeenAt ≠ some db.clock →
      Move cat db i c (.now store) (.updateStore store db.clock) db
  /-- The session loaded the time as `last_seen_at`, so there is nothing to flush. -/
  | nowSeen {store : LoadedStore} : store.lastSeenAt = some db.clock →
      Move cat db i c (.now store) (.commit store db.clock) db
  | storeUpdated {store : LoadedStore} {t : Instant} :
      Move cat db i c (.updateStore store t) (.commit store t)
        { db.lock i [(.store store.id, .forNoKeyUpdate)] with
          lastSeen := db.lastSeen.write i (store.id, t) }
  | committed {store : LoadedStore} {t : Instant} :
      Move cat db i c (.commit store t) (.broadcast store t) (db.commit i)
  | broadcast {store : LoadedStore} {t : Instant} :
      Move cat db i c (.broadcast store t) (.done (.heartbeat store.code t)) db

/-- What a running heartbeat can do next. -/
theorem step_cases {c : String} {pt : HeartbeatPoint} {op : Op}
    {k : op.Reply → Program Effects Answer} {reply : op.Reply}
    (hc : pt.resume c = .call op k) (hp : World.perform cat db i op = some (reply, db')) :
    ∃ pt', k reply = pt'.resume c ∧ Move cat db i c pt pt' db' := by
  cases pt with
  | begin =>
      rw [resume_begin] at hc
      cases hc
      simp only [World.perform, Db.exec_begin, Option.some.injEq, Prod.mk.injEq] at hp
      obtain ⟨rfl, rfl⟩ := hp
      exact ⟨_, rfl, .begin⟩
  | selectStore =>
      rw [resume_selectStore] at hc
      cases hc
      simp only [World.perform, Db.exec_selectStore, Option.some.injEq, Prod.mk.injEq] at hp
      obtain ⟨rfl, rfl⟩ := hp
      cases hn : noNul c with
      | false => exact ⟨_, rfl, .storeUnreadable hn⟩
      | true =>
          cases hf : cat.storeByCode c with
          | none => exact ⟨_, rfl, .storeUnknown hf⟩
          | some store => exact ⟨_, rfl, .storeFound hf⟩
  | now store =>
      rw [resume_now] at hc
      cases hc
      simp only [World.perform, Option.some.injEq, Prod.mk.injEq] at hp
      obtain ⟨rfl, rfl⟩ := hp
      by_cases hseen : store.lastSeenAt = some db.clock
      · exact ⟨_, if_pos hseen, .nowSeen hseen⟩
      · exact ⟨_, if_neg hseen, .now hseen⟩
  | updateStore store t =>
      rw [resume_updateStore] at hc
      cases hc
      obtain ⟨rfl, rfl⟩ := Db.exec_updateLastSeen hp
      exact ⟨_, rfl, .storeUpdated⟩
  | commit store t =>
      rw [resume_commit] at hc
      cases hc
      simp only [World.perform, Db.exec_commit, Option.some.injEq, Prod.mk.injEq] at hp
      obtain ⟨rfl, rfl⟩ := hp
      exact ⟨_, rfl, .committed⟩
  | broadcast store t =>
      rw [resume_broadcast] at hc
      cases hc
      cases hp
      exact ⟨_, rfl, .broadcast⟩
  | done answer => cases hc

end HeartbeatPoint

end StorePulse
