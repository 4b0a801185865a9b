import StorePulse.Backend.Assertions

/-!
# The invariant of the server

Every move of a request leads from the assertion of one point to the assertion
of the next (`Point.Holds.move`), and the assertions of the other requests are
stable.  So in every reachable state every running request is at a point whose
assertion holds, and the event table is one the specification can build
(`World.Reachable.ok`).
-/

namespace StorePulse

variable {cat : Catalogue} {db db' : Db} {i j : Nat} {p : EventCreate} {store : Store}
  {product : Product} {e : PosEvent} {T : List PosEvent}

/-! ## Classification -/

/-- The comparison of the source is the equality of the producer fields. -/
theorem matches_iff (hid : e.eventId = p.eventId) :
    e.toEventValues.Matches (p.values store product) ↔
      matchesEventPayload e store.id product.id p = true := by
  simp only [matchesEventPayload, Bool.and_eq_true, beq_iff_eq]
  constructor
  · intro h
    exact ⟨⟨⟨⟨⟨⟨⟨⟨⟨h.storeId, h.productId⟩, h.eventType⟩, h.quantity⟩, h.amountCents⟩,
      h.occurredAt⟩, h.originalEventId⟩, h.sourceInstance⟩, h.metadata⟩, h.note⟩
  · rintro ⟨⟨⟨⟨⟨⟨⟨⟨⟨hs, hp⟩, ht⟩, hq⟩, ha⟩, ho⟩, hoe⟩, hsrc⟩, hm⟩, hn⟩
    exact ⟨hid, hs, hp, ht, hq, ha, ho, hoe, hsrc, hm, hn⟩

/-- A classification whose test is the identity of row and payload. -/
theorem judged_of_iff {storeMatches productMatches : Bool} {storeId productId : UUID}
    (h : (storeMatches && productMatches && matchesEventPayload e storeId productId p) = true ↔
      MatchesPayload cat e p) :
    Judged cat p e (classification e p storeMatches storeId productMatches productId) := by
  rw [classification]
  by_cases hi : MatchesPayload cat e p
  · rw [h.mpr hi]
    exact .duplicate hi
  · rw [Bool.not_eq_true _ |>.mp fun hm => hi (h.mp hm)]
    exact .conflict hi

/-- With the store and the product of the payload. -/
theorem judged_classificationWith (hl : Located cat p store product)
    (hid : e.eventId = p.eventId) :
    Judged cat p e (classificationWith e p store product) := by
  apply judged_of_iff
  simp only [Bool.and_eq_true, beq_iff_eq, ← matches_iff hid]
  constructor
  · rintro ⟨_, hs⟩
    exact ⟨store, product, hl, hs⟩
  · rintro ⟨store', product', hl', hs⟩
    obtain ⟨rfl, rfl⟩ := hl.unique hl'
    exact ⟨⟨hs.storeId, hs.productId⟩, hs⟩

/-- With the store and the product of the stored row. -/
theorem judged_classification (hid : e.eventId = p.eventId)
    (hs : cat.storeById e.storeId = some store) (hp : cat.productById e.productId = some product) :
    Judged cat p e (classification e p (store.code == p.storeCode) store.id
      (product.sku == p.productSku) product.id) := by
  apply judged_of_iff
  simp only [Bool.and_eq_true, beq_iff_eq, ← matches_iff hid]
  constructor
  · rintro ⟨⟨hcode, hsku⟩, hsame⟩
    refine ⟨store, product, ⟨?_, ?_⟩, hsame⟩
    · rw [← hcode]
      exact Catalogue.storeByCode_of_id hs
    · rw [← hsku]
      exact Catalogue.productBySku_of_id hp
  · rintro ⟨store', product', hl, hsame⟩
    have hstore : store' = store := by
      have hfound := Catalogue.storeById_of_code hl.store
      rw [show store'.id = e.storeId from hsame.storeId.symm, hs] at hfound
      exact (Option.some.inj hfound).symm
    have hproduct : product' = product := by
      have hfound := Catalogue.productById_of_sku hl.product
      rw [show product'.id = e.productId from hsame.productId.symm, hp] at hfound
      exact (Option.some.inj hfound).symm
    subst hstore hproduct
    exact ⟨⟨Catalogue.storeByCode_code hl.store, Catalogue.productBySku_sku hl.product⟩, hsame⟩

/-! ## Stored rows -/

/-- The store of a stored row exists. -/
theorem WellFormed.store_of_mem (h : WellFormed cat T) (he : e ∈ T) :
    ∃ store, cat.storeById e.storeId = some store := by
  obtain ⟨p, store, product, hw⟩ := h.written e he
  refine ⟨store, ?_⟩
  rw [show e.storeId = store.id from congrArg EventValues.storeId hw.values]
  exact Catalogue.storeById_of_code hw.located.store

/-- The product of a stored row exists. -/
theorem WellFormed.product_of_mem (h : WellFormed cat T) (he : e ∈ T) :
    ∃ product, cat.productById e.productId = some product := by
  obtain ⟨p, store, product, hw⟩ := h.written e he
  refine ⟨product, ?_⟩
  rw [show e.productId = product.id from congrArg EventValues.productId hw.values]
  exact Catalogue.productById_of_sku hw.located.product

/-! ## The database -/

/-- What holds of the database between any two steps. -/
structure Db.Consistent (cat : Catalogue) (db : Db) : Prop where
  exclusive : db.locks.Exclusive LockMode.conflicts
  wellFormed : WellFormed cat db.events.committed
  guarded : ∀ j, db.Guarded j

theorem Db.consistent_initial (clock : Instant) : (Db.initial clock).Consistent cat :=
  ⟨LockTable.exclusive_empty, .nil, fun _ => (Db.idle_initial clock).guarded⟩

/-- A granted key is the key of no uncommitted row of another transaction. -/
theorem Db.Consistent.key_free {v : EventValues} (hc : db.Consistent cat)
    (hg : db.locks.grantable LockMode.conflicts i v.locks = true) (hown : db.events.own i = [])
    (he : e ∈ db.events.pending.map Prod.snd) : e.eventId ≠ v.eventId := by
  intro hid
  obtain ⟨⟨j, _⟩, hm, rfl⟩ := List.mem_map.mp he
  have hj := mem_ownedBy.mpr hm
  have hkey := (hc.guarded j _ hj).1
  have hne : j ≠ i := by
    rintro rfl
    rw [show ownedBy db.events.pending j = [] from hown] at hj
    cases hj
  refine LockTable.grantable_iff.mp hg j ⟨hne, _, hkey, (.eventKey v.eventId, .forUpdate), ?_, ?_⟩
  · simp [EventValues.locks]
  · exact ⟨congrArg Resource.eventKey hid, rfl⟩

/-! ## Insertion -/

/-- What is looked up by a transaction that has written nothing is committed. -/
theorem findEvent_committed {id : UUID} (h : db.events.own i = [])
    (hf : findEvent (db.events.visible i) id = some e) :
    e ∈ db.events.committed ∧ e.eventId = id := by
  rw [TxTable.visible_of_own_nil h] at hf
  exact findEvent_mem hf

theorem findEvent_not_committed {id : UUID} (h : db.events.own i = [])
    (hf : findEvent (db.events.visible i) id = none) :
    ∀ e ∈ db.events.committed, e.eventId ≠ id := by
  rw [TxTable.visible_of_own_nil h] at hf
  exact findEvent_none hf

/-- The values of a payload violate no check. -/
theorem Admissible.check {original : Option PosEvent}
    (h : Admissible db i p store product original) :
    (p.values store product).violatedCheck = none := by
  have hq : 0 < (p.values store product).quantity := p.base.quantity_pos
  have ha : 0 < (p.values store product).amountCents := p.base.amountCents_pos
  have href : ((p.values store product).eventType = .sale ∧
      (p.values store product).originalEventId = none) ∨
      ((p.values store product).eventType = .refund ∧
        (p.values store product).originalEventId ≠ none) := by
    cases p with
    | sale p => exact Or.inl ⟨rfl, rfl⟩
    | refund p => exact Or.inr ⟨rfl, Option.some_ne_none _⟩
  have hself : (p.values store product).originalEventId ≠
      some (p.values store product).eventId := by
    intro hs
    have hs' : payloadOriginalEventId p = some p.eventId := hs
    cases original with
    | none => rw [show payloadOriginalEventId p = none from h] at hs'; cases hs'
    | some original =>
        rw [h.1.names] at hs'
        exact h.1.other (Option.some.inj hs')
  rw [EventValues.violatedCheck, if_neg (not_not_intro hq), if_neg (not_not_intro ha),
    if_neg (not_not_intro href), if_neg hself]

/-- The values of a payload violate no foreign key. -/
theorem Admissible.foreignKey {original : Option PosEvent} {row : PosEvent}
    (hn : Located cat p store product) (h : Admissible db i p store product original) :
    (p.values store product).violatedForeignKey cat (db.events.visible i ++ [row]) = none := by
  have hs : cat.storeById (p.values store product).storeId = some store :=
    Catalogue.storeById_of_code hn.store
  have hp : cat.productById (p.values store product).productId = some product :=
    Catalogue.productById_of_sku hn.product
  rw [EventValues.violatedForeignKey, hs, hp]
  simp only [Option.isNone_some, Bool.false_eq_true, if_false]
  cases ho : (p.values store product).originalEventId with
  | none => rfl
  | some o =>
      have ho' : payloadOriginalEventId p = some o := ho
      cases original with
      | none => rw [show payloadOriginalEventId p = none from h] at ho'; cases ho'
      | some original =>
          have hid : original.eventId = o := Option.some.inj (h.1.names.symm.trans ho')
          simp only
          rw [if_pos]
          simp only [List.any_eq_true, List.mem_append, beq_iff_eq]
          exact ⟨original, Or.inl (List.mem_append_left _ h.1.stored), hid⟩

/-- The row a payload inserts is one the ledger admits. -/
theorem Admissible.admits {original : Option PosEvent} {row : PosEvent}
    (h : Admissible db i p store product original) (hw : WrittenFor cat p store product row)
    (hfresh : ∀ e ∈ db.events.committed, e.eventId ≠ p.eventId) :
    refundLedger.Admits db.events.committed row where
  fresh e he hk := hfresh e he (hk.trans hw.eventId)
  room o ho := by
    have ho' : payloadOriginalEventId p = some o := hw.refunds.symm.trans ho
    cases original with
    | none => rw [show payloadOriginalEventId p = none from h] at ho'; cases ho'
    | some original =>
        have hid : original.eventId = o := Option.some.inj (h.1.names.symm.trans ho')
        refine ⟨original, h.1.stored, hid, ⟨h.1.sale, h.1.root, ?_, ?_⟩, fun d => ?_⟩
        · rw [h.1.store]
          exact congrArg EventValues.storeId hw.values
        · rw [h.1.product]
          exact congrArg EventValues.productId hw.values
        · show refundLedger.spent d _ o + d.of row.toEventValues ≤ d.of original.toEventValues
          rw [hw.amount d, ← hid]
          exact h.2 d

/-- The `INSERT` has written the row. -/
theorem Admissible.accepting {original : Option PosEvent} (hn : Named cat p store product)
    (h : Admissible db i p store product original) (hown : db.events.own i = [])
    (hfit : (p.values store product).fitsColumns = true)
    (hf : findEvent (db.events.visible i) p.eventId = none) :
    Accepting cat { db.lock i (p.values store product).locks with
      events := db.events.write i (db.newRow i (p.values store product)) } i p store product
      (db.newRow i (p.values store product)) where
  written := ⟨hn.toLocated, EventCreate.fits_of_values hn.storeCode hn.productSku hfit, rfl⟩
  admits := h.admits
    ⟨hn.toLocated, EventCreate.fits_of_values hn.storeCode hn.productSku hfit, rfl⟩
    (findEvent_not_committed hown hf)
  own := by rw [TxTable.own_write_self, hown, List.nil_append]
  key := mem_own_lock_new (by simp [EventValues.locks, EventCreate.values])
  original o ho := by
    cases original with
    | none => rw [show payloadOriginalEventId p = none from h] at ho; cases ho
    | some original =>
        rw [h.1.names] at ho
        cases ho
        exact mem_own_lock h.1.lock

/-! ## Moves -/

namespace Point

variable {pt pt' : Point}

theorem takes_level : ∀ l ∈ pt.takes p, Lock.level l < 4 := by
  intro l hl
  cases pt with
  | lockOriginal o store product =>
      obtain rfl := List.mem_singleton.mp hl
      exact Nat.lt_of_sub_eq_succ rfl
  | insert store product original =>
      exact (EventValues.locks_level _ l hl).trans (Nat.lt_succ_self 3)
  | updateStore store t =>
      obtain rfl := List.mem_singleton.mp hl
      exact Nat.lt_succ_self 3
  | _ => cases hl

theorem level_le : pt.level ≤ 4 := by
  cases pt <;> simp [level]

/-- A refund that matches its original. -/
theorem mismatch_none {original : PosEvent} (h : mismatch store product original = none) :
    original.storeId = store.id ∧ original.productId = product.id := by
  rw [mismatch] at h
  split at h
  · cases h
  · next hs =>
    split at h
    · cases h
    · next hp => exact ⟨not_not.mp hs, not_not.mp hp⟩

/-- A refund within the limits has room. -/
theorem room_of_exceeded_none {original : PosEvent} (hown : db.events.own i = [])
    (h : exceeded p original (sums db i original.eventId) = none) :
    Room db.events.committed p original := by
  rw [exceeded, sums, TxTable.visible_of_own_nil hown] at h
  split at h
  · cases h
  · next hq =>
    split at h
    · cases h
    · next ha =>
      intro d
      rw [spent_eq_sumOfRefunds]
      cases d with
      | quantity => exact not_lt.mp hq
      | amountCents => exact not_lt.mp ha

/-- At the top level any locks are allowed. -/
theorem locksBelow_top (pt : Point) {n : Nat} {ls : List Lock}
    (h : LocksBelow db i pt.level (pt.takes p))
    (hn : n = 4) : LocksBelow db i n ls := by
  subst hn
  exact h.mono level_le fun l hl => Or.inl (takes_level l hl)

/-- Requests take locks from the bottom to the top. -/
theorem Move.locks (hm : Move cat db i p pt pt' db')
    (h : LocksBelow db i pt.level (pt.takes p)) : LocksBelow db' i pt'.level (pt'.takes p) := by
  cases hm with
  | begin | precheckMiss | precheckHit | storeRead | storeFound => exact h
  | productOfSale => exact h.mono (Nat.zero_le 2) fun l hl => by cases hl
  | productOfRefund => exact h.mono (Nat.zero_le 1) fun l hl => by cases hl
  | originalLocked =>
      refine (h.acquire fun l hl => hl).mono (Nat.le_succ 1) fun l hl => ?_
      obtain rfl := List.mem_singleton.mp hl
      exact Or.inl (Nat.lt_succ_self 1)
  | recheckMiss => exact h
  | limitKept => exact h.mono le_rfl fun l hl => by cases hl
  | inserted =>
      refine LocksBelow.mono (m := 2) (h.acquire fun l hl => hl) (Nat.le_succ 2) fun l hl => ?_
      exact Or.inl (EventValues.locks_level _ l hl)
  | insertedSeen =>
      exact locksBelow_top (.insert _ _ none) (h.acquire fun l hl => hl) rfl
  | storeUpdated =>
      exact locksBelow_top (.updateStore _ _) (h.acquire fun l hl => hl) rfl
  | originalInvalid =>
      exact locksBelow_top (.lockOriginal _ _ _) (h.acquire fun l hl => hl) rfl
  | insertDuplicateKey | insertForeignKey =>
      exact locksBelow_top (.insert _ _ none) (h.acquire fun l hl => hl) rfl
  | committed => exact .of_own_nil LockTable.own_release_self
  | rolledBack => exact .of_own_nil LockTable.own_release_self
  | _ => exact locksBelow_top _ h rfl

/-- Nothing is uncommitted after a move to a point that is not writing. -/
theorem Move.quiet (h : pt.Holds cat db i p) (hm : Move cat db i p pt pt' db')
    (hw : ¬ pt'.Writing) : db'.events.own i = [] ∧ db'.lastSeen.own i = [] := by
  cases hm with
  | inserted | insertedSeen | storeUpdated => exact absurd trivial hw
  | committed => exact ⟨TxTable.own_commit_self, TxTable.own_commit_self⟩
  | rolledBack => exact ⟨TxTable.own_rollback_self, TxTable.own_rollback_self⟩
  | _ => exact h.quiet not_false

/-- A move leads from what is known at one point to what is known at the next. -/
theorem Move.knows (hc : db.Consistent cat) (h : pt.Holds cat db i p)
    (hm : Move cat db i p pt pt' db') : pt'.Knows cat db' i p := by
  have hk := h.knows
  cases hm with
  | begin | precheckMiss | storeUnreadable | storeUnknown | productUnreadable | productUnknown
  | originalMissing | originalInvalid | recheckMismatch | limitExceeded | insertUnfit
  | insertChecked | insertDuplicateKey | insertForeignKey | broadcast => trivial
  | precheckHit hf => exact findEvent_committed (h.quiet not_false).1 hf
  | storeMissing hs =>
      obtain ⟨store, hfound⟩ := hc.wellFormed.store_of_mem hk.1
      rw [hs] at hfound
      cases hfound
  | storeRead hs => exact ⟨hk, _, hs, rfl, rfl⟩
  | productMissing hp =>
      obtain ⟨product, hfound⟩ := hc.wellFormed.product_of_mem hk.1.1
      rw [hp] at hfound
      cases hfound
  | productRead hp =>
      obtain ⟨⟨he, hid⟩, store, hs, rfl, rfl⟩ := hk
      exact ⟨_, he, hid, judged_classification hid hs hp⟩
  | storeFound hs hn => exact ⟨hn, hs⟩
  | productOfSale hp hn ho => exact ⟨⟨⟨hk.2, hp⟩, hk.1, hn⟩, ho⟩
  | productOfRefund hp hn ho => exact ⟨⟨⟨hk.2, hp⟩, hk.1, hn⟩, ho⟩
  | originalLocked hf hsale hroot =>
      obtain ⟨hmem, hid⟩ := findEvent_committed (h.quiet not_false).1 hf
      refine ⟨hk.1, ⟨?_, hmem, hsale, hroot, mem_own_lock_new ?_⟩⟩
      · rw [hid]
        exact hk.2
      · rw [hid]
        exact List.mem_singleton_self _
  | recheckHit hf =>
      obtain ⟨hmem, hid⟩ := findEvent_committed (h.quiet not_false).1 hf
      exact ⟨_, hmem, hid, judged_classificationWith hk.1.toLocated hid⟩
  | recheckMiss hf hm =>
      have hnone := findEvent_not_committed (h.quiet not_false).1 hf
      obtain ⟨hs, hp⟩ := mismatch_none hm
      exact ⟨hk.1, { hk.2 with
        store := hs
        product := hp
        other := hnone _ hk.2.stored
        unclaimed := fun r hr hid => absurd hid (hnone r hr) }⟩
  | limitKept hl =>
      refine ⟨hk.1, hk.2, ?_⟩
      exact room_of_exceeded_none (h.quiet not_false).1 hl
  | insertConflict hf => exact ⟨hk.1, _, findEvent_committed (h.quiet not_false).1 hf⟩
  | inserted hfit _ hf _ hne =>
      exact ⟨⟨_, _, hk.2.accepting hk.1 (h.quiet not_false).1 hfit hf, rfl,
        (h.quiet not_false).2⟩, hne⟩
  | insertedSeen hfit _ hf _ hseen =>
      refine ⟨_, _, hk.2.accepting hk.1 (h.quiet not_false).1 hfit hf, rfl, ?_⟩
      rw [LoadedStore.versions_of_eq hseen]
      exact (h.quiet not_false).2
  | classifiedInvisible hf =>
      obtain ⟨_, e, he, hid⟩ := hk
      exact absurd hid (findEvent_not_committed (h.quiet not_false).1 hf e he)
  | classified hf =>
      obtain ⟨hmem, hid⟩ := findEvent_committed (h.quiet not_false).1 hf
      exact ⟨_, hmem, hid, judged_classificationWith hk.1.toLocated hid⟩
  | storeUpdated =>
      obtain ⟨⟨product, row, ha, rfl, hseen⟩, hne⟩ := hk
      refine ⟨product, row, { ha.acquire with own := ha.own }, rfl, ?_⟩
      rw [TxTable.own_write_self, hseen, List.nil_append, LoadedStore.versions_of_ne hne]
  | @committed store =>
      obtain ⟨product, row, ha, rfl, _⟩ := hk
      refine ⟨store, product, row, ?_, ha.written, rfl⟩
      show row ∈ db.events.committed ++ db.events.own i
      rw [ha.own]
      exact List.mem_append_right _ (List.mem_singleton_self row)
  | rolledBack =>
      obtain ⟨e, _, _, hj⟩ := hk
      cases hj <;> trivial

/-- A move leads from the assertion of one point to that of the next. -/
theorem Holds.move (hc : db.Consistent cat) (h : pt.Holds cat db i p)
    (hm : Move cat db i p pt pt' db') : pt'.Holds cat db' i p where
  knows := hm.knows hc h
  quiet := hm.quiet h
  locks := hm.locks h.locks

end Point

namespace HeartbeatPoint

variable {pt pt' : HeartbeatPoint} {c : String}

theorem takes_level : ∀ l ∈ pt.takes, Lock.level l < 4 := by
  intro l hl
  cases pt with
  | updateStore store t =>
      obtain rfl := List.mem_singleton.mp hl
      exact Nat.lt_succ_self 3
  | _ => cases hl

theorem level_le : pt.level ≤ 4 := by
  cases pt <;> simp [level]

/-- A move leads from the assertion of one point to that of the next. -/
theorem Holds.move (h : pt.Holds db i) (hm : Move cat db i c pt pt' db') : pt'.Holds db' i := by
  have htop : LocksBelow db i 4 [] := h.locks.mono level_le fun l hl => Or.inl (takes_level l hl)
  cases hm with
  | begin => exact ⟨nofun, h.events, h.lastSeen, trivial, h.locks⟩
  | storeUnreadable => exact ⟨nofun, h.events, h.lastSeen, trivial, htop⟩
  | storeUnknown => exact ⟨nofun, h.events, h.lastSeen, trivial, htop⟩
  | storeFound => exact ⟨nofun, h.events, h.lastSeen, trivial, h.locks⟩
  | now hne =>
      exact ⟨nofun, h.events, h.lastSeen, hne,
        h.locks.mono (Nat.zero_le 3) fun l hl => by cases hl⟩
  | @nowSeen store hseen =>
      refine ⟨nofun, h.events, ?_, trivial, h.locks.mono (Nat.zero_le 4) fun l hl => by cases hl⟩
      rw [h.lastSeen]
      exact (LoadedStore.versions_of_eq hseen).symm
  | @storeUpdated store t =>
      refine ⟨nofun, h.events, ?_, trivial, ?_⟩
      · rw [TxTable.own_write_self, h.lastSeen]
        exact (LoadedStore.versions_of_ne h.changes).symm
      · refine LocksBelow.mono (m := 3) (h.locks.acquire fun l hl => hl) (Nat.le_succ 3)
          fun l hl => ?_
        obtain rfl := List.mem_singleton.mp hl
        exact Or.inl (Nat.lt_succ_self 3)
  | committed =>
      exact ⟨nofun, TxTable.own_commit_self, TxTable.own_commit_self, trivial,
        .of_own_nil LockTable.own_release_self⟩
  | broadcast => exact ⟨nofun, h.events, h.lastSeen, trivial, h.locks⟩

end HeartbeatPoint

/-! ## Commits -/

/-- Only a commit makes rows of a request visible. -/
theorem Point.Move.committed_eq {pt pt' : Point} (hm : Move cat db i p pt pt' db') :
    (db'.events.committed = db.events.committed ∧
      db'.lastSeen.committed = db.lastSeen.committed) ∨
    ∃ store t, pt = .commit store t ∧ db' = db.commit i := by
  cases hm with
  | committed => exact Or.inr ⟨_, _, rfl, rfl⟩
  | _ => exact Or.inl ⟨rfl, rfl⟩

theorem HeartbeatPoint.Move.committed_eq {pt pt' : HeartbeatPoint} {c : String}
    (hm : Move cat db i c pt pt' db') :
    (db'.events.committed = db.events.committed ∧
      db'.lastSeen.committed = db.lastSeen.committed) ∨
    ∃ store t, pt = .commit store t ∧ db' = db.commit i := by
  cases hm with
  | committed => exact Or.inr ⟨_, _, rfl, rfl⟩
  | _ => exact Or.inl ⟨rfl, rfl⟩

/-- What a request of `create_event` commits. -/
theorem Point.Holds.commit_wellFormed {store : LoadedStore} {t : Instant}
    (hc : db.Consistent cat) (h : (Point.commit store t).Holds cat db i p) :
    WellFormed cat (db.commit i).events.committed := by
  obtain ⟨product, row, ha, _, _⟩ := h.knows
  show WellFormed cat (db.events.committed ++ db.events.own i)
  rw [ha.own]
  exact hc.wellFormed.snoc ha.written ha.admits

theorem Db.Guarded.rely (h : db.Guarded j) (hr : db.Rely j db') : db'.Guarded j := by
  intro r hmem
  rw [hr.events] at hmem
  rw [hr.locks]
  exact h r hmem

/-! ## Requests -/

/-- A running program is at a point whose assertion holds. -/
def Call.At (cat : Catalogue) (db : Db) (i : Nat) (program : Program Effects Answer) :
    Call → Prop
  | .event p => ∃ pt : Point, program = pt.resume p ∧ pt.Holds cat db i p
  | .heartbeat c => ∃ pt : HeartbeatPoint, program = pt.resume c ∧ pt.Holds db i

/-- A running request is at a point whose assertion holds, and one that has ended has
nothing left. -/
def Request.Ok (cat : Catalogue) (db : Db) (i : Nat) (r : Request) : Prop :=
  match r.state with
  | .running program => r.call.At cat db i program
  | .answered _ => db.Idle i
  | .aborted => db.Idle i

section Calls

variable {call : Call} {program : Program Effects Answer}

theorem Call.At.rely (h : call.At cat db i program) (hr : db.Rely i db') :
    call.At cat db' i program := by
  cases call with
  | event p =>
      obtain ⟨pt, hp, hh⟩ := h
      exact ⟨pt, hp, hh.rely hr⟩
  | heartbeat c =>
      obtain ⟨pt, hp, hh⟩ := h
      exact ⟨pt, hp, hh.rely hr⟩

theorem Call.At.guarded (h : call.At cat db i program) : db.Guarded i := by
  cases call with
  | event p =>
      obtain ⟨_, _, hh⟩ := h
      exact hh.guarded
  | heartbeat c =>
      obtain ⟨_, _, hh⟩ := h
      exact hh.guarded

theorem Request.Ok.rely {r : Request} (h : r.Ok cat db i) (hr : db.Rely i db') :
    r.Ok cat db' i := by
  obtain ⟨call, state⟩ := r
  cases state with
  | running program => exact Call.At.rely h hr
  | answered a => exact Db.Idle.rely h hr
  | aborted => exact Db.Idle.rely h hr

theorem Request.Ok.guarded {r : Request} (h : r.Ok cat db i) : db.Guarded i := by
  obtain ⟨call, state⟩ := r
  cases state with
  | running program => exact Call.At.guarded h
  | answered a => exact Db.Idle.guarded h
  | aborted => exact Db.Idle.guarded h

/-- A request that arrives is at its first point. -/
theorem Call.at_arrived (h : db.Idle i) : call.At cat db i call.program := by
  cases call with
  | event p =>
      exact ⟨.begin, Point.createEvent_eq p, h, fun _ => ⟨h.events, h.lastSeen⟩,
        .of_own_nil h.locks⟩
  | heartbeat c =>
      exact ⟨.begin, HeartbeatPoint.heartbeat_eq c, fun _ => h, h.events, h.lastSeen, trivial,
        .of_own_nil h.locks⟩

end Calls

/-! ## Locks taken one at a time -/

section Takes

variable {s : Stmt} {k : Except SqlError s.Result → Program Effects Answer} {l : Lock}

/-- What a statement needs is what its point takes. -/
theorem Point.mem_takes {pt : Point} (ha : pt.Aligned p) (hc : pt.resume p = .call (.sql s) k)
    (hl : l ∈ db.needs i s) : l ∈ pt.takes p := by
  have he := effect_of_call ha hc
  cases pt with
  | lockOriginal o store product =>
      cases he
      simp only [Db.needs] at hl
      split at hl
      · exact hl
      · cases hl
  | insert store product original =>
      cases he
      simp only [Db.needs] at hl
      split at hl
      · exact hl
      · cases hl
  | updateStore store t => cases he; exact hl
  | broadcast result => cases he
  | done answer => cases he
  | _ => cases he; cases hl

theorem HeartbeatPoint.mem_takes {pt : HeartbeatPoint} {c : String}
    (hc : pt.resume c = .call (.sql s) k) (hl : l ∈ db.needs i s) : l ∈ pt.takes := by
  have he := effect_of_call hc
  cases pt with
  | updateStore store t => cases he; exact hl
  | begin | selectStore | commit => cases he; cases hl
  | now | broadcast | done => cases he

theorem Call.At.acquire {call : Call} (h : call.At cat db i (.call (.sql s) k))
    (hl : l ∈ db.needs i s) : call.At cat (db.lock i [l]) i (.call (.sql s) k) := by
  cases call with
  | event p =>
      obtain ⟨pt, hpt, hh⟩ := h
      exact ⟨pt, hpt, hh.acquire (Point.mem_takes hh.aligned hpt.symm hl)⟩
  | heartbeat c =>
      obtain ⟨pt, hpt, hh⟩ := h
      exact ⟨pt, hpt, hh.acquire (HeartbeatPoint.mem_takes hpt.symm hl)⟩

end Takes

/-! ## The server -/

namespace World

variable {w w' : World}

/-- The invariant of the server. -/
structure Ok (cat : Catalogue) (w : World) : Prop where
  consistent : w.db.Consistent cat
  requests : ∀ (i : Nat) (r : Request), w.requests[i]? = some r → r.Ok cat w.db i
  absent : ∀ i : Nat, w.requests[i]? = none → w.db.Idle i

theorem ok_initial (clock : Instant) : (initial clock).Ok cat where
  consistent := Db.consistent_initial clock
  requests i r h := by simp [initial] at h
  absent i _ := Db.idle_initial clock

/-- A step of request `i` that the others may rely on. -/
theorem Ok.update {r : Request} {requests : List Request} {log : List Entry} (h : w.Ok cat)
    (hexclusive : db'.locks.Exclusive LockMode.conflicts)
    (hwell : WellFormed cat db'.events.committed) (hrely : ∀ j, j ≠ i → w.db.Rely j db')
    (hi : requests[i]? = some r) (hne : ∀ j : Nat, j ≠ i → requests[j]? = w.requests[j]?)
    (hr : r.Ok cat db' i) : Ok cat ⟨db', requests, log⟩ where
  consistent := ⟨hexclusive, hwell, fun j => by
    by_cases hj : j = i
    · subst hj
      exact hr.guarded
    · exact (h.consistent.guarded j).rely (hrely j hj)⟩
  requests j r' hj := by
    by_cases hji : j = i
    · subst hji
      rw [hi] at hj
      cases hj
      exact hr
    · rw [hne j hji] at hj
      exact (h.requests j r' hj).rely (hrely j hji)
  absent j hj := by
    have hji : j ≠ i := by
      rintro rfl
      rw [hi] at hj
      cases hj
    rw [hne j hji] at hj
    exact (h.absent j hj).rely (hrely j hji)

theorem lt_of_getElem? {r : Request} (h : w.requests[i]? = some r) : i < w.requests.length :=
  (List.getElem?_eq_some_iff.mp h).1

/-- A step that sets the state of request `i`. -/
theorem Ok.set {r r' : Request} {log : List Entry} (h : w.Ok cat) (hi : w.requests[i]? = some r)
    (hexclusive : db'.locks.Exclusive LockMode.conflicts)
    (hwell : WellFormed cat db'.events.committed) (hrely : ∀ j, j ≠ i → w.db.Rely j db')
    (hr : r'.Ok cat db' i) : Ok cat ⟨db', w.requests.set i r', log⟩ :=
  h.update hexclusive hwell hrely (List.getElem?_set_self (lt_of_getElem? hi))
    (fun _ hj => List.getElem?_set_ne (Ne.symm hj)) hr

/-- The move behind an effect of a request of `create_event`. -/
theorem Ok.move {op : Op} {k : op.Reply → Program Effects Answer} {reply : op.Reply}
    (h : w.Ok cat) (hr : w.requests[i]? = some ⟨.event p, .running (.call op k)⟩)
    (hp : World.perform cat w.db i op = some (reply, db')) :
    ∃ pt pt' : Point, pt.resume p = .call op k ∧ k reply = pt'.resume p ∧
      pt.Holds cat w.db i p ∧ Point.Move cat w.db i p pt pt' db' ∧ pt'.Holds cat db' i p := by
  obtain ⟨pt, hpt, hh⟩ := h.requests i _ hr
  obtain ⟨pt', hk, hm⟩ := Point.step_cases hh.aligned hpt.symm hp
  exact ⟨pt, pt', hpt.symm, hk, hh, hm, hh.move h.consistent hm⟩

/-- The move behind an effect of a heartbeat. -/
theorem Ok.heartbeatMove {c : String} {op : Op} {k : op.Reply → Program Effects Answer}
    {reply : op.Reply} (h : w.Ok cat)
    (hr : w.requests[i]? = some ⟨.heartbeat c, .running (.call op k)⟩)
    (hp : World.perform cat w.db i op = some (reply, db')) :
    ∃ pt pt' : HeartbeatPoint, pt.resume c = .call op k ∧ k reply = pt'.resume c ∧
      pt.Holds w.db i ∧ HeartbeatPoint.Move cat w.db i c pt pt' db' ∧ pt'.Holds db' i := by
  obtain ⟨pt, hpt, hh⟩ := h.requests i _ hr
  obtain ⟨pt', hk, hm⟩ := HeartbeatPoint.step_cases hpt.symm hp
  exact ⟨pt, pt', hpt.symm, hk, hh, hm, hh.move hm⟩

/-- What an effect keeps of the database as a whole. -/
theorem Ok.perform {call : Call} {op : Op} {k : op.Reply → Program Effects Answer}
    {reply : op.Reply} (h : w.Ok cat)
    (hr : w.requests[i]? = some ⟨call, .running (.call op k)⟩)
    (hp : World.perform cat w.db i op = some (reply, db')) :
    db'.locks.Exclusive LockMode.conflicts ∧ ∀ j, j ≠ i → w.db.Rely j db' := by
  cases op with
  | sql s =>
      exact ⟨Db.exec_exclusive h.consistent.exclusive hp, fun j hj =>
        Db.exec_rely h.consistent.exclusive (h.requests i _ hr).guarded hj hp⟩
  | now => cases hp; exact ⟨h.consistent.exclusive, fun j _ => .refl _ j⟩
  | broadcast m => cases hp; exact ⟨h.consistent.exclusive, fun j _ => .refl _ j⟩

/-- An effect leads to a table the specification can build, and to a point whose assertion
holds. -/
theorem Ok.at_next {call : Call} {op : Op} {k : op.Reply → Program Effects Answer}
    {reply : op.Reply} (h : w.Ok cat)
    (hr : w.requests[i]? = some ⟨call, .running (.call op k)⟩)
    (hp : World.perform cat w.db i op = some (reply, db')) :
    WellFormed cat db'.events.committed ∧ call.At cat db' i (k reply) := by
  cases call with
  | event p =>
      obtain ⟨pt, pt', _, hk, hh, hm, hh'⟩ := h.move hr hp
      refine ⟨?_, pt', hk, hh'⟩
      rcases hm.committed_eq with ⟨he, _⟩ | ⟨store, t, rfl, rfl⟩
      · rw [he]
        exact h.consistent.wellFormed
      · exact hh.commit_wellFormed h.consistent
  | heartbeat c =>
      obtain ⟨pt, pt', _, hk, hh, hm, hh'⟩ := h.heartbeatMove hr hp
      refine ⟨?_, pt', hk, hh'⟩
      rcases hm.committed_eq with ⟨he, _⟩ | ⟨store, t, rfl, rfl⟩
      · rw [he]
        exact h.consistent.wellFormed
      · show WellFormed cat (w.db.events.committed ++ w.db.events.own i)
        rw [hh.events, List.append_nil]
        exact h.consistent.wellFormed

/-- Every step keeps the invariant. -/
theorem Ok.step {l : Label} (h : w.Ok cat) (hs : w.step cat l = some w') : w'.Ok cat := by
  cases step_cases hs with
  | @tick t ht =>
      have hrely := fun j => Db.Rely.tick ht j
      exact ⟨⟨h.consistent.exclusive, h.consistent.wellFormed, h.consistent.guarded⟩,
        fun j r hj => (h.requests j r hj).rely (hrely j),
        fun j hj => (h.absent j hj).rely (hrely j)⟩
  | @arrive call =>
      refine ⟨h.consistent, fun j r hj => ?_, fun j hj => ?_⟩
      · rw [List.getElem?_append] at hj
        split at hj
        · exact h.requests j r hj
        · next hlt =>
          rw [List.getElem?_singleton] at hj
          split at hj
          · cases hj
            exact Call.at_arrived (h.absent j (List.getElem?_eq_none (not_lt.mp hlt)))
          · cases hj
      · refine h.absent j (List.getElem?_eq_none ?_)
        have hlen := List.getElem?_eq_none_iff.mp hj
        rw [List.length_append] at hlen
        exact (Nat.le_add_right _ _).trans hlen
  | @lock i l call s k hr hl hg =>
      exact h.update (h.consistent.exclusive.acquire LockMode.conflicts_symm hg)
        h.consistent.wellFormed (fun j hj => .lock hj) hr (fun _ _ => rfl)
        (Call.At.acquire (h.requests i _ hr) hl)
  | perform hr hp =>
      obtain ⟨hexclusive, hrely⟩ := h.perform hr hp
      obtain ⟨hwell, hat⟩ := h.at_next hr hp
      exact h.set hr hexclusive hwell hrely hat
  | answer hr =>
      exact h.set hr h.consistent.exclusive.release h.consistent.wellFormed
        (fun _ hj => .rollback hj) Db.idle_rollback
  | abort hr =>
      exact h.set hr h.consistent.exclusive.release h.consistent.wellFormed
        (fun _ hj => .rollback hj) Db.idle_rollback

/-- The invariant holds in every reachable state. -/
theorem Reachable.ok (h : Reachable cat w) : w.Ok cat := by
  obtain ⟨clock, hr⟩ := h
  exact hr.invariant (ok_initial clock) fun _ _ _ _ ht hs => ht.step hs

end World

end StorePulse
