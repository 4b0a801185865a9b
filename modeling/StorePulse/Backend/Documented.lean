import StorePulse.Backend.Alone

/-!
# Documented answers

`create_event` documents the status codes 200, 201, 404, 409 and 422.  The
schema lets values pass that the columns cannot hold: integers beyond `BIGINT`,
texts with U+0000, metadata that JSONB cannot hold, instants the driver cannot
encode.  A request is answered with 500 when it comes to bind such a value, and
with a documented code otherwise (`Servable`).

A request that runs alone sees one table, so what it has read is known at every
point (`Point.Trail`).
-/

namespace StorePulse

variable {cat : Catalogue} {p : EventCreate} {T : List PosEvent} {store : Store}
  {product : Product} {db db' : Db} {i : Nat}

/-- The status codes that `create_event` documents. -/
def Answer.documented (a : Answer) : Bool := decide (a.statusCode ∈ [200, 201, 404, 409, 422])

/-- The checks before the `INSERT` pass: the original of a REFUND is a SALE of the store and
the product, with room for it. -/
def ReachesInsert (T : List PosEvent) (p : EventCreate) (store : Store) (product : Product) :
    Prop :=
  ∀ o, payloadOriginalEventId p = some o → ∃ s ∈ T, s.eventId = o ∧ s.eventType = .sale ∧
    s.originalEventId = none ∧ s.storeId = store.id ∧ s.productId = product.id ∧ Room T p s

/-- Every value the request comes to bind lies in the domain of its column.  A stored
`event_id` ends the request at once, an unknown store or product at its lookup, and a
REFUND whose checks fail before the `INSERT`.  The bounds: no U+0000 in `store_code`,
`product_sku`, `source_instance` and `note` (`noNul`), nor in a text or a key of `metadata`;
no NaN and no infinity in `metadata` (`Json.fitsJsonb`); `quantity` and `amount_cents` at most
2^63 - 1 (`bigintMax`); `occurred_at` in UTC from year 1 to the end of year 9999
(`datetimeMax`); `source_instance` of at most 120 characters, which the schema checks too. -/
def Servable (cat : Catalogue) (T : List PosEvent) (p : EventCreate) : Prop :=
  (∃ e ∈ T, e.eventId = p.eventId) ∨
    (noNul p.storeCode = true ∧ ∀ store, cat.storeByCode p.storeCode = some store →
      noNul p.productSku = true ∧ ∀ product, cat.productBySku p.productSku = some product →
        ReachesInsert T p store product → (p.values store product).fitsColumns = true)

namespace Point

/-! ## What a request has read -/

/-- The key of the payload is not in the table. -/
def Fresh (T : List PosEvent) (p : EventCreate) : Prop := ∀ e ∈ T, e.eventId ≠ p.eventId

/-- The original of a REFUND, as it was read. -/
structure Original (T : List PosEvent) (p : EventCreate) (s : PosEvent) : Prop where
  names : payloadOriginalEventId p = some s.eventId
  stored : s ∈ T
  sale : s.eventType = .sale
  root : s.originalEventId = none

/-- What a request that runs alone on a table has read when it comes to a point. -/
def Trail (cat : Catalogue) (T : List PosEvent) (p : EventCreate) : Point → Prop
  | .begin | .precheck => True
  | .classifyStore _ | .classifyProduct _ _ _ | .rollback _ => ∃ e ∈ T, e.eventId = p.eventId
  | .findStore => Fresh T p
  | .findProduct store =>
      Fresh T p ∧ noNul p.storeCode = true ∧ cat.storeByCode p.storeCode = some store.toStore
  | .lockOriginal original store product =>
      Fresh T p ∧ Named cat p store product ∧ payloadOriginalEventId p = some original
  | .recheck store product original =>
      Fresh T p ∧ Named cat p store product ∧ Original T p original
  | .sumRefunds store product original =>
      Fresh T p ∧ Named cat p store product ∧ Original T p original ∧
        original.storeId = store.id ∧ original.productId = product.id
  | .insert store product _ =>
      Fresh T p ∧ Named cat p store product ∧ ReachesInsert T p store product
  | .classifyEvent _ _ => False
  | .updateStore _ _ | .commit _ _ | .broadcast _ => Servable cat T p
  | .done a => a.documented = true ↔ Servable cat T p

end Point

/-! ## Requests that can be served -/

/-- A request that has found its store and its product can be served when its values fit. -/
theorem Servable.of_named (hn : Named cat p store product)
    (h : ReachesInsert T p store product → (p.values store product).fitsColumns = true) :
    Servable cat T p := by
  refine Or.inr ⟨hn.storeCode, fun store' hs => ⟨hn.productSku, fun product' hp hreach => ?_⟩⟩
  obtain ⟨rfl, rfl⟩ := hn.toLocated.unique ⟨hs, hp⟩
  exact h hreach

/-- A request that would insert what does not fit cannot be served. -/
theorem Servable.fits (hn : Named cat p store product) (hfresh : Point.Fresh T p)
    (hreach : ReachesInsert T p store product) (h : Servable cat T p) :
    (p.values store product).fitsColumns = true := by
  rcases h with ⟨e, he, hid⟩ | ⟨_, h⟩
  · exact absurd hid (hfresh e he)
  · exact (h store hn.store).2 product hn.product hreach

/-- A REFUND that fails a check is refused before its `INSERT`. -/
theorem Servable.of_refused {o : UUID} (hn : Named cat p store product)
    (ho : payloadOriginalEventId p = some o)
    (h : ∀ s ∈ T, s.eventId = o → s.eventType = .sale → s.originalEventId = none →
      s.storeId = store.id → s.productId = product.id → ¬ Room T p s) : Servable cat T p := by
  refine Servable.of_named hn fun hreach => ?_
  obtain ⟨s, hs, hid, hsale, hroot, hstore, hproduct, hroom⟩ := hreach o ho
  exact absurd hroom (h s hs hid hsale hroot hstore hproduct)

namespace Point

/-- Each effect of a request that runs alone adds to what it has read. -/
theorem Trail.move {pt pt' : Point} (hc : db.Consistent cat) (h : pt.Holds cat db i p)
    (htrail : pt.Trail cat T p) (hT : pt.decision = none → db.events.committed = T)
    (hm : Move cat db i p pt pt' db') : pt'.Trail cat T p := by
  have hk := h.knows
  cases hm with
  | begin => trivial
  | precheckMiss hf =>
      obtain rfl := hT rfl
      exact findEvent_not_committed (h.quiet not_false).1 hf
  | precheckHit hf =>
      obtain rfl := hT rfl
      exact ⟨_, findEvent_committed (h.quiet not_false).1 hf⟩
  | storeMissing | storeRead | productMissing | productRead => exact htrail
  | storeUnreadable hn =>
      refine ⟨nofun, fun hserve => ?_⟩
      rcases hserve with ⟨e, he, hid⟩ | ⟨hn', _⟩
      · exact absurd hid (htrail e he)
      · rw [hn] at hn'
        cases hn'
  | storeUnknown hs hn =>
      refine ⟨fun _ => Or.inr ⟨hn, fun store hs' => ?_⟩, fun _ => rfl⟩
      rw [hs] at hs'
      cases hs'
  | storeFound hs hn => exact ⟨htrail, hn, hs⟩
  | productUnreadable hn =>
      refine ⟨nofun, fun hserve => ?_⟩
      rcases hserve with ⟨e, he, hid⟩ | ⟨_, hserve⟩
      · exact absurd hid (htrail.1 e he)
      · rw [(hserve _ htrail.2.2).1] at hn
        cases hn
  | productUnknown hp hn =>
      refine ⟨fun _ => Or.inr ⟨htrail.2.1, fun store hs => ⟨hn, fun product hp' => ?_⟩⟩,
        fun _ => rfl⟩
      rw [hp] at hp'
      cases hp'
  | productOfSale hp hn ho =>
      refine ⟨htrail.1, ⟨⟨htrail.2.2, hp⟩, htrail.2.1, hn⟩, fun o ho' => ?_⟩
      rw [ho] at ho'
      cases ho'
  | productOfRefund hp hn ho => exact ⟨htrail.1, ⟨⟨htrail.2.2, hp⟩, htrail.2.1, hn⟩, ho⟩
  | originalMissing hf =>
      obtain rfl := hT rfl
      have hnone := findEvent_not_committed (h.quiet not_false).1 hf
      obtain ⟨_, hn, ho⟩ := htrail
      exact ⟨fun _ => .of_refused hn ho fun s hs hid => absurd hid (hnone s hs), fun _ => rfl⟩
  | originalInvalid hf hinvalid =>
      obtain rfl := hT rfl
      obtain ⟨hmem, hid⟩ := findEvent_committed (h.quiet not_false).1 hf
      obtain ⟨_, hn, ho⟩ := htrail
      refine ⟨fun _ => .of_refused hn ho fun s hs hsid hsale hroot => ?_, fun _ => rfl⟩
      obtain rfl := hc.wellFormed.eq_of_eventId hmem hs (hid.trans hsid.symm)
      exact (hinvalid.elim (· hsale) (· hroot)).elim
  | originalLocked hf hsale hroot =>
      obtain rfl := hT rfl
      obtain ⟨hmem, hid⟩ := findEvent_committed (h.quiet not_false).1 hf
      exact ⟨htrail.1, htrail.2.1, ⟨by rw [hid]; exact htrail.2.2, hmem, hsale, hroot⟩⟩
  | recheckHit hf =>
      obtain rfl := hT rfl
      exact ⟨_, findEvent_committed (h.quiet not_false).1 hf⟩
  | recheckMismatch _ hmis =>
      obtain rfl := hT rfl
      obtain ⟨_, hn, horiginal⟩ := htrail
      refine ⟨fun _ => .of_refused hn horiginal.names fun s hs hid _ _ hstore hproduct => ?_,
        fun _ => rfl⟩
      obtain rfl := hc.wellFormed.eq_of_eventId hs horiginal.stored hid
      exact ((mismatch_some hmis).elim (· hstore) (· hproduct)).elim
  | recheckMiss _ hmatch => exact ⟨htrail.1, htrail.2.1, htrail.2.2, mismatch_none hmatch⟩
  | limitExceeded hl =>
      obtain rfl := hT rfl
      obtain ⟨d, hlt⟩ := exceeded_some (h.quiet not_false).1 hl
      obtain ⟨_, hn, horiginal, _⟩ := htrail
      refine ⟨fun _ => .of_refused hn horiginal.names fun s hs hid _ _ _ _ hroom => ?_,
        fun _ => rfl⟩
      obtain rfl := hc.wellFormed.eq_of_eventId hs horiginal.stored hid
      exact absurd (hroom d) (not_le.mpr hlt)
  | limitKept hl =>
      obtain rfl := hT rfl
      obtain ⟨hfresh, hn, horiginal, hstore, hproduct⟩ := htrail
      refine ⟨hfresh, hn, fun o ho => ⟨_, horiginal.stored, ?_, horiginal.sale, horiginal.root,
        hstore, hproduct, room_of_exceeded_none (h.quiet not_false).1 hl⟩⟩
      exact Option.some.inj (horiginal.names.symm.trans ho)
  | insertUnfit hfit =>
      obtain ⟨hfresh, hn, hreach⟩ := htrail
      refine ⟨nofun, fun hserve => ?_⟩
      rw [Servable.fits hn hfresh hreach hserve] at hfit
      cases hfit
  | insertChecked hcheck =>
      rw [hk.2.check] at hcheck
      cases hcheck
  | insertConflict hf =>
      obtain rfl := hT rfl
      obtain ⟨hmem, hid⟩ := findEvent_committed (h.quiet not_false).1 hf
      exact absurd hid (htrail.1 _ hmem)
  | insertDuplicateKey hf he hid hg =>
      exact absurd hid (no_duplicateKey hc (h.quiet not_false).1 hf he hg)
  | insertForeignKey hfk =>
      rw [hk.2.foreignKey hk.1.toLocated] at hfk
      cases hfk
  | inserted hfit | insertedSeen hfit => exact Servable.of_named htrail.2.1 fun _ => hfit
  | classifiedInvisible => exact htrail.elim
  | classified => exact htrail.elim
  | storeUpdated | committed => exact htrail
  | rolledBack =>
      obtain ⟨e, _, _, hj⟩ := hk
      cases hj with
      | duplicate => exact ⟨fun _ => Or.inl htrail, fun _ => rfl⟩
      | conflict => exact ⟨fun _ => Or.inl htrail, fun _ => rfl⟩
  | broadcast => exact ⟨fun _ => htrail, fun _ => rfl⟩

end Point

/-! ## Requests that run alone -/

namespace World

variable {w w' : World}

/-- What holds of request `i` while it runs alone on the table `T`. -/
def Trails (cat : Catalogue) (T : List PosEvent) (p : EventCreate) (i : Nat) (w : World) : Prop :=
  ∃ state, w.requests[i]? = some ⟨.event p, state⟩ ∧
    match state with
    | .running program => ∃ pt : Point, pt.Holds cat w.db i p ∧ pt.Trail cat T p ∧
        (pt.decision = none → w.db.events.committed = T) ∧ program = pt.resume p
    | .answered a => a.documented = true ↔ Servable cat T p
    | .aborted => False

/-- A step of the request keeps it. -/
theorem Trails.step (hok : w.Ok cat) (h : Trails cat T p i w)
    (hs : w.step cat (.run i) = some w') : Trails cat T p i w' := by
  obtain ⟨state, hi, hstate⟩ := h
  cases step_cases hs with
  | @perform _ call op k reply db hj hp =>
      rw [hi] at hj
      cases hj
      obtain ⟨pt, hh, htrail, hT, he⟩ := hstate
      obtain ⟨pt', hk, hm⟩ := Point.step_cases hh.aligned he.symm hp
      refine ⟨_, List.getElem?_set_self (lt_of_getElem? hi), pt', hh.move hok.consistent hm,
        htrail.move hok.consistent hh hT hm, fun hd => ?_, hk⟩
      rcases hm.committed_eq with ⟨hsame, _⟩ | ⟨store, t, rfl, _⟩
      · refine hsame.trans (hT ?_)
        cases hbefore : pt.decision with
        | none => rfl
        | some a =>
            rw [(hm.decided hbefore).1] at hd
            cases hd
      · cases hm
        cases hd
  | @answer _ call a hj =>
      rw [hi] at hj
      cases hj
      obtain ⟨pt, hh, htrail, _, he⟩ := hstate
      obtain rfl := Point.eq_done hh.aligned he.symm
      exact ⟨_, List.getElem?_set_self (lt_of_getElem? hi), htrail⟩

/-- Effects of the request keep it. -/
theorem Trails.run {n : Nat} (h : w.Reachable cat) (htrails : Trails cat T p i w)
    (hrun : (server cat).run w (List.replicate n (.run i)) = some w') :
    Trails cat T p i w' := by
  induction n generalizing w with
  | zero =>
      cases hrun
      exact htrails
  | succ n ih =>
      rw [List.replicate_succ, System.run, Option.bind_eq_some_iff] at hrun
      obtain ⟨v, hs, hrun⟩ := hrun
      exact ih (h.reaches (System.Reaches.refl.tail hs)) (htrails.step h.ok hs) hrun

end World

/-- The values a statement binds lie in the domains of their columns, and a row that is
inserted satisfies the constraints of its table. -/
def Db.Admits (cat : Catalogue) (db : Db) (i : Nat) : Stmt → Prop
  | .selectStore code => noNul code = true
  | .selectProduct sku => noNul sku = true
  | .insertEvent v => v.fitsColumns = true ∧ v.violatedCheck = none ∧
      v.violatedForeignKey cat (db.events.visible i ++ [db.newRow i v]) = none
  | _ => True

/-- Where a request can be served, its statements bind values of their columns. -/
theorem Point.Trail.admits {pt : Point} {s : Stmt} {k : Except SqlError s.Result →
    Program Effects Answer} (h : pt.Holds cat db i p) (htrail : pt.Trail cat T p)
    (hserve : Servable cat T p) (hpt : pt.resume p = .call (.sql s) k) : db.Admits cat i s := by
  have hknows := h.knows
  have heffect := Point.effect_of_call h.aligned hpt
  cases pt with
  | findStore =>
      cases heffect
      rcases hserve with ⟨e, he, hid⟩ | ⟨hn, _⟩
      · exact absurd hid (htrail e he)
      · exact hn
  | findProduct store =>
      cases heffect
      rcases hserve with ⟨e, he, hid⟩ | ⟨_, hserve⟩
      · exact absurd hid (htrail.1 e he)
      · exact (hserve store htrail.2.2).1
  | insert store product original =>
      cases heffect
      exact ⟨Servable.fits htrail.2.1 htrail.1 htrail.2.2 hserve, hknows.2.check,
        hknows.2.foreignKey hknows.1.toLocated⟩
  | done a => cases heffect
  | broadcast result => cases heffect
  | _ =>
      cases heffect
      trivial

namespace Sample

end Sample

end StorePulse
