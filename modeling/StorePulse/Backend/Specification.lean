import StorePulse.Backend.Api
import StorePulse.Foundation.CapacityLedger

/-!
# What ingestion is for

The purpose of ingestion, in its own terms: the event table is a ledger in which
a REFUND counts against the SALE it names, in quantity and in amount
(`refundLedger`), and an event takes effect in one step on that table.
`Spec` says which answers such a step may give and what it does to the table.
It is a relation because it leaves open when an event is received, and because
an event can deserve to be refused for several reasons at once.

Nothing here speaks of statements, locks or interleavings.
-/

namespace StorePulse

/-! ## The ledger of refunds -/

/-- The order of amounts, the same one whatever is imported. -/
instance amountOrder : PartialOrder Int := Int.instLinearOrder.toPartialOrder

/-- What a refund is limited in. -/
inductive Measure where
  | quantity
  | amountCents
deriving DecidableEq

/-- A measure of an event. -/
def Measure.of : Measure → EventValues → Int
  | .quantity, v => v.quantity
  | .amountCents, v => v.amountCents

/-- A measure of a payload. -/
def Measure.asked : Measure → EventCreate → Int
  | .quantity, p => p.base.quantity
  | .amountCents, p => p.base.amountCents

/-- The SALE a row counts against. -/
def PosEvent.refunds (e : PosEvent) : Option UUID :=
  if e.eventType = .refund then e.originalEventId else none

/-- A row may refund another: a SALE with no original, of the same store and product. -/
structure PosEvent.Refundable (r s : PosEvent) : Prop where
  sale : s.eventType = .sale
  root : s.originalEventId = none
  store : r.storeId = s.storeId
  product : r.productId = s.productId

/-- The event table as a ledger. -/
def refundLedger : Ledger PosEvent UUID Measure Int where
  key e := e.eventId
  parent e := e.refunds
  amount d e := d.of e.toEventValues
  Under r s := r.Refundable s

/-- What is used up of a SALE is what the source sums. -/
theorem spent_eq_sumOfRefunds (d : Measure) (T : List PosEvent) (k : UUID) :
    refundLedger.spent d T k = sumOfRefunds (fun e => d.of e.toEventValues) T k := by
  simp only [Ledger.spent, refundLedger, sumOfRefunds]
  congr 2
  apply List.filter_congr
  intro e _
  rw [Bool.eq_iff_iff]
  by_cases he : e.eventType = .refund <;> simp [PosEvent.refunds, he]

/-! ## Payloads and rows -/

/-- The store and the product a payload names. -/
structure Located (cat : Catalogue) (p : EventCreate) (store : Store) (product : Product) :
    Prop where
  store : cat.storeByCode p.storeCode = some store
  product : cat.productBySku p.productSku = some product

/-- Every value of the payload lies in the domain of the column it is compared with or
written to. -/
def EventCreate.fits (p : EventCreate) : Bool :=
  noNul p.storeCode && noNul p.productSku && (p.values ⟨0, ""⟩ ⟨0, ""⟩).fitsColumns

/-- A payload that fits has values that fit, whatever its store and product. -/
theorem EventCreate.fits_values {p : EventCreate} (store : Store) (product : Product)
    (h : p.fits = true) : (p.values store product).fitsColumns = true := by
  rw [EventCreate.fits, Bool.and_eq_true] at h
  exact h.2

theorem EventCreate.fits_of_values {p : EventCreate} {store : Store} {product : Product}
    (hs : noNul p.storeCode = true) (hp : noNul p.productSku = true)
    (h : (p.values store product).fitsColumns = true) : p.fits = true := by
  rw [EventCreate.fits, hs, hp]
  exact h

/-- The comparison of `_matches_event_payload`.  It is equality of the producer fields but for the
metadata, which Python's `==` compares. -/
structure EventValues.Matches (a b : EventValues) : Prop where
  eventId : a.eventId = b.eventId
  storeId : a.storeId = b.storeId
  productId : a.productId = b.productId
  eventType : a.eventType = b.eventType
  quantity : a.quantity = b.quantity
  amountCents : a.amountCents = b.amountCents
  occurredAt : a.occurredAt = b.occurredAt
  originalEventId : a.originalEventId = b.originalEventId
  sourceInstance : a.sourceInstance = b.sourceInstance
  metadata : JsonObject.pyEq? a.metadataJson b.metadataJson = true
  note : a.note = b.note

/-- The stored row matches the payload. -/
def MatchesPayload (cat : Catalogue) (e : PosEvent) (p : EventCreate) : Prop :=
  ∃ store product, Located cat p store product ∧ e.toEventValues.Matches (p.values store product)

/-- A row that could have been written for a payload. -/
structure WrittenFor (cat : Catalogue) (p : EventCreate) (store : Store) (product : Product)
    (row : PosEvent) : Prop where
  located : Located cat p store product
  fits : p.fits = true
  values : row.toEventValues = p.values store product

variable {cat : Catalogue} {p : EventCreate} {store : Store} {product : Product}
  {row e : PosEvent} {T T' : List PosEvent} {a : Answer}

theorem Located.unique {store' : Store} {product' : Product} (h : Located cat p store product)
    (h' : Located cat p store' product') : store = store' ∧ product = product' :=
  ⟨Option.some.inj (h.store.symm.trans h'.store),
    Option.some.inj (h.product.symm.trans h'.product)⟩

/-- Values read back match what was written. -/
theorem matches_self {v : EventValues} (h : v.fitsColumns = true) : v.Matches v where
  eventId := rfl
  storeId := rfl
  productId := rfl
  eventType := rfl
  quantity := rfl
  amountCents := rfl
  occurredAt := rfl
  originalEventId := rfl
  sourceInstance := rfl
  metadata := by
    simp only [EventValues.fitsColumns, Bool.and_eq_true] at h
    exact JsonObject.pyEq?_self h.1.2
  note := rfl

/-- The row written for a payload matches it. -/
theorem WrittenFor.matchesPayload (h : WrittenFor cat p store product row) :
    MatchesPayload cat row p := by
  refine ⟨store, product, h.located, ?_⟩
  rw [h.values]
  exact matches_self (EventCreate.fits_values store product h.fits)

theorem WrittenFor.eventId (h : WrittenFor cat p store product row) : row.eventId = p.eventId :=
  congrArg EventValues.eventId h.values

theorem WrittenFor.amount (h : WrittenFor cat p store product row) (d : Measure) :
    d.of row.toEventValues = d.asked p := by
  rw [h.values]
  cases d <;> rfl

theorem Measure.asked_pos (d : Measure) (p : EventCreate) : 0 < d.asked p := by
  cases d with
  | quantity => exact p.base.quantity_pos
  | amountCents => exact p.base.amountCents_pos

/-- A row counts against the SALE its payload names. -/
theorem refunds_of_values (h : row.eventType = p.eventType)
    (ho : row.originalEventId = payloadOriginalEventId p) :
    row.refunds = payloadOriginalEventId p := by
  rw [PosEvent.refunds, h, ho]
  cases p <;> rfl

theorem WrittenFor.refunds (h : WrittenFor cat p store product row) :
    row.refunds = payloadOriginalEventId p :=
  refunds_of_values (congrArg EventValues.eventType h.values)
    (congrArg EventValues.originalEventId h.values)

theorem MatchesPayload.eventId (h : MatchesPayload cat e p) : e.eventId = p.eventId := by
  obtain ⟨_, _, _, hs⟩ := h
  exact hs.eventId

theorem MatchesPayload.refunds (h : MatchesPayload cat e p) :
    e.refunds = payloadOriginalEventId p := by
  obtain ⟨_, _, _, hs⟩ := h
  exact refunds_of_values hs.eventType hs.originalEventId

theorem MatchesPayload.amount (h : MatchesPayload cat e p) (d : Measure) :
    d.of e.toEventValues = d.asked p := by
  obtain ⟨_, _, _, hsame⟩ := h
  cases d with
  | quantity => exact hsame.quantity
  | amountCents => exact hsame.amountCents

/-! ## The specification -/

/-- The reasons for which an event may be refused. -/
inductive Refuses (cat : Catalogue) (T : List PosEvent) (p : EventCreate) : Exception → Prop
  | eventConflict {e : PosEvent} : e ∈ T → e.eventId = p.eventId → ¬ MatchesPayload cat e p →
      Refuses cat T p (.eventConflict p.eventId)
  | unknownStore : cat.storeByCode p.storeCode = none →
      Refuses cat T p (.unknownStore p.storeCode)
  | unknownProduct : cat.productBySku p.productSku = none →
      Refuses cat T p (.unknownProduct p.productSku)
  | originalSaleNotFound {o : UUID} : payloadOriginalEventId p = some o →
      (∀ e ∈ T, e.eventId ≠ o) → Refuses cat T p (.originalSaleNotFound o)
  | invalidOriginalSale {o : UUID} {e : PosEvent} : payloadOriginalEventId p = some o →
      e ∈ T → e.eventId = o → e.eventType ≠ .sale ∨ e.originalEventId ≠ none →
      Refuses cat T p (.invalidOriginalSale o)
  | refundReferenceMismatch {o : UUID} {e : PosEvent} {store : Store} {product : Product}
      {m : String} : payloadOriginalEventId p = some o → Located cat p store product →
      e ∈ T → e.eventId = o → e.storeId ≠ store.id ∨ e.productId ≠ product.id →
      Refuses cat T p (.refundReferenceMismatch m)
  | refundLimitExceeded {o : UUID} {e : PosEvent} {d : Measure} {m : String} :
      payloadOriginalEventId p = some o → e ∈ T → e.eventId = o →
      d.of e.toEventValues < refundLedger.spent d T o + d.asked p →
      (∀ r ∈ T, ¬ MatchesPayload cat r p) →
      Refuses cat T p (.refundLimitExceeded m)
  | unfit : p.fits = false → Refuses cat T p (.sqlError .dataError)

/-- What an event may do to the table, and what it may be answered. -/
inductive Spec (cat : Catalogue) : List PosEvent → EventCreate → Answer → List PosEvent → Prop
  | accepted {T : List PosEvent} {p : EventCreate} {store : Store} {product : Product}
      {row : PosEvent} : WrittenFor cat p store product row → refundLedger.Admits T row →
      Spec cat T p (.event 201 ⟨p.eventId, .accepted, row.receivedAt⟩) (T ++ [row])
  | duplicate {T : List PosEvent} {p : EventCreate} {e : PosEvent} :
      e ∈ T → MatchesPayload cat e p →
      Spec cat T p (.event 200 ⟨e.eventId, .duplicate, e.receivedAt⟩) T
  | refused {T : List PosEvent} {p : EventCreate} {x : Exception} :
      Refuses cat T p x → Spec cat T p (raiseHttp x) T

/-! ## What the specification keeps -/

/-- Every row was written for a payload. -/
def AllWritten (cat : Catalogue) (T : List PosEvent) : Prop :=
  ∀ r ∈ T, ∃ p store product, WrittenFor cat p store product r

/-- The tables the specification can build. -/
structure WellFormed (cat : Catalogue) (T : List PosEvent) : Prop where
  sound : refundLedger.Sound T
  written : AllWritten cat T

theorem WellFormed.nil : WellFormed cat [] :=
  ⟨.nil, fun r hr => by cases hr⟩

/-- Appending a row that was written for a payload and that the ledger admits. -/
theorem WellFormed.snoc (h : WellFormed cat T) (hw : WrittenFor cat p store product row)
    (hadm : refundLedger.Admits T row) : WellFormed cat (T ++ [row]) where
  sound := h.sound.snoc hadm fun d => by
    show 0 ≤ d.of row.toEventValues
    rw [hw.amount d]
    exact (d.asked_pos p).le
  written := by
    intro r hr
    rw [List.mem_append, List.mem_singleton] at hr
    rcases hr with hr | rfl
    · exact h.written r hr
    · exact ⟨p, store, product, hw⟩

theorem Spec.wellFormed (h : WellFormed cat T) (hs : Spec cat T p a T') : WellFormed cat T' := by
  cases hs with
  | accepted hw hadm => exact h.snoc hw hadm
  | duplicate => exact h
  | refused => exact h

/-- The table only grows. -/
theorem Spec.grows (hs : Spec cat T p a T') : T <+: T' := by
  cases hs with
  | accepted => exact List.prefix_append _ _
  | duplicate => exact List.prefix_refl _
  | refused => exact List.prefix_refl _

namespace WellFormed

variable (h : WellFormed cat T)

include h

/-- Two rows with one key are the same row. -/
theorem eq_of_eventId {r r' : PosEvent} (hr : r ∈ T) (hr' : r' ∈ T)
    (hid : r.eventId = r'.eventId) : r = r' := h.sound.eq_of_key hr hr' hid

/-- The row of a matching refund has its SALE in the table. -/
theorem original_of_matchesPayload {o : UUID} (he : e ∈ T) (hi : MatchesPayload cat e p)
    (ho : payloadOriginalEventId p = some o) : ∃ s ∈ T, s.eventId = o ∧ e.Refundable s :=
  h.sound.parents e he o (hi.refunds.trans ho)

/-- An event that a stored row matches is not refused. -/
theorem not_refuses_of_matchesPayload {x : Exception} (he : e ∈ T) (hi : MatchesPayload cat e p)
    (hfit : p.fits = true) : ¬ Refuses cat T p x := by
  have hloc := hi
  obtain ⟨store, product, hl, hsame⟩ := hloc
  rintro (⟨hr, hid, hne⟩ | hs | hp | ⟨ho, hnone⟩ | ⟨ho, hm, hid, hinv⟩ |
    ⟨ho, hl', hm, hid, hmis⟩ | ⟨_, _, _, _, hnone⟩ | hunfit)
  case eventConflict r =>
    obtain rfl := h.eq_of_eventId hr he (hid.trans hi.eventId.symm)
    exact hne hi
  case unknownStore => rw [hl.store] at hs; cases hs
  case unknownProduct => rw [hl.product] at hp; cases hp
  case originalSaleNotFound o =>
    obtain ⟨s, hs, hsid, _⟩ := h.original_of_matchesPayload he hi ho
    exact hnone s hs hsid
  case invalidOriginalSale o r =>
    obtain ⟨s, hs, hsid, hunder⟩ := h.original_of_matchesPayload he hi ho
    obtain rfl := h.eq_of_eventId hm hs (hid.trans hsid.symm)
    rcases hinv with hinv | hinv
    · exact hinv hunder.sale
    · exact hinv hunder.root
  case refundReferenceMismatch o r store' product' m =>
    obtain ⟨s, hs, hsid, hunder⟩ := h.original_of_matchesPayload he hi ho
    obtain rfl := h.eq_of_eventId hm hs (hid.trans hsid.symm)
    obtain ⟨rfl, rfl⟩ := hl.unique hl'
    rcases hmis with hmis | hmis
    · exact hmis (hunder.store.symm.trans hsame.storeId)
    · exact hmis (hunder.product.symm.trans hsame.productId)
  case refundLimitExceeded => exact hnone e he hi
  case unfit => rw [hfit] at hunfit; cases hunfit

/-- A stored event is answered as a duplicate of its row, and changes nothing. -/
theorem spec_of_matchesPayload (he : e ∈ T) (hi : MatchesPayload cat e p) (hfit : p.fits = true)
    (hs : Spec cat T p a T') :
    a = .event 200 ⟨p.eventId, .duplicate, e.receivedAt⟩ ∧ T' = T := by
  cases hs with
  | accepted hw hadm => exact absurd (hi.eventId.trans hw.eventId.symm) (hadm.fresh e he)
  | duplicate he' hi' =>
      obtain rfl := h.eq_of_eventId he he' (hi.eventId.trans hi'.eventId.symm)
      exact ⟨by rw [hi.eventId], rfl⟩
  | refused hr => exact absurd hr (h.not_refuses_of_matchesPayload he hi hfit)

end WellFormed

end StorePulse
