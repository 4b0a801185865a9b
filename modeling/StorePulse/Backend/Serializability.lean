import StorePulse.Backend.Classification

/-!
# Serializability of ingestion

The sequential specification as a function that processes one event at a time
(`process`).  It leaves nothing open but the time of reception, and it does not
say for which reason an event is rejected.  Every history of the server is
explained by an order of its calls in which `process` gives every call the class
of its answer and builds the table.
-/

namespace StorePulse

open Linearizability (Linearization Replay)

/-! ## One event at a time -/

/-- Every producer field has the value of the other one, the metadata as JSON values. -/
def EventValues.same (a b : EventValues) : Bool :=
  decide (a.eventId = b.eventId ∧ a.storeId = b.storeId ∧ a.productId = b.productId ∧
    a.eventType = b.eventType ∧ a.quantity = b.quantity ∧ a.amountCents = b.amountCents ∧
    a.occurredAt = b.occurredAt ∧ a.originalEventId = b.originalEventId ∧
    a.sourceInstance = b.sourceInstance ∧ a.note = b.note) &&
  JsonObject.same? a.metadataJson b.metadataJson

/-- Every producer field of the payload equals the stored one. -/
def storedAs (cat : Catalogue) (e : PosEvent) (p : EventCreate) : Bool :=
  match cat.storeByCode p.storeCode, cat.productBySku p.productSku with
  | some store, some product => e.toEventValues.same (p.values store product)
  | _, _ => false

/-- A REFUND names a stored SALE of its store and product, and the refunds stored and this
one stay within the quantity and the amount of the SALE. -/
def refundAllowed (T : List PosEvent) (p : EventCreate) (store : Store) (product : Product) :
    Bool :=
  match payloadOriginalEventId p with
  | none => true
  | some o =>
      match findEvent T o with
      | none => false
      | some s =>
          decide (s.eventType = .sale ∧ s.storeId = store.id ∧ s.productId = product.id ∧
            sumOfRefunds (fun e => e.quantity) T o + p.base.quantity ≤ s.quantity ∧
            sumOfRefunds (fun e => e.amountCents) T o + p.base.amountCents ≤ s.amountCents)

/-- Process one event: the class of the answer, and the table after it. -/
def process (cat : Catalogue) (T : List PosEvent) (p : EventCreate) (receivedAt : Instant) :
    Outcome × List PosEvent :=
  match findEvent T p.eventId with
  | some e => if storedAs cat e p then (.duplicate, T) else (.rejected, T)
  | none =>
      match cat.storeByCode p.storeCode, cat.productBySku p.productSku with
      | some store, some product =>
          if refundAllowed T p store product then
            (.accepted, T ++ [{ p.values store product with receivedAt := receivedAt }])
          else (.rejected, T)
      | _, _ => (.rejected, T)

/-- The sequential specification, for some time of reception. -/
def Sequential (cat : Catalogue) (T : List PosEvent) (p : EventCreate) (a : Answer)
    (T' : List PosEvent) : Prop :=
  ∃ receivedAt, process cat T p receivedAt = (a.outcome, T')

/-! ## The specification and the function -/

variable {cat : Catalogue} {p q : EventCreate} {store : Store} {product : Product}
  {e : PosEvent} {T T' : List PosEvent} {a : Answer} {x : Exception} {receivedAt : Instant}

/-- Equality is the comparison of the source without its confusion. -/
theorem EventValues.same_iff {a b : EventValues} : a.same b = true ↔
    a.Matches b ∧ JsonObject.clashes? a.metadataJson b.metadataJson = false := by
  rw [EventValues.same, JsonObject.same?_eq, Bool.and_eq_true, Bool.and_eq_true,
    Bool.not_eq_true', decide_eq_true_iff]
  constructor
  · rintro ⟨⟨h₁, h₂, h₃, h₄, h₅, h₆, h₇, h₈, h₉, h₁₀⟩, hequal, hclash⟩
    exact ⟨⟨h₁, h₂, h₃, h₄, h₅, h₆, h₇, h₈, h₉, hequal, h₁₀⟩, hclash⟩
  · rintro ⟨h, hclash⟩
    exact ⟨⟨h.eventId, h.storeId, h.productId, h.eventType, h.quantity, h.amountCents,
      h.occurredAt, h.originalEventId, h.sourceInstance, h.note⟩, h.metadata, hclash⟩

theorem storedAs_iff : storedAs cat e p = true ↔ MatchesPayload cat e p ∧
    JsonObject.clashes? e.metadataJson p.base.metadata = false := by
  rw [storedAs]
  constructor
  · intro h
    split at h
    · next store product hs hp =>
      obtain ⟨hmatches, hclash⟩ := EventValues.same_iff.mp h
      exact ⟨⟨store, product, ⟨hs, hp⟩, hmatches⟩, hclash⟩
    · cases h
  · rintro ⟨⟨store, product, hl, hmatches⟩, hclash⟩
    rw [hl.store, hl.product]
    exact EventValues.same_iff.mpr ⟨hmatches, hclash⟩

/-- A payload is stored as the row of another one when the two agree. -/
theorem WrittenFor.storedAs_iff (hw : WrittenFor cat p store product e)
    (hid : q.eventId = p.eventId) : storedAs cat e q = true ↔ Agree p q := by
  rw [StorePulse.storedAs_iff, hw.matchesPayload_iff hid, Agree, JsonObject.same?_eq,
    Bool.and_eq_true, Bool.not_eq_true', and_assoc,
    show e.metadataJson = p.base.metadata from congrArg EventValues.metadataJson hw.values]

/-- A key of the table is found in its only row. -/
theorem WellFormed.findEvent_eq (h : WellFormed cat T) {id : UUID} (he : e ∈ T)
    (hid : e.eventId = id) : findEvent T id = some e := by
  subst hid
  exact find?_of_nodup_map h.sound.keys he

theorem findEvent_eq_none {id : UUID} (h : ∀ e ∈ T, e.eventId ≠ id) : findEvent T id = none := by
  rw [findEvent, List.find?_eq_none]
  intro e he
  simpa using h e he

/-- What the ledger admits, the function allows. -/
theorem WellFormed.refundAllowed (h : WellFormed cat T) {row : PosEvent}
    (hw : WrittenFor cat p store product row) (hadm : refundLedger.Admits T row) :
    refundAllowed T p store product = true := by
  rw [StorePulse.refundAllowed]
  split
  · rfl
  · next o ho =>
    obtain ⟨s, hs, hid, hunder, hroom⟩ := hadm.room o (hw.refunds.trans ho)
    have hlimit : ∀ d : Measure, sumOfRefunds (fun e => d.of e.toEventValues) T o + d.asked p ≤
        d.of s.toEventValues := by
      intro d
      rw [← spent_eq_sumOfRefunds, ← hw.amount d]
      exact hroom d
    rw [h.findEvent_eq hs hid]
    refine decide_eq_true ⟨hunder.sale, ?_, ?_, hlimit .quantity, hlimit .amountCents⟩
    · rw [← hunder.store]
      exact congrArg EventValues.storeId hw.values
    · rw [← hunder.product]
      exact congrArg EventValues.productId hw.values

/-- What is refused because of its original, the function does not allow. -/
theorem WellFormed.refundAllowed_of_refuses (h : WellFormed cat T)
    (hl : Located cat p store product) (hfit : p.fits = true)
    (hfresh : ∀ e ∈ T, e.eventId ≠ p.eventId) (hr : Refuses cat T p x) :
    StorePulse.refundAllowed T p store product = false := by
  have hroot : ∀ s ∈ T, s.eventType = .sale → s.originalEventId = none := by
    intro s hs ht
    obtain ⟨q, store, product, hw⟩ := h.written s hs
    have hq : q.eventType = .sale := (congrArg EventValues.eventType hw.values).symm.trans ht
    rw [show s.originalEventId = payloadOriginalEventId q from
      congrArg EventValues.originalEventId hw.values]
    cases q with
    | sale q => rfl
    | refund q => cases hq
  cases hr with
  | eventConflict he hid => exact absurd hid (hfresh _ he)
  | unknownStore hs => rw [hl.store] at hs; cases hs
  | unknownProduct hp => rw [hl.product] at hp; cases hp
  | originalSaleNotFound ho hnone =>
      simp only [StorePulse.refundAllowed, ho, findEvent_eq_none hnone]
  | invalidOriginalSale ho he hid hinv =>
      simp only [StorePulse.refundAllowed, ho, h.findEvent_eq he hid]
      refine decide_eq_false fun hall => ?_
      rcases hinv with hinv | hinv
      · exact hinv hall.1
      · exact hinv (hroot _ he hall.1)
  | refundReferenceMismatch ho hl' he hid hmis =>
      obtain ⟨rfl, rfl⟩ := hl.unique hl'
      simp only [StorePulse.refundAllowed, ho, h.findEvent_eq he hid]
      refine decide_eq_false fun hall => ?_
      rcases hmis with hmis | hmis
      · exact hmis hall.2.1
      · exact hmis hall.2.2.1
  | @refundLimitExceeded o e d m ho he hid hlt _ =>
      simp only [StorePulse.refundAllowed, ho, h.findEvent_eq he hid]
      refine decide_eq_false fun hall => ?_
      rw [spent_eq_sumOfRefunds] at hlt
      cases d with
      | quantity => exact absurd hlt (not_lt.mpr hall.2.2.2.1)
      | amountCents => exact absurd hlt (not_lt.mpr hall.2.2.2.2)
  | unfit hunfit => rw [hfit] at hunfit; cases hunfit

/-- The function rejects what may be refused. -/
theorem WellFormed.process_of_refuses (h : WellFormed cat T) (hfit : p.fits = true)
    (hr : Refuses cat T p x) : process cat T p receivedAt = (.rejected, T) := by
  rw [process]
  split
  · next e hf =>
    rw [if_neg]
    intro hs
    exact h.not_refuses_of_matchesPayload (findEvent_mem hf).1 (storedAs_iff.mp hs).1 hfit hr
  · next hf =>
    split
    · next store product hs hp =>
      rw [h.refundAllowed_of_refuses ⟨hs, hp⟩ hfit (findEvent_none hf) hr]
      exact if_neg Bool.false_ne_true
    · rfl

/-- What the specification does to a payload that fits, the function does, where a row that
matches the payload is equal to it. -/
theorem WellFormed.sequential (h : WellFormed cat T) (hfit : p.fits = true)
    (hequal : ∀ r ∈ T, MatchesPayload cat r p → storedAs cat r p = true)
    (hs : Spec cat T p a T') : Sequential cat T p a T' := by
  cases hs with
  | @accepted store product row hw hadm =>
      refine ⟨row.receivedAt, ?_⟩
      have hfresh : ∀ e ∈ T, e.eventId ≠ p.eventId := fun e he hid =>
        hadm.fresh e he (hid.trans hw.eventId.symm)
      have hrow : ({ p.values store product with receivedAt := row.receivedAt } : PosEvent) =
          row := by rw [← hw.values]
      rw [process, findEvent_eq_none hfresh, hw.located.store, hw.located.product]
      simp only
      rw [h.refundAllowed hw hadm, if_pos rfl, hrow]
      rfl
  | @duplicate e he hi =>
      refine ⟨e.receivedAt, ?_⟩
      rw [process, h.findEvent_eq he hi.eventId]
      exact if_pos (hequal e he hi)
  | refused hr =>
      refine ⟨0, ?_⟩
      rw [raiseHttp_outcome]
      exact h.process_of_refuses hfit hr

/-! ## Rows and payloads -/

/-- Every row was written for one of the payloads. -/
def RowsOf (cat : Catalogue) (P : EventCreate → Prop) (T : List PosEvent) : Prop :=
  ∀ r ∈ T, ∃ p store product, P p ∧ WrittenFor cat p store product r

variable {P : EventCreate → Prop}

theorem RowsOf.nil : RowsOf cat P [] := fun r hr => by cases hr

theorem RowsOf.snoc {row : PosEvent} (hT : RowsOf cat P T) (hp : P p)
    (hw : WrittenFor cat p store product row) : RowsOf cat P (T ++ [row]) := by
  intro r hr
  rw [List.mem_append, List.mem_singleton] at hr
  rcases hr with hr | rfl
  · exact hT r hr
  · exact ⟨p, store, product, hp, hw⟩

theorem Spec.rowsOf (hs : Spec cat T p a T') (hT : RowsOf cat P T) (hp : P p) :
    RowsOf cat P T' := by
  cases hs with
  | accepted hw => exact hT.snoc hp hw
  | duplicate => exact hT
  | refused => exact hT

theorem Sequential.rowsOf (hs : Sequential cat T p a T') (hT : RowsOf cat P T) (hp : P p)
    (hfit : p.fits = true) : RowsOf cat P T' := by
  obtain ⟨receivedAt, he⟩ := hs
  rw [process] at he
  split at he
  · split at he
    · exact (Prod.mk.inj he).2 ▸ hT
    · exact (Prod.mk.inj he).2 ▸ hT
  · split at he
    · next store product hstore hproduct =>
      split at he
      · exact (Prod.mk.inj he).2 ▸ hT.snoc hp ⟨⟨hstore, hproduct⟩, hfit, rfl⟩
      · exact (Prod.mk.inj he).2 ▸ hT
    · exact (Prod.mk.inj he).2 ▸ hT

/-- The rows of a sequential run were written for its calls. -/
theorem rowsOf_of_replay {calls : List (Linearizability.Call EventCreate Answer)}
    (h : Replay (Sequential cat) T calls T') (hT : RowsOf cat P T)
    (hcalls : ∀ c ∈ calls, P c.op ∧ c.op.fits = true) : RowsOf cat P T' := by
  induction h with
  | nil => exact hT
  | cons hs _ ih =>
      obtain ⟨hp, hfit⟩ := hcalls _ (List.mem_cons_self ..)
      exact ih (hs.rowsOf hT hp hfit) fun c hc => hcalls c (List.mem_cons_of_mem _ hc)

/-- A call that is answered as a duplicate agrees with another call. -/
theorem agree_of_duplicate {history : List (Linearizability.Event EventCreate Answer)}
    {order : List (Linearizability.Call EventCreate Answer)}
    {d : Linearizability.Call EventCreate Answer}
    (h : Linearization (Sequential cat) [] history order T)
    (hfit : ∀ c ∈ order, c.op.fits = true) (hd : d ∈ order)
    (hout : d.ret.outcome = .duplicate) : ∃ c ∈ order, c.id ≠ d.id ∧ Agree c.op d.op := by
  obtain ⟨before, after, T₁, T₂, rfl, hbefore, ⟨receivedAt, he⟩, _⟩ := h.replay.at hd
  have hrows : RowsOf cat (fun p => ∃ c ∈ before, c.op = p) T₁ :=
    rowsOf_of_replay hbefore .nil fun c hc => ⟨⟨c, hc, rfl⟩, hfit c (List.mem_append_left _ hc)⟩
  rw [hout, process] at he
  split at he
  · next e hf =>
    obtain ⟨hmem, hid⟩ := findEvent_mem hf
    obtain ⟨_, store, product, ⟨c, hc, rfl⟩, hw⟩ := hrows e hmem
    refine ⟨c, List.mem_append_left _ hc, fun hsame => ?_, ?_⟩
    · -- no call takes effect twice
      have honce := h.once
      rw [List.map_append, List.map_cons, List.nodup_middle, List.nodup_cons] at honce
      exact honce.1 (List.mem_append_left _ (hsame ▸ List.mem_map_of_mem hc))
    · split at he
      · next hstored => exact (hw.storedAs_iff (hid.symm.trans hw.eventId)).mp hstored
      · cases (Prod.mk.inj he).1
  · split at he
    · split at he
      · cases (Prod.mk.inj he).1
      · cases (Prod.mk.inj he).1
    · cases (Prod.mk.inj he).1

/-! ## Runs -/

namespace World

/-- A request with the payload has arrived. -/
def Arrived (w : World) (p : EventCreate) : Prop := ∃ i, .arrived i (.event p) ∈ w.log

/-- Every payload that arrived fits its columns. -/
def PayloadsFit (w : World) : Prop := ∀ i p, .arrived i (.event p) ∈ w.log → p.fits = true

/-- No payload that arrived can be mistaken for another one with its `event_id`. -/
def Unmistakable (w : World) : Prop :=
  ∀ p q, w.Arrived p → w.Arrived q → p.eventId = q.eventId → ¬ Mistakable p q

end World

/-- Where no payload is mistaken for another, there is an order of the calls, consistent with
real time, in which processing one event at a time gives every call the class of its answer and
builds the table. -/
theorem ingestion_serializable {w : World} (h : w.Reachable cat) (hfit : w.PayloadsFit)
    (hclear : w.Unmistakable) :
    ∃ order, Linearization (Sequential cat) [] w.history order w.db.events.committed := by
  obtain ⟨order, hl⟩ := h.linearization
  refine ⟨order, hl.imp (I := fun T => WellFormed cat T ∧ RowsOf cat w.Arrived T)
    ⟨.nil, .nil⟩ fun c hc T T' hT hs => ?_⟩
  have harrived := World.invoke_mem_history.mp (hl.invoked c hc)
  refine ⟨⟨hs.wellFormed hT.1, hs.rowsOf hT.2 ⟨_, harrived⟩⟩,
    hT.1.sequential (hfit _ _ harrived) (fun r hr hmatches => ?_) hs⟩
  obtain ⟨p, store, product, hp, hw⟩ := hT.2 r hr
  have hid : c.op.eventId = p.eventId := hmatches.eventId.symm.trans hw.eventId
  have hnot : ¬ Mistakable p c.op := hclear p c.op hp ⟨_, harrived⟩ hid.symm
  exact (hw.storedAs_iff hid).mpr ((agree_iff hnot).mpr ((hw.matchesPayload_iff hid).mp hmatches))

/-- The arrivals of a log that fit and have no metadata. -/
def Entry.plain : Entry → Bool
  | .arrived _ (.event p) => p.fits && p.base.metadata.isNone
  | _ => true

theorem World.payloadsFit_of_plain {w : World} (h : w.log.all Entry.plain = true) :
    w.PayloadsFit := by
  intro i p hm
  have hplain := List.all_eq_true.mp h _ hm
  rw [Entry.plain, Bool.and_eq_true] at hplain
  exact hplain.1

/-- Payloads without metadata are not mistaken. -/
theorem World.unmistakable_of_plain {w : World} (h : w.log.all Entry.plain = true) :
    w.Unmistakable := by
  rintro p q ⟨i, hm⟩ _ _ ⟨_, _, hclash⟩
  have hplain := List.all_eq_true.mp h _ hm
  rw [Entry.plain, Bool.and_eq_true, Option.isNone_iff_eq_none] at hplain
  rw [hplain.2] at hclash
  cases hclash

/-- The race of two REFUNDS is serializable. -/
theorem ingestion_serializable_in_race :
    ∃ w, Sample.run Sample.raceSteps = some w ∧ w.history.length = 6 ∧
      ∃ order, Linearization (Sequential Sample.catalogue) [] w.history order
        w.db.events.committed := by
  have hrun : ((Sample.run Sample.raceSteps).map fun w =>
      (w.history.length, w.log.all Entry.plain)) = some (6, true) := by decide +kernel
  obtain ⟨w, hw, he⟩ := Option.map_eq_some_iff.mp hrun
  rw [Prod.mk.injEq] at he
  exact ⟨w, hw, he.1, ingestion_serializable (Sample.run_reachable hw)
    (World.payloadsFit_of_plain he.2) (World.unmistakable_of_plain he.2)⟩

/-- `Sample.taggedSteps`, and then the request with `{"a": 1}` until it is answered. -/
def Sample.mistakenSteps : List Label :=
  taggedSteps ++ .arrive (.event (tagged (.int 1) rfl)) :: List.replicate 6 (.run 1)

/-- The payload with `{"a": 1}` is answered as a duplicate of the one with `{"a": true}`, and no
order of the two calls explains that. -/
theorem mistaken_not_serializable :
    ∃ w, Sample.run Sample.mistakenSteps = some w ∧ w.PayloadsFit ∧
      ¬ ∃ order, Linearization (Sequential Sample.catalogue) [] w.history order
        w.db.events.committed := by
  have hrun : (Sample.run Sample.mistakenSteps).map World.requests =
      some [⟨.event (Sample.tagged (.bool true) rfl), .answered (.event 201 ⟨10, .accepted, 0⟩)⟩,
        ⟨.event (Sample.tagged (.int 1) rfl), .answered (.event 200 ⟨10, .duplicate, 0⟩)⟩] := rfl
  obtain ⟨w, hw, he⟩ := Option.map_eq_some_iff.mp hrun
  have h := Sample.run_reachable hw
  have harrived : ∀ i p, .arrived i (.event p) ∈ w.log →
      i = 0 ∧ p = Sample.tagged (.bool true) rfl ∨ i = 1 ∧ p = Sample.tagged (.int 1) rfl := by
    intro i p hm
    obtain ⟨state, hreq⟩ := (h.listed.arrived _ _).mp hm
    rw [he] at hreq
    match i, hreq with
    | 0, hreq => cases hreq; exact Or.inl ⟨rfl, rfl⟩
    | 1, hreq => cases hreq; exact Or.inr ⟨rfl, rfl⟩
  have hfit : w.PayloadsFit := by
    intro i p hm
    rcases harrived i p hm with ⟨_, rfl⟩ | ⟨_, rfl⟩
    · rfl
    · rfl
  refine ⟨w, hw, hfit, ?_⟩
  rintro ⟨order, hl⟩
  have hcalls : ∀ c ∈ order, .arrived c.id (.event c.op) ∈ w.log := fun c hc =>
    World.invoke_mem_history.mp (hl.invoked c hc)
  have hanswer : .answered 1 (.event (Sample.tagged (.int 1) rfl))
      (.event 200 ⟨10, .duplicate, 0⟩) ∈ w.log := (h.listed.answered _ _ _).mpr (by rw [he]; rfl)
  obtain ⟨d, hd, hid, hret⟩ := hl.responded _ _ (World.respond_mem_history hanswer)
  obtain ⟨c, hc, hne, hagree⟩ := agree_of_duplicate hl (fun c hc => hfit _ _ (hcalls c hc)) hd
    (by rw [hret]; rfl)
  rcases harrived _ _ (hcalls d hd) with ⟨hd', _⟩ | ⟨_, hdop⟩
  · rw [hid] at hd'; cases hd'
  rcases harrived _ _ (hcalls c hc) with ⟨_, hcop⟩ | ⟨hc', _⟩
  · rw [hcop, hdop] at hagree
    cases hagree.2
  · exact hne (hc'.trans hid.symm)

end StorePulse
