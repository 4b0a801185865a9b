import StorePulse.Backend.Alone
import StorePulse.Backend.InternalErrors
import StorePulse.Python.JsonEquality

/-!
# What counts as a duplicate

A request with the key of a stored row is a duplicate when it agrees with the
payload of the row in every producer field, and a conflict otherwise.  The
source compares the metadata with Python's `==`, which takes a boolean for a
number.  So the classification is right unless that is the only difference
(`Mistakable`).

A request that arrives when the row is stored is classified and nothing else
(`Reachable.classified`).
-/

namespace StorePulse

variable {cat : Catalogue} {p q : EventCreate} {store : Store} {product : Product}
  {row : PosEvent} {a : Answer}

/-! ## Agreement -/

/-- Two payloads agree in every producer field but the metadata. -/
structure Alike (p q : EventCreate) : Prop where
  storeCode : p.storeCode = q.storeCode
  productSku : p.productSku = q.productSku
  eventType : p.eventType = q.eventType
  quantity : p.base.quantity = q.base.quantity
  amountCents : p.base.amountCents = q.base.amountCents
  occurredAt : p.base.occurredAt = q.base.occurredAt
  originalEventId : payloadOriginalEventId p = payloadOriginalEventId q
  sourceInstance : p.base.sourceInstance = q.base.sourceInstance
  note : p.base.note = q.base.note

/-- Two payloads agree in every producer field. -/
def Agree (p q : EventCreate) : Prop :=
  Alike p q ∧ JsonObject.same? p.base.metadata q.base.metadata = true

/-- Two payloads differ only in that the metadata of one has booleans where the other has
the numbers they count as. -/
structure Mistakable (p q : EventCreate) : Prop where
  alike : Alike p q
  equal : JsonObject.pyEq? p.base.metadata q.base.metadata = true
  clash : JsonObject.clashes? p.base.metadata q.base.metadata = true

/-- The comparison of the source agrees with equality unless the payloads are mistakable. -/
theorem agree_iff (h : ¬ Mistakable p q) :
    Agree p q ↔ Alike p q ∧ JsonObject.pyEq? p.base.metadata q.base.metadata = true := by
  rw [Agree, JsonObject.same?_eq, Bool.and_eq_true, Bool.not_eq_true']
  constructor
  · rintro ⟨halike, hequal, _⟩
    exact ⟨halike, hequal⟩
  · rintro ⟨halike, hequal⟩
    refine ⟨halike, hequal, ?_⟩
    by_contra hclash
    exact h ⟨halike, hequal, by simpa using hclash⟩

theorem Mistakable.not_agree (h : Mistakable p q) : ¬ Agree p q := by
  rw [Agree, JsonObject.same?_eq, h.clash]
  simp

/-- What the source compares a stored row with. -/
theorem WrittenFor.matchesPayload_iff (hw : WrittenFor cat p store product row)
    (hid : q.eventId = p.eventId) : MatchesPayload cat row q ↔
      Alike p q ∧ JsonObject.pyEq? p.base.metadata q.base.metadata = true := by
  constructor
  · rintro ⟨store', product', hl, hsame⟩
    rw [hw.values] at hsame
    have hstore : store = store' := by
      have hfound := Catalogue.storeById_of_code hl.store
      rw [← show store.id = store'.id from hsame.storeId,
        Catalogue.storeById_of_code hw.located.store] at hfound
      exact Option.some.inj hfound
    have hproduct : product = product' := by
      have hfound := Catalogue.productById_of_sku hl.product
      rw [← show product.id = product'.id from hsame.productId,
        Catalogue.productById_of_sku hw.located.product] at hfound
      exact Option.some.inj hfound
    subst hstore hproduct
    exact ⟨{
      storeCode := (Catalogue.storeByCode_code hw.located.store).symm.trans
        (Catalogue.storeByCode_code hl.store)
      productSku := (Catalogue.productBySku_sku hw.located.product).symm.trans
        (Catalogue.productBySku_sku hl.product)
      eventType := hsame.eventType
      quantity := hsame.quantity
      amountCents := hsame.amountCents
      occurredAt := hsame.occurredAt
      originalEventId := hsame.originalEventId
      sourceInstance := hsame.sourceInstance
      note := hsame.note }, hsame.metadata⟩
  · rintro ⟨halike, hmetadata⟩
    refine ⟨store, product, ⟨?_, ?_⟩, ?_⟩
    · rw [← halike.storeCode]
      exact hw.located.store
    · rw [← halike.productSku]
      exact hw.located.product
    · rw [hw.values]
      exact {
        eventId := hid.symm
        storeId := rfl
        productId := rfl
        eventType := halike.eventType
        quantity := halike.quantity
        amountCents := halike.amountCents
        occurredAt := halike.occurredAt
        originalEventId := halike.originalEventId
        sourceInstance := halike.sourceInstance
        metadata := hmetadata
        note := halike.note }

/-! ## Requests that find their row -/

/-- The two ways a classification ends, and the error that never happens. -/
inductive Classified (q : EventCreate) : Answer → Prop
  | duplicate {result : EventIngestionResult} : result.status = .duplicate →
      Classified q (.event 200 result)
  | conflict : Classified q (raiseHttp (.eventConflict q.eventId))
  | runtimeError {m : String} : Classified q (.serverError (.runtimeError m))

namespace Point

/-- The points of a request that finds the row with its key. -/
def Classifies (q : EventCreate) : Point → Prop
  | .begin | .precheck | .classifyProduct _ _ _ => True
  | .classifyStore e => e.eventId = q.eventId
  | .rollback (.error e) => Classified q (raiseHttp e)
  | .rollback (.ok result) => result.status = .duplicate
  | .done a => Classified q a
  | _ => False

theorem Classifies.aligned {pt : Point} (h : pt.Classifies q) : pt.Aligned q := by
  cases pt with
  | insert => cases h
  | classifyStore e => exact h
  | _ => trivial

/-- A request that finds the row with its key goes on to a classification. -/
theorem Classifies.move {pt pt' : Point} {db db' : Db} {i : Nat} (h : pt.Classifies q)
    (hrow : row ∈ db.events.committed) (hid : row.eventId = q.eventId)
    (hm : Move cat db i q pt pt' db') : pt'.Classifies q := by
  cases hm with
  | begin => trivial
  | precheckMiss hf =>
      exact absurd hid (findEvent_none hf row (List.mem_append_left _ hrow))
  | precheckHit hf => exact (findEvent_mem hf).2
  | storeMissing => exact .runtimeError
  | storeRead => trivial
  | productMissing => exact .runtimeError
  | productRead =>
      rw [classification]
      split
      · exact .conflict
      · rfl
  | @rolledBack outcome =>
      cases outcome with
      | error e => exact h
      | ok result =>
          have hstatus : result.status = .duplicate := h
          rw [afterRollback, if_pos hstatus]
          exact .duplicate hstatus
  | _ => cases h

end Point

/-- A request that is classified. -/
def RequestState.Classifies (q : EventCreate) : RequestState → Prop
  | .running program => ∃ pt : Point, pt.Classifies q ∧ program = pt.resume q
  | .answered a => Classified q a
  | .aborted => True

namespace World

variable {w w' : World} {i : Nat}

/-- Requests with the key of a stored row that have arrived since are classified. -/
theorem Reachable.classifies {state : RequestState} (hrow : row ∈ w.db.events.committed)
    (hr : (server cat).Reaches w w') (hid : row.eventId = q.eventId)
    (hi : w.requests.length ≤ i) (hreq : w'.requests[i]? = some ⟨.event q, state⟩) :
    state.Classifies q := by
  revert state
  refine hr.invariant (I := fun v => ∀ {state : RequestState},
    v.requests[i]? = some ⟨.event q, state⟩ → state.Classifies q) ?_ ?_
  · intro state hreq
    exact absurd (lt_of_getElem? hreq) (not_lt.mpr hi)
  intro v l v' hv ih hs state hreq
  have hrow' := (committed_grows hv).subset hrow
  cases step_cases hs with
  | tick | lock => exact ih hreq
  | arrive =>
      rcases getElem?_arrived hreq with hreq | ⟨_, he⟩
      · exact ih hreq
      · cases he
        exact ⟨.begin, trivial, rfl⟩
  | @perform j call op k reply db hj hp =>
      by_cases hij : i = j
      · subst hij
        cases getElem?_set_same hj hreq
        obtain ⟨pt, hpt, he⟩ := ih hj
        obtain ⟨pt', hk, hm⟩ := Point.step_cases hpt.aligned he.symm hp
        exact ⟨pt', hpt.move hrow' hid hm, hk⟩
      · exact ih (getElem?_set_other hij hreq)
  | @answer j call b hj =>
      by_cases hij : i = j
      · subst hij
        cases getElem?_set_same hj hreq
        obtain ⟨pt, hpt, he⟩ := ih hj
        obtain rfl := Point.eq_done hpt.aligned he.symm
        exact hpt
      · exact ih (getElem?_set_other hij hreq)
  | @abort j call program hj =>
      by_cases hij : i = j
      · subst hij
        cases getElem?_set_same hj hreq
        trivial
      · exact ih (getElem?_set_other hij hreq)

end World

/-! ## Answers -/

/-- What the answers to a payload say about its agreement with a stored one: a duplicate
agrees, a conflict does not, and a request that arrives now is answered one or the other. -/
structure ClassifiedExactly (cat : Catalogue) (w : World) (p q : EventCreate) (row : PosEvent)
    (w' : World) (i : Nat) (a : Answer) : Prop where
  duplicate : a.outcome = .duplicate → Agree p q
  conflict : a = raiseHttp (.eventConflict q.eventId) → ¬ Agree p q
  late : w.requests.length ≤ i →
    (Agree p q → a.outcome = .duplicate) ∧
      (¬ Agree p q → a = raiseHttp (.eventConflict q.eventId))
  kept : row ∈ w'.db.events.committed

/-- What an answer shows about the stored row. -/
theorem World.Reachable.classified {w w' : World} {i : Nat} (h : w.Reachable cat)
    (hrow : row ∈ w.db.events.committed) (hid : row.eventId = q.eventId)
    (hr : (server cat).Reaches w w') (ha : .answered i (.event q) a ∈ w'.log) :
    (a.outcome = .duplicate → MatchesPayload cat row q) ∧
    (a = raiseHttp (.eventConflict q.eventId) → ¬ MatchesPayload cat row q) ∧
    (w.requests.length ≤ i → a.outcome = .duplicate ∨
      a = raiseHttp (.eventConflict q.eventId)) := by
  have h' := h.reaches hr
  have hwell := h'.ok.consistent.wellFormed
  have hrow' := (World.committed_grows hr).subset hrow
  obtain ⟨T, T', hs, hgrows⟩ := h'.answer_spec ha
  have hsame : ∀ {e : PosEvent}, e ∈ T → e.eventId = q.eventId → e = row := fun he heid =>
    hwell.eq_of_eventId (hgrows.subset (hs.grows.subset he)) hrow' (heid.trans hid.symm)
  refine ⟨fun hout => ?_, fun hconflict => ?_, fun hi => ?_⟩
  · cases hs with
    | accepted => cases hout
    | duplicate he hi => exact hsame he hi.eventId ▸ hi
    | refused => rw [raiseHttp_outcome] at hout; cases hout
  · subst hconflict
    cases hs.refuses with
    | eventConflict he heid hne => exact hsame he heid ▸ hne
  · have hclass := Reachable.classifies hrow hr hid hi ((h'.listed.answered _ _ _).mp ha)
    cases hclass with
    | duplicate hstatus =>
        left
        simp only [Answer.outcome, hstatus]
    | conflict => exact Or.inr rfl
    | runtimeError => exact absurd rfl (h'.answer_ne_runtimeError ha _)

/-- Where `p` is stored, every answer to a payload with its key tells whether the two agree,
unless they differ only in booleans that stand for numbers in their metadata. -/
theorem classification_exact_iff {w : World} (h : w.Reachable cat)
    (hrow : row ∈ w.db.events.committed) (hw : WrittenFor cat p store product row)
    (hid : q.eventId = p.eventId) :
    (∀ w' i a, (server cat).Reaches w w' → .answered i (.event q) a ∈ w'.log →
      ClassifiedExactly cat w p q row w' i a) ↔ ¬ Mistakable p q := by
  have hrid : row.eventId = q.eventId := hw.eventId.trans hid.symm
  have hidentical := hw.matchesPayload_iff hid
  constructor
  · intro hexact hmistakable
    -- a request that runs alone is answered, and the answer is a duplicate
    obtain ⟨v, hv, hquiet, hcommitted, hlength⟩ := w.settles cat
    obtain ⟨n, w', a, hrun, hreq⟩ := World.served_alone (h.reaches hv) hquiet (.event q)
    have hr := hv.trans (System.run_reaches hrun)
    have hlog := ((h.reaches hr).listed.answered _ _ _).mpr hreq
    have hlate := (hexact w' _ a hr hlog).late hlength.ge
    have hconflict := hlate.2 hmistakable.not_agree
    exact (h.classified hrow hrid hr hlog).2.1 hconflict
      (hidentical.mpr ⟨hmistakable.alike, hmistakable.equal⟩)
  · intro hnot w' i a hr hlog
    obtain ⟨hduplicate, hconflict, hlate⟩ := h.classified hrow hrid hr hlog
    have hagree := (agree_iff hnot).trans hidentical.symm
    refine ⟨fun ha => hagree.mpr (hduplicate ha), fun ha hsame => hconflict ha (hagree.mp hsame),
      fun hi => ⟨fun hsame => ?_, fun hdiffer => ?_⟩, (World.committed_grows hr).subset hrow⟩
    · exact (hlate hi).resolve_right fun ha => hconflict ha (hagree.mp hsame)
    · exact (hlate hi).resolve_left fun ha => hdiffer (hagree.mpr (hduplicate ha))

/-! ## Runs -/

namespace Sample

theorem distinctKeys_tag {a : Json} (h : a.all Json.distinctKeys = true) :
    (Json.obj [("a", a)]).all Json.distinctKeys = true := by
  simp [Json.all, Json.allFields, Json.allField, Json.distinctKeys, h]

/-- The SALE 10 with a member `a` in its metadata. -/
def tagged (a : Json) (h : a.all Json.distinctKeys = true) : EventCreate :=
  .sale { base 10 3 three_pieces with metadata := some ⟨[("a", a)], distinctKeys_tag h⟩ }

/-- The SALE with `{"a": true}`, and then a request with `{"a": 1}`. -/
def taggedSteps : List Label :=
  .arrive (.event (tagged (.bool true) rfl)) :: List.replicate 9 (.run 0)

end Sample

/-- A payload with `{"a": 1}` is answered as a duplicate of one with `{"a": true}`. -/
theorem one_is_duplicate_of_true : ∃ w w' a, Sample.run Sample.taggedSteps = some w ∧
    (∃ row ∈ w.db.events.committed, WrittenFor Sample.catalogue
      (Sample.tagged (.bool true) rfl) ⟨1, "POA-CENTRO"⟩ ⟨2, "COFFEE"⟩ row) ∧
    (server Sample.catalogue).Reaches w w' ∧
    .answered 1 (.event (Sample.tagged (.int 1) rfl)) a ∈ w'.log ∧
    a.outcome = .duplicate ∧
    ¬ Agree (Sample.tagged (.bool true) rfl) (Sample.tagged (.int 1) rfl) := by
  have hrun : ((Sample.run Sample.taggedSteps).bind fun w =>
      ((server Sample.catalogue).run w (.arrive (.event (Sample.tagged (.int 1) rfl)) ::
        List.replicate 6 (.run 1))).map fun w' => (w.db.events.committed, w'.requests[1]?)) =
      some ([⟨(Sample.tagged (.bool true) rfl).values ⟨1, "POA-CENTRO"⟩ ⟨2, "COFFEE"⟩, 0⟩],
        some ⟨.event (Sample.tagged (.int 1) rfl), .answered (.event 200 ⟨10, .duplicate, 0⟩)⟩) :=
    rfl
  obtain ⟨w, hw, hrun⟩ := Option.bind_eq_some_iff.mp hrun
  obtain ⟨w', hw', he⟩ := Option.map_eq_some_iff.mp hrun
  rw [Prod.mk.injEq] at he
  have hr := System.run_reaches hw'
  have hrow : ∃ row ∈ w.db.events.committed, WrittenFor Sample.catalogue
      (Sample.tagged (.bool true) rfl) ⟨1, "POA-CENTRO"⟩ ⟨2, "COFFEE"⟩ row := by
    rw [he.1]
    exact ⟨_, List.mem_singleton_self _, ⟨by decide, by decide⟩, rfl, rfl⟩
  refine ⟨w, w', _, hw, hrow, hr,
    (((Sample.run_reachable hw).reaches hr).listed.answered _ _ _).mpr he.2, rfl, ?_⟩
  rintro ⟨_, hsame⟩
  cases hsame

/-- A copy of the SALE 10 that arrives after it is answered as a duplicate of it. -/
theorem classification_exact_of_copy : ∃ w, Sample.run Sample.saleSteps = some w ∧
    ∀ w' i a, (server Sample.catalogue).Reaches w w' →
      .answered i (.event Sample.sale) a ∈ w'.log →
      ClassifiedExactly Sample.catalogue w Sample.sale Sample.sale Sample.saleRow w' i a := by
  have hrun : ((Sample.run Sample.saleSteps).map fun w => w.db.events.committed) =
      some [Sample.saleRow] := rfl
  obtain ⟨w, hw, he⟩ := Option.map_eq_some_iff.mp hrun
  have hrow : Sample.saleRow ∈ w.db.events.committed := by
    rw [he]
    exact List.mem_singleton_self _
  refine ⟨w, hw, (classification_exact_iff (Sample.run_reachable hw) hrow
    ⟨⟨by decide, by decide⟩, rfl, rfl⟩ rfl).mpr ?_⟩
  rintro ⟨_, _, hclash⟩
  cases hclash

end StorePulse
