import StorePulse.Backend.Receipts
import StorePulse.Foundation.Totals

/-!
# Batches of events

A batch is a list of events that are sent once each to a server that is quiet.
Whatever the order of their statements, an event that is refused is a REFUND for
which its SALE has no room left.  So where the SALES have room for the whole
batch nothing is refused, and the rows that are added do not depend on the order.

`World.Batch` is the invariant: a row that is added belongs to a request of the
batch, and a request is decided on a table with rows of other requests only
(`Verdict`).
-/

namespace StorePulse

variable {cat : Catalogue} {p q : EventCreate} {ps : List EventCreate} {T T' : List PosEvent}
  {a : Answer}

/-! ## Batches -/

/-- What the REFUNDS of a batch ask of a SALE. -/
def askedOf (d : Measure) (ps : List EventCreate) (original : UUID) : Int :=
  total (fun p => if payloadOriginalEventId p = some original then d.asked p else 0) ps

/-- The events are new, each names a store and a product, and each REFUND names a SALE of
the table with the same store and product. -/
structure Compatible (cat : Catalogue) (T : List PosEvent) (ps : List EventCreate) : Prop where
  distinct : (ps.map EventCreate.eventId).Nodup
  unused : ∀ p ∈ ps, ∀ e ∈ T, e.eventId ≠ p.eventId
  located : ∀ p ∈ ps, ∃ store product, Located cat p store product
  fits : ∀ p ∈ ps, p.fits = true
  originals : ∀ p ∈ ps, ∀ o, payloadOriginalEventId p = some o → ∃ s ∈ T, s.eventId = o ∧
    s.eventType = .sale ∧ ∀ store product, Located cat p store product →
      s.storeId = store.id ∧ s.productId = product.id

/-- The SALES of the table have room for the batch, in quantity and in amount. -/
def RoomFor (T : List PosEvent) (ps : List EventCreate) : Prop :=
  ∀ s ∈ T, s.eventType = .sale → ∀ d : Measure,
    sumOfRefunds (fun e => d.of e.toEventValues) T s.eventId + askedOf d ps s.eventId ≤
      d.of s.toEventValues

/-- A step of a run that sends the events of a batch, each once, after the first `n` requests. -/
def Label.sends (ps : List EventCreate) (n : Nat) (w : World) : Label → Prop
  | .arrive (.event p) =>
      p ∈ ps ∧ ∀ (i : Nat) state, n ≤ i → w.requests[i]? ≠ some ⟨.event p, state⟩
  | _ => True

/-- A state that is reached by sending events of a batch. -/
def World.Sending (cat : Catalogue) (w₀ : World) (ps : List EventCreate) (w : World) : Prop :=
  (server cat).ReachesWithin (fun v l => l.sends ps w₀.requests.length v) w₀ w

/-- A request of the batch has been answered. -/
def World.AnsweredSince (w₀ w : World) (p : EventCreate) (a : Answer) : Prop :=
  ∃ i, w₀.requests.length ≤ i ∧ .answered i (.event p) a ∈ w.log

/-! ## The invariant -/

/-- How a request of a batch was decided, when `T₀` was the table before the batch. -/
structure Verdict (cat : Catalogue) (T₀ : List PosEvent) (ps : List EventCreate) (p : EventCreate)
    (a : Answer) (T T' : List PosEvent) : Prop where
  spec : Spec cat T p a T'
  wellFormed : WellFormed cat T
  grows : T₀ <+: T
  others : ∀ e ∈ T, e ∈ T₀ ∨ ∃ q ∈ ps, q ≠ p ∧ ∃ store product, WrittenFor cat q store product e

namespace World

variable {w₀ w w' : World}

/-- What holds while a batch is sent. -/
structure Batch (cat : Catalogue) (w₀ : World) (ps : List EventCreate) (w : World) : Prop where
  older : w₀.requests.length ≤ w.requests.length
  drawn : ∀ (i : Nat) p state, w₀.requests.length ≤ i → w.requests[i]? = some ⟨.event p, state⟩ →
    p ∈ ps
  once : ∀ (i j : Nat) p state state', w₀.requests.length ≤ i → w₀.requests.length ≤ j →
    w.requests[i]? = some ⟨.event p, state⟩ → w.requests[j]? = some ⟨.event p, state'⟩ → i = j
  before : ∀ (i : Nat) r, i < w₀.requests.length → w.requests[i]? = some r → r.state.ended = true
  grows : w₀.db.events.committed <+: w.db.events.committed
  rows : ∀ e ∈ w.db.events.committed, e ∈ w₀.db.events.committed ∨ ∃ (i : Nat) (p : EventCreate)
    (state : RequestState) (store : Store) (product : Product), w₀.requests.length ≤ i ∧
      w.requests[i]? = some ⟨.event p, state⟩ ∧ WrittenFor cat p store product e ∧
        (recordOf w.log i).commits ≠ []
  verdicts : ∀ (i : Nat) p state a, w₀.requests.length ≤ i →
    w.requests[i]? = some ⟨.event p, state⟩ → state.decided = some a →
    ∃ T T', Verdict cat w₀.db.events.committed ps p a T T' ∧ T' <+: w.db.events.committed

/-- A call that has committed is decided. -/
theorem Records.commits_of_undecided {i : Nat} {program : Program Effects Answer}
    (h : w.Records cat) (hi : w.requests[i]? = some ⟨.event p, .running program⟩)
    (hphase : program.phase = .undecided) : (recordOf w.log i).commits = [] := by
  have hrec : (recordOf w.log i).InPhase cat p program.phase := h.requests i _ hi
  rw [hphase] at hrec
  exact congrArg Record.commits hrec

/-- What a request has committed stays in its record. -/
theorem commits_of_step {l : Label} {i : Nat} (hs : w.step cat l = some w')
    (h : (recordOf w.log i).commits ≠ []) : (recordOf w'.log i).commits ≠ [] := by
  obtain ⟨new, hnew⟩ := log_grows (System.Reaches.refl.tail hs)
  rw [← hnew, recordOf_append]
  exact List.append_ne_nil_of_left_ne_nil h _

/-- A running request belongs to the batch. -/
theorem Batch.le_of_running {i : Nat} {call : Call} {program : Program Effects Answer}
    (h : Batch cat w₀ ps w) (hi : w.requests[i]? = some ⟨call, .running program⟩) :
    w₀.requests.length ≤ i := by
  by_contra hlt
  have hended := h.before i _ (not_le.mp hlt) hi
  simp [RequestState.ended] at hended

/-- Every step of a run that sends a batch keeps the invariant. -/
theorem Batch.step {l : Label} (hw : w.Reachable cat) (h : Batch cat w₀ ps w)
    (hl : l.sends ps w₀.requests.length w) (hs : w.step cat l = some w') :
    Batch cat w₀ ps w' := by
  have hcommitted := committed_grows (System.Reaches.refl.tail hs)
  have hnew : ∀ {i : Nat} {p : EventCreate} {state : RequestState}, l = .arrive (.event p) →
      w₀.requests.length ≤ i → w.requests[i]? ≠ some ⟨.event p, state⟩ := by
    intro i p state hl' hi
    rw [hl'] at hl
    exact hl.2 i state hi
  refine ⟨?_, fun i p state hi hr => ?_, fun i j p state state' hi hj hri hrj => ?_,
    fun i r hi hr => ?_, h.grows.trans hcommitted, fun e he => ?_,
    fun i p state a hi hr hd => ?_⟩
  · refine h.older.trans ?_
    cases step_cases hs with
    | arrive => simp
    | _ => simp
  · rcases call_of_step hs hr with ⟨before, hr⟩ | ⟨rfl, _, _⟩
    · exact h.drawn i p before hi hr
    · exact hl.1
  · rcases call_of_step hs hri with ⟨before, hri⟩ | ⟨harr, hi', _⟩
    · rcases call_of_step hs hrj with ⟨before', hrj⟩ | ⟨harr, _, _⟩
      · exact h.once i j p before before' hi hj hri hrj
      · exact absurd hri (hnew harr hi)
    · rcases call_of_step hs hrj with ⟨before', hrj⟩ | ⟨_, hj', _⟩
      · exact absurd hrj (hnew harr hj)
      · exact hi'.trans hj'.symm
  · obtain ⟨call, state⟩ := r
    rcases call_of_step hs hr with ⟨before, hb⟩ | ⟨_, rfl, _⟩
    · obtain ⟨after, ha, hkeep⟩ := step_keeps hs hb
      have hended := h.before i _ hi hb
      rw [hr] at ha
      cases ha
      rw [hkeep hended]
      exact hended
    · exact absurd h.older (not_le.mpr hi)
  · rcases step_new_row hw.ok hs he with he | ⟨i, p, program, store, product, hr, hwritten, hc⟩
    · refine (h.rows e he).imp_right ?_
      rintro ⟨i, p, state, store, product, hi, hr, hwritten, hc⟩
      obtain ⟨after, ha, _⟩ := step_keeps hs hr
      exact ⟨i, p, after, store, product, hi, ha, hwritten, commits_of_step hs hc⟩
    · obtain ⟨after, ha, _⟩ := step_keeps hs hr
      exact Or.inr ⟨i, p, after, store, product, h.le_of_running hr, ha, hwritten, hc⟩
  · rcases step_decided hw.ok hs hr hd with ⟨before, hb, hd⟩ | ⟨⟨program, hb, hphase⟩, hspec⟩
    · obtain ⟨T, T', hv, hT'⟩ := h.verdicts i p before a hi hb hd
      exact ⟨T, T', hv, hT'.trans hcommitted⟩
    · refine ⟨_, _, ⟨hspec, hw.ok.consistent.wellFormed, h.grows, fun e he => ?_⟩,
        List.prefix_refl _⟩
      refine (h.rows e he).imp_right ?_
      rintro ⟨j, q, state', store, product, hj, hrj, hwritten, hc⟩
      refine ⟨q, h.drawn j q state' hj hrj, ?_, store, product, hwritten⟩
      -- the request has not committed, so the row is of another one
      rintro rfl
      obtain rfl := h.once i j q _ _ hi hj hb hrj
      exact hc (hw.records.commits_of_undecided hb hphase)

/-- The invariant holds while a batch is sent. -/
theorem Sending.batch (h₀ : w₀.Reachable cat) (hquiet : w₀.Quiet) (h : Sending cat w₀ ps w) :
    Batch cat w₀ ps w := by
  refine System.ReachesWithin.invariant h ?_ fun v l v' hv hb hl hs =>
    hb.step (h₀.reaches hv.reaches) hl hs
  have hlt : ∀ {i : Nat} {r : Request}, w₀.requests.length ≤ i → w₀.requests[i]? ≠ some r :=
    fun hi hr => absurd (lt_of_getElem? hr) (not_lt.mpr hi)
  exact ⟨le_rfl, fun i p state hi hr => absurd hr (hlt hi),
    fun i j p state state' hi _ hr => absurd hr (hlt hi), fun i r _ hr => hquiet i r hr,
    List.prefix_refl _, fun e he => Or.inl he, fun i p state a hi hr => absurd hr (hlt hi)⟩

end World

/-! ## What a batch asks for -/

@[simp] theorem askedOf_cons (d : Measure) (p : EventCreate) (ps : List EventCreate) (k : UUID) :
    askedOf d (p :: ps) k =
      (if payloadOriginalEventId p = some k then d.asked p else 0) + askedOf d ps k :=
  total_cons p ps

@[simp] theorem askedOf_append (d : Measure) (ps qs : List EventCreate) (k : UUID) :
    askedOf d (ps ++ qs) k = askedOf d ps k + askedOf d qs k := total_append ps qs

/-- What is used up of a SALE is a total over the table. -/
theorem spent_eq_total (d : Measure) (T : List PosEvent) (k : UUID) :
    refundLedger.spent d T k =
      total (fun e => if e.refunds = some k then d.of e.toEventValues else 0) T := by
  simp only [Ledger.spent, refundLedger, sum_filter_eq_total]
  congr 1
  funext e
  by_cases he : e.refunds = some k <;> simp [he]

/-- Rows that are each stored for a payload use up at most what the payloads ask for. -/
theorem spent_le_askedOf {d : Measure} {k : UUID} (hkeys : (T.map fun e => e.eventId).Nodup)
    (h : ∀ e ∈ T, ∃ p ∈ ps, MatchesPayload cat e p) :
    refundLedger.spent d T k ≤ askedOf d ps k := by
  rw [spent_eq_total]
  refine total_le_of_keys (fun e => e.eventId) EventCreate.eventId hkeys (fun e he => ?_)
    fun p _ => ?_
  · obtain ⟨p, hp, hi⟩ := h e he
    refine ⟨p, hp, hi.eventId.symm, ?_⟩
    rw [hi.refunds, hi.amount d]
  · split
    · exact (d.asked_pos p).le
    · exact le_rfl

/-- Payloads that are each stored ask for at most what their rows use up. -/
theorem askedOf_le_spent {d : Measure} {k : UUID} (hkeys : (ps.map EventCreate.eventId).Nodup)
    (h : ∀ p ∈ ps, ∃ e ∈ T, MatchesPayload cat e p) (hpos : ∀ e ∈ T, 0 ≤ d.of e.toEventValues) :
    askedOf d ps k ≤ refundLedger.spent d T k := by
  rw [spent_eq_total]
  refine total_le_of_keys EventCreate.eventId (fun e => e.eventId) hkeys (fun p hp => ?_)
    fun e he => ?_
  · obtain ⟨e, he, hi⟩ := h p hp
    refine ⟨e, he, hi.eventId, ?_⟩
    rw [hi.refunds, hi.amount d]
  · split
    · exact hpos e he
    · exact le_rfl

/-- A SALE has no original. -/
theorem WellFormed.root_of_sale {s : PosEvent} (h : WellFormed cat T) (hs : s ∈ T)
    (ht : s.eventType = .sale) : s.originalEventId = none := by
  obtain ⟨p, store, product, hw⟩ := h.written s hs
  have ho : s.originalEventId = payloadOriginalEventId p :=
    congrArg EventValues.originalEventId hw.values
  have htype : p.eventType = .sale := (congrArg EventValues.eventType hw.values).symm.trans ht
  cases p with
  | sale p => exact ho
  | refund p => cases htype

/-! ## How a batch is decided -/

section Decided

variable {T₀ : List PosEvent}

/-- An event of a batch is told from its `event_id`. -/
theorem Compatible.eq_of_eventId (h : Compatible cat T₀ ps) (hp : p ∈ ps) (hq : q ∈ ps)
    (hid : p.eventId = q.eventId) : p = q :=
  List.inj_on_of_nodup_map h.distinct hp hq hid

/-- The table has no row of a request that is to be decided. -/
theorem Verdict.fresh (h : Verdict cat T₀ ps p a T T') (hps : Compatible cat T₀ ps)
    (hp : p ∈ ps) : ∀ e ∈ T, e.eventId ≠ p.eventId := by
  intro e he hid
  rcases h.others e he with hold | ⟨q, hq, hne, store, product, hw⟩
  · exact hps.unused p hp e hold hid
  · exact hne (hps.eq_of_eventId hq hp (hw.eventId.symm.trans hid))

/-- An event of a batch is accepted, unless its SALE has no room left. -/
theorem Verdict.accepted_or_full (h : Verdict cat T₀ ps p a T T') (hps : Compatible cat T₀ ps)
    (hp : p ∈ ps) : a.outcome = .accepted ∨ ∃ s ∈ T₀, s.eventType = .sale ∧
      payloadOriginalEventId p = some s.eventId ∧
      ∃ d : Measure, d.of s.toEventValues < refundLedger.spent d T s.eventId + d.asked p := by
  have hfresh := h.fresh hps hp
  obtain ⟨store₀, product₀, hloc⟩ := hps.located p hp
  -- a row with the key of the original is the SALE of the batch
  have horiginal : ∀ {o : UUID} {e : PosEvent}, payloadOriginalEventId p = some o → e ∈ T →
      e.eventId = o → e ∈ T₀ ∧ e.eventType = .sale ∧ e.storeId = store₀.id ∧
        e.productId = product₀.id := by
    intro o e ho he hid
    obtain ⟨s, hs, hsid, hsale, hplace⟩ := hps.originals p hp o ho
    obtain rfl := h.wellFormed.eq_of_eventId he (h.grows.subset hs) (hid.trans hsid.symm)
    exact ⟨hs, hsale, hplace store₀ product₀ hloc⟩
  have hspec := h.spec
  cases hspec with
  | accepted => exact Or.inl rfl
  | duplicate he hi => exact absurd hi.eventId (hfresh _ he)
  | refused hr =>
      cases hr with
      | eventConflict he hid _ => exact absurd hid (hfresh _ he)
      | unknownStore hs => rw [hloc.store] at hs; cases hs
      | unknownProduct hp => rw [hloc.product] at hp; cases hp
      | originalSaleNotFound ho hnone =>
          obtain ⟨s, hs, hsid, _⟩ := hps.originals p hp _ ho
          exact absurd hsid (hnone s (h.grows.subset hs))
      | invalidOriginalSale ho he hid hinvalid =>
          obtain ⟨_, hsale, _⟩ := horiginal ho he hid
          have hroot := h.wellFormed.root_of_sale he hsale
          exact (hinvalid.elim (· hsale) (· hroot)).elim
      | refundReferenceMismatch ho hl he hid hmismatch =>
          obtain ⟨_, _, hstore, hproduct⟩ := horiginal ho he hid
          obtain ⟨rfl, rfl⟩ := hloc.unique hl
          exact (hmismatch.elim (· hstore) (· hproduct)).elim
      | @refundLimitExceeded o s d m ho he hid hlt _ =>
          obtain ⟨hs, hsale, _⟩ := horiginal ho he hid
          subst hid
          exact Or.inr ⟨s, hs, hsale, ho, d, hlt⟩
      | unfit hfit => rw [hps.fits p hp] at hfit; cases hfit

/-- Where the SALES have room for the batch, an event of it is accepted. -/
theorem Verdict.accepted (h : Verdict cat T₀ ps p a T T') (hps : Compatible cat T₀ ps)
    (hroom : RoomFor T₀ ps) (hp : p ∈ ps) : a.outcome = .accepted := by
  rcases h.accepted_or_full hps hp with ha | ⟨s, hs, hsale, ho, d, hlt⟩
  · exact ha
  · obtain ⟨new, rfl⟩ := h.grows
    obtain ⟨before, after, rfl⟩ := List.append_of_mem hp
    -- the other rows are for other events of the batch
    have hothers : ∀ e ∈ new, ∃ q ∈ before ++ after, MatchesPayload cat e q := by
      intro e he
      rcases h.others e (List.mem_append_right _ he) with hold | ⟨q, hq, hne, _, _, hw⟩
      · exact absurd hold (h.wellFormed.sound.not_mem_left he)
      · refine ⟨q, ?_, hw.matchesPayload⟩
        rw [List.mem_append, List.mem_cons] at hq
        rw [List.mem_append]
        exact hq.imp_right fun hq => hq.resolve_left hne
    have hnew := spent_le_askedOf (d := d) (k := s.eventId) h.wellFormed.sound.keys_right hothers
    have hle := hroom s hs hsale d
    rw [← spent_eq_sumOfRefunds, askedOf_append, askedOf_cons, if_pos ho] at hle
    rw [Ledger.spent_append] at hlt
    rw [askedOf_append] at hnew
    omega

end Decided

namespace World

variable {w₀ w w' : World}

/-! ## The rows of a batch -/

/-- The payload is stored. -/
def Stored (cat : Catalogue) (w : World) (p : EventCreate) : Prop :=
  ∃ row ∈ w.db.events.committed, MatchesPayload cat row p

/-- All requests of the batch have been answered. -/
def Completed (w₀ w : World) (ps : List EventCreate) : Prop :=
  ∀ p ∈ ps, ∃ a, AnsweredSince w₀ w p a

/-- A request of the batch has been accepted. -/
def AcceptedSince (w₀ w : World) (p : EventCreate) : Prop :=
  ∃ a, AnsweredSince w₀ w p a ∧ a.outcome = .accepted

/-- An answered request was decided on a table of the run. -/
theorem Batch.verdict (hw : w.Reachable cat) (h : Batch cat w₀ ps w)
    (ha : AnsweredSince w₀ w p a) : p ∈ ps ∧
      ∃ T T', Verdict cat w₀.db.events.committed ps p a T T' ∧ T' <+: w.db.events.committed := by
  obtain ⟨i, hi, hlog⟩ := ha
  have hr := (hw.listed.answered i _ a).mp hlog
  exact ⟨h.drawn i p _ hi hr, h.verdicts i p _ a hi hr rfl⟩

/-- An accepted event is stored. -/
theorem AcceptedSince.stored (hw : w.Reachable cat) (h : AcceptedSince w₀ w p) :
    Stored cat w p := by
  obtain ⟨a, ⟨i, _, hlog⟩, hacc⟩ := h
  obtain ⟨_, _, row, _, hrow, hwritten, _⟩ := hw.row_of_accepted hlog hacc
  exact ⟨row, hrow, hwritten.matchesPayload⟩

/-- A stored event whose request has been answered was accepted. -/
theorem Batch.accepted_of_stored (hw : w.Reachable cat) (h : Batch cat w₀ ps w)
    (hps : Compatible cat w₀.db.events.committed ps) (ha : AnsweredSince w₀ w p a)
    (hstored : Stored cat w p) : a.outcome = .accepted := by
  obtain ⟨hp, _⟩ := h.verdict hw ha
  obtain ⟨j, hj, hlog⟩ := ha
  have hrj := (hw.listed.answered j _ a).mp hlog
  obtain ⟨row, hrow, hi⟩ := hstored
  rcases h.rows row hrow with hold | ⟨i, q, state, store, product, hi', hri, hwritten, hc⟩
  · exact absurd hi.eventId (hps.unused p hp row hold)
  · -- the row was committed by the request that has been answered
    obtain rfl := hps.eq_of_eventId (h.drawn i q state hi' hri) hp
      (hwritten.eventId.symm.trans hi.eventId)
    obtain rfl := h.once i j q _ _ hi' hj hri hrj
    have hrec : (recordOf w.log i).Answered cat q a := hw.records.requests i _ hrj
    rcases hrec with ⟨hacc, _⟩ | ⟨_, he⟩
    · exact hacc
    · rw [he] at hc
      exact absurd rfl hc

/-- The rows that a batch has added are those of its stored events. -/
theorem Batch.spent_eq (hw : w.Reachable cat) (h : Batch cat w₀ ps w)
    (hps : Compatible cat w₀.db.events.committed ps) {stored : List EventCreate}
    (hsub : stored.Sublist ps) (hmem : ∀ p ∈ ps, p ∈ stored ↔ Stored cat w p) (d : Measure)
    (k : UUID) : refundLedger.spent d w.db.events.committed k =
      refundLedger.spent d w₀.db.events.committed k + askedOf d stored k := by
  have hsound := hw.ok.consistent.wellFormed.sound
  obtain ⟨new, hnew⟩ := h.grows
  rw [← hnew] at hsound
  have hrows : ∀ e ∈ new, ∃ q ∈ stored, MatchesPayload cat e q := by
    intro e he
    have hcommitted : e ∈ w.db.events.committed := by
      rw [← hnew]
      exact List.mem_append_right _ he
    rcases h.rows e hcommitted with hold | ⟨i, q, state, _, _, hi, hr, hwritten, _⟩
    · exact absurd hold (hsound.not_mem_left he)
    · exact ⟨q, (hmem q (h.drawn i q state hi hr)).mpr ⟨e, hcommitted, hwritten.matchesPayload⟩,
        hwritten.matchesPayload⟩
  have hstored : ∀ q ∈ stored, ∃ e ∈ new, MatchesPayload cat e q := by
    intro q hq
    have hq' := hsub.subset hq
    obtain ⟨row, hrow, hi⟩ := (hmem q hq').mp hq
    rw [← hnew, List.mem_append] at hrow
    exact ⟨row, hrow.resolve_left fun hold => hps.unused q hq' row hold hi.eventId, hi⟩
  rw [← hnew, Ledger.spent_append]
  congr 1
  exact le_antisymm (spent_le_askedOf hsound.keys_right hrows)
    (askedOf_le_spent (hps.distinct.sublist (hsub.map _)) hstored fun e he =>
      hsound.nonneg e (List.mem_append_right _ he) d)

/-- When all events of a batch are accepted, the rows are those before it and theirs. -/
theorem Batch.mem_values (hw : w.Reachable cat) (h : Batch cat w₀ ps w)
    (hacc : ∀ p ∈ ps, AcceptedSince w₀ w p) {v : EventValues} :
    v ∈ w.db.events.committed.map PosEvent.toEventValues ↔
      v ∈ w₀.db.events.committed.map PosEvent.toEventValues ∨
        ∃ p ∈ ps, ∃ store product, Located cat p store product ∧ v = p.values store product := by
  constructor
  · intro hv
    obtain ⟨e, he, rfl⟩ := List.mem_map.mp hv
    rcases h.rows e he with hold | ⟨i, p, state, store, product, hi, hr, hwritten, _⟩
    · exact Or.inl (List.mem_map_of_mem hold)
    · exact Or.inr ⟨p, h.drawn i p state hi hr, store, product, hwritten.located,
        hwritten.values⟩
  · rintro (hv | ⟨p, hp, store, product, hloc, rfl⟩)
    · exact ((h.grows.map _).subset hv)
    · obtain ⟨a, ⟨i, _, hlog⟩, ha⟩ := hacc p hp
      obtain ⟨store', product', row, _, hrow, hwritten, _⟩ := hw.row_of_accepted hlog ha
      obtain ⟨rfl, rfl⟩ := hloc.unique hwritten.located
      exact List.mem_map.mpr ⟨row, hrow, hwritten.values⟩

/-- The values of the rows are without duplicates. -/
theorem Reachable.values_nodup (h : w.Reachable cat) :
    (w.db.events.committed.map PosEvent.toEventValues).Nodup := by
  have hkeys : ((w.db.events.committed.map PosEvent.toEventValues).map
      EventValues.eventId).Nodup := by
    rw [List.map_map]
    exact h.ok.consistent.wellFormed.sound.keys
  exact hkeys.of_map

end World

/-- A batch of compatible events is sent to a server at rest.  Where the SALES have room
for the batch, every answer is an acceptance, and complete runs end with the same rows
but for the times of reception.  In any case the SALES have room for the events that are
stored, and an event that was refused is a REFUND whose SALE has no room for it
besides these. -/
theorem batch_order_independent {w₀ : World} (h₀ : w₀.Reachable cat) (hquiet : w₀.Quiet)
    (hps : Compatible cat w₀.db.events.committed ps) :
    (RoomFor w₀.db.events.committed ps →
      (∀ w, World.Sending cat w₀ ps w → ∀ p a, World.AnsweredSince w₀ w p a →
        a.outcome = .accepted) ∧
      ∀ w w', World.Sending cat w₀ ps w → World.Sending cat w₀ ps w' →
        World.Completed w₀ w ps → World.Completed w₀ w' ps →
        (w.db.events.committed.map PosEvent.toEventValues).Perm
          (w'.db.events.committed.map PosEvent.toEventValues)) ∧
    ∀ w, World.Sending cat w₀ ps w → ∀ stored : List EventCreate, stored.Sublist ps →
      (∀ p ∈ ps, p ∈ stored ↔ World.Stored cat w p) →
      RoomFor w₀.db.events.committed stored ∧
      (∀ p a, World.AnsweredSince w₀ w p a → a.outcome ≠ .accepted →
        ∃ s ∈ w₀.db.events.committed, s.eventType = .sale ∧
          payloadOriginalEventId p = some s.eventId ∧ ∃ d : Measure, d.of s.toEventValues <
            sumOfRefunds (fun e => d.of e.toEventValues) w₀.db.events.committed s.eventId +
              askedOf d (p :: stored) s.eventId) ∧
      (World.Completed w₀ w ps → ∀ p ∈ ps, p ∈ stored ↔ World.AcceptedSince w₀ w p) := by
  constructor
  · intro hroom
    have hall : ∀ w, World.Sending cat w₀ ps w → ∀ p a, World.AnsweredSince w₀ w p a →
        a.outcome = .accepted := by
      intro w hsend p a ha
      obtain ⟨hp, _, _, hv, _⟩ :=
        (World.Sending.batch h₀ hquiet hsend).verdict (h₀.reaches hsend.reaches) ha
      exact hv.accepted hps hroom hp
    have hacc : ∀ w, World.Sending cat w₀ ps w → World.Completed w₀ w ps →
        ∀ p ∈ ps, World.AcceptedSince w₀ w p := by
      intro w hsend hdone p hp
      obtain ⟨a, ha⟩ := hdone p hp
      exact ⟨a, ha, hall w hsend p a ha⟩
    refine ⟨hall, fun w w' hsend hsend' hdone hdone' => ?_⟩
    have hw := h₀.reaches hsend.reaches
    have hw' := h₀.reaches hsend'.reaches
    rw [List.perm_ext_iff_of_nodup hw.values_nodup hw'.values_nodup]
    intro v
    rw [(hsend.batch h₀ hquiet).mem_values hw (hacc w hsend hdone),
      (hsend'.batch h₀ hquiet).mem_values hw' (hacc w' hsend' hdone')]
  · intro w hsend stored hsub hmem
    have hw := h₀.reaches hsend.reaches
    have hbatch := hsend.batch h₀ hquiet
    have hwell := hw.ok.consistent.wellFormed
    have hspent := hbatch.spent_eq hw hps hsub hmem
    refine ⟨fun s hs _ d => ?_, fun p a ha hne => ?_, fun hdone p hp => ?_⟩
    · rw [← spent_eq_sumOfRefunds, ← hspent]
      exact hwell.sound.within s (hbatch.grows.subset hs) d
    · obtain ⟨hp, T, T', hv, hgrows⟩ := hbatch.verdict hw ha
      rcases hv.accepted_or_full hps hp with hacc | ⟨s, hs, hsale, ho, d, hlt⟩
      · exact absurd hacc hne
      · refine ⟨s, hs, hsale, ho, d, ?_⟩
        have hle : refundLedger.spent d T s.eventId ≤
            refundLedger.spent d w.db.events.committed s.eventId :=
          Ledger.spent_le_of_grows (hv.spec.grows.trans hgrows) hwell.sound.nonneg
        rw [hspent] at hle
        rw [← spent_eq_sumOfRefunds, askedOf_cons, if_pos ho]
        omega
    · rw [hmem p hp]
      constructor
      · intro hstored
        obtain ⟨a, ha⟩ := hdone p hp
        exact ⟨a, ha, hbatch.accepted_of_stored hw hps ha hstored⟩
      · exact fun hacc => hacc.stored hw

/-! ## A batch -/

namespace Sample

/-- A REFUND of two pieces of the SALE 10, and another SALE. -/
def batch : List EventCreate := [refund 11, .sale { base 13 1 (by decide) with }]

theorem batch_located {p : EventCreate} (h : p ∈ batch) :
    Located catalogue p ⟨1, "POA-CENTRO"⟩ ⟨2, "COFFEE"⟩ := by
  simp only [batch, List.mem_cons, List.not_mem_nil, or_false] at h
  rcases h with rfl | rfl
  · exact ⟨by decide, by decide⟩
  · exact ⟨by decide, by decide⟩

theorem batch_compatible : Compatible catalogue [saleRow] batch where
  distinct := by decide
  unused p hp e he := by
    rw [List.mem_singleton] at he
    simp only [batch, List.mem_cons, List.not_mem_nil, or_false] at hp
    rcases hp with rfl | rfl <;> rw [he] <;> decide
  located p hp := ⟨_, _, batch_located hp⟩
  fits p hp := by
    simp only [batch, List.mem_cons, List.not_mem_nil, or_false] at hp
    rcases hp with rfl | rfl <;> rfl
  originals p hp o ho := by
    refine ⟨saleRow, List.mem_singleton_self _, ?_, rfl, fun store product hl => ?_⟩
    · simp only [batch, List.mem_cons, List.not_mem_nil, or_false] at hp
      rcases hp with rfl | rfl
      · exact Option.some.inj ho
      · cases ho
    · obtain ⟨rfl, rfl⟩ := hl.unique (batch_located hp)
      exact ⟨rfl, rfl⟩

theorem batch_room : RoomFor [saleRow] batch := by
  intro s hs _ d
  rw [List.mem_singleton] at hs
  rw [hs]
  cases d <;> decide

end Sample

/-- After the SALE 10 no run that sends the batch refuses any of it. -/
theorem batch_accepted_after_sale : ∃ w, Sample.run Sample.saleSteps = some w ∧
    ∀ w', World.Sending Sample.catalogue w Sample.batch w' → ∀ p a,
      World.AnsweredSince w w' p a → a.outcome = .accepted := by
  have hrun : ((Sample.run Sample.saleSteps).map fun w =>
      (w.requests, w.db.events.committed)) =
      some ([⟨.event Sample.sale, .answered (.event 201 ⟨10, .accepted, 0⟩)⟩],
        [Sample.saleRow]) := rfl
  obtain ⟨w, hw, he⟩ := Option.map_eq_some_iff.mp hrun
  rw [Prod.mk.injEq] at he
  have hquiet : w.Quiet := by
    intro i r hr
    rw [he.1] at hr
    obtain rfl := List.mem_singleton.mp (List.mem_of_getElem? hr)
    rfl
  refine ⟨w, hw, ((batch_order_independent (Sample.run_reachable hw) hquiet ?_).1 ?_).1⟩
  · rw [he.2]
    exact Sample.batch_compatible
  · rw [he.2]
    exact Sample.batch_room

end StorePulse
