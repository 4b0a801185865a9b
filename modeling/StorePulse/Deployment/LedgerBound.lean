import StorePulse.Deployment.Delivery

/-!
# The refund ledger of the producer and the table of the backend

The ledger gives a REFUND's reservation back when its delivery has failed, but a
delivery that ran out of attempts may have stored the REFUND all the same, or
may still do so.  `Deployment.givesUpSafely` excludes that case.  In the runs
without it the REFUNDS the backend has stored are among those on their way or
delivered (`Reserved`), so the ledger promises no more than the backend has, and
the backend refuses no REFUND.
-/

namespace StorePulse

variable {cat : Catalogue} {ours : UUID → Bool} {config : SimulatorConfig}

/-! ## The condition -/

/-- The ids `uuid4` gives the producer are new and of `ours`, and no other client calls the backend
with such an `event_id` or refunds such an event. -/
def Deployment.separates (ours : UUID → Bool) (s : Deployment) : DeploymentLabel → Bool
  | .producer (.generate _ draws) => ours draws.eventId && draws.eventId ∉ s.simulator.issued
  | .backend (.arrive (.event payload)) =>
      !ours payload.eventId && (payloadOriginalEventId payload).all fun original => !ours original
  | _ => true

namespace Deployment

/-- No copy of an event is stored, and none can be any more: every post is lost or has reached
the backend, and every request has ended. -/
def settled (s : Deployment) (eventId : UUID) : Bool :=
  (s.world.db.events.committed.all fun e => e.eventId != eventId) &&
  (s.world.requests.all fun r =>
    match r.call with
    | .event payload => payload.eventId != eventId || r.state.ended
    | .heartbeat _ => true) &&
  s.simulator.posts.zipIdx.all fun (body, post) =>
    body.eventId != eventId || post ∈ s.lost || s.arrived post

/-- The event whose delivery a step gives up because it has no attempt left. -/
def exhausts (s : Deployment) : DeploymentLabel → Option OutboundEvent
  | .postEnds worker ending _ =>
      match s.simulator.workers[worker]?, ending.result.attempt with
      | some (.delivering event (.posting attempt _)), .retryable _ =>
          if s.simulator.config.maxRetryAttempts ≠ 0 ∧
              (attempt : Int) ≥ s.simulator.config.maxRetryAttempts then some event
          else none
      | _, _ => none
  | _ => none

/-- A REFUND is given up only when no copy of it is stored or can still be. -/
def givesUpSafely (s : Deployment) (l : DeploymentLabel) : Bool :=
  match s.exhausts l with
  | some event => event.kind ≠ .refund || s.settled event.payload.eventId
  | none => true

/-! ## Settled events -/

variable {s s' : Deployment} {eventId : UUID}

/-- `settled`, as a proposition. -/
structure Settled (s : Deployment) (eventId : UUID) : Prop where
  rows : ∀ e ∈ s.world.db.events.committed, e.eventId ≠ eventId
  requests : ∀ (i : Nat) p state, s.world.requests[i]? = some ⟨.event p, state⟩ →
    p.eventId = eventId → state.ended = true
  posts : ∀ (post : Nat) body, s.simulator.posts[post]? = some body → body.eventId = eventId →
    post ∈ s.lost ∨ s.arrived post = true

theorem settled_iff : s.settled eventId = true ↔ s.Settled eventId := by
  simp only [settled, Bool.and_eq_true, List.all_eq_true, Bool.or_eq_true, bne_iff_ne,
    decide_eq_true_eq]
  constructor
  · rintro ⟨⟨hrows, hrequests⟩, hposts⟩
    refine ⟨hrows, fun i p state hi hid => ?_, fun post body hbody hid => ?_⟩
    · have hr := hrequests _ (List.mem_of_getElem? hi)
      simp only [Bool.or_eq_true, bne_iff_ne] at hr
      exact hr.resolve_left fun hne => hne hid
    · have hp := hposts (body, post) (List.mk_mem_zipIdx_iff_getElem?.mpr hbody)
      rw [or_assoc] at hp
      exact hp.resolve_left fun hne => hne hid
  · rintro ⟨hrows, hrequests, hposts⟩
    refine ⟨⟨hrows, fun r hr => ?_⟩, fun x hx => ?_⟩
    · obtain ⟨i, hi⟩ := List.mem_iff_getElem?.mp hr
      obtain ⟨call, state⟩ := r
      cases call with
      | heartbeat c => rfl
      | event p =>
          simp only [Bool.or_eq_true, bne_iff_ne]
          by_cases hid : p.eventId = eventId
          · exact Or.inr (hrequests i p state hi hid)
          · exact Or.inl hid
    · rw [or_assoc]
      by_cases hid : x.1.eventId = eventId
      · exact Or.inr (hposts x.2 x.1 (List.mem_zipIdx_iff_getElem?.mp hx) hid)
      · exact Or.inl hid

/-- A step of the backend in which no request with the key arrives. -/
theorem Settled.serve {l : Label} {world : World} (h : s.Settled eventId)
    (hok : s.world.Ok cat) (hs : s.world.step cat l = some world)
    (harrives : ∀ p, l = .arrive (.event p) → p.eventId ≠ eventId) :
    (∀ e ∈ world.db.events.committed, e.eventId ≠ eventId) ∧
    ∀ (i : Nat) p state, world.requests[i]? = some ⟨.event p, state⟩ → p.eventId = eventId →
      state.ended = true := by
  constructor
  · intro e he hid
    rcases World.step_new_row hok hs he with he | ⟨i, p, program, store, product, hi, hw, _⟩
    · exact h.rows e he hid
    · cases h.requests i p _ hi (hw.eventId.symm.trans hid)
  · intro i p state hi hid
    rcases World.call_of_step hs hi with ⟨before, hbefore⟩ | ⟨rfl, _⟩
    · have hended := h.requests i p before hbefore hid
      obtain ⟨after, hafter, hkeeps⟩ := World.step_keeps hs hbefore
      rw [hi] at hafter
      cases hafter
      rw [hkeeps hended]
      exact hended
    · exact absurd hid (harrives p rfl)

theorem arrived_cons {post post' i : Nat} (h : s.arrived post' = true) :
    arrived { s with routes := (post, i) :: s.routes } post' = true := by
  rw [arrived, List.lookup_cons]
  split
  · rfl
  · exact h

/-- Only another post of a settled event can bring it back. -/
theorem Settled.step {l : DeploymentLabel} (h : s.Settled eventId) (hours : ours eventId = true)
    (hok : s.world.Ok cat) (hspares : s.spares ours l = true) (hs : s.step cat l = some s')
    (hposts : ∀ (post : Nat) body, s'.simulator.posts[post]? = some body →
      body.eventId = eventId → s.simulator.posts[post]? = some body) : s'.Settled eventId := by
  cases step_cases hs with
  | producer | postEnds =>
      exact ⟨h.rows, h.requests, fun post body hbody hid =>
        h.posts post body (hposts post body hbody hid) hid⟩
  | @deliver post body payload world hbody hvalid hfree hlost hx =>
      obtain ⟨hrows, hrequests⟩ := h.serve hok hx fun p hp hid => by
        cases hp
        rcases h.posts post body hbody ((EventBody.validate_eventId hvalid).symm.trans hid) with
          hm | hm
        · exact hlost hm
        · rw [hfree] at hm
          cases hm
      exact ⟨hrows, hrequests, fun k b hb hid => (h.posts k b hb hid).imp_right arrived_cons⟩
  | lose =>
      exact ⟨h.rows, h.requests, fun post body hbody hid =>
        (h.posts post body hbody hid).imp_left (List.mem_cons_of_mem _)⟩
  | backend hx =>
      obtain ⟨hrows, hrequests⟩ := h.serve hok hx fun p hp hid => by
        subst hp
        rw [Deployment.spares, hid, hours] at hspares
        cases hspares
      exact ⟨hrows, hrequests, h.posts⟩

end Deployment

/-! ## Reservations -/

/-- A measure of what an event has reserved. -/
def Measure.reserved : Measure → OutboundEvent → Int
  | .quantity, event => event.reservedQuantity
  | .amountCents, event => event.reservedAmountCents

/-- A measure of what the ledger still has. -/
def Measure.remaining : Measure → SaleLedgerEntry → Int
  | .quantity, entry => entry.remainingQuantity
  | .amountCents, entry => entry.remainingAmountCents

/-- A measure of a body. -/
def Measure.ofBody : Measure → EventBody → Int
  | .quantity, body => body.quantity
  | .amountCents, body => body.amountCents

theorem Measure.asked_of_body {body : EventBody} {p : EventCreate} (d : Measure)
    (h : body.validate = some p) : d.asked p = d.ofBody body := by
  obtain ⟨hgives, _⟩ := EventBody.validate_some h
  cases d with
  | quantity => exact hgives.quantity
  | amountCents => exact hgives.amountCents

theorem OutboundEvent.IsRefund.reserved {event : OutboundEvent} {entry : SaleLedgerEntry}
    (h : event.IsRefund config entry) (d : Measure) :
    d.reserved event = d.ofBody event.payload := by
  cases d with
  | quantity => exact h.reservedQuantity
  | amountCents => exact h.reservedAmountCents

/-- The status codes of a refusal. -/
def refusalStatusCodes : List Nat := [404, 409, 422]

/-- A REFUND names a SALE that was delivered before. -/
theorem Simulator.Recorded.original {s : Simulator} {event : OutboundEvent} {now : Instant}
    (h : s.Recorded) (hg : .generated event now ∈ s.log) (hkind : event.kind = .refund) :
    ∃ entry sale entry', event.IsRefund s.config entry ∧ entry.Of sale ∧ sale ∈ s.deliveries ∧
      sale.IsSale s.config entry' := by
  cases h.emitted_of_mem hg with
  | sale hi _ =>
      rw [hi.about.kind] at hkind
      cases hkind
  | @refund entry sale hi hsale hof _ _ =>
      have hdelivered := mem_deliveries.mpr hsale
      obtain ⟨t, hg'⟩ := h.deliveries sale hdelivered
      cases h.emitted_of_mem hg' with
      | @sale entry' hi' _ => exact ⟨entry, sale, entry', hi, hof, hdelivered, hi'⟩
      | refund hi' _ _ _ _ =>
          have hsale := hof.kind
          rw [hi'.kind] at hsale
          cases hsale

namespace Deployment

variable {s s' : Deployment}

/-- A REFUND the backend may still store is on its way or delivered, and none was refused. -/
structure Reserved (ours : UUID → Bool) (s : Deployment) : Prop where
  issued : ∀ event now, .generated event now ∈ s.simulator.log →
    ours event.payload.eventId = true
  own : ∀ (i : Nat) p state original, s.world.requests[i]? = some ⟨.event p, state⟩ →
    payloadOriginalEventId p = some original → ours original = true → ours p.eventId = true
  held : ∀ event now, .generated event now ∈ s.simulator.log → event.kind = .refund →
    (event ∈ s.simulator.pending ∨ event ∈ s.simulator.deliveries) ∨
    s.Settled event.payload.eventId
  answers : ∀ post i body p state a, (post, i) ∈ s.routes →
    s.simulator.posts[post]? = some body → body.eventType = .refund →
    s.world.requests[i]? = some ⟨.event p, state⟩ → state.decided = some a →
    a.statusCode ∉ refusalStatusCodes

theorem spares_of_separates {l : DeploymentLabel} (h : s.separates ours l = true) :
    s.spares ours l = true := by
  cases l with
  | producer label =>
      cases label with
      | generate => exact (Bool.and_eq_true _ _ |>.mp h).2
      | _ => rfl
  | backend label =>
      cases label with
      | arrive call =>
          cases call with
          | event => exact (Bool.and_eq_true _ _ |>.mp h).1
          | heartbeat => rfl
      | _ => rfl
  | _ => rfl

theorem ReachableWithin.ids_differ
    (h : s.ReachableWithin cat config fun s l => s.separates ours l) : s.simulator.issued.Nodup :=
  h.distinct fun _ _ hl => issuesAnew_of_spares (spares_of_separates hl)

theorem ReachableWithin.separated (h : s.ReachableWithin cat config fun s l => s.separates ours l) :
    s.Linked ours ∧ s.Receipts := by
  obtain ⟨hostname, clock, serverClock, hr⟩ := h
  exact ReachableWithin.delivery
    ⟨hostname, clock, serverClock, hr.mono fun _ _ => spares_of_separates⟩

section State

variable (hr : s.ReachableWithin cat config fun s l => s.separates ours l) (h : s.Reserved ours)
  {event : OutboundEvent} {entry : SaleLedgerEntry} {now : Instant}

include hr h

/-- The row of a delivered event is its payload. -/
theorem Reserved.row_of_delivered (he : event ∈ s.simulator.deliveries) :
    ∃ p store product row, event.payload.validate = some p ∧ WrittenFor cat p store product row ∧
      row ∈ s.world.db.events.committed ∧ row.eventId = event.payload.eventId := by
  obtain ⟨hl, hreceipts⟩ := hr.separated
  obtain ⟨now, hg⟩ := hr.simulator.balanced.1.deliveries event he
  obtain ⟨row, hrow, hid⟩ := hreceipts.confirmed _ (Simulator.mem_deliveries.mp he) _ rfl
  obtain ⟨p, store, product, hvalid, hw⟩ :=
    hl.row hr.simulator.posted hr.ids_differ hr.world hg hrow hid (h.issued event now hg)
  exact ⟨p, store, product, row, hvalid, hw, hrow, hid⟩

/-- The schema accepts every REFUND. -/
theorem Reserved.validates (hg : .generated event now ∈ s.simulator.log)
    (hkind : event.kind = .refund) : ∃ p, event.payload.validate = some p := by
  obtain ⟨entry, sale, entry', hi, hof, hsale, hi'⟩ := hr.simulator.balanced.1.original hg hkind
  obtain ⟨p, _, _, _, hvalid, _⟩ := h.row_of_delivered hr hsale
  obtain ⟨hgives, _⟩ := EventBody.validate_some hvalid
  have hstore : strip event.payload.storeCode = p.base.storeCode := by
    rw [hgives.storeCode, hi.storeCode, hi'.storeCode]
  have hsku : strip event.payload.productSku = p.base.productSku := by
    rw [hgives.productSku, hi.productSku, hof.productSku]
  have hinstance : strip event.payload.sourceInstance = p.base.sourceInstance := by
    rw [hgives.sourceInstance, hi.sourceInstance, hi'.sourceInstance]
  have hquantity : 0 < event.payload.quantity := hi.quantity
  have hamount : 0 < event.payload.amountCents := by
    rw [hi.amount]
    exact Int.mul_pos hof.price hquantity
  refine ⟨_, EventBody.validate_refund hi.eventType hi.original (dif_pos ?_)⟩
  rw [hstore, hsku, hinstance]
  exact ⟨p.base.storeCode_length, p.base.productSku_length, hquantity, hamount,
    p.base.sourceInstance_length⟩

/-- A stored REFUND of a SALE of the producer is on its way or delivered. -/
theorem Reserved.held_of_row {row : PosEvent} {S : UUID}
    (hrow : row ∈ s.world.db.events.committed) (hrefunds : row.refunds = some S)
    (hS : ours S = true) : ∃ event,
      (event ∈ s.simulator.pending ∨ event ∈ s.simulator.deliveries) ∧
      event.payload.eventId = row.eventId ∧ event.refundOriginalEventId = some S ∧
      ∀ d : Measure, d.of row.toEventValues = d.reserved event := by
  obtain ⟨hl, _⟩ := hr.separated
  obtain ⟨i, p, state, store, product, hi, hw⟩ := hr.world.writer hrow
  have hnames : payloadOriginalEventId p = some S := hw.refunds.symm.trans hrefunds
  obtain ⟨post, hroute⟩ := hl.own i p state hi (h.own i p state S hi hnames hS)
  obtain ⟨body, q, state', hbody, hvalid, hi'⟩ := hl.routed post i hroute
  rw [hi] at hi'
  cases hi'
  obtain ⟨event, now, hg, rfl⟩ := hr.simulator.posted.posts body (List.mem_of_getElem? hbody)
  obtain ⟨hgives, _, horiginal⟩ := EventBody.validate_some hvalid
  have hid : event.payload.eventId = row.eventId := hgives.eventId.symm.trans hw.eventId.symm
  cases hr.simulator.balanced.1.emitted_of_mem hg with
  | sale hsale _ =>
      rw [hnames, hsale.original] at horiginal
      cases horiginal
  | refund hrefund _ _ _ _ =>
      rw [hnames, hrefund.original] at horiginal
      refine ⟨event, ?_, hid, hrefund.refunds.trans horiginal.symm, fun d => ?_⟩
      · refine (h.held event now hg hrefund.kind).resolve_right fun hsettled => ?_
        exact hsettled.rows row hrow hid.symm
      · rw [hw.amount d, d.asked_of_body hvalid, hrefund.reserved d]

omit h in
/-- No event has reserved less than nothing. -/
theorem ReachableWithin.reserved_nonneg {S : UUID}
    (he : event ∈ s.simulator.pending ∨ event ∈ s.simulator.deliveries) (d : Measure) :
    0 ≤ ofRefund S d.reserved event := by
  obtain ⟨hrec, hbal⟩ := hr.simulator.balanced
  rw [ofRefund]
  split
  · next ho =>
    obtain ⟨hquantity, _, hpos⟩ := hrec.reserved he.symm ho
    have hnonneg : 0 ≤ event.reservedQuantity := by omega
    cases d with
    | quantity => exact hnonneg
    | amountCents =>
        obtain ⟨entry, hentry, _, hamount⟩ := hbal.charged event he S ho
        obtain ⟨sale, _, hof, _⟩ := (hbal.accounts entry hentry).sale
        show 0 ≤ event.reservedAmountCents
        rw [hamount]
        exact Int.mul_nonneg hof.price.le hnonneg
  · exact le_rfl

/-- The REFUNDS of a SALE that are stored, and others on their way that are not, are within
those on their way or delivered. -/
theorem Reserved.spent_le {S : UUID} (hS : ours S = true) (d : Measure)
    (extra : List OutboundEvent)
    (hextra : ∀ e ∈ extra, (e ∈ s.simulator.pending ∨ e ∈ s.simulator.deliveries) ∧
      e.refundOriginalEventId = some S ∧
      ∀ row ∈ s.world.db.events.committed, row.eventId ≠ e.payload.eventId)
    (hnodup : (extra.map fun e => e.payload.eventId).Nodup) :
    refundLedger.spent d s.world.db.events.committed S + total d.reserved extra ≤
      refundTotal S d.reserved s.simulator.pending +
        refundTotal S d.reserved s.simulator.deliveries := by
  let rows := s.world.db.events.committed.filter fun r => decide (r.refunds = some S)
  let items : List (UUID × Int) := (rows.map fun r => (r.eventId, d.of r.toEventValues)) ++
    extra.map fun e => (e.payload.eventId, d.reserved e)
  have hrows : ∀ r ∈ rows, r ∈ s.world.db.events.committed ∧ r.refunds = some S := fun r hm =>
    ⟨(List.mem_filter.mp hm).1, of_decide_eq_true (List.mem_filter.mp hm).2⟩
  have hitems : total Prod.snd items =
      refundLedger.spent d s.world.db.events.committed S + total d.reserved extra := by
    rw [total_append]
    simp only [total, List.map_map]
    rfl
  have hkeys : (items.map Prod.fst).Nodup := by
    simp only [items, List.map_append, List.map_map]
    refine List.nodup_append.mpr ⟨?_, hnodup, ?_⟩
    · exact hr.world.ok.consistent.wellFormed.sound.keys.sublist (List.filter_sublist.map _)
    · rintro k hk k' hk' rfl
      obtain ⟨r, hm, rfl⟩ := List.mem_map.mp hk
      obtain ⟨e, he, hid⟩ := List.mem_map.mp hk'
      exact (hextra e he).2.2 r (hrows r hm).1 hid.symm
  have hcounterpart : ∀ x ∈ items, ∃ e ∈ s.simulator.pending ++ s.simulator.deliveries,
      e.payload.eventId = x.1 ∧ x.2 ≤ ofRefund S d.reserved e := by
    intro x hx
    rcases List.mem_append.mp hx with hx | hx
    · obtain ⟨r, hm, rfl⟩ := List.mem_map.mp hx
      obtain ⟨e, he, hid, ho, hreserved⟩ := h.held_of_row hr (hrows r hm).1 (hrows r hm).2 hS
      refine ⟨e, List.mem_append.mpr he, hid, ?_⟩
      rw [ofRefund, if_pos ho]
      exact (hreserved d).le
    · obtain ⟨e, he, rfl⟩ := List.mem_map.mp hx
      obtain ⟨hheld, ho, _⟩ := hextra e he
      refine ⟨e, List.mem_append.mpr hheld, rfl, ?_⟩
      rw [ofRefund, if_pos ho]
  rw [← hitems, refundTotal, refundTotal, ← total_append]
  exact total_le_of_keys _ _ hkeys hcounterpart fun e he =>
    hr.reserved_nonneg (List.mem_append.mp he) d

/-- A SALE of the ledger is stored, and divided as the ledger says. -/
theorem Reserved.sale_row (hentry : entry ∈ s.simulator.generator.sales) :
    ours entry.eventId = true ∧ ∃ row ∈ s.world.db.events.committed, row.eventId = entry.eventId ∧
      row.eventType = .sale ∧ ∀ d : Measure, 0 ≤ d.remaining entry ∧
      d.remaining entry + (refundTotal entry.eventId d.reserved s.simulator.pending +
        refundTotal entry.eventId d.reserved s.simulator.deliveries) =
        d.of row.toEventValues := by
  obtain ⟨hrec, hbal⟩ := hr.simulator.balanced
  have haccounts := hbal.accounts entry hentry
  obtain ⟨sale, hsale, hof, hsum⟩ := haccounts.sale
  obtain ⟨p, store, product, row, hvalid, hw, hrow, hid⟩ := h.row_of_delivered hr hsale
  obtain ⟨now, hg⟩ := hrec.deliveries sale hsale
  have htype : row.eventType = .sale := by
    have heq : row.eventType = p.eventType := congrArg EventValues.eventType hw.values
    rw [heq, (EventBody.validate_some hvalid).2.1]
    cases hrec.emitted_of_mem hg with
    | sale hi _ => exact hi.eventType
    | refund hi _ _ _ _ =>
        have hkind := hof.kind
        rw [hi.kind] at hkind
        cases hkind
  refine ⟨hof.eventId ▸ h.issued sale now hg, row, hrow, hid.trans hof.eventId.symm, htype,
    fun d => ?_⟩
  rw [hw.amount d, d.asked_of_body hvalid]
  cases d with
  | quantity => exact ⟨haccounts.nonneg, hsum⟩
  | amountCents =>
      refine ⟨?_, hbal.amount_divided hentry hof hsum⟩
      show 0 ≤ entry.remainingAmountCents
      rw [haccounts.amount]
      exact Int.mul_nonneg hof.price.le haccounts.nonneg

/-- The backend does not decide to refuse a REFUND. -/
theorem Reserved.not_refused {i : Nat} {p : EventCreate} {program : Program Effects Answer}
    {a : Answer} {T' : List PosEvent} (hg : .generated event now ∈ s.simulator.log)
    (hkind : event.kind = .refund) (hvalid : event.payload.validate = some p)
    (hi : s.world.requests[i]? = some ⟨.event p, .running program⟩)
    (hs : Spec cat s.world.db.events.committed p a T') : a.statusCode ∉ refusalStatusCodes := by
  have hwell := hr.world.ok.consistent.wellFormed
  obtain ⟨hgives, _, horiginal⟩ := EventBody.validate_some hvalid
  cases hs with
  | accepted =>
      show 201 ∉ refusalStatusCodes
      decide
  | duplicate =>
      show 200 ∉ refusalStatusCodes
      decide
  | refused hx =>
      have hfree : ∀ row ∈ s.world.db.events.committed, row.eventId ≠ event.payload.eventId := by
        intro row hrow hid
        obtain ⟨q, _, _, hvalid', hw⟩ :=
          hr.separated.1.row hr.simulator.posted hr.ids_differ hr.world hg hrow hid
            (h.issued event now hg)
        rw [hvalid] at hvalid'
        cases hvalid'
        exact hwell.not_refuses_of_matchesPayload hrow hw.matchesPayload hw.fits hx
      have hheld := (h.held event now hg hkind).resolve_right fun hsettled => by
        cases hsettled.requests i p _ hi hgives.eventId
      obtain ⟨entry, sale, entry', hrefund, hof, hsale, hisale⟩ :=
        hr.simulator.balanced.1.original hg hkind
      obtain ⟨q, store, product, row, hvalid', hw, hrow, hid⟩ := h.row_of_delivered hr hsale
      obtain ⟨hgives', _, horiginal'⟩ := EventBody.validate_some hvalid'
      have hnames : payloadOriginalEventId p = some entry.eventId :=
        horiginal.trans hrefund.original
      have hkey : row.eventId = entry.eventId := hid.trans hof.eventId.symm
      have hlocated : Located cat p store product := by
        have hstore : p.storeCode = q.storeCode := by
          show p.base.storeCode = q.base.storeCode
          rw [hgives.storeCode, hgives'.storeCode, hrefund.storeCode, hisale.storeCode]
        have hsku : p.productSku = q.productSku := by
          show p.base.productSku = q.base.productSku
          rw [hgives.productSku, hgives'.productSku, hrefund.productSku, hof.productSku]
        exact ⟨hstore ▸ hw.located.store, hsku ▸ hw.located.product⟩
      obtain ⟨ledger, hledger, hledgerId, _⟩ :=
        hr.simulator.balanced.2.charged event hheld entry.eventId hrefund.refunds
      obtain ⟨hS, row', hrow', hid', htype, hdivided⟩ := h.sale_row hr hledger
      obtain rfl := hwell.eq_of_eventId hrow' hrow (hid'.trans (hledgerId.trans hkey.symm))
      have hsame : ∀ {e : PosEvent} {o : UUID}, payloadOriginalEventId p = some o →
          e ∈ s.world.db.events.committed → e.eventId = o → o = entry.eventId ∧ e = row' := by
        intro e o ho he heid
        rw [hnames] at ho
        cases ho
        exact ⟨rfl, hwell.eq_of_eventId he hrow (heid.trans hkey.symm)⟩
      cases hx with
      | eventConflict he heid _ => exact absurd (heid.trans hgives.eventId) (hfree _ he)
      | unknownStore hnone =>
          rw [hlocated.store] at hnone
          cases hnone
      | unknownProduct hnone =>
          rw [hlocated.product] at hnone
          cases hnone
      | originalSaleNotFound ho hnone =>
          rw [hnames] at ho
          cases ho
          exact absurd hkey (hnone _ hrow)
      | @invalidOriginalSale _ e ho he heid hinvalid =>
          obtain ⟨_, rfl⟩ := hsame ho he heid
          have hroot : e.originalEventId = none := by
            rw [hw.values]
            exact horiginal'.trans hisale.original
          exact absurd hinvalid (by simp [htype, hroot])
      | refundReferenceMismatch ho hl he heid hmismatch =>
          obtain ⟨_, rfl⟩ := hsame ho he heid
          obtain ⟨rfl, rfl⟩ := hl.unique hlocated
          rw [hw.values] at hmismatch
          exact absurd hmismatch (by simp [EventCreate.values])
      | @refundLimitExceeded _ _ d _ ho he heid hlt _ =>
          obtain ⟨rfl, rfl⟩ := hsame ho he heid
          have hbound := h.spent_le hr (S := ledger.eventId) hS d [event]
            (by simpa [hledgerId] using ⟨hheld, hrefund.refunds, hfree⟩) (by simp)
          have hasked : d.asked p = d.reserved event := by
            rw [d.asked_of_body hvalid, hrefund.reserved d]
          obtain ⟨hnonneg, hsum⟩ := hdivided d
          rw [hledgerId] at hbound hsum
          rw [total_cons, total_nil] at hbound
          omega
      | unfit => decide

/-- The delivery of a REFUND does not end with a permanent error. -/
theorem Reserved.not_permanent {worker attempt n statusCode : Nat} {ending : PostEnding}
    {detail : String} (hworker : s.simulator.workers[worker]? =
      some (.delivering event (.posting attempt n)))
    (hkind : event.kind = .refund) (hcan : s.canEnd n ending = true) :
    ending.result.attempt ≠ .permanent statusCode detail := by
  intro hattempt
  obtain ⟨r, hresult, rfl, hsuccess, hretry⟩ := PostResult.attempt_permanent hattempt
  cases ending with
  | transportError => cases hresult
  | intermediary response =>
      cases hresult
      exact hretry (of_decide_eq_true hcan)
  | backend response =>
      cases hresult
      obtain ⟨now, hg⟩ := hr.simulator.balanced.1.pending event
        (Simulator.mem_pending_of_worker hworker)
      obtain ⟨p, hvalid⟩ := h.validates hr hg hkind
      have hbody : s.simulator.posts[n]? = some event.payload :=
        hr.simulator.posted.workers _ _ hworker n rfl
      rcases responds_cases hcan with ⟨_, body, hbody', hnone⟩ | ⟨i, call, a, hroute, hi, hsends⟩
      · rw [hbody] at hbody'
        cases hbody'
        rw [hvalid] at hnone
        cases hnone
      · obtain ⟨_, q, _, _, _, hi'⟩ := hr.separated.1.routed n i hroute
        rw [hi] at hi'
        cases hi'
        have htype : event.payload.eventType = .refund := by
          obtain ⟨_, _, _, hrefund, _⟩ := hr.simulator.balanced.1.original hg hkind
          exact hrefund.eventType
        have hnot := h.answers n i _ q _ a hroute hbody htype hi rfl
        obtain ⟨_, _, hspec, _⟩ :=
          hr.world.answer_spec ((hr.world.listed.answered i _ a).mpr hi)
        have hcode := hspec.statusCode
        rw [Answer.sends_statusCode hsends] at hsuccess hretry
        simp only [successStatusCodes, retryableStatusCodes, refusalStatusCodes, List.mem_cons,
          List.not_mem_nil, or_false] at hsuccess hretry hnot hcode
        omega

/-- What a step of the producer does to a REFUND: it is on its way or delivered, or settled. -/
theorem Reserved.held_or_settled {l : DeploymentLabel} (hsafe : s.givesUpSafely l = true)
    (hs : s.step cat l = some s') (hg : .generated event now ∈ s.simulator.log)
    (hkind : event.kind = .refund) :
    (event ∈ s'.simulator.pending ∨ event ∈ s'.simulator.deliveries) ∨
    s.Settled event.payload.eventId := by
  rcases h.held event now hg hkind with hheld | hsettled
  swap
  · exact Or.inr hsettled
  cases step_cases hs with
  | producer hlabel hx =>
      rcases Simulator.held_of_step hx hheld with hheld | ⟨worker, _, _, result, draw, _, rfl, _⟩
      · exact Or.inl hheld
      · exact absurd rfl (hlabel worker result draw)
  | @postEnds worker post ending draw simulator hpost hcan hx =>
      rcases Simulator.held_of_step hx hheld with
        hheld | ⟨_, attempt, n, _, _, error, he, hworker, ha⟩
      · exact Or.inl hheld
      · cases he
        have hn : some n = some post := (postOf_eq hworker).symm.trans hpost
        cases hn
        rcases afterAttempt_raised ha with
          ⟨statusCode, detail, hattempt, _⟩ | ⟨reason, hattempt, _, hmax⟩
        · exact absurd hattempt (h.not_permanent hr hworker hkind hcan)
        · have hexhausts : s.exhausts (.postEnds worker ending draw) = some event := by
            simp only [exhausts, hworker, hattempt]
            exact if_pos hmax
          rw [givesUpSafely, hexhausts] at hsafe
          simp only [hkind, ne_eq, not_true_eq_false, decide_false, Bool.false_or] at hsafe
          exact Or.inr (settled_iff.mp hsafe)
  | deliver | lose | backend => exact Or.inl hheld

end State

/-- A new post is one of an event on its way or delivered. -/
theorem posts_of_step {l : DeploymentLabel} {n : Nat} {body : EventBody}
    (hposted : s.simulator.Posted) (hs : s.step cat l = some s')
    (hn : s'.simulator.posts[n]? = some body) :
    s.simulator.posts[n]? = some body ∨ ∃ event,
      (event ∈ s'.simulator.pending ∨ event ∈ s'.simulator.deliveries) ∧ body = event.payload := by
  rcases (step_parts hs).1 with he | ⟨x, hx⟩
  · rw [he] at hn
    exact Or.inl hn
  · exact Simulator.posts_of_step hposted hx hn

/-- The event a REFUND body was made for. -/
theorem ReachableWithin.refund_of_post {P : Deployment → DeploymentLabel → Prop} {post : Nat}
    {body : EventBody} (hr : s.ReachableWithin cat config P)
    (hbody : s.simulator.posts[post]? = some body) (ht : body.eventType = .refund) :
    ∃ event now, .generated event now ∈ s.simulator.log ∧ event.kind = .refund ∧
      body = event.payload := by
  obtain ⟨event, now, hg, rfl⟩ := hr.simulator.posted.posts body (List.mem_of_getElem? hbody)
  refine ⟨event, now, hg, ?_, rfl⟩
  cases hr.simulator.balanced.1.emitted_of_mem hg with
  | sale hi _ =>
      rw [hi.eventType] at ht
      cases ht
  | refund hi _ _ _ _ => exact hi.kind

/-- What a step of the backend keeps: no REFUND is refused. -/
theorem Reserved.serve {l : Label} {world : World} {routes : List (Nat × Nat)}
    (hr : s.ReachableWithin cat config fun s l => s.separates ours l) (h : s.Reserved ours)
    (hs : s.world.step cat l = some world)
    (hroutes : ∀ post i, (post, i) ∈ routes → (post, i) ∈ s.routes ∨
      ∃ p, world.requests[i]? = some ⟨.event p, .running (Call.event p).program⟩)
    {post i : Nat} {body : EventBody} {p : EventCreate} {state : RequestState} {a : Answer}
    (hroute : (post, i) ∈ routes) (hbody : s.simulator.posts[post]? = some body)
    (ht : body.eventType = .refund) (hi : world.requests[i]? = some ⟨.event p, state⟩)
    (hd : state.decided = some a) : a.statusCode ∉ refusalStatusCodes := by
  rcases hroutes post i hroute with hroute | ⟨q, hnew⟩
  · rcases World.step_decided hr.world.ok hs hi hd with
      ⟨before, hbefore, hd⟩ | ⟨⟨program, hrunning, _⟩, hspec⟩
    · exact h.answers post i body p before a hroute hbody ht hbefore hd
    · obtain ⟨event, now, hg, hkind, rfl⟩ := hr.refund_of_post hbody ht
      obtain ⟨body', q, state', hbody', hvalid, hi'⟩ := hr.separated.1.routed post i hroute
      rw [hbody] at hbody'
      cases hbody'
      rw [hrunning] at hi'
      cases hi'
      exact h.not_refused hr hg hkind hvalid hrunning hspec
  · rw [hi] at hnew
    cases hnew
    rw [World.undecided_arrived] at hd
    cases hd

/-- Every step within the condition keeps the invariant. -/
theorem Reserved.step {l : DeploymentLabel}
    (hr : s.ReachableWithin cat config fun s l => s.separates ours l)
    (hr' : s'.ReachableWithin cat config fun s l => s.separates ours l) (h : s.Reserved ours)
    (hseparates : s.separates ours l = true) (hsafe : s.givesUpSafely l = true)
    (hs : s.step cat l = some s') : s'.Reserved ours := by
  have hissued : ∀ event now, .generated event now ∈ s'.simulator.log →
      .generated event now ∈ s.simulator.log ∨
      event ∈ s'.simulator.pending ∧ ours event.payload.eventId = true := by
    intro event now hm
    cases step_cases hs with
    | producer _ hx =>
        refine (Simulator.generated_of_step hx hm).imp_right ?_
        rintro ⟨hpending, draws, rfl, hid⟩
        exact ⟨hpending, by rw [hid]; exact (Bool.and_eq_true _ _ |>.mp hseparates).1⟩
    | postEnds _ _ hx =>
        refine (Simulator.generated_of_step hx hm).imp_right ?_
        rintro ⟨_, draws, he, _⟩
        cases he
    | deliver | lose | backend => exact Or.inl hm
  refine ⟨fun event now hm => ?_, fun i p state original hi ho hours => ?_,
    fun event now hm hkind => ?_, ?_⟩
  · exact (hissued event now hm).elim (h.issued event now) And.right
  · cases step_cases hs with
    | producer | postEnds | lose => exact h.own i p state original hi ho hours
    | @deliver post body payload _ hbody hvalid _ _ hx =>
        rcases World.call_of_step hx hi with ⟨before, hi⟩ | ⟨he, _⟩
        · exact h.own i p before original hi ho hours
        · cases he
          obtain ⟨event, now, hg, rfl⟩ :=
            hr.simulator.posted.posts body (List.mem_of_getElem? hbody)
          rw [EventBody.validate_eventId hvalid]
          exact h.issued event now hg
    | backend hx =>
        rcases World.call_of_step hx hi with ⟨before, hi⟩ | ⟨rfl, _⟩
        · exact h.own i p before original hi ho hours
        · simp [separates, ho, hours] at hseparates
  · rcases hissued event now hm with hg | ⟨hpending, _⟩
    swap
    · exact Or.inl (Or.inl hpending)
    by_cases hheld : event ∈ s'.simulator.pending ∨ event ∈ s'.simulator.deliveries
    · exact Or.inl hheld
    · have hsettled := (h.held_or_settled hr hsafe hs hg hkind).resolve_left hheld
      refine Or.inr (hsettled.step (h.issued event now hg) hr.world.ok
        (spares_of_separates hseparates) hs fun post body hbody hid => ?_)
      refine (posts_of_step hr.simulator.posted hs hbody).resolve_right ?_
      rintro ⟨other, hother, rfl⟩
      -- a post of an event with this id is one of this event, which is not held
      have hgenerated : ∃ t, .generated other t ∈ s'.simulator.log :=
        hother.elim (hr'.simulator.balanced.1.pending other)
          (hr'.simulator.balanced.1.deliveries other)
      obtain ⟨t, hg'⟩ := hgenerated
      exact hheld (hr'.simulator.posted.unique hr'.ids_differ _ _ _ _ hg' hm hid ▸ hother)
  · intro post i body p state a hroute hbody ht hi hd
    have hold : (post, i) ∈ s.routes → s.simulator.posts[post]? = some body := by
      intro hroute
      obtain ⟨body', _, _, hbody', _⟩ := hr.separated.1.routed post i hroute
      rw [posts_grow hs hbody'] at hbody
      rw [hbody', hbody]
    cases step_cases hs with
    | producer | postEnds =>
        exact h.answers post i body p state a hroute (hold hroute) ht hi hd
    | lose => exact h.answers post i body p state a hroute hbody ht hi hd
    | @deliver k _ payload _ _ _ _ _ hx =>
        refine h.serve hr hx (fun k' j hm => ?_) hroute hbody ht hi hd
        rcases List.mem_cons.mp hm with he | hm
        · cases he
          cases hx
          exact Or.inr ⟨payload, List.getElem?_concat_length⟩
        · exact Or.inl hm
    | backend hx => exact h.serve hr hx (fun _ _ hm => Or.inl hm) hroute hbody ht hi hd

/-- The runs within the condition. -/
def careful (ours : UUID → Bool) (s : Deployment) (l : DeploymentLabel) : Bool :=
  s.separates ours l && s.givesUpSafely l

theorem ReachableWithin.reserved (h : s.ReachableWithin cat config fun s l => s.careful ours l) :
    s.ReachableWithin cat config (fun s l => s.separates ours l) ∧ s.Reserved ours := by
  obtain ⟨hostname, clock, serverClock, hr⟩ := h
  have hseparated : ∀ {t l}, careful ours t l = true → t.separates ours l = true := fun hc =>
    (Bool.and_eq_true _ _ |>.mp hc).1
  have hwithin : ∀ {t}, (deployment cat).ReachesWithin (fun s l => s.careful ours l)
      (initial config hostname clock serverClock) t →
      t.ReachableWithin cat config fun s l => s.separates ours l := fun ht =>
    ⟨hostname, clock, serverClock, ht.mono fun _ _ => hseparated⟩
  refine ⟨hwithin hr, hr.invariant (I := Reserved ours) ?_ ?_⟩
  · refine ⟨fun event now hm => ?_, fun i p state original hi => ?_, fun event now hm => ?_, ?_⟩
    · exact (List.not_mem_nil hm).elim
    · simp [initial, World.initial] at hi
    · exact (List.not_mem_nil hm).elim
    · intro _ _ _ _ _ _ hm
      exact (List.not_mem_nil hm).elim
  · intro t l t' ht hreserved hc hs
    exact hreserved.step (hwithin ht) (hwithin (ht.tail hc hs)) (hseparated hc)
      (Bool.and_eq_true _ _ |>.mp hc).2 hs

end Deployment

open Deployment

/-- In every run that gives no REFUND up while a copy of it is stored or can still be: (1) what
the ledger has left of a SALE is within what the backend has left of it, and (2) the backend
refuses no REFUND. -/
theorem refund_ledger_within_backend {s : Deployment}
    (h : s.ReachableWithin cat config fun s l => s.careful ours l) :
    (∀ entry ∈ s.simulator.generator.sales, ∃ sale ∈ s.world.db.events.committed,
      sale.eventId = entry.eventId ∧ sale.eventType = .sale ∧
      entry.remainingQuantity ≤ sale.quantity -
        sumOfRefunds (fun e => e.quantity) s.world.db.events.committed sale.eventId ∧
      entry.remainingAmountCents ≤ sale.amountCents -
        sumOfRefunds (fun e => e.amountCents) s.world.db.events.committed sale.eventId) ∧
    ∀ (post : Nat) body, s.simulator.posts[post]? = some body → body.eventType = .refund →
      (∃ p, body.validate = some p) ∧
      ∀ i p a, (post, i) ∈ s.routes → .answered i (.event p) a ∈ s.world.log →
        a.statusCode ∉ refusalStatusCodes := by
  obtain ⟨hr, hreserved⟩ := h.reserved
  constructor
  · intro entry hentry
    obtain ⟨hours, sale, hsale, hid, htype, hdivided⟩ := hreserved.sale_row hr hentry
    have hbound : ∀ d : Measure, d.remaining entry ≤ d.of sale.toEventValues -
        sumOfRefunds (fun e => d.of e.toEventValues) s.world.db.events.committed sale.eventId := by
      intro d
      have hspent := hreserved.spent_le hr hours d []
        (fun e he => (List.not_mem_nil he).elim) List.nodup_nil
      obtain ⟨_, hsum⟩ := hdivided d
      rw [total_nil, add_zero, spent_eq_sumOfRefunds] at hspent
      rw [hid]
      omega
    exact ⟨sale, hsale, hid, htype, hbound .quantity, hbound .amountCents⟩
  · intro post body hbody ht
    obtain ⟨event, now, hg, hkind, rfl⟩ := hr.refund_of_post hbody ht
    refine ⟨hreserved.validates hr hg hkind, fun i p a hroute ha => ?_⟩
    exact hreserved.answers post i _ p _ a hroute hbody ht
      ((hr.world.listed.answered i _ a).mp ha) rfl

/-! ## Runs -/

namespace Sample

/-- A SALE of three pieces is delivered, and time passes. -/
def saleDelivery : List DeploymentLabel :=
  [.producer (.generate 5 (draws (3 / 4) 3 10)), .producer (.get 0), .deliver 0] ++
  List.replicate 9 (.backend (.run 0)) ++
  [.postEnds 0 (.backend (response 201 "accepted")) (3 / 4), .backend (.tick 1)]

/-- A REFUND of two pieces is stored, both attempts end with a lost response, and a second one
of two pieces is refused. -/
def exhaustedSteps : List DeploymentLabel :=
  saleDelivery ++ [.producer (.generate 6 (draws 0 2 11)), .producer (.get 0), .deliver 1] ++
  List.replicate 12 (.backend (.run 1)) ++
  [.postEnds 0 .transportError 0, .producer (.wake 0), .postEnds 0 .transportError 0,
    .producer (.generate 7 (draws 0 2 12)), .producer (.get 0), .deliver 3] ++
  List.replicate 8 (.backend (.run 2)) ++ [.postEnds 0 (.backend ⟨409, "", none⟩) 0]

/-- The first post of a REFUND is lost and the request of the second one is aborted, so it is
given up, and all three pieces are refunded after that. -/
def carefulSteps : List DeploymentLabel :=
  saleDelivery ++ [.producer (.generate 6 (draws 0 2 11)), .producer (.get 0), .lose 1,
    .postEnds 0 .transportError 0, .producer (.wake 0), .deliver 2] ++
  List.replicate 9 (.backend (.run 1)) ++
  [.backend (.abort 1), .postEnds 0 .transportError 0,
    .producer (.generate 7 (draws 0 3 12)), .producer (.get 0), .deliver 3] ++
  List.replicate 12 (.backend (.run 2)) ++
  [.postEnds 0 (.backend (response 201 "accepted")) (3 / 4)]

/-- The ledger promises more of a SALE than the backend has. -/
def overpromises (s : Deployment) : Bool :=
  s.simulator.generator.sales.any fun entry => s.world.db.events.committed.any fun sale =>
    sale.eventId = entry.eventId ∧ sale.quantity -
      sumOfRefunds (fun e => e.quantity) s.world.db.events.committed sale.eventId <
        entry.remainingQuantity

/-- The request of a REFUND was answered 409. -/
def refuses (i : Nat) (s : Deployment) : Bool :=
  match s.world.requests[i]? with
  | some ⟨.event payload, .answered answer⟩ =>
      payload.eventType = .refund ∧ answer.statusCode = 409
  | _ => false

theorem answered_of_refuses {i : Nat} {s : Deployment} (h : refuses i s = true) :
    ∃ p a, s.world.requests[i]? = some ⟨.event p, .answered a⟩ ∧ p.eventType = .refund ∧
      a.statusCode = 409 := by
  rw [refuses] at h
  split at h
  · next p a hi => exact ⟨p, a, hi, of_decide_eq_true h⟩
  · cases h

end Sample

/-- With a valid configuration and no other client, the ledger promises three pieces of a SALE
of which the backend has one left, and a REFUND is refused. -/
theorem refund_ledger_exceeds_backend :
    ∃ s : Deployment, s.ReachableWithin Sample.shop Sample.simulatorConfig
        (fun s l => s.separates (fun _ => true) l) ∧
      Sample.simulatorConfig.validate = .ok () ∧
      (∃ entry ∈ s.simulator.generator.sales, ∃ sale ∈ s.world.db.events.committed,
        sale.eventId = entry.eventId ∧ sale.quantity -
          sumOfRefunds (fun e => e.quantity) s.world.db.events.committed sale.eventId <
            entry.remainingQuantity) ∧
      ∃ post i p a, (post, i) ∈ s.routes ∧ .answered i (.event p) a ∈ s.world.log ∧
        p.eventType = .refund ∧ a.statusCode = 409 := by
  have hrun : ((Sample.deploy (fun s l => s.separates (fun _ => true) l) Sample.exhaustedSteps).map
      fun s => (Sample.overpromises s, Sample.refuses 2 s, s.routes)) =
      some (true, true, [(3, 2), (1, 1), (0, 0)]) := by decide +kernel
  obtain ⟨s, hs, he⟩ := Option.map_eq_some_iff.mp hrun
  simp only [Prod.mk.injEq] at he
  obtain ⟨hover, hrefuses, hroutes⟩ := he
  have hr := Sample.deploy_reachable hs
  obtain ⟨entry, hentry, hsales⟩ := List.any_eq_true.mp hover
  obtain ⟨sale, hsale, hmore⟩ := List.any_eq_true.mp hsales
  obtain ⟨p, a, hi, htype, hcode⟩ := Sample.answered_of_refuses hrefuses
  refine ⟨s, hr, by decide +kernel,
    ⟨entry, hentry, sale, hsale, of_decide_eq_true hmore⟩, 3, 2, p, a, ?_,
    (hr.world.listed.answered 2 _ a).mpr hi, htype, hcode⟩
  rw [hroutes]
  exact List.mem_cons_self

/-- A REFUND of which nothing is stored is given up, and the ledger still keeps its promise. -/
theorem refund_ledger_within_backend_after_loss :
    ∃ s, Sample.deploy (fun s l => s.careful (fun _ => true) l) Sample.carefulSteps = some s ∧
      s.simulator.stats.permanentFailures = 1 ∧ s.world.db.events.committed.length = 2 ∧
      ∀ entry ∈ s.simulator.generator.sales, ∃ sale ∈ s.world.db.events.committed,
        sale.eventId = entry.eventId ∧ entry.remainingQuantity ≤ sale.quantity -
          sumOfRefunds (fun e => e.quantity) s.world.db.events.committed sale.eventId := by
  have hrun : ((Sample.deploy (fun s l => s.careful (fun _ => true) l) Sample.carefulSteps).map
      fun s => (s.simulator.stats.permanentFailures, s.world.db.events.committed.length)) =
      some (1, 2) := by decide +kernel
  obtain ⟨s, hs, he⟩ := Option.map_eq_some_iff.mp hrun
  simp only [Prod.mk.injEq] at he
  refine ⟨s, hs, he.1, he.2, fun entry hentry => ?_⟩
  obtain ⟨sale, hsale, hid, _, hquantity, _⟩ :=
    (refund_ledger_within_backend (Sample.deploy_reachable hs)).1 entry hentry
  exact ⟨sale, hsale, hid, hquantity⟩

end StorePulse
