import StorePulse.Deployment.System

/-!
# Delivery exactly once

Copies of one payload are in flight at the same time, and reach the backend in
any order and at any time.  Since only the producer uses the `event_id` of an
event, every request with it carries the payload of the event
(`Linked.payload`).  So the row of the event is the payload, and an answer that
is no refusal shows that the row is there.  After a receipt no copy that is
posted can be accepted any more (`Receipts`).
-/

namespace StorePulse

variable {cat : Catalogue} {ours : UUID → Bool} {config : SimulatorConfig}

/-- `uuid4` gives the producer nothing twice, and no other client calls the backend with an
`event_id` of `ours`. -/
def Deployment.spares (ours : UUID → Bool) (s : Deployment) : DeploymentLabel → Bool
  | .producer label => s.simulator.issuesAnew label
  | .backend (.arrive (.event payload)) => !ours payload.eventId
  | _ => true

/-! ## Answers as responses -/

theorem Answer.sends_statusCode {a : Answer} {response : Response}
    (h : a.sends response = true) : response.statusCode = a.statusCode := by
  simp only [Answer.sends, Bool.and_eq_true, beq_iff_eq] at h
  exact h.1

/-- A receipt shows that the backend did not refuse, and whether it accepted. -/
theorem Spec.receipt {T T' : List PosEvent} {p : EventCreate} {a : Answer} {response : Response}
    {status : ReceiptStatus} {httpStatus : Nat} (h : Spec cat T p a T')
    (hsends : a.sends response = true)
    (hattempt : (PostResult.response response).attempt = .succeeded status httpStatus) :
    a.outcome ≠ .rejected ∧ (status = .accepted → a.outcome = .accepted) := by
  cases h with
  | accepted => exact ⟨nofun, fun _ => rfl⟩
  | @duplicate e he hi =>
      refine ⟨nofun, ?_⟩
      rintro rfl
      simp only [Answer.sends, Answer.statusCode, Bool.and_eq_true, beq_iff_eq] at hsends
      obtain ⟨hcode, hstatus⟩ := hsends
      split at hstatus
      · next text hbody =>
        rw [beq_iff_eq] at hstatus
        subst hstatus
        have hsuccess : response.statusCode ∈ successStatusCodes := by
          rw [hcode]
          decide
        simp only [PostResult.attempt, if_pos hsuccess, hbody] at hattempt
        cases hattempt
      · cases hstatus
  | @refused x hr =>
      have hcode := Answer.sends_statusCode hsends
      have hnot : response.statusCode ∉ successStatusCodes := by
        have hrejected := raiseHttp_statusCode x
        rw [hcode]
        intro hsuccess
        simp only [successStatusCodes, List.mem_cons, List.not_mem_nil, or_false]
          at hsuccess hrejected
        omega
      simp only [PostResult.attempt, if_neg hnot] at hattempt
      split at hattempt <;> cases hattempt

/-- The status codes of the endpoint. -/
theorem Spec.statusCode {T T' : List PosEvent} {p : EventCreate} {a : Answer}
    (h : Spec cat T p a T') : a.statusCode ∈ [200, 201, 404, 409, 422, 500] := by
  cases h with
  | accepted => exact List.mem_cons_of_mem _ List.mem_cons_self
  | duplicate => exact List.mem_cons_self
  | refused => exact List.mem_cons_of_mem _ (List.mem_cons_of_mem _ (raiseHttp_statusCode _))

/-! ## Distinct keys -/

/-- A key occurs once. -/
theorem filter_key_length {α κ : Type} [DecidableEq κ] {key : α → κ} {xs : List α}
    (h : (xs.map key).Nodup) (k : κ) : (xs.filter fun x => key x = k).length ≤ 1 := by
  have hcount : List.countP (fun y => y == k) (xs.map key) ≤ 1 :=
    List.nodup_iff_count_le_one.mp h k
  rw [List.countP_map, List.countP_eq_length_filter] at hcount
  exact hcount

/-- The one item with a key. -/
theorem filter_key_eq {α κ : Type} [DecidableEq κ] {key : α → κ} {xs : List α} {x : α} {k : κ}
    (h : (xs.map key).Nodup) (hx : x ∈ xs) (hk : key x = k) :
    (xs.filter fun y => key y = k) = [x] := by
  have hmem : x ∈ xs.filter fun y => key y = k :=
    List.mem_filter.mpr ⟨hx, decide_eq_true hk⟩
  have hlen := filter_key_length h k
  match hf : xs.filter fun y => key y = k with
  | [] => rw [hf] at hmem; cases hmem
  | [y] => rw [hf, List.mem_singleton] at hmem; rw [hmem]
  | y :: z :: zs => rw [hf] at hlen; simp at hlen

namespace Deployment

variable {s s' : Deployment}

/-- A response of the backend is that of the schema, or the answer of the post's request. -/
theorem responds_cases {post : Nat} {response : Response} (h : s.responds post response = true) :
    (response.statusCode = 422 ∧ ∃ body, s.simulator.posts[post]? = some body ∧
      body.validate = none) ∨
    ∃ (i : Nat) (call : Call) (a : Answer), (post, i) ∈ s.routes ∧
      s.world.requests[i]? = some ⟨call, .answered a⟩ ∧ a.sends response = true := by
  rw [responds] at h
  split at h
  · cases h
  · next hbody =>
    rw [Bool.and_eq_true, beq_iff_eq] at h
    exact Or.inl ⟨h.2, Option.map_eq_some_iff.mp hbody⟩
  · split at h
    · next call a hrequest =>
      obtain ⟨i, hroute, hi⟩ := Option.bind_eq_some_iff.mp hrequest
      obtain ⟨_, _, hroutes, _⟩ := List.lookup_eq_some_iff.mp hroute
      exact Or.inr ⟨i, call, a, by simp [hroutes], hi, h⟩
    · cases h

/-- Only the backend confirms a delivery. -/
theorem backend_of_succeeded {post : Nat} {ending : PostEnding} {status : ReceiptStatus}
    {httpStatus : Nat} (h : s.canEnd post ending = true)
    (hattempt : ending.result.attempt = .succeeded status httpStatus) :
    ∃ (i : Nat) (call : Call) (a : Answer) (response : Response), (post, i) ∈ s.routes ∧
      s.world.requests[i]? = some ⟨call, .answered a⟩ ∧ a.sends response = true ∧
      (PostResult.response response).attempt = .succeeded status httpStatus := by
  cases ending with
  | transportError => cases hattempt
  | intermediary response =>
      have hretry : response.statusCode ∈ retryableStatusCodes := of_decide_eq_true h
      have hnot : response.statusCode ∉ successStatusCodes := by
        intro hsuccess
        simp only [successStatusCodes, retryableStatusCodes, List.mem_cons, List.not_mem_nil,
          or_false] at hsuccess hretry
        omega
      simp only [PostEnding.result, PostResult.attempt, if_neg hnot, if_pos hretry] at hattempt
      cases hattempt
  | backend response =>
      rcases responds_cases h with ⟨hcode, _⟩ | ⟨i, call, a, hroute, hi, hsends⟩
      · have hnot : response.statusCode ∉ successStatusCodes := by
          rw [hcode]
          decide
        simp only [PostEnding.result, PostResult.attempt, if_neg hnot] at hattempt
        split at hattempt <;> cases hattempt
      · exact ⟨i, call, a, response, hroute, hi, hsends, hattempt⟩

/-! ## Requests and posts -/

/-- A request that came from a post carries its payload, and every request with an `event_id`
of `ours` came from a post. -/
structure Linked (ours : UUID → Bool) (s : Deployment) : Prop where
  routed : ∀ post i, (post, i) ∈ s.routes → ∃ body payload state,
    s.simulator.posts[post]? = some body ∧ body.validate = some payload ∧
    s.world.requests[i]? = some ⟨.event payload, state⟩
  own : ∀ (i : Nat) payload state, s.world.requests[i]? = some ⟨.event payload, state⟩ →
    ours payload.eventId = true → ∃ post, (post, i) ∈ s.routes

/-- The posts only grow. -/
theorem posts_grow {l : DeploymentLabel} {post : Nat} {body : EventBody}
    (h : s.step cat l = some s') (hpost : s.simulator.posts[post]? = some body) :
    s'.simulator.posts[post]? = some body := by
  rcases (step_parts h).1 with he | ⟨x, hx⟩
  · rw [he]
    exact hpost
  · obtain ⟨more, hmore⟩ := (Simulator.step_grows hx).2
    rw [← hmore]
    exact (List.getElem?_append_left (List.getElem?_eq_some_iff.mp hpost).1).trans hpost

/-- The requests stay. -/
theorem requests_stay {l : DeploymentLabel} {i : Nat} {call : Call} {state : RequestState}
    (h : s.step cat l = some s') (hi : s.world.requests[i]? = some ⟨call, state⟩) :
    ∃ after, s'.world.requests[i]? = some ⟨call, after⟩ ∧ (state.ended = true → after = state) := by
  rcases (step_parts h).2 with he | ⟨x, hx⟩
  · exact ⟨state, he ▸ hi, fun _ => rfl⟩
  · exact World.step_keeps hx hi

theorem Linked.step {l : DeploymentLabel} (h : s.Linked ours) (hspares : s.spares ours l = true)
    (hs : s.step cat l = some s') : s'.Linked ours := by
  have hold : ∀ post i, (post, i) ∈ s.routes → ∃ body payload state,
      s'.simulator.posts[post]? = some body ∧ body.validate = some payload ∧
      s'.world.requests[i]? = some ⟨.event payload, state⟩ := by
    intro post i hroute
    obtain ⟨body, payload, state, hbody, hvalid, hi⟩ := h.routed post i hroute
    obtain ⟨after, hi', _⟩ := requests_stay hs hi
    exact ⟨body, payload, after, posts_grow hs hbody, hvalid, hi'⟩
  cases step_cases hs with
  | producer | postEnds | lose => exact ⟨hold, h.own⟩
  | @deliver post body payload world hbody hvalid _ _ hx =>
      have hnew : world.requests[s.world.requests.length]? =
          some ⟨.event payload, .running (Call.event payload).program⟩ := by
        cases hx
        exact List.getElem?_concat_length
      refine ⟨fun k i hroute => ?_, fun i q state hi hours => ?_⟩
      · rcases List.mem_cons.mp hroute with he | hroute
        · cases he
          exact ⟨body, payload, _, hbody, hvalid, hnew⟩
        · exact hold k i hroute
      · rcases World.call_of_step hx hi with ⟨before, hi⟩ | ⟨_, rfl, _⟩
        · obtain ⟨k, hroute⟩ := h.own i q before hi hours
          exact ⟨k, List.mem_cons_of_mem _ hroute⟩
        · exact ⟨post, List.mem_cons_self⟩
  | backend hx =>
      refine ⟨hold, fun i q state hi hours => ?_⟩
      rcases World.call_of_step hx hi with ⟨before, hi⟩ | ⟨rfl, _⟩
      · exact h.own i q before hi hours
      · rw [Deployment.spares, hours] at hspares
        cases hspares

/-- A request with the `event_id` of an event carries its payload. -/
theorem Linked.payload {event : OutboundEvent} {now : Instant} {i : Nat} {p : EventCreate}
    {state : RequestState} (h : s.Linked ours) (hposted : s.simulator.Posted)
    (hdistinct : s.simulator.issued.Nodup)
    (hg : .generated event now ∈ s.simulator.log)
    (hi : s.world.requests[i]? = some ⟨.event p, state⟩)
    (hid : p.eventId = event.payload.eventId) (hours : ours event.payload.eventId = true) :
    event.payload.validate = some p := by
  obtain ⟨post, hroute⟩ := h.own i p state hi (hid ▸ hours)
  obtain ⟨body, payload, state', hbody, hvalid, hi'⟩ := h.routed post i hroute
  rw [hi] at hi'
  cases hi'
  obtain ⟨event', now', hg', rfl⟩ := hposted.posts body (List.mem_of_getElem? hbody)
  obtain rfl := hposted.unique hdistinct _ _ _ _ hg hg'
    (hid.symm.trans (EventBody.validate_eventId hvalid))
  exact hvalid

/-- The row with the `event_id` of an event is its payload. -/
theorem Linked.row {event : OutboundEvent} {now : Instant} {row : PosEvent} (h : s.Linked ours)
    (hposted : s.simulator.Posted) (hdistinct : s.simulator.issued.Nodup)
    (hw : s.world.Reachable cat)
    (hg : .generated event now ∈ s.simulator.log) (hrow : row ∈ s.world.db.events.committed)
    (hid : row.eventId = event.payload.eventId) (hours : ours event.payload.eventId = true) :
    ∃ p store product, event.payload.validate = some p ∧ WrittenFor cat p store product row := by
  obtain ⟨i, p, state, store, product, hi, hwritten⟩ := hw.writer hrow
  exact ⟨p, store, product,
    h.payload hposted hdistinct hg hi (hwritten.eventId.symm.trans hid) hours, hwritten⟩

/-- What a success the producer sees says about the backend. -/
theorem Linked.receipt {post : Nat} {body : EventBody} {ending : PostEnding}
    {status : ReceiptStatus} {httpStatus : Nat} (h : s.Linked ours)
    (hw : s.world.Reachable cat) (hcan : s.canEnd post ending = true)
    (hattempt : ending.result.attempt = .succeeded status httpStatus)
    (hbody : s.simulator.posts[post]? = some body) :
    (∃ row ∈ s.world.db.events.committed, row.eventId = body.eventId) ∧
    ∃ (i : Nat) (call : Call) (a : Answer), (post, i) ∈ s.routes ∧
      s.world.requests[i]? = some ⟨call, .answered a⟩ ∧
      (status = .accepted → a.outcome = .accepted) := by
  obtain ⟨i, call, a, response, hroute, hi, hsends, hresponse⟩ :=
    backend_of_succeeded hcan hattempt
  obtain ⟨body', p, state, hbody', hvalid, hi'⟩ := h.routed post i hroute
  rw [hi] at hi'
  cases hi'
  rw [hbody] at hbody'
  cases hbody'
  have ha := (hw.listed.answered i _ a).mpr hi
  obtain ⟨_, _, hspec, _⟩ := hw.answer_spec ha
  obtain ⟨hout, haccepted⟩ := hspec.receipt hsends hresponse
  obtain ⟨row, hrow, hidentical⟩ := hw.stored_of_answered ha hout
  exact ⟨⟨row, hrow, hidentical.eventId.trans (EventBody.validate_eventId hvalid)⟩, i, _, a,
    hroute, hi, haccepted⟩

/-! ## Receipts -/

/-- Receipts tell the truth, and no replay is accepted. -/
structure Receipts (s : Deployment) : Prop where
  confirmed : ∀ x ∈ s.simulator.log, ∀ eventId, x.confirms = some eventId →
    ∃ row ∈ s.world.db.events.committed, row.eventId = eventId
  replays : ∀ (worker : Nat) event replay retry post (i : Nat) call state a,
    s.simulator.workers[worker]? = some (.replaying event replay retry) →
    retry.post? = some post → (post, i) ∈ s.routes →
    s.world.requests[i]? = some ⟨call, state⟩ → state.decided = some a → a.outcome ≠ .accepted
  expected : ∀ eventId, .unexpectedlyAccepted eventId ∉ s.simulator.log

theorem postOf_eq {i : Nat} {worker : Worker} (hw : s.simulator.workers[i]? = some worker) :
    s.postOf i = worker.post? := by
  rw [postOf, hw]
  rfl

/-- A receipt the producer writes down is true. -/
theorem Linked.confirmed {worker post : Nat} {ending : PostEnding} {draw : Rat}
    {x : SimulatorEntry} {eventId : UUID} (h : s.Linked ours) (hposted : s.simulator.Posted)
    (hw : s.world.Reachable cat) (hpost : s.postOf worker = some post)
    (hcan : s.canEnd post ending = true)
    (hx : s.simulator.Shows (.postEnds worker ending.result draw) x)
    (hid : x.confirms = some eventId) :
    ∃ row ∈ s.world.db.events.committed, row.eventId = eventId := by
  have hstored : ∀ {event : OutboundEvent} {attempt : Nat} {receipt : DeliveryReceipt},
      s.simulator.posts[post]? = some event.payload →
      afterAttempt s.simulator.config attempt ending.result draw = some (.returned receipt) →
      ∃ row ∈ s.world.db.events.committed, row.eventId = event.payload.eventId :=
    fun hbody ha => (h.receipt hw hcan (afterAttempt_returned ha).1 hbody).1
  cases hx with
  | committed hworker ha =>
      cases hid
      have hbody := hposted.workers _ _ hworker
      exact hstored (hbody post ((postOf_eq hworker).symm.trans hpost)) ha
  | replayed hworker ha =>
      obtain ⟨rfl, _, hbody⟩ := hposted.workers _ _ hworker
      cases hid
      exact hstored (hbody post ((postOf_eq hworker).symm.trans hpost)) ha
  | unexpectedlyAccepted hworker ha _ =>
      obtain ⟨rfl, _, hbody⟩ := hposted.workers _ _ hworker
      cases hid
      exact hstored (hbody post ((postOf_eq hworker).symm.trans hpost)) ha
  | other hnone =>
      rw [hnone] at hid
      cases hid

/-- A step of the producer keeps the receipts true. -/
theorem Receipts.produce {l : SimulatorLabel} {simulator : Simulator} (h : s.Receipts)
    (hl : s.Linked ours) (hs : s.simulator.step l = some simulator)
    (hconfirmed : ∀ x eventId, s.simulator.Shows l x → x.confirms = some eventId →
      ∃ row ∈ s.world.db.events.committed, row.eventId = eventId)
    (hexpected : ∀ eventId, ¬ s.simulator.Shows l (.unexpectedlyAccepted eventId)) :
    Receipts { s with simulator } where
  confirmed x hx eventId hid :=
    (Simulator.shows_of_step hs hx).elim (fun hx => h.confirmed x hx eventId hid)
      fun hx => hconfirmed x eventId hx hid
  replays worker event replay retry post i call state a hworker hpost hroute hi hd := by
    rcases Simulator.post_of_step hs hworker hpost with hworker | rfl
    · exact h.replays worker event replay retry post i call state a hworker hpost hroute hi hd
    · -- no request came from a post that has just been made
      obtain ⟨body, _, _, hbody, _⟩ := hl.routed _ _ hroute
      rw [List.getElem?_eq_none le_rfl] at hbody
      cases hbody
  expected eventId hm :=
    (Simulator.shows_of_step hs hm).elim (h.expected eventId) (hexpected eventId)

/-- A step of the backend keeps the receipts true. -/
theorem Receipts.serve {l : Label} {world : World} {routes : List (Nat × Nat)} (h : s.Receipts)
    (hl : s.Linked ours) (hposted : s.simulator.Posted) (hw : s.world.Reachable cat)
    (hs : s.world.step cat l = some world)
    (hroutes : ∀ post i, (post, i) ∈ routes → (post, i) ∈ s.routes ∨
      ∃ p, world.requests[i]? = some ⟨.event p, .running (Call.event p).program⟩) :
    Receipts { s with world, routes } where
  confirmed x hx eventId hid := by
    obtain ⟨row, hrow, he⟩ := h.confirmed x hx eventId hid
    exact ⟨row, (World.committed_grows (System.Reaches.refl.tail hs)).subset hrow, he⟩
  replays worker event replay retry post i call state a hworker hpost hroute hi hd := by
    rcases hroutes post i hroute with hroute | ⟨p, hnew⟩
    · obtain ⟨body, p, before, hbody, hvalid, hbefore⟩ := hl.routed _ _ hroute
      obtain ⟨after, hi', _⟩ := World.step_keeps hs hbefore
      rw [show world.requests[i]? = _ from hi] at hi'
      cases hi'
      rcases World.step_decided hw.ok hs hi hd with ⟨before, hbefore, hd⟩ | ⟨_, hspec⟩
      · exact h.replays worker event replay retry post i _ before a hworker hpost hroute hbefore hd
      · -- the row has been there since the first delivery
        obtain ⟨_, hcommitted, hpayload⟩ := hposted.workers _ _ hworker
        obtain ⟨row, hrow, hid⟩ := h.confirmed _ hcommitted _ rfl
        rw [hpayload post hpost] at hbody
        cases hbody
        exact hspec.not_accepted hrow (hid.trans (EventBody.validate_eventId hvalid).symm)
    · rw [show world.requests[i]? = _ from hi] at hnew
      cases hnew
      rw [World.undecided_arrived] at hd
      cases hd
  expected := h.expected

theorem Receipts.step {l : DeploymentLabel} (h : s.Receipts) (hl : s.Linked ours)
    (hposted : s.simulator.Posted) (hw : s.world.Reachable cat) (hs : s.step cat l = some s') :
    s'.Receipts := by
  cases step_cases hs with
  | producer hlabel hx =>
      refine h.produce hl hx (fun x eventId hshows hid => ?_) fun eventId hshows => ?_
      · cases hshows with
        | generated => cases hid
        | other hnone =>
            rw [hnone] at hid
            cases hid
        | _ => exact absurd rfl (hlabel _ _ _)
      · cases hshows with
        | unexpectedlyAccepted => exact absurd rfl (hlabel _ _ _)
        | other hnone => cases hnone
  | postEnds hpost hcan hx =>
      refine h.produce hl hx (fun x eventId hshows hid => ?_) fun eventId hshows => ?_
      · exact hl.confirmed hposted hw hpost hcan hshows hid
      · cases hshows with
        | @unexpectedlyAccepted _ attempt n event replay _ _ receipt hworker ha haccepted =>
            have hn := (postOf_eq hworker).symm.trans hpost
            obtain ⟨_, _, hbody⟩ := hposted.workers _ _ hworker
            obtain ⟨_, i, call, a, hroute, hi, hout⟩ :=
              hl.receipt hw hcan (afterAttempt_returned ha).1 (hbody _ hn)
            exact h.replays _ _ _ _ _ i call _ a hworker hn hroute hi rfl (hout haccepted)
        | other hnone => cases hnone
  | @deliver post body payload world _ _ _ _ hx =>
      refine h.serve hl hposted hw hx fun k i hroute => ?_
      rcases List.mem_cons.mp hroute with he | hroute
      · cases he
        cases hx
        exact Or.inr ⟨payload, List.getElem?_concat_length⟩
      · exact Or.inl hroute
  | lose => exact ⟨h.confirmed, h.replays, h.expected⟩
  | backend hx => exact h.serve hl hposted hw hx fun k i hroute => Or.inl hroute

/-! ## Runs -/

theorem issuesAnew_of_spares {l : DeploymentLabel} (h : s.spares ours l = true) :
    s.issuesAnew l = true := by
  cases l with
  | producer => exact h
  | _ => rfl

/-- The invariants hold in the runs in which the other clients spare the ids of `ours`. -/
theorem ReachableWithin.delivery (h : s.ReachableWithin cat config fun s l => s.spares ours l) :
    s.Linked ours ∧ s.Receipts := by
  obtain ⟨hostname, clock, serverClock, hr⟩ := h
  refine hr.invariant (I := fun s => s.Linked ours ∧ s.Receipts) ?_ ?_
  · refine ⟨⟨fun post i hm => ?_, fun i p state hi => ?_⟩, fun x hm => ?_, ?_, fun id hm => ?_⟩
    · exact (List.not_mem_nil hm).elim
    · simp [initial, World.initial] at hi
    · exact (List.not_mem_nil hm).elim
    · intro _ _ _ _ _ _ _ _ _ _ _ hm
      exact (List.not_mem_nil hm).elim
    · exact (List.not_mem_nil hm).elim
  · rintro t l t' ht ⟨hl, hreceipts⟩ hspares hs
    have hwithin : t.ReachableWithin cat config fun s l => s.spares ours l :=
      ⟨hostname, clock, serverClock, ht⟩
    exact ⟨hl.step hspares hs,
      hreceipts.step hl hwithin.simulator.posted hwithin.world hs⟩

end Deployment

open Deployment

/-- Exactly-once delivery of an event whose `event_id` no other client uses and `uuid4` gives once:
(1) every attempt carries its payload, (2) it has at most one row, (3) after a receipt it has
exactly one row, which is its payload, and (4) at most one attempt is accepted, and the replay
never is. -/
theorem delivered_exactly_once {s : Deployment} {event : OutboundEvent} {now : Instant}
    (h : s.ReachableWithin cat config fun s l => s.spares ours l)
    (hours : ours event.payload.eventId = true) (hg : .generated event now ∈ s.simulator.log) :
    ((∀ (worker : Nat) retry post, s.simulator.workers[worker]? = some (.delivering event retry) ∨
        (∃ replay, s.simulator.workers[worker]? = some (.replaying event replay retry)) →
        retry.post? = some post → s.simulator.posts[post]? = some event.payload) ∧
      (∀ body ∈ s.simulator.posts, body.eventId = event.payload.eventId → body = event.payload) ∧
      ∀ (i : Nat) p state, s.world.requests[i]? = some ⟨.event p, state⟩ →
        p.eventId = event.payload.eventId → event.payload.validate = some p) ∧
    (s.world.db.events.committed.filter fun e => e.eventId = event.payload.eventId).length ≤ 1 ∧
    (∀ x ∈ s.simulator.log, x.confirms = some event.payload.eventId →
      ∃ p store product row, event.payload.validate = some p ∧
        WrittenFor cat p store product row ∧
        (s.world.db.events.committed.filter fun e => e.eventId = event.payload.eventId) =
          [row]) ∧
    (∀ i j p q a b, .answered i (.event p) a ∈ s.world.log →
      .answered j (.event q) b ∈ s.world.log →
      p.eventId = event.payload.eventId → q.eventId = event.payload.eventId →
      a.outcome = .accepted → b.outcome = .accepted → i = j) ∧
    .unexpectedlyAccepted event.payload.eventId ∉ s.simulator.log := by
  obtain ⟨hl, hreceipts⟩ := h.delivery
  have hposted := h.simulator.posted
  have hdistinct := h.distinct fun _ _ => issuesAnew_of_spares
  have hw := h.world
  have hkeys := hw.ok.consistent.wellFormed.sound.keys
  refine ⟨⟨?_, ?_, fun i p state hi hid => hl.payload hposted hdistinct hg hi hid hours⟩,
    filter_key_length hkeys _, ?_, ?_, hreceipts.expected _⟩
  · rintro worker retry post (hworker | ⟨replay, hworker⟩) hpost
    · exact hposted.workers _ _ hworker post hpost
    · exact (hposted.workers _ _ hworker).2.2 post hpost
  · intro body hbody hid
    obtain ⟨event', now', hg', rfl⟩ := hposted.posts body hbody
    rw [hposted.unique hdistinct _ _ _ _ hg' hg hid]
  · intro x hx hid
    obtain ⟨row, hrow, he⟩ := hreceipts.confirmed x hx _ hid
    obtain ⟨p, store, product, hvalid, hwritten⟩ := hl.row hposted hdistinct hw hg hrow he hours
    exact ⟨p, store, product, row, hvalid, hwritten, filter_key_eq hkeys hrow he⟩
  · intro i j p q a b hi hj hp hq ha hb
    exact hw.accepted_unique hi hj ha hb (hp.trans hq.symm)

/-! ## A run -/

namespace Sample

/-- The store of the producer, with one of its products. -/
def shop : Catalogue where
  stores := [⟨1, "POA-CENTRO"⟩]
  products := [⟨2, "COFFEE-001"⟩]
  store_ids := List.nodup_singleton _
  store_codes := List.nodup_singleton _
  product_ids := List.nodup_singleton _
  product_skus := List.nodup_singleton _

/-- A success of the backend. -/
def response (statusCode : Nat) (status : String) : Response :=
  ⟨statusCode, "", some (.obj [("status", .str status)])⟩

/-- The run of a list of steps that meet a condition, from time 0. -/
def deploy (P : Deployment → DeploymentLabel → Bool) (labels : List DeploymentLabel) :
    Option Deployment :=
  System.runWithin (fun s l => P s l = true) (deployment shop)
    (.initial simulatorConfig "host" 0 0) labels

theorem deploy_reachable {P : Deployment → DeploymentLabel → Bool} {labels : List DeploymentLabel}
    {s : Deployment} (h : deploy P labels = some s) :
    s.ReachableWithin shop simulatorConfig fun s l => P s l :=
  ⟨"host", 0, 0, System.runWithin_reaches h⟩

/-- The first post of the SALE 10 arrives after the second one has been answered, and at the
same time as its replay. -/
def lateSteps : List DeploymentLabel :=
  [.producer (.generate 5 (draws (3 / 4) 3 10)), .producer (.get 0),
    .postEnds 0 .transportError 0, .producer (.wake 0), .deliver 1] ++
  List.replicate 9 (.backend (.run 0)) ++
  [.postEnds 0 (.backend (response 201 "accepted")) (1 / 4), .deliver 0, .deliver 2] ++
  List.replicate 6 (.backend (.run 1)) ++ List.replicate 6 (.backend (.run 2)) ++
  [.postEnds 0 (.backend (response 200 "duplicate")) 0]

/-- An entry shows the generation of an event. -/
def generates (eventId : UUID) : SimulatorEntry → Bool
  | .generated event _ => event.payload.eventId == eventId
  | _ => false

theorem generated_of_any {log : List SimulatorEntry} {eventId : UUID}
    (h : log.any (generates eventId) = true) :
    ∃ event now, .generated event now ∈ log ∧ event.payload.eventId = eventId := by
  obtain ⟨x, hx, hg⟩ := List.any_eq_true.mp h
  cases x with
  | generated event now => exact ⟨event, now, hx, beq_iff_eq.mp hg⟩
  | _ => cases hg

end Sample

/-- Of the three posts that arrived in another order one has stored the SALE. -/
theorem delivered_exactly_once_in_any_order :
    ∃ s row, Sample.deploy (fun s l => s.spares (fun id => id == 10) l) Sample.lateSteps = some s ∧
      s.routes = [(2, 2), (0, 1), (1, 0)] ∧
      (s.world.db.events.committed.filter fun e => e.eventId = 10) = [row] ∧
      .unexpectedlyAccepted 10 ∉ s.simulator.log := by
  have hrun : ((Sample.deploy (fun s l => s.spares (fun id => id == 10) l) Sample.lateSteps).map
      fun s => (s.routes, s.simulator.log.any (Sample.generates 10),
        s.simulator.log.any fun x => x.confirms = some 10)) =
      some ([(2, 2), (0, 1), (1, 0)], true, true) := by decide +kernel
  obtain ⟨s, hs, he⟩ := Option.map_eq_some_iff.mp hrun
  simp only [Prod.mk.injEq] at he
  obtain ⟨hroutes, hgenerated, hconfirmed⟩ := he
  obtain ⟨event, now, hg, hid⟩ := Sample.generated_of_any hgenerated
  obtain ⟨x, hx, hc⟩ := List.any_eq_true.mp hconfirmed
  obtain ⟨_, _, hrow, _, hexpected⟩ :=
    delivered_exactly_once (Sample.deploy_reachable hs) (beq_iff_eq.mpr hid) hg
  rw [hid] at hrow hexpected
  obtain ⟨_, _, _, row, _, _, hfilter⟩ := hrow x hx (of_decide_eq_true hc)
  exact ⟨s, row, hs, hroutes, hfilter, hexpected⟩

end StorePulse
