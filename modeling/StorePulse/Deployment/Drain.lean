import StorePulse.Backend.Progress
import StorePulse.Deployment.Seeded

/-!
# A backlog can be delivered

From every state of a seeded deployment the events on their way can be brought to
the backend: a worker gives up the post it waits for and posts again, the post
arrives, and the requests in progress run until all of them are answered.  That
takes no new event, no loss, no abort and no other client.

Only the overflow of the retry delay stands in the way: after 1024 attempts it
ends the producer.
-/

namespace StorePulse

variable {cat : Catalogue} {ours : UUID → Bool} {config : SimulatorConfig}

/-- A step that makes no event and loses nothing, and that no other client makes. -/
def DeploymentLabel.delivers : DeploymentLabel → Bool
  | .producer (.generate ..) => false
  | .producer _ => true
  | .postEnds .. => true
  | .deliver _ => true
  | .lose _ => false
  | .backend l => l.runs

theorem separates_of_delivers {s : Deployment} {l : DeploymentLabel} (h : l.delivers = true) :
    s.separates ours l = true := by
  cases l with
  | producer l => cases l <;> first | rfl | cases h
  | postEnds | deliver => rfl
  | lose => cases h
  | backend l => cases l <;> first | rfl | cases h

/-- Only the traffic loop makes events. -/
theorem Simulator.step_keeps {s s' : Simulator} {l : SimulatorLabel} (hs : s.step l = some s')
    (hl : ∀ now draws, l ≠ .generate now draws) :
    (s.Dated → s'.Dated) ∧ s'.generatedEvents = s.generatedEvents := by
  constructor
  · intro hdated x hm
    cases x with
    | generated event now =>
        rcases generated_of_step hs hm with hold | ⟨_, draws, he, _⟩
        · exact hdated _ hold
        · exact absurd he (hl now draws)
    | _ => rfl
  · rcases generatedEvents_of_step hs with ⟨he, _⟩ | ⟨now, draws, _, he, _⟩
    · exact he
    · exact absurd he (hl now draws)

/-! ## Steps of a worker -/

/-- The number of the attempt a call has come to. -/
def Retry.attempt : Retry → Nat
  | .posting attempt _ => attempt
  | .sleeping attempt => attempt

/-- The number of the attempt a worker has come to. -/
def Worker.attempts : Worker → Nat
  | .waiting => 0
  | .delivering _ retry => retry.attempt
  | .replaying _ _ retry => retry.attempt

/-- A worker in a call of `post_event_with_retry`, and the payload of the call. -/
inductive Worker.Retries : (Retry → Worker) → EventBody → Prop
  | delivering (event : OutboundEvent) : Retries (.delivering event) event.payload
  | replaying (event replay : OutboundEvent) : Retries (.replaying event replay) replay.payload

/-- Up to attempt 1024 there is a delay. -/
theorem retryDelay_ok (config : SimulatorConfig) {attempt : Nat} (h : attempt ≤ 1024) :
    ∃ delay, retryDelay config attempt 0 = some (.ok delay) := by
  have hdraw : rngRandom 0 = some (.finite 0) := rfl
  unfold retryDelay retryDelayWith
  rw [PyFloat.ofNat_two_pow_of_lt (show attempt - 1 < 1024 by omega)]
  simp only [hdraw, Option.map_some]
  split
  · exact ⟨_, rfl⟩
  · exact ⟨_, rfl⟩

/-- How many ends a worker is away from waiting. -/
def Worker.left : Worker → Nat
  | .waiting => 0
  | .delivering _ _ => 2
  | .replaying _ _ _ => 1

namespace Simulator

variable {s : Simulator} {i attempt n : Nat} {f : Retry → Worker} {body : EventBody}

/-- How many steps forward the producer is away from rest. -/
def left (s : Simulator) : Nat :=
  4 * s.putting.toList.length + 3 * s.queue.length + (s.workers.map Worker.left).sum

/-- The producer is up and has workers, and none of them has come to the overflow of its delay. -/
structure Rested (s : Simulator) : Prop where
  up : s.down = false
  workers : s.workers ≠ []
  attempts : ∀ worker ∈ s.workers, worker.attempts ≤ 1024

/-- A worker gives up a post. -/
theorem step_transportError (hf : Worker.Retries f body) (hup : s.down = false)
    (hw : s.workers[i]? = some (f (.posting attempt n))) (hattempt : attempt ≤ 1024)
    (hmax : s.config.maxRetryAttempts = 0) : s.step (.postEnds i .transportError 0) =
      some { s with workers := s.workers.set i (f (.sleeping attempt)) } := by
  obtain ⟨delay, hdelay⟩ := retryDelay_ok s.config hattempt
  have hafter : afterAttempt s.config attempt .transportError 0 = some (.sleeping delay) := by
    simp only [afterAttempt, PostResult.attempt]
    rw [if_neg fun h => h.1 hmax, hdelay]
    rfl
  cases hf with
  | delivering event => simp [step, hup, postEnds, hw, hafter]
  | replaying event replay => simp [step, hup, postEnds, hw, hafter]

/-- A worker that has slept posts again. -/
theorem step_wake (hf : Worker.Retries f body) (hup : s.down = false)
    (hw : s.workers[i]? = some (f (.sleeping attempt))) : s.step (.wake i) =
      some (s.post i body fun n => f (.posting (attempt + 1) n)) := by
  cases hf with
  | delivering event => simp [step, hup, hw]
  | replaying event replay => simp [step, hup, hw]

/-- A worker that waits takes the first event of the queue. -/
theorem step_get {event : OutboundEvent} {rest : List OutboundEvent} (hup : s.down = false)
    (hw : s.workers[i]? = some .waiting) (hqueue : s.queue = event :: rest) :
    s.step (.get i) = some ({ s with queue := rest }.post i event.payload fun n =>
      .delivering event (.posting 1 n)) := by
  simp [step, hup, hw, hqueue]

/-- A post that succeeds ends the call. -/
theorem step_succeeds {result : PostResult} {status : ReceiptStatus} {httpStatus : Nat}
    (hf : Worker.Retries f body) (hup : s.down = false)
    (hw : s.workers[i]? = some (f (.posting attempt n)))
    (hresult : result.attempt = .succeeded status httpStatus) :
    ∃ s' b, s.step (.postEnds i result 0) = some s' ∧ s'.workers = s.workers.set i b ∧
      s'.putting = s.putting ∧ s'.queue = s.queue ∧ s'.down = false ∧
      b.left < (f (.posting attempt n)).left ∧ b.attempts ≤ 1024 := by
  have hafter : afterAttempt s.config attempt result 0 =
      some (.returned ⟨status, httpStatus, attempt⟩) := by
    rw [afterAttempt, hresult]
  have hstep : s.step (.postEnds i result 0) = s.postEnds i result 0 := by
    rw [step, hup]
    rfl
  rw [hstep]
  cases hf with
  | delivering event =>
      have hends : s.postEnds i result 0 =
          (s.delivered event ⟨status, httpStatus, attempt⟩).afterDelivery i event 0 := by
        simp only [postEnds, hw, hafter, Option.bind_some]
      have hdraw : rngRandom 0 = some (.finite 0) := rfl
      rw [hends, afterDelivery, hdraw, Option.map_some]
      split
      · split
        · exact ⟨_, _, rfl, rfl, rfl, rfl, hup, Nat.one_lt_two,
          show 1 ≤ 1024 by omega⟩
        · exact ⟨_, _, rfl, rfl, rfl, rfl, hup, Nat.two_pos, Nat.zero_le _⟩
      · exact ⟨_, _, rfl, rfl, rfl, rfl, hup, Nat.two_pos, Nat.zero_le _⟩
  | replaying event replay =>
      refine ⟨(s.replayed replay ⟨status, httpStatus, attempt⟩).taskDone i event, .waiting, ?_,
        rfl, rfl, rfl, hup, Nat.one_pos, Nat.zero_le _⟩
      simp only [postEnds, hw, hafter, Option.bind_some]

/-- The events on their way are gone once the producer has come to rest. -/
theorem pending_of_left (h : s.left = 0) : s.putting = none ∧ s.queue = [] ∧ s.pending = [] ∧
    ∀ worker ∈ s.workers, worker = .waiting := by
  have hparts : s.putting.toList.length = 0 ∧ s.queue.length = 0 ∧
      (s.workers.map Worker.left).sum = 0 := by
    rw [left] at h
    omega
  obtain ⟨hputting, hqueue, hworkers⟩ := hparts
  rw [List.length_eq_zero_iff] at hputting hqueue
  have hidle : ∀ worker ∈ s.workers, worker = .waiting := by
    intro worker hm
    have hzero := List.sum_eq_zero_iff.mp hworkers _ (List.mem_map_of_mem hm)
    cases worker with
    | waiting => rfl
    | delivering | replaying => cases hzero
  have hnone : s.putting = none := by
    cases hp : s.putting with
    | none => rfl
    | some event => rw [hp] at hputting; cases hputting
  refine ⟨hnone, hqueue, ?_, hidle⟩
  have hdelivery : s.workers.flatMap Worker.inDelivery = [] := by
    rw [List.flatMap_eq_nil_iff]
    intro worker hm
    rw [hidle worker hm]
    rfl
  rw [pending, hputting, hqueue, hdelivery]
  rfl

/-- A change of one worker that brings it closer to waiting. -/
theorem Rested.set {s' : Simulator} {b : Worker} (h : s.Rested)
    (hworkers : s'.workers = s.workers.set i b) (hup : s'.down = false)
    (hattempts : b.attempts ≤ 1024) : s'.Rested := by
  refine ⟨hup, fun hnil => h.workers ?_, fun worker hm => ?_⟩
  · exact List.set_eq_nil_iff _ _ |>.mp (hworkers.symm.trans hnil)
  · rw [hworkers] at hm
    rcases List.mem_or_eq_of_mem_set hm with hold | rfl
    · exact h.attempts worker hold
    · exact hattempts

end Simulator

/-- The response with a result. -/
def EventIngestionResult.response (result : EventIngestionResult) (httpStatus : Nat) : Response :=
  ⟨httpStatus, "", some (.obj [("status", .str result.status.text)])⟩

/-- It carries the answer, and a success is told from it. -/
theorem EventIngestionResult.sends_response (result : EventIngestionResult) {httpStatus : Nat}
    (h : httpStatus ∈ [200, 201]) :
    (Answer.event httpStatus result).sends (result.response httpStatus) = true ∧
    ∃ status, (PostResult.response (result.response httpStatus)).attempt =
      .succeeded status httpStatus := by
  constructor
  · simp [Answer.sends, response, Answer.statusCode, bodyStatus]
  · have hsuccess : (result.response httpStatus).statusCode ∈ successStatusCodes := h
    have hbody : (result.response httpStatus).json.bind bodyStatus =
        some (.str result.status.text) := rfl
    have hstatus : ∃ status, successStatus (.str result.status.text) httpStatus =
        .succeeded status httpStatus := by
      cases result.status with
      | accepted => exact ⟨_, rfl⟩
      | duplicate => exact ⟨_, rfl⟩
    obtain ⟨status, hstatus⟩ := hstatus
    refine ⟨status, ?_⟩
    rw [PostResult.attempt, if_pos hsuccess, hbody]
    exact hstatus

namespace Deployment

variable {s s' : Deployment}

/-- The runs that only deliver. -/
def Delivers (cat : Catalogue) : Deployment → Deployment → Prop :=
  (deployment cat).ReachesWithin fun _ l => l.delivers = true

theorem ReachableWithin.delivers (hr : s.ReachableWithin cat config fun s l => s.separates ours l)
    (h : Delivers cat s s') : s'.ReachableWithin cat config fun s l => s.separates ours l := by
  obtain ⟨hostname, clock, serverClock, hr⟩ := hr
  exact ⟨hostname, clock, serverClock, hr.trans (h.mono fun _ _ => separates_of_delivers)⟩

/-- What only delivering keeps of the producer. -/
structure Keeps (s s' : Deployment) : Prop where
  config : s'.simulator.config = s.simulator.config
  dated : s.simulator.Dated → s'.simulator.Dated
  generated : s'.simulator.generatedEvents = s.simulator.generatedEvents

theorem Delivers.keeps (h : Delivers cat s s') : s.Keeps s' := by
  refine h.invariant (I := s.Keeps) ⟨rfl, id, rfl⟩ fun t l t' _ ht hl hs => ?_
  have hstep : ∀ {x : SimulatorLabel}, t.simulator.step x = some t'.simulator →
      (∀ now draws, x ≠ .generate now draws) → s.Keeps t' := by
    intro x hx hne
    obtain ⟨hdated, hgenerated⟩ := Simulator.step_keeps hx hne
    exact ⟨(Simulator.config_of_step hx).trans ht.config, hdated ∘ ht.dated,
      hgenerated.trans ht.generated⟩
  cases step_cases hs with
  | producer _ hx => exact hstep hx fun now draws he => by subst he; cases hl
  | postEnds _ _ hx => exact hstep hx fun _ _ he => by cases he
  | deliver | lose | backend => exact ⟨ht.config, ht.dated, ht.generated⟩

/-- A run of the backend is one of the deployment. -/
theorem delivers_backend {w : World}
    (h : (server cat).ReachesWithin (fun _ l => l.runs = true) s.world w) :
    Delivers cat s { s with world := w } := by
  refine h.invariant (I := fun v => Delivers cat s { s with world := v }) .refl
    fun v l v' _ hv hl hs => hv.tail (l := .backend l) hl ?_
  show ((World.step cat v l).map fun world => { { s with world := v } with world }) = _
  rw [show World.step cat v l = some v' from hs]
  rfl

/-- Only a post that was made is lost. -/
theorem lost_of_step {l : DeploymentLabel} {n : Nat} (hs : s.step cat l = some s')
    (hn : n ∈ s'.lost) : n ∈ s.lost ∨ n < s.simulator.posts.length := by
  cases l with
  | lose post =>
      rw [step] at hs
      split at hs
      · next hpost =>
        cases hs
        rcases List.mem_cons.mp hn with rfl | hold
        · exact Or.inr hpost.1
        · exact Or.inl hold
      · cases hs
  | producer => cases step_cases hs with | producer => exact Or.inl hn
  | postEnds => cases step_cases hs with | postEnds => exact Or.inl hn
  | deliver => cases step_cases hs with | deliver => exact Or.inl hn
  | backend => cases step_cases hs with | backend => exact Or.inl hn

/-- A post gets a new number. -/
theorem ReachableWithin.fresh (hr : s.ReachableWithin cat config fun s l => s.separates ours l) :
    s.arrived s.simulator.posts.length = false ∧ s.simulator.posts.length ∉ s.lost := by
  constructor
  · by_contra harrived
    rw [Bool.not_eq_false, arrived] at harrived
    obtain ⟨i, hi⟩ := Option.isSome_iff_exists.mp harrived
    obtain ⟨_, _, hroutes, _⟩ := List.lookup_eq_some_iff.mp hi
    obtain ⟨body, _, _, hbody, _⟩ := hr.separated.1.routed s.simulator.posts.length i
      (by simp [hroutes])
    exact absurd (List.getElem?_eq_some_iff.mp hbody).1 (lt_irrefl _)
  · have hlost : ∀ n ∈ s.lost, n < s.simulator.posts.length := by
      obtain ⟨hostname, clock, serverClock, hr⟩ := hr
      refine hr.invariant (I := fun t => ∀ n ∈ t.lost, n < t.simulator.posts.length)
        (fun n hn => (List.not_mem_nil hn).elim) fun t l t' _ ht _ hs n hn => ?_
      have hgrow : t.simulator.posts.length ≤ t'.simulator.posts.length := by
        rcases (step_parts hs).1 with he | ⟨x, hx⟩
        · rw [he]
        · exact (Simulator.step_grows hx).2.length_le
      rcases lost_of_step hs hn with hold | hnew
      · exact (ht n hold).trans_le hgrow
      · exact hnew.trans_le hgrow
    exact fun hm => absurd (hlost _ hm) (lt_irrefl _)

/-- A post that has not arrived can be answered, with the producer as it is. -/
theorem ReachableWithin.answerable {n : Nat} {body : EventBody} {p : EventCreate}
    (hr : s.ReachableWithin cat config fun s l => s.separates ours l)
    (hbody : s.simulator.posts[n]? = some body) (hvalid : body.validate = some p)
    (hfree : s.arrived n = false) (hlost : n ∉ s.lost) :
    ∃ s' i a, Delivers cat s s' ∧ s'.simulator = s.simulator ∧ s'.routes.lookup n = some i ∧
      s'.world.requests[i]? = some ⟨.event p, .answered a⟩ := by
  let i := s.world.requests.length
  let arrived : World := { s.world with
    requests := s.world.requests ++ [⟨.event p, .running (Call.event p).program⟩]
    log := s.world.log ++ [.arrived i (.event p)] }
  let posted : Deployment := { s with world := arrived, routes := (n, i) :: s.routes }
  have hpost : s.simulator.posts[n]?.bind EventBody.validate = some p := by
    rw [hbody]
    exact hvalid
  have hstep : s.step cat (.deliver n) = some posted := by
    simp only [step, hpost, hfree, hlost, decide_false, Bool.or_false, Bool.false_eq_true, if_false]
    rfl
  have hdelivered : Delivers cat s posted :=
    System.ReachesWithin.refl.tail (S := deployment cat) (l := .deliver n) rfl hstep
  have hw : posted.world.Reachable cat := (hr.delivers hdelivered).world
  obtain ⟨w, hruns, hstuck⟩ := posted.world.runs_out cat
  obtain ⟨a, ha⟩ := (hw.answered_of_stuck hruns hstuck).2 i (.event p) _
    List.getElem?_concat_length
  exact ⟨{ posted with world := w }, i, a, hdelivered.trans (delivers_backend hruns), rfl,
    List.lookup_cons_self, ha⟩

/-- A step of the producer. -/
theorem Delivers.producer {l : SimulatorLabel} {x : Simulator}
    (hl : ∀ now draws, l ≠ .generate now draws)
    (hends : ∀ i result draw, l ≠ .postEnds i result draw) (hx : s.simulator.step l = some x) :
    Delivers cat s { s with simulator := x } := by
  refine System.ReachesWithin.refl.tail (S := deployment cat) (l := .producer l) ?_ ?_
  · cases l with
    | generate => exact absurd rfl (hl _ _)
    | put | get | postEnds | wake => rfl
  · have hstep : s.step cat (.producer l) =
        (s.simulator.step l).map fun simulator => { s with simulator } := by
      cases l with
      | postEnds => exact absurd rfl (hends _ _ _)
      | generate | put | get | wake => rfl
    exact hstep.trans (by rw [hx]; rfl)

/-- The end of a post. -/
theorem Delivers.postEnds {i n : Nat} {ending : PostEnding} {x : Simulator}
    (hpost : s.postOf i = some n) (hcan : s.canEnd n ending = true)
    (hx : s.simulator.step (.postEnds i ending.result 0) = some x) :
    Delivers cat s { s with simulator := x } := by
  refine System.ReachesWithin.refl.tail (S := deployment cat) (l := .postEnds i ending 0) rfl ?_
  show s.step cat (.postEnds i ending 0) = _
  simp only [step, hpost, hcan, if_true, hx, Option.map_some]

/-- A worker gives up what it waits for and posts again. -/
theorem reposts {i : Nat} {retry : Retry} {f : Retry → Worker} {body : EventBody}
    (hf : Worker.Retries f body) (hrest : s.simulator.Rested)
    (hw : s.simulator.workers[i]? = some (f retry))
    (hmax : s.simulator.config.maxRetryAttempts = 0) : ∃ a, Delivers cat s
      { s with simulator := s.simulator.post i body fun n => f (.posting a n) } := by
  have hattempt : retry.attempt ≤ 1024 := by
    have h := hrest.attempts _ (List.mem_of_getElem? hw)
    cases hf with
    | delivering | replaying => exact h
  cases retry with
  | sleeping a =>
      exact ⟨a + 1, .producer (fun _ _ h => by cases h) (fun _ _ _ h => by cases h)
        (Simulator.step_wake hf hrest.up hw)⟩
  | posting a n =>
      let x : Simulator :=
        { s.simulator with workers := s.simulator.workers.set i (f (.sleeping a)) }
      have hpost : s.postOf i = some n := by
        rw [postOf_eq hw]
        cases hf with
        | delivering | replaying => rfl
      have hsleeps : Delivers cat s { s with simulator := x } :=
        .postEnds hpost (show s.canEnd n .transportError = true from rfl)
          (Simulator.step_transportError hf hrest.up hw hattempt hmax)
      have hx : x.workers[i]? = some (f (.sleeping a)) :=
        List.getElem?_set_self (List.getElem?_eq_some_iff.mp hw).1
      have hwake : Delivers cat { s with simulator := x }
          { s with simulator := x.post i body fun n => f (.posting (a + 1) n) } :=
        .producer (fun _ _ h => by cases h) (fun _ _ _ h => by cases h)
          (Simulator.step_wake hf hrest.up hx)
      have hsame : x.post i body (fun n => f (.posting (a + 1) n)) =
          s.simulator.post i body fun n => f (.posting (a + 1) n) := by
        simp only [Simulator.post, x, List.set_set]
      exact ⟨a + 1, hsleeps.trans (hsame ▸ hwake)⟩

section Seeded

variable (hcat : cat.Stocked) (hr : s.ReachableWithin cat config fun s l => s.separates ours l)
  (hc : s.simulator.config.ForSeed) (hdated : s.simulator.Dated)

include hcat hr hc hdated

/-- A post can be answered with a success. -/
theorem ReachableWithin.succeeds {n : Nat} {body : EventBody}
    (hbody : s.simulator.posts[n]? = some body) (hfree : s.arrived n = false)
    (hlost : n ∉ s.lost) : ∃ s' response status httpStatus, Delivers cat s s' ∧
      s'.simulator = s.simulator ∧ s'.canEnd n (.backend response) = true ∧
      (PostResult.response response).attempt = .succeeded status httpStatus := by
  obtain ⟨event, now, hg, rfl⟩ := hr.simulator.posted.posts body (List.mem_of_getElem? hbody)
  obtain ⟨p, hvalid, _⟩ := hr.admitted hc hg
  obtain ⟨s', i, a, hd, hsame, hroute, hi⟩ := hr.answerable hbody hvalid hfree hlost
  have hr' := hr.delivers hd
  have ha := (hr'.world.listed.answered i _ a).mpr hi
  have hmem : (n, i) ∈ s'.routes := by
    obtain ⟨_, _, hroutes, _⟩ := List.lookup_eq_some_iff.mp hroute
    rw [hroutes]
    exact List.mem_append_right _ List.mem_cons_self
  obtain ⟨hnot, hcode⟩ := hr'.not_refused hcat (hsame ▸ hc) hmem ha
  obtain ⟨_, _, hspec, _⟩ := hr'.world.answer_spec ha
  have hevent : ∃ httpStatus result, a = .event httpStatus result ∧ httpStatus ∈ [200, 201] := by
    cases hspec with
    | accepted => exact ⟨_, _, rfl, hcode (hsame ▸ hdated)⟩
    | duplicate => exact ⟨_, _, rfl, hcode (hsame ▸ hdated)⟩
    | @refused x hx =>
        have hrejected := raiseHttp_statusCode x
        have hsuccess := hcode (hsame ▸ hdated)
        simp only [List.mem_cons, List.not_mem_nil, or_false] at hrejected hsuccess
        omega
  obtain ⟨httpStatus, result, rfl, hsuccess⟩ := hevent
  obtain ⟨hsends, status, hattempt⟩ := result.sends_response hsuccess
  refine ⟨s', result.response httpStatus, status, httpStatus, hd, hsame, ?_, hattempt⟩
  have hposts : s'.simulator.posts[n]?.map EventBody.validate = some (some p) := by
    rw [hsame, hbody]
    exact congrArg some hvalid
  simp only [canEnd, responds, hposts, hroute, Option.bind_some, hi]
  exact hsends

/-- A call can be ended with a success. -/
theorem ReachableWithin.ends {i : Nat} {retry : Retry} {f : Retry → Worker} {body : EventBody}
    (hf : Worker.Retries f body) (hrest : s.simulator.Rested)
    (hw : s.simulator.workers[i]? = some (f retry)) :
    ∃ s', Delivers cat s s' ∧ s'.simulator.Rested ∧ s'.simulator.left < s.simulator.left := by
  obtain ⟨a, hposts⟩ := @reposts cat s i retry f body hf hrest hw hc.unlimited
  let x := s.simulator.post i body fun n => f (.posting a n)
  have hbody : x.posts[s.simulator.posts.length]? = some body := List.getElem?_concat_length
  have hx : x.workers[i]? = some (f (.posting a s.simulator.posts.length)) :=
    List.getElem?_set_self (List.getElem?_eq_some_iff.mp hw).1
  obtain ⟨hfree, hlost⟩ := hr.fresh
  obtain ⟨t, response, status, httpStatus, hd, hsame, hcan, hresult⟩ :=
    ReachableWithin.succeeds (s := { s with simulator := x }) hcat (hr.delivers hposts) hc hdated
      hbody hfree hlost
  replace hsame : t.simulator = x := hsame
  have hpost : t.postOf i = some s.simulator.posts.length := by
    rw [postOf, hsame, hx]
    cases hf with
    | delivering | replaying => rfl
  obtain ⟨y, b, hy, hworkers, hputting, hqueue, hup, hleft, hattempts⟩ :=
    Simulator.step_succeeds (s := t.simulator) hf (hsame ▸ hrest.up) (hsame ▸ hx) hresult
  have hset : y.workers = s.simulator.workers.set i b := by
    rw [hworkers, hsame]
    exact List.set_set _
  have hfewer : b.left < (f retry).left := by
    cases hf with
    | delivering | replaying => exact hleft
  refine ⟨{ t with simulator := y }, (hposts.trans hd).trans (Delivers.postEnds hpost hcan hy),
    hrest.set hset hup hattempts, ?_⟩
  have hsum := sum_map_set (w := Worker.left) (b := b) hw
  rw [hsame] at hputting hqueue
  show y.left < _
  rw [Simulator.left, Simulator.left, hputting, hqueue, hset]
  show 4 * s.simulator.putting.toList.length + 3 * s.simulator.queue.length + _ < _
  omega

/-- A producer that is not at rest can take a step forward. -/
theorem ReachableWithin.advances (hrest : s.simulator.Rested) (hleft : s.simulator.left ≠ 0) :
    ∃ s', Delivers cat s s' ∧ s'.simulator.Rested ∧ s'.simulator.left < s.simulator.left := by
  by_cases hidle : ∀ worker ∈ s.simulator.workers, worker = .waiting
  swap
  · push Not at hidle
    obtain ⟨worker, hm, hne⟩ := hidle
    obtain ⟨i, hw⟩ := List.mem_iff_getElem?.mp hm
    cases worker with
    | waiting => exact absurd rfl hne
    | delivering event retry => exact hr.ends hcat hc hdated (.delivering event) hrest hw
    | replaying event replay retry =>
        exact hr.ends hcat hc hdated (.replaying event replay) hrest hw
  cases hqueue : s.simulator.queue with
  | cons event rest =>
      obtain ⟨worker, hw⟩ := List.exists_mem_of_ne_nil _ hrest.workers
      obtain ⟨i, hw⟩ := List.mem_iff_getElem?.mp hw
      obtain rfl := hidle worker (List.mem_of_getElem? hw)
      have hx := Simulator.step_get hrest.up hw hqueue
      refine ⟨_, .producer (fun _ _ h => by cases h) (fun _ _ _ h => by cases h) hx,
        hrest.set rfl hrest.up (show 1 ≤ 1024 by omega), ?_⟩
      have hsum := sum_map_set (w := Worker.left)
        (b := .delivering event (.posting 1 s.simulator.posts.length)) hw
      simp only [Simulator.left, Simulator.post, hqueue, List.length_cons]
      simp only [Worker.left] at hsum ⊢
      omega
  | nil =>
      cases hputting : s.simulator.putting with
      | none =>
          refine absurd ?_ hleft
          have hsum : (s.simulator.workers.map Worker.left).sum = 0 := by
            rw [List.sum_eq_zero_iff]
            intro n hn
            obtain ⟨worker, hm, rfl⟩ := List.mem_map.mp hn
            rw [hidle worker hm]
            rfl
          rw [Simulator.left, hqueue, hputting, hsum]
          rfl
      | some event =>
          have hfull : s.simulator.full = false := by
            simp only [Simulator.full, hqueue, List.length_nil]
            rw [Bool.and_eq_false_iff, decide_eq_false_iff_not, decide_eq_false_iff_not]
            omega
          have hx : s.simulator.step .put = some
              { s.simulator with putting := none, queue := [event] } := by
            simp [Simulator.step, hrest.up, hputting, hfull, Simulator.put, hqueue]
          refine ⟨_, .producer (fun _ _ h => by cases h) (fun _ _ _ h => by cases h) hx,
            ⟨hrest.up, hrest.workers, hrest.attempts⟩, ?_⟩
          rw [Simulator.left, Simulator.left, hqueue, hputting]
          simp only [Option.toList_none, Option.toList_some, List.length_nil, List.length_cons]
          omega

end Seeded

/-- So it can be brought to rest. -/
theorem ReachableWithin.rests (hcat : cat.Stocked)
    (hr : s.ReachableWithin cat config fun s l => s.separates ours l)
    (hc : s.simulator.config.ForSeed) (hdated : s.simulator.Dated)
    (hrest : s.simulator.Rested) :
    ∃ s', Delivers cat s s' ∧ s'.simulator.left = 0 := by
  have hone : ∀ t, Delivers cat s t ∧ t.simulator.Rested → t.simulator.left ≠ 0 →
      ∃ u, Delivers cat t u ∧ (Delivers cat s u ∧ u.simulator.Rested) ∧
        u.simulator.left < t.simulator.left := by
    intro t ⟨hd, ht⟩ hleft
    have hkeeps := hd.keeps
    obtain ⟨u, hu, hrest', hlt⟩ := (hr.delivers hd).advances hcat (hkeeps.config ▸ hc)
      (hkeeps.dated hdated) ht hleft
    exact ⟨u, hu, ⟨hd.trans hu, hrest'⟩, hlt⟩
  obtain ⟨s', hd, _, hleft⟩ := System.exists_reaches_zero
    (fun t : Deployment => t.simulator.left) hone ⟨.refl, hrest⟩
  exact ⟨s', hd, hleft⟩

end Deployment

open Deployment

/-- Whatever has been lost or held up: as long as the producer is up, has a worker and no retry has
come to the overflow of its delay (`Rested`), a run that only delivers brings every event generated
to the backend and leaves the queue empty and every worker waiting.  The producer is one for a store
of the seed (`ForSeed`: a label that, stripped, has 1 to 120 characters and no U+0000, amounts that
fit a `BIGINT`, no limit on the attempts), and the times it has read are `datetime`s. -/
theorem backlog_drains {t t' : Tables} {now : Instant} {s : Deployment}
    (hseed : seed now t = (.ok (), t')) (hcat : (cat.stores, cat.products) = t'.keys)
    (hr : s.ReachableWithin cat config fun s l => s.separates ours l)
    (hc : s.simulator.config.ForSeed) (hdated : s.simulator.Dated)
    (hrest : s.simulator.Rested) : ∃ s', Delivers cat s s' ∧
      s'.simulator.generatedEvents = s.simulator.generatedEvents ∧
      s'.simulator.putting = none ∧ s'.simulator.queue = [] ∧
      (∀ worker ∈ s'.simulator.workers, worker = .waiting) ∧
      ∀ event ∈ s.simulator.generatedEvents, event ∈ s'.simulator.deliveries ∧
        ∃ p store product row, event.payload.validate = some p ∧
          WrittenFor cat p store product row ∧ row ∈ s'.world.db.events.committed ∧
          row.eventId = event.payload.eventId := by
  have hstocked := (Tables.complete_of_seed hseed).stocked hcat
  obtain ⟨s', hd, hleft⟩ := hr.rests hstocked hc hdated hrest
  have hkeeps := hd.keeps
  have hr' := hr.delivers hd
  have hc' : s'.simulator.config.ForSeed := hkeeps.config ▸ hc
  obtain ⟨hputting, hqueue, hpending, hidle⟩ := Simulator.pending_of_left hleft
  refine ⟨s', hd, hkeeps.generated, hputting, hqueue, hidle, fun event he => ?_⟩
  rw [← hkeeps.generated] at he
  obtain ⟨made, hg⟩ := Simulator.generated_of_mem he
  rcases ReachableWithin.held hstocked hr' hc' event made hg with hm | hm
  · rw [hpending] at hm
    cases hm
  · exact ⟨hm, (hr'.reserved_of_seed hc').row_of_delivered hr' hm⟩

/-- The SALE of `saleDelivery` is stored, the post of a REFUND of it is lost. -/
theorem backlog_drains_after_loss : ∃ s s',
    Sample.seededRun (Sample.seededSteps.take (Sample.saleDelivery.length + 3)) = some s ∧
    s.lost = [1] ∧ s.world.db.events.committed.length = 1 ∧
    Delivers Sample.seededShop s s' ∧ s'.simulator.queue = [] ∧
    ∀ event ∈ s.simulator.generatedEvents, event ∈ s'.simulator.deliveries := by
  have hrun : ((Sample.seededRun
      (Sample.seededSteps.take (Sample.saleDelivery.length + 3))).map fun s =>
        (s.lost, s.world.db.events.committed.length, s.simulator.down,
          s.simulator.workers.map Worker.attempts,
          s.simulator.log.all SimulatorEntry.dated)) = some ([1], 1, false, [1], true) := by
    decide +kernel
  obtain ⟨s, hs, he⟩ := Option.map_eq_some_iff.mp hrun
  simp only [Prod.mk.injEq] at he
  obtain ⟨hlost, hrows, hup, hworkers, hlog⟩ := he
  obtain ⟨hr, hc⟩ := Sample.seededRun_reaches hs
  have hrest : s.simulator.Rested := by
    refine ⟨hup, fun hnil => ?_, fun worker hm => ?_⟩
    · rw [hnil] at hworkers
      cases hworkers
    · have hattempts : worker.attempts ∈ [1] := hworkers ▸ List.mem_map_of_mem hm
      rw [List.mem_singleton.mp hattempts]
      omega
  have hdated : s.simulator.Dated := List.all_eq_true.mp hlog
  obtain ⟨s', hd, _, _, hqueue, _, hdelivered⟩ := backlog_drains Sample.seed_noRows.1 rfl hr hc
    hdated hrest
  exact ⟨s, s', hs, hlost, hrows, hd, hqueue, fun event he => (hdelivered event he).1⟩

end StorePulse
