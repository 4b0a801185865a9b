import StorePulse.Simulator.Capacity

/-!
# Immutable retry identity

The payload of an event is made once.  Every attempt of its delivery and of its
deliberate replay posts that payload, and no two events have one `event_id` where
`uuid4` gives nothing twice.  So the `event_id` of a post names the event it was
made for (`Simulator.Posted`).
-/

namespace StorePulse

/-- The number of the post a call of `post_event_with_retry` waits for. -/
def Retry.post? : Retry → Option Nat
  | .posting _ n => some n
  | .sleeping _ => none

/-- The number of the post a worker waits for. -/
def Worker.post? : Worker → Option Nat
  | .waiting => none
  | .delivering _ retry => retry.post?
  | .replaying _ _ retry => retry.post?

/-- The post a call waits for has this payload. -/
def Retry.Posted (posts : List EventBody) (payload : EventBody) (retry : Retry) : Prop :=
  ∀ n, retry.post? = some n → posts[n]? = some payload

/-- A worker waits for a post of the payload of its event, and replays what it has delivered. -/
def Worker.Posted (log : List SimulatorEntry) (posts : List EventBody) : Worker → Prop
  | .waiting => True
  | .delivering event retry => retry.Posted posts event.payload
  | .replaying event replay retry =>
      replay = TrafficGenerator.makeDuplicate event ∧ .committed event ∈ log ∧
        retry.Posted posts event.payload

section Workers

variable {log log' : List SimulatorEntry} {posts posts' : List EventBody} {worker : Worker}
  {body : EventBody} {retry : Retry}

theorem Retry.posted_sleeping (attempt : Nat) : (Retry.sleeping attempt).Posted posts body := by
  intro n hn
  cases hn

theorem Retry.posted_last (attempt : Nat) :
    (Retry.posting attempt posts.length).Posted (posts ++ [body]) body := by
  intro n hn
  cases hn
  exact List.getElem?_concat_length

theorem Retry.Posted.grow (h : retry.Posted posts body) (hposts : posts <+: posts') :
    retry.Posted posts' body := by
  obtain ⟨more, rfl⟩ := hposts
  intro n hn
  exact (List.getElem?_append_left (List.getElem?_eq_some_iff.mp (h n hn)).1).trans (h n hn)

theorem Worker.Posted.grow (h : worker.Posted log posts) (hlog : log ⊆ log')
    (hposts : posts <+: posts') : worker.Posted log' posts' := by
  cases worker with
  | waiting => trivial
  | delivering event retry => exact Retry.Posted.grow h hposts
  | replaying event replay retry => exact ⟨h.1, hlog h.2.1, h.2.2.grow hposts⟩

/-- The worker at a position where one may have been set. -/
theorem getElem?_set_worker {workers : List Worker} {i j : Nat} {b : Worker}
    (h : (workers.set i b)[j]? = some worker) : workers[j]? = some worker ∨ worker = b := by
  rw [List.getElem?_set] at h
  split at h
  · split at h
    · exact Or.inr (Option.some.inj h).symm
    · cases h
  · exact Or.inl h

end Workers

namespace Simulator

variable {s s' : Simulator} {event : OutboundEvent}

/-- The generation of an event issues its `event_id`, and no other step issues one. -/
theorem issued_of_step {l : SimulatorLabel} (hs : s.step l = some s') :
    s'.issued = s.issued ∨ ∃ now draws, l = .generate now draws ∧
      s'.issued = s.issued ++ [draws.eventId] := by
  have hput : ∀ {t : Simulator} {event : OutboundEvent}, (t.put event).issued = t.issued := by
    intro t event
    rw [put]
    split <;> rfl
  cases step_cases hs with
  | generate _ hmade =>
      refine Or.inr ⟨_, _, rfl, ?_⟩
      rw [hput, generated, TrafficGenerator.eventId_of_makes
        (TrafficGenerator.makeBusinessEvent_ok hmade)]
  | put => exact Or.inl hput
  | _ => exact Or.inl rfl

/-- Where `uuid4` gives nothing twice, the ids differ. -/
theorem nodup_issued_of_step {l : SimulatorLabel} (h : s.issued.Nodup)
    (hl : s.issuesAnew l = true) (hs : s.step l = some s') : s'.issued.Nodup := by
  rcases issued_of_step hs with he | ⟨now, draws, rfl, he⟩
  · exact he ▸ h
  · have hnew : draws.eventId ∉ s.issued := of_decide_eq_true hl
    rw [he, List.nodup_append]
    refine ⟨h, List.nodup_singleton _, fun a ha b hb hab => hnew ?_⟩
    rw [← List.mem_singleton.mp hb, ← hab]
    exact ha

/-- Every post was made for the one event with its `event_id`. -/
structure Posted (s : Simulator) : Prop where
  issued : ∀ event now, .generated event now ∈ s.log → event.payload.eventId ∈ s.issued
  unique : s.issued.Nodup → ∀ e now e' now', .generated e now ∈ s.log →
    .generated e' now' ∈ s.log → e.payload.eventId = e'.payload.eventId → e = e'
  posts : ∀ body ∈ s.posts, ∃ event now, .generated event now ∈ s.log ∧ body = event.payload
  workers : ∀ (i : Nat) (worker : Worker), s.workers[i]? = some worker →
    worker.Posted s.log s.posts

/-- A step that generates nothing. -/
theorem Posted.update (h : s.Posted) (new : List SimulatorEntry) (more : List EventBody)
    (hissued : s'.issued = s.issued) (hlog : s'.log = s.log ++ new)
    (hnew : ∀ e now, .generated e now ∉ new) (hposts : s'.posts = s.posts ++ more)
    (hmore : ∀ body ∈ more, ∃ event now, .generated event now ∈ s.log ∧ body = event.payload)
    (hworkers : ∀ (i : Nat) (worker : Worker), s'.workers[i]? = some worker →
      s.workers[i]? = some worker ∨ worker.Posted s'.log s'.posts) : s'.Posted := by
  have hold : ∀ {e now}, .generated e now ∈ s'.log → .generated e now ∈ s.log := by
    intro e now hm
    rw [hlog, List.mem_append] at hm
    exact hm.resolve_right (hnew e now)
  have hsub : s.log ⊆ s'.log := hlog ▸ List.subset_append_left _ _
  refine ⟨fun e now hm => ?_, fun hdistinct e now e' now' hm hm' => ?_, fun body hb => ?_,
    fun i worker hi => ?_⟩
  · rw [hissued]
    exact h.issued e now (hold hm)
  · rw [hissued] at hdistinct
    exact h.unique hdistinct e now e' now' (hold hm) (hold hm')
  · rw [hposts, List.mem_append] at hb
    obtain ⟨e, now, hm, rfl⟩ := hb.elim (h.posts body) (hmore body)
    exact ⟨e, now, hsub hm, rfl⟩
  · rcases hworkers i worker hi with hi | hp
    · exact (h.workers i worker hi).grow hsub (hposts ▸ List.prefix_append _ _)
    · exact hp

/-- A step in which one worker goes on without a post. -/
theorem Posted.set {worker : Nat} {b : Worker} (h : s.Posted) (new : List SimulatorEntry)
    (hissued : s'.issued = s.issued) (hlog : s'.log = s.log ++ new)
    (hnew : ∀ e now, .generated e now ∉ new) (hposts : s'.posts = s.posts)
    (hworkers : s'.workers = s.workers.set worker b) (hb : b.Posted s.log s.posts) :
    s'.Posted := by
  refine h.update new [] hissued hlog hnew (hposts.trans (List.append_nil _).symm)
    (fun body hm => by cases hm) fun i x hi => ?_
  rw [hworkers] at hi
  rcases getElem?_set_worker hi with hi | rfl
  · exact Or.inl hi
  · refine Or.inr (hb.grow ?_ ?_)
    · exact hlog ▸ List.subset_append_left _ _
    · exact hposts ▸ List.prefix_refl _

/-- A step in which one worker posts the payload of an event. -/
theorem Posted.post {worker : Nat} {b : Worker} {now : Instant} (h : s.Posted)
    (new : List SimulatorEntry) (hgenerated : .generated event now ∈ s.log)
    (hissued : s'.issued = s.issued) (hlog : s'.log = s.log ++ new)
    (hnew : ∀ e now, .generated e now ∉ new) (hposts : s'.posts = s.posts ++ [event.payload])
    (hworkers : s'.workers = s.workers.set worker b)
    (hb : b.Posted s'.log s'.posts) : s'.Posted := by
  refine h.update new [event.payload] hissued hlog hnew hposts (fun body hm => ?_) fun i x hi => ?_
  · exact ⟨event, now, hgenerated, List.mem_singleton.mp hm⟩
  · rw [hworkers] at hi
    rcases getElem?_set_worker hi with hi | rfl
    · exact Or.inl hi
    · exact Or.inr hb

theorem mem_pending_of_worker {i : Nat} {retry : Retry}
    (hw : s.workers[i]? = some (.delivering event retry)) : event ∈ s.pending :=
  List.mem_append_right _ (mem_flatMap_of_getElem? hw (List.mem_singleton_self event))

theorem mem_pending_of_queue {rest : List OutboundEvent} (hq : s.queue = event :: rest) :
    event ∈ s.pending := by
  rw [pending, hq]
  exact List.mem_append_left _ (List.mem_append_right _ List.mem_cons_self)

/-- An event is generated. -/
theorem Posted.generate {g : TrafficGenerator} {now : Instant} (h : s.Posted) :
    ((s.generated g event now).put event).Posted := by
  have hlog : ((s.generated g event now).put event).log = s.log ++ [.generated event now] := by
    rw [put]
    split <;> rfl
  have hissued : ((s.generated g event now).put event).issued =
      s.issued ++ [event.payload.eventId] := by
    rw [put]
    split <;> rfl
  have hposts : ((s.generated g event now).put event).posts = s.posts := by
    rw [put]
    split <;> rfl
  have hworkers : ((s.generated g event now).put event).workers = s.workers := by
    rw [put]
    split <;> rfl
  have hsub : s.log ⊆ ((s.generated g event now).put event).log :=
    hlog ▸ List.subset_append_left _ _
  have hmem : ∀ {e t}, .generated e t ∈ ((s.generated g event now).put event).log →
      .generated e t ∈ s.log ∨ e = event := by
    intro e t hm
    rw [hlog, List.mem_append, List.mem_singleton] at hm
    refine hm.imp_right fun he => ?_
    cases he
    rfl
  refine ⟨fun e t hm => ?_, fun hdistinct e t e' t' hm hm' hid => ?_, fun body hb => ?_,
    fun i w hi => ?_⟩
  · rw [hissued, List.mem_append, List.mem_singleton]
    rcases hmem hm with hm | rfl
    · exact Or.inl (h.issued e t hm)
    · exact Or.inr rfl
  · rw [hissued, List.nodup_append] at hdistinct
    obtain ⟨hbefore, _, hnew⟩ := hdistinct
    have hfresh : event.payload.eventId ∉ s.issued := fun hm =>
      hnew _ hm _ (List.mem_singleton_self _) rfl
    rcases hmem hm with hold | rfl
    · rcases hmem hm' with hold' | rfl
      · exact h.unique hbefore e t e' t' hold hold' hid
      · exact absurd (hid ▸ h.issued e t hold) hfresh
    · rcases hmem hm' with hold' | rfl
      · exact absurd (hid ▸ h.issued e' t' hold') hfresh
      · rfl
  · rw [hposts] at hb
    obtain ⟨e, t, hm, rfl⟩ := h.posts body hb
    exact ⟨e, t, hsub hm, rfl⟩
  · rw [hworkers] at hi
    exact (h.workers i w hi).grow hsub (hposts ▸ List.prefix_refl _)

/-- Every step keeps the invariant. -/
theorem Posted.step {l : SimulatorLabel} (hrec : s.Recorded) (h : s.Posted)
    (hs : s.step l = some s') : s'.Posted := by
  have hempty : ∀ e now, SimulatorEntry.generated e now ∉ [] := fun e now => List.not_mem_nil
  have hsame : ∀ {t : Simulator}, t.issued = s.issued → t.log = s.log → t.posts = s.posts →
      t.workers = s.workers → t.Posted := by
    intro t hissued hlog hposts hworkers
    refine h.update [] [] hissued (hlog.trans (List.append_nil _).symm) hempty
      (hposts.trans (List.append_nil _).symm) (fun body hm => by cases hm) fun i w hi => ?_
    rw [hworkers] at hi
    exact Or.inl hi
  cases step_cases hs with
  | generateFails => exact hsame rfl rfl rfl rfl
  | generate => exact h.generate
  | put =>
      refine hsame ?_ ?_ ?_ ?_
      all_goals
        rw [put]
        split <;> rfl
  | get hw hq =>
      obtain ⟨now, hm⟩ := hrec.pending _ (mem_pending_of_queue hq)
      exact h.post [] hm rfl (List.append_nil _).symm hempty rfl rfl (Retry.posted_last _)
  | deliverySleeps hw =>
      exact h.set [] rfl (List.append_nil _).symm hempty rfl rfl (Retry.posted_sleeping _)
  | @deliveryEscapes _ _ _ event =>
      refine h.update [.taskDone event] [] rfl rfl (by simp) (List.append_nil _).symm
        (fun body hm => by cases hm) fun i w hi => Or.inl hi
  | @deliveryFails _ _ _ event _ _ error =>
      refine h.set [.rolledBack event error, .taskDone event] rfl ?_ (by simp) rfl rfl trivial
      simp [failed, taskDone]
  | @deliveryReplays _ _ _ event _ _ _ hw =>
      obtain ⟨now, hm⟩ := hrec.pending _ (mem_pending_of_worker hw)
      refine h.post [.committed event] hm rfl rfl (by simp) rfl rfl ⟨rfl, ?_, Retry.posted_last _⟩
      exact List.mem_append_right _ (List.mem_singleton_self _)
  | @deliveryEnds _ _ _ event =>
      refine h.set [.committed event, .taskDone event] rfl ?_ (by simp) rfl rfl trivial
      simp [delivered, taskDone]
  | replaySleeps hw =>
      obtain ⟨hd, hc, _⟩ := h.workers _ _ hw
      exact h.set [] rfl (List.append_nil _).symm hempty rfl rfl ⟨hd, hc, Retry.posted_sleeping _⟩
  | @replayEscapes _ _ _ event =>
      refine h.update [.taskDone event] [] rfl rfl (by simp) (List.append_nil _).symm
        (fun body hm => by cases hm) fun i w hi => Or.inl hi
  | @replayFails _ _ _ event replay =>
      refine h.set [.replayFailed replay, .taskDone event] rfl ?_ (by simp) rfl rfl trivial
      simp [replayFailed, taskDone]
  | @replaySucceeds _ _ _ event replay _ _ receipt =>
      refine h.set ([.replayed replay receipt] ++ (if receipt.status = .accepted then
        [.unexpectedlyAccepted replay.payload.eventId] else []) ++ [.taskDone event]) rfl
        ?_ ?_ rfl rfl trivial
      · simp [replayed, taskDone]
      · intro e now
        split <;> simp
  | wakeDelivery hw =>
      obtain ⟨now, hm⟩ := hrec.pending _ (mem_pending_of_worker hw)
      exact h.post [] hm rfl (List.append_nil _).symm hempty rfl rfl (Retry.posted_last _)
  | @wakeReplay _ _ event _ hw =>
      obtain ⟨rfl, hc, _⟩ := h.workers _ _ hw
      obtain ⟨now, hm⟩ := hrec.deliveries _ (mem_deliveries.mpr hc)
      exact h.post [] hm rfl (List.append_nil _).symm hempty rfl rfl
        ⟨rfl, hc, Retry.posted_last _⟩

/-- The invariant holds in every reachable state. -/
theorem Reachable.posted {config : SimulatorConfig} (h : s.Reachable config) : s.Posted := by
  obtain ⟨hostname, clock, hr⟩ := h
  refine hr.invariant (I := Posted) ?_ fun t _ _ ht hp hs =>
    hp.step (Reachable.balanced ⟨hostname, clock, ht⟩).1 hs
  refine ⟨fun e now hm => ?_, fun _ e now e' now' hm => ?_, fun body hb => ?_,
    fun i worker hi => ?_⟩
  · exact (List.not_mem_nil hm).elim
  · exact (List.not_mem_nil hm).elim
  · exact (List.not_mem_nil hb).elim
  · obtain rfl := List.eq_of_mem_replicate (List.mem_of_getElem? hi)
    trivial

end Simulator

namespace Simulator

variable {s s' : Simulator}

/-- The log and the posts only grow. -/
theorem step_grows {l : SimulatorLabel} (hs : s.step l = some s') :
    s.log <+: s'.log ∧ s.posts <+: s'.posts := by
  have hput : ∀ {t : Simulator} {event : OutboundEvent},
      (t.put event).log = t.log ∧ (t.put event).posts = t.posts := by
    intro t event
    rw [put]
    split <;> exact ⟨rfl, rfl⟩
  cases step_cases hs with
  | generate =>
      rw [hput.1, hput.2]
      exact ⟨List.prefix_append _ _, List.prefix_refl _⟩
  | put =>
      rw [hput.1, hput.2]
      exact ⟨List.prefix_refl _, List.prefix_refl _⟩
  | generateFails | deliverySleeps | replaySleeps =>
      exact ⟨List.prefix_refl _, List.prefix_refl _⟩
  | get | wakeDelivery | wakeReplay => exact ⟨List.prefix_refl _, List.prefix_append _ _⟩
  | deliveryEscapes | replayEscapes => exact ⟨List.prefix_append _ _, List.prefix_refl _⟩
  | deliveryReplays => exact ⟨List.prefix_append _ _, List.prefix_append _ _⟩
  | deliveryFails | deliveryEnds | replayFails =>
      exact ⟨(List.prefix_append _ _).trans (List.prefix_append _ _), List.prefix_refl _⟩
  | replaySucceeds =>
      refine ⟨?_, List.prefix_refl _⟩
      simp only [replayed, taskDone, List.append_assoc]
      exact List.prefix_append _ _

/-- The post a worker waits for after a step is the one it waited for, or a new one. -/
theorem post_of_step {l : SimulatorLabel} {i n : Nat} {worker : Worker} (hs : s.step l = some s')
    (hi : s'.workers[i]? = some worker) (hn : worker.post? = some n) :
    s.workers[i]? = some worker ∨ n = s.posts.length := by
  have hset : ∀ {j : Nat} {b : Worker}, s'.workers = s.workers.set j b →
      (b.post? = some n → n = s.posts.length) →
      s.workers[i]? = some worker ∨ n = s.posts.length := by
    intro j b hworkers hb
    rw [hworkers] at hi
    rcases getElem?_set_worker hi with hi | rfl
    · exact Or.inl hi
    · exact Or.inr (hb hn)
  cases step_cases hs with
  | generateFails | deliveryEscapes | replayEscapes => exact Or.inl hi
  | generate | put =>
      rw [put] at hi
      split at hi <;> exact Or.inl hi
  | get | deliveryReplays | wakeDelivery | wakeReplay =>
      exact hset rfl fun h => (Option.some.inj h).symm
  | deliverySleeps | replaySleeps | deliveryFails | deliveryEnds | replayFails | replaySucceeds =>
      exact hset rfl fun h => by cases h

/-! ## Where an event is -/

theorem deliveries_grow {l : SimulatorLabel} (hs : s.step l = some s') :
    s.deliveries ⊆ s'.deliveries := fun _ he =>
  mem_deliveries.mpr ((step_grows hs).1.subset (mem_deliveries.mp he))

/-- An event is on its way or delivered, unless its delivery has failed. -/
theorem held_of_step {l : SimulatorLabel} {event : OutboundEvent} (hs : s.step l = some s')
    (he : event ∈ s.pending ∨ event ∈ s.deliveries) :
    (event ∈ s'.pending ∨ event ∈ s'.deliveries) ∨
    ∃ worker attempt n result draw error, l = .postEnds worker result draw ∧
      s.workers[worker]? = some (.delivering event (.posting attempt n)) ∧
      afterAttempt s.config attempt result draw = some (.raised error) := by
  rcases he with he | he
  swap
  · exact Or.inl (Or.inr (deliveries_grow hs he))
  have hstays : s'.pending.Perm s.pending → event ∈ s'.pending ∨ event ∈ s'.deliveries :=
    fun hp => Or.inl (hp.mem_iff.mpr he)
  have hleaves : ∀ {e : OutboundEvent}, (s'.pending ++ [e]).Perm s.pending →
      event ∈ s'.pending ∨ event = e := by
    intro e hp
    have hm := hp.mem_iff.mpr he
    rwa [List.mem_append, List.mem_singleton] at hm
  cases step_cases hs with
  | generateFails | deliveryEscapes | replayEscapes => exact Or.inl (Or.inl he)
  | @generate now _ made g hputting =>
      refine Or.inl (Or.inl ((pending_put (s := s.generated g made now) hputting).mem_iff.mpr ?_))
      exact List.mem_append_left _ he
  | put hputting hfull => exact Or.inl (hstays (pending_put_back hputting hfull))
  | get hw hqueue => exact Or.inl (hstays (pending_get hw hqueue fun _ => rfl))
  | deliverySleeps hw | replaySleeps hw | replayFails hw | replaySucceeds hw | wakeDelivery hw
  | wakeReplay hw => exact Or.inl (hstays (pending_same hw rfl rfl rfl rfl))
  | deliveryFails hw ha =>
      rcases hleaves (pending_leave hw rfl rfl rfl rfl rfl) with he | rfl
      · exact Or.inl (Or.inl he)
      · exact Or.inr ⟨_, _, _, _, _, _, rfl, hw, ha⟩
  | deliveryReplays hw =>
      rcases hleaves (pending_leave hw rfl rfl rfl rfl rfl) with he | rfl
      · exact Or.inl (Or.inl he)
      · refine Or.inl (Or.inr (mem_deliveries.mpr ?_))
        exact List.mem_append_right _ (List.mem_singleton_self _)
  | deliveryEnds hw =>
      rcases hleaves (pending_leave hw rfl rfl rfl rfl rfl) with he | rfl
      · exact Or.inl (Or.inl he)
      · refine Or.inl (Or.inr (mem_deliveries.mpr ?_))
        exact List.mem_append_left _ (List.mem_append_right _ (List.mem_singleton_self _))

/-- A generated event is on its way. -/
theorem generated_of_step {l : SimulatorLabel} {event : OutboundEvent} {now : Instant}
    (hs : s.step l = some s') (hm : .generated event now ∈ s'.log) :
    .generated event now ∈ s.log ∨
    event ∈ s'.pending ∧ ∃ draws, l = .generate now draws ∧
      event.payload.eventId = draws.eventId := by
  rcases shows_of_step hs hm with hold | hshows
  · exact Or.inl hold
  · cases hshows with
    | @generated _ draws _ g hmade =>
        have hid : event.payload.eventId = draws.eventId :=
          TrafficGenerator.eventId_of_makes (TrafficGenerator.makeBusinessEvent_ok hmade)
        cases step_cases hs with
        | generateFails => exact Or.inl hm
        | generate hputting hmade' =>
            rw [hmade] at hmade'
            cases hmade'
            refine Or.inr ⟨(pending_put (s := s.generated g event now) hputting).mem_iff.mpr ?_,
              draws, rfl, hid⟩
            exact List.mem_append_right _ (List.mem_singleton_self _)
    | other _ hne => exact absurd rfl (hne event now)

/-- A new post is one of an event on its way or delivered. -/
theorem posts_of_step {l : SimulatorLabel} {n : Nat} {body : EventBody} (hposted : s.Posted)
    (hs : s.step l = some s') (hn : s'.posts[n]? = some body) :
    s.posts[n]? = some body ∨
    ∃ event, (event ∈ s'.pending ∨ event ∈ s'.deliveries) ∧ body = event.payload := by
  have hpost : ∀ {event : OutboundEvent}, (event ∈ s'.pending ∨ event ∈ s'.deliveries) →
      s'.posts = s.posts ++ [event.payload] → s.posts[n]? = some body ∨
      ∃ event, (event ∈ s'.pending ∨ event ∈ s'.deliveries) ∧ body = event.payload := by
    intro event he hposts
    rw [hposts, List.getElem?_append] at hn
    split at hn
    · exact Or.inl hn
    · obtain rfl := List.mem_singleton.mp (List.mem_of_getElem? hn)
      exact Or.inr ⟨event, he, rfl⟩
  have hstays : ∀ {event : OutboundEvent}, s'.pending.Perm s.pending → event ∈ s.pending →
      event ∈ s'.pending := fun hp he => hp.mem_iff.mpr he
  cases step_cases hs with
  | generateFails | deliverySleeps | deliveryEscapes | deliveryFails | deliveryEnds | replaySleeps
  | replayEscapes | replayFails | replaySucceeds => exact Or.inl hn
  | generate | put =>
      rw [put] at hn
      split at hn <;> exact Or.inl hn
  | get hw hqueue =>
      exact hpost (Or.inl (hstays (pending_get hw hqueue fun _ => rfl)
        (mem_pending_of_queue hqueue))) rfl
  | deliveryReplays hw =>
      refine hpost (Or.inr (mem_deliveries.mpr ?_)) rfl
      exact List.mem_append_right _ (List.mem_singleton_self _)
  | wakeDelivery hw =>
      exact hpost (Or.inl (hstays (pending_same hw rfl rfl rfl rfl) (mem_pending_of_worker hw))) rfl
  | wakeReplay hw =>
      obtain ⟨rfl, hc, _⟩ := hposted.workers _ _ hw
      exact hpost (Or.inr (mem_deliveries.mpr hc)) rfl

end Simulator

end StorePulse
