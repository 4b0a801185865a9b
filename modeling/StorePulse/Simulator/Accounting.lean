import StorePulse.Simulator.Posts

/-!
# Where the events of the producer are

A generated event waits in `put`, or is queued, or is in its first delivery, or
has been committed or rolled back, and it is in one of these places only
(`Simulator.Accounted`).  The equations count the events that pass a test, for
every test, so that one equation speaks of all events and of each single one.
`Simulator.Counted` ties the statistics to the log.
-/

namespace StorePulse

/-! ## Places and counts -/

/-- The event a worker replays. -/
@[simp] def Worker.inReplay : Worker → List OutboundEvent
  | .replaying event _ _ => [event]
  | _ => []

attribute [simp] Worker.inDelivery SimulatorEntry.delivery?

namespace SimulatorEntry

/-- The event of an entry of the traffic loop. -/
@[simp] def generated? : SimulatorEntry → Option OutboundEvent
  | .generated event _ => some event
  | _ => none

/-- The event of a `rollback_delivery`. -/
@[simp] def failure? : SimulatorEntry → Option OutboundEvent
  | .rolledBack event _ => some event
  | _ => none

/-- The event of a `task_done`. -/
@[simp] def finished? : SimulatorEntry → Option OutboundEvent
  | .taskDone event => some event
  | _ => none

/-- The replay that has ended. -/
@[simp] def replayEnded? : SimulatorEntry → Option OutboundEvent
  | .replayed replay _ => some replay
  | .replayFailed replay => some replay
  | _ => none

end SimulatorEntry

/-- How often an event is among some events, told by its `event_id`. -/
def OutboundEvent.times (event : OutboundEvent) (events : List OutboundEvent) : Nat :=
  events.countP fun e => e.payload.eventId == event.payload.eventId

section Counts

variable {event : OutboundEvent} {xs : List OutboundEvent}

/-- No event has the identifier. -/
theorem times_eq_zero (h : ∀ e ∈ xs, e.payload.eventId ≠ event.payload.eventId) :
    event.times xs = 0 := by
  simpa [OutboundEvent.times, List.countP_eq_zero] using h

theorem times_eq_count : event.times xs =
    (xs.map fun e => e.payload.eventId).count event.payload.eventId := by
  simp [OutboundEvent.times, List.count, List.countP_map, Function.comp_def]

/-- Where the identifiers are distinct, none is counted twice. -/
theorem times_le_one (h : (xs.map fun e => e.payload.eventId).Nodup) : event.times xs ≤ 1 := by
  rw [times_eq_count]
  exact List.nodup_iff_count_le_one.mp h _

/-- Where the identifiers are distinct, an event is counted once. -/
theorem times_eq_one (h : (xs.map fun e => e.payload.eventId).Nodup) (hx : event ∈ xs) :
    event.times xs = 1 := by
  rw [times_eq_count]
  exact List.count_eq_one_of_mem h (List.mem_map_of_mem hx)

/-- A worker that changes what it does leaves one place and enters another. -/
theorem countP_set {q : OutboundEvent → Bool} {workers : List Worker} {i : Nat} {a b : Worker}
    (g : Worker → List OutboundEvent) (hw : workers[i]? = some a) :
    ((workers.set i b).flatMap g).countP q + (g a).countP q =
      (workers.flatMap g).countP q + (g b).countP q := by
  rw [← List.countP_append, ← List.countP_append]
  exact (flatMap_set_perm hw).countP_eq q

end Counts

namespace Simulator

variable {s s' : Simulator} {event : OutboundEvent} {config : SimulatorConfig}

/-- The events generated, oldest first. -/
def generatedEvents (s : Simulator) : List OutboundEvent :=
  s.log.filterMap SimulatorEntry.generated?

/-- The events rolled back. -/
def failures (s : Simulator) : List OutboundEvent := s.log.filterMap SimulatorEntry.failure?

/-- The events of the calls of `task_done`. -/
def finished (s : Simulator) : List OutboundEvent := s.log.filterMap SimulatorEntry.finished?

/-- The replays that have ended. -/
def replaysEnded (s : Simulator) : List OutboundEvent :=
  s.log.filterMap SimulatorEntry.replayEnded?

/-- The events in their first delivery. -/
def inDelivery (s : Simulator) : List OutboundEvent := s.workers.flatMap Worker.inDelivery

/-- The events that are replayed. -/
def inReplay (s : Simulator) : List OutboundEvent := s.workers.flatMap Worker.inReplay

/-! ## The invariants -/

/-- Every event is in one place.  An exception that escapes a worker makes it call `task_done`
without an end of the delivery. -/
structure Accounted (s : Simulator) : Prop where
  created : ∀ q, s.generatedEvents.countP q =
    s.pending.countP q + s.deliveries.countP q + s.failures.countP q
  done : s.down = false → ∀ q, s.deliveries.countP q + s.failures.countP q =
    s.finished.countP q + s.inReplay.countP q
  replays : ∀ q, s.replaysEnded.countP q + s.inReplay.countP (q ∘ TrafficGenerator.makeDuplicate) ≤
    s.deliveries.countP (q ∘ TrafficGenerator.makeDuplicate)

/-- The statistics count the entries of the log. -/
structure Counted (s : Simulator) : Prop where
  eventCount : s.stats.generatedSales + s.stats.generatedRefunds = s.generatedEvents.length
  receiptCount : s.stats.deliveredAccepted + s.stats.deliveredDuplicate =
    s.deliveries.length + s.stats.deliberateDuplicates
  replayCount : s.stats.deliberateDuplicates + s.stats.duplicateReplayFailures =
    s.replaysEnded.length
  failureCount : s.stats.permanentFailures = s.failures.length

/-! ## Steps -/

/-- What a step must show of its entries and places. -/
theorem Accounted.update (h : s.Accounted) (new : List SimulatorEntry)
    (hlog : s'.log = s.log ++ new) (hdown : s'.down = false → s.down = false)
    (hcreated : ∀ q, s'.pending.countP q + (new.filterMap SimulatorEntry.delivery?).countP q +
      (new.filterMap SimulatorEntry.failure?).countP q =
      s.pending.countP q + (new.filterMap SimulatorEntry.generated?).countP q)
    (hfinished : s'.down = false → ∀ q,
      (new.filterMap SimulatorEntry.finished?).countP q + s'.inReplay.countP q =
      s.inReplay.countP q + (new.filterMap SimulatorEntry.delivery?).countP q +
        (new.filterMap SimulatorEntry.failure?).countP q)
    (hreplays : ∀ q, (new.filterMap SimulatorEntry.replayEnded?).countP q +
      s'.inReplay.countP (q ∘ TrafficGenerator.makeDuplicate) ≤
      s.inReplay.countP (q ∘ TrafficGenerator.makeDuplicate) +
        (new.filterMap SimulatorEntry.delivery?).countP (q ∘ TrafficGenerator.makeDuplicate)) :
    s'.Accounted where
  created q := by
    have hold := h.created q
    have hnew := hcreated q
    simp only [generatedEvents, deliveries, failures, hlog, List.filterMap_append,
      List.countP_append] at hold ⊢
    omega
  done hd q := by
    have hold := h.done (hdown hd) q
    have hnew := hfinished hd q
    simp only [finished, deliveries, failures, hlog, List.filterMap_append,
      List.countP_append] at hold ⊢
    omega
  replays q := by
    have hold := h.replays q
    have hnew := hreplays q
    simp only [replaysEnded, deliveries, hlog, List.filterMap_append,
      List.countP_append] at hold ⊢
    omega

/-- A step that moves events only among those on their way. -/
theorem Accounted.keep (h : s.Accounted) (hlog : s'.log = s.log)
    (hdown : s'.down = false → s.down = false) (hpending : s'.pending.Perm s.pending)
    (hreplay : ∀ q, s'.inReplay.countP q = s.inReplay.countP q) : s'.Accounted := by
  refine h.update [] (hlog.trans (List.append_nil _).symm) hdown (fun q => ?_) (fun _ q => ?_)
    fun q => ?_
  · simp [hpending.countP_eq q]
  · simp [hreplay q]
  · simp [hreplay]

/-- A worker leaves what it does for something else. -/
theorem countP_pending_set {q : OutboundEvent → Bool} {i : Nat} {a b : Worker}
    (hw : s.workers[i]? = some a) (hputting : s'.putting = s.putting) (hqueue : s'.queue = s.queue)
    (hworkers : s'.workers = s.workers.set i b) :
    s'.pending.countP q + a.inDelivery.countP q = s.pending.countP q + b.inDelivery.countP q := by
  rw [← List.countP_append, ← List.countP_append]
  exact (pending_set hw hputting hqueue hworkers).countP_eq q

theorem countP_inReplay_set {q : OutboundEvent → Bool} {i : Nat} {a b : Worker}
    (hw : s.workers[i]? = some a) (hworkers : s'.workers = s.workers.set i b) :
    s'.inReplay.countP q + a.inReplay.countP q = s.inReplay.countP q + b.inReplay.countP q := by
  rw [inReplay, hworkers]
  exact countP_set Worker.inReplay hw

/-- A step of one worker, which makes some entries. -/
theorem Accounted.work {i : Nat} {a b : Worker} (h : s.Accounted) (new : List SimulatorEntry)
    (hw : s.workers[i]? = some a) (hputting : s'.putting = s.putting) (hqueue : s'.queue = s.queue)
    (hworkers : s'.workers = s.workers.set i b) (hlog : s'.log = s.log ++ new)
    (hdown : s'.down = s.down)
    (hcreated : ∀ q, b.inDelivery.countP q + (new.filterMap SimulatorEntry.delivery?).countP q +
      (new.filterMap SimulatorEntry.failure?).countP q =
      a.inDelivery.countP q + (new.filterMap SimulatorEntry.generated?).countP q)
    (hfinished : ∀ q, (new.filterMap SimulatorEntry.finished?).countP q + b.inReplay.countP q =
      a.inReplay.countP q + (new.filterMap SimulatorEntry.delivery?).countP q +
        (new.filterMap SimulatorEntry.failure?).countP q)
    (hreplays : ∀ q, (new.filterMap SimulatorEntry.replayEnded?).countP q +
      b.inReplay.countP (q ∘ TrafficGenerator.makeDuplicate) ≤
      a.inReplay.countP (q ∘ TrafficGenerator.makeDuplicate) +
        (new.filterMap SimulatorEntry.delivery?).countP (q ∘ TrafficGenerator.makeDuplicate)) :
    s'.Accounted := by
  refine h.update new hlog (fun hd => hdown ▸ hd) (fun q => ?_) (fun _ q => ?_) fun q => ?_
  · have hset := countP_pending_set (q := q) hw hputting hqueue hworkers
    have hnew := hcreated q
    omega
  · have hset := countP_inReplay_set (q := q) hw hworkers
    have hnew := hfinished q
    omega
  · have hset := countP_inReplay_set (q := q ∘ TrafficGenerator.makeDuplicate) hw hworkers
    have hnew := hreplays q
    omega

/-- Every step keeps the events in one place each. -/
theorem Accounted.step {l : SimulatorLabel} (hposted : s.Posted) (h : s.Accounted)
    (hs : s.step l = some s') : s'.Accounted := by
  cases step_cases hs with
  | generateFails => exact h.keep rfl (fun hd => by cases hd) (List.Perm.refl _) fun _ => rfl
  | @generate now draws event g hputting =>
      have hp : ((s.generated g event now).put event).pending.Perm
          ((s.generated g event now).pending ++ [event]) := pending_put hputting
      have hput : ((s.generated g event now).put event).log = s.log ++ [.generated event now] ∧
          ((s.generated g event now).put event).down = s.down ∧
          ((s.generated g event now).put event).inReplay = s.inReplay := by
        rw [put]
        split <;> exact ⟨rfl, rfl, rfl⟩
      refine h.update [.generated event now] hput.1 (fun hd => hput.2.1 ▸ hd) (fun q => ?_)
        (fun _ q => ?_) fun q => ?_
      · have hsame : (s.generated g event now).pending = s.pending := rfl
        simp [hp.countP_eq q, hsame, List.filterMap_cons, List.countP_cons]
      · simp [hput.2.2, List.filterMap_cons]
      · simp [hput.2.2, List.filterMap_cons]
  | @put event hputting hfull =>
      have hput : (s.put event).log = s.log ∧ (s.put event).down = s.down ∧
          (s.put event).inReplay = s.inReplay := by
        rw [put]
        split <;> exact ⟨rfl, rfl, rfl⟩
      exact h.keep hput.1 (fun hd => hput.2.1 ▸ hd) (pending_put_back hputting hfull)
        fun q => congrArg (List.countP q) hput.2.2
  | @get worker event rest hw hq =>
      refine h.keep rfl id (pending_get hw hq fun _ => rfl) fun q => ?_
      have hset := countP_set (q := q) (b := .delivering event (.posting 1 s.posts.length))
        Worker.inReplay hw
      simpa [inReplay, post] using hset
  | deliverySleeps hw | replaySleeps hw | wakeDelivery hw | wakeReplay hw =>
      exact h.work [] hw rfl rfl rfl (List.append_nil _).symm rfl (fun _ => rfl) 
        (fun _ => by simp) fun _ => by simp
  | @deliveryEscapes _ _ _ event | @replayEscapes _ _ _ event =>
      refine h.update [.taskDone event] rfl (fun hd => by cases hd) (fun q => ?_)
        (fun hd => by cases hd) fun q => ?_
      · simp [escape, pending, List.filterMap_cons]
      · simp [escape, inReplay, List.filterMap_cons]
  | @deliveryFails _ _ _ event _ _ error hw =>
      refine h.work [.rolledBack event error, .taskDone event] hw rfl rfl rfl ?_ rfl (fun q => ?_)
        (fun q => ?_) fun q => ?_
      · simp [failed, taskDone]
      all_goals simp [List.filterMap_cons, List.countP_cons]
  | @deliveryReplays _ _ _ event _ _ _ hw =>
      refine h.work [.committed event] hw rfl rfl rfl rfl rfl (fun q => ?_) (fun q => ?_)
        fun q => ?_
      all_goals simp [List.filterMap_cons, List.countP_cons]
  | @deliveryEnds _ _ _ event _ _ _ hw =>
      refine h.work [.committed event, .taskDone event] hw rfl rfl rfl ?_ rfl (fun q => ?_)
        (fun q => ?_) fun q => ?_
      · simp [delivered, taskDone]
      all_goals simp [List.filterMap_cons, List.countP_cons]
  | @replayFails _ _ _ event replay _ _ _ hw =>
      obtain ⟨rfl, _, _⟩ := hposted.workers _ _ hw
      refine h.work [.replayFailed (TrafficGenerator.makeDuplicate event), .taskDone event] hw rfl
        rfl rfl ?_ rfl (fun q => ?_) (fun q => ?_) fun q => ?_
      · simp [replayFailed, taskDone]
      all_goals simp [List.filterMap_cons, List.countP_cons]
  | @replaySucceeds _ _ _ event replay _ _ receipt hw =>
      obtain ⟨rfl, _, _⟩ := hposted.workers _ _ hw
      refine h.work ([.replayed (TrafficGenerator.makeDuplicate event) receipt] ++
        (if receipt.status = .accepted then
          [.unexpectedlyAccepted event.payload.eventId] else []) ++
        [.taskDone event]) hw rfl rfl rfl ?_ rfl (fun q => ?_) (fun q => ?_) fun q => ?_
      · simp [replayed, taskDone, TrafficGenerator.makeDuplicate]
      all_goals
        split <;> simp [List.filterMap_cons, List.countP_cons]

/-- What a step must show of its entries and of what it counts. -/
theorem Counted.update (h : s.Counted) (new : List SimulatorEntry) (hlog : s'.log = s.log ++ new)
    (hgenerated : s'.stats.generatedSales + s'.stats.generatedRefunds =
      s.stats.generatedSales + s.stats.generatedRefunds +
        (new.filterMap SimulatorEntry.generated?).length)
    (hdelivered : s'.stats.deliveredAccepted + s'.stats.deliveredDuplicate +
      s.stats.deliberateDuplicates = s.stats.deliveredAccepted + s.stats.deliveredDuplicate +
        s'.stats.deliberateDuplicates + (new.filterMap SimulatorEntry.delivery?).length)
    (hreplays : s'.stats.deliberateDuplicates + s'.stats.duplicateReplayFailures =
      s.stats.deliberateDuplicates + s.stats.duplicateReplayFailures +
        (new.filterMap SimulatorEntry.replayEnded?).length)
    (hfailures : s'.stats.permanentFailures = s.stats.permanentFailures +
      (new.filterMap SimulatorEntry.failure?).length) : s'.Counted := by
  obtain ⟨hg, hd, hr, hf⟩ := h
  constructor
  all_goals
    simp only [generatedEvents, deliveries, replaysEnded, failures, hlog, List.filterMap_append,
      List.length_append] at hg hd hr hf ⊢
    omega

/-- A step that counts nothing. -/
theorem Counted.keep (h : s.Counted) (hlog : s'.log = s.log) (hstats : s'.stats = s.stats) :
    s'.Counted := by
  refine h.update [] (hlog.trans (List.append_nil _).symm) ?_ ?_ ?_ ?_
  all_goals simp [hstats]

/-- Every step keeps the statistics. -/
theorem Counted.step {l : SimulatorLabel} (h : s.Counted) (hs : s.step l = some s') :
    s'.Counted := by
  cases step_cases hs with
  | generateFails | get | deliverySleeps | replaySleeps | wakeDelivery | wakeReplay =>
      exact h.keep rfl rfl
  | put =>
      rw [put]
      split <;> exact h.keep rfl rfl
  | @generate now draws event g =>
      have hput : ((s.generated g event now).put event).log = s.log ++ [.generated event now] ∧
          ((s.generated g event now).put event).stats = (s.generated g event now).stats := by
        rw [put]
        split <;> exact ⟨rfl, rfl⟩
      refine h.update [.generated event now] hput.1 ?_ ?_ ?_ ?_
      all_goals
        rw [hput.2, generated]
        split <;> simp [List.filterMap_cons] <;> omega
  | @deliveryEscapes _ _ _ event | @replayEscapes _ _ _ event =>
      refine h.update [.taskDone event] rfl ?_ ?_ ?_ ?_
      all_goals simp [escape, List.filterMap_cons]
  | @deliveryFails _ _ _ event _ _ error =>
      refine h.update [.rolledBack event error, .taskDone event] ?_ ?_ ?_ ?_ ?_
      all_goals simp [failed, taskDone, List.filterMap_cons]
  | @deliveryReplays _ _ _ event _ _ receipt =>
      refine h.update [.committed event] rfl ?_ ?_ ?_ ?_
      all_goals
        simp only [delivered, count, post]
        split <;> simp [List.filterMap_cons] <;> omega
  | @deliveryEnds _ _ _ event _ _ receipt =>
      refine h.update [.committed event, .taskDone event] (by simp [delivered, taskDone])
        ?_ ?_ ?_ ?_
      all_goals
        simp only [delivered, count, taskDone]
        split <;> simp [List.filterMap_cons] <;> omega
  | @replayFails _ _ _ event replay =>
      refine h.update [.replayFailed replay, .taskDone event] ?_ ?_ ?_ ?_ ?_
      all_goals simp [replayFailed, taskDone, List.filterMap_cons, Nat.add_assoc]
  | @replaySucceeds _ _ _ event replay _ _ receipt =>
      refine h.update ([.replayed replay receipt] ++ (if receipt.status = .accepted then
        [.unexpectedlyAccepted replay.payload.eventId] else []) ++ [.taskDone event])
        (by simp [replayed, taskDone]) ?_ ?_ ?_ ?_
      all_goals
        simp only [replayed, count, taskDone]
        split <;> simp [List.filterMap_cons] <;> omega

/-- A step generates an event and issues its id, or neither. -/
theorem generatedEvents_of_step {l : SimulatorLabel} (hs : s.step l = some s') :
    (s'.generatedEvents = s.generatedEvents ∧ s'.issued = s.issued) ∨
    ∃ now draws event, l = .generate now draws ∧
      s'.generatedEvents = s.generatedEvents ++ [event] ∧
      s'.issued = s.issued ++ [event.payload.eventId] := by
  have hput : ∀ {t : Simulator} {event : OutboundEvent}, (t.put event).log = t.log ∧
      (t.put event).issued = t.issued := by
    intro t event
    rw [put]
    split <;> exact ⟨rfl, rfl⟩
  have hkeep : ∀ {t : Simulator} (new : List SimulatorEntry), t.log = s.log ++ new →
      new.filterMap SimulatorEntry.generated? = [] → t.generatedEvents = s.generatedEvents := by
    intro t new hlog hnew
    rw [generatedEvents, hlog, List.filterMap_append, hnew, List.append_nil, generatedEvents]
  cases step_cases hs with
  | generateFails | get | deliverySleeps | replaySleeps | wakeDelivery | wakeReplay =>
      exact Or.inl ⟨rfl, rfl⟩
  | put => exact Or.inl ⟨hkeep [] (hput.1.trans (List.append_nil _).symm) rfl, hput.2⟩
  | @generate now draws event g =>
      refine Or.inr ⟨now, draws, event, rfl, ?_, hput.2⟩
      rw [generatedEvents, hput.1, generated, List.filterMap_append]
      rfl
  | @deliveryEscapes _ _ _ event | @replayEscapes _ _ _ event =>
      exact Or.inl ⟨hkeep [.taskDone event] rfl rfl, rfl⟩
  | @deliveryReplays _ _ _ event => exact Or.inl ⟨hkeep [.committed event] rfl rfl, rfl⟩
  | @deliveryFails _ _ _ event _ _ error =>
      refine Or.inl ⟨hkeep [.rolledBack event error, .taskDone event] ?_ rfl, rfl⟩
      simp [failed, taskDone]
  | @deliveryEnds _ _ _ event =>
      refine Or.inl ⟨hkeep [.committed event, .taskDone event] ?_ rfl, rfl⟩
      simp [delivered, taskDone]
  | @replayFails _ _ _ event replay =>
      refine Or.inl ⟨hkeep [.replayFailed replay, .taskDone event] ?_ rfl, rfl⟩
      simp [replayFailed, taskDone]
  | @replaySucceeds _ _ _ event replay _ _ receipt =>
      refine Or.inl ⟨hkeep ([.replayed replay receipt] ++ (if receipt.status = .accepted then
        [.unexpectedlyAccepted replay.payload.eventId] else []) ++ [.taskDone event]) ?_ ?_, rfl⟩
      · simp [replayed, taskDone]
      · split <;> rfl

/-! ## Runs -/

/-- The ids issued are those of the events generated. -/
theorem Reachable.issued_eq (h : s.Reachable config) :
    s.generatedEvents.map (fun e => e.payload.eventId) = s.issued := by
  obtain ⟨hostname, clock, hr⟩ := h
  refine hr.invariant (I := fun t => t.generatedEvents.map (fun e => e.payload.eventId) = t.issued)
    rfl fun t _ _ _ ht hs => ?_
  rcases generatedEvents_of_step hs with ⟨hevents, hissued⟩ | ⟨_, _, event, _, hevents, hissued⟩
  · rw [hevents, hissued, ht]
  · rw [hevents, hissued, List.map_append, ht]
    rfl

theorem Reachable.counted (h : s.Reachable config) : s.Counted := by
  obtain ⟨hostname, clock, hr⟩ := h
  exact hr.invariant ⟨rfl, rfl, rfl, rfl⟩ fun _ _ _ _ ht hs => ht.step hs

theorem Reachable.accounted (h : s.Reachable config) : s.Accounted := by
  obtain ⟨hostname, clock, hr⟩ := h
  refine hr.invariant ?_ fun t _ _ ht ha hs => ha.step (Reachable.posted ⟨hostname, clock, ht⟩) hs
  have hempty : (initial config hostname clock).workers.flatMap Worker.inDelivery = [] ∧
      (initial config hostname clock).workers.flatMap Worker.inReplay = [] := by
    simp [initial, Worker.inDelivery]
  refine ⟨fun q => ?_, fun _ q => ?_, fun q => ?_⟩
  · rw [pending, hempty.1]
    rfl
  · rw [inReplay, hempty.2]
    rfl
  · rw [inReplay, hempty.2]
    exact le_rfl

theorem mem_generatedEvents {now : Instant} (h : .generated event now ∈ s.log) :
    event ∈ s.generatedEvents := List.mem_filterMap.mpr ⟨_, h, rfl⟩

theorem generated_of_mem (h : event ∈ s.generatedEvents) : ∃ now, .generated event now ∈ s.log := by
  obtain ⟨x, hx, he⟩ := List.mem_filterMap.mp h
  cases x with
  | generated e now => cases he; exact ⟨now, hx⟩
  | _ => cases he

/-- The generator makes no replay. -/
theorem Recorded.kind_ne {now : Instant} (h : s.Recorded) (hm : .generated event now ∈ s.log) :
    event.kind ≠ .duplicate := by
  cases h.emitted_of_mem hm with
  | sale hi _ => rw [hi.about.kind]; decide
  | refund hi _ _ _ _ => rw [hi.kind]; decide

/-- A worker replays what has been delivered. -/
theorem Posted.mem_deliveries_of_replay (h : s.Posted) (he : event ∈ s.inReplay) :
    event ∈ s.deliveries := by
  obtain ⟨worker, hw, he⟩ := List.mem_flatMap.mp he
  obtain ⟨i, hi⟩ := List.getElem?_of_mem hw
  have hposted := h.workers i worker hi
  cases worker with
  | waiting | delivering => cases he
  | replaying e replay retry =>
      obtain rfl := List.mem_singleton.mp he
      exact mem_deliveries.mpr hposted.2.1

/-- An event in another place than `put` or the queue, and not delivered yet, is with a worker. -/
theorem Posted.dequeued (h : s.Posted) (hrec : s.Recorded) (hdistinct : s.issued.Nodup)
    (he : event ∈ s.generatedEvents) (hputting : s.putting ≠ some event)
    (hqueue : event ∉ s.queue) : event.times s.pending = event.times s.inDelivery := by
  obtain ⟨now, hm⟩ := generated_of_mem he
  have hother : ∀ e ∈ s.putting.toList ++ s.queue, e.payload.eventId ≠ event.payload.eventId := by
    intro e hmem hid
    obtain ⟨t, ht⟩ := hrec.pending e (List.mem_append_left _ hmem)
    obtain rfl := h.unique hdistinct e t event now ht hm hid
    rcases List.mem_append.mp hmem with hmem | hmem
    · exact hputting (Option.mem_toList.mp hmem)
    · exact hqueue hmem
  have hnone : event.times (s.putting.toList ++ s.queue) = 0 := times_eq_zero hother
  rw [OutboundEvent.times] at hnone ⊢
  rw [pending, List.countP_append, hnone, Nat.zero_add]
  rfl

/-! ## Single events -/

theorem perm_of_countP {xs ys : List OutboundEvent} (h : ∀ q, xs.countP q = ys.countP q) :
    xs.Perm ys := by
  classical
  exact List.perm_iff_count.mpr fun e => h (· == e)

/-- The places hold each event generated as often as it was generated. -/
theorem Accounted.places (h : s.Accounted) :
    (s.pending ++ s.deliveries ++ s.failures).Perm s.generatedEvents := by
  refine perm_of_countP fun q => ?_
  rw [List.countP_append, List.countP_append]
  exact (h.created q).symm

/-- An event whose delivery has ended has had its `task_done`, or is replayed. -/
theorem Accounted.ends (h : s.Accounted) (hup : s.down = false) :
    (s.finished ++ s.inReplay).Perm (s.deliveries ++ s.failures) := by
  refine perm_of_countP fun q => ?_
  rw [List.countP_append, List.countP_append]
  exact (h.done hup q).symm

/-- A delivery is replayed at most once. -/
theorem Accounted.replayed (h : s.Accounted) :
    (s.replaysEnded ++ s.inReplay.map TrafficGenerator.makeDuplicate).Subperm
      (s.deliveries.map TrafficGenerator.makeDuplicate) := by
  classical
  refine List.subperm_ext_iff.mpr fun e _ => ?_
  have hreplays := h.replays (· == e)
  simpa only [List.count, List.countP_append, List.countP_map] using hreplays

/-- The same of one event, where the ids tell the events apart. -/
theorem Reachable.accounted_once (h : s.Reachable config) (hdistinct : s.issued.Nodup)
    (he : event ∈ s.generatedEvents) (hputting : s.putting ≠ some event)
    (hqueue : event ∉ s.queue) :
    event.times s.deliveries + event.times s.failures + event.times s.inDelivery = 1 ∧
      (s.down = false →
        event.times s.finished + event.times s.inDelivery + event.times s.inReplay = 1) := by
  have hone := times_eq_one (h.issued_eq ▸ hdistinct) he
  have hdequeued := h.posted.dequeued h.balanced.1 hdistinct he hputting hqueue
  have hcreated := h.accounted.created fun e => e.payload.eventId == event.payload.eventId
  simp only [OutboundEvent.times] at hone hdequeued ⊢
  refine ⟨by omega, fun hup => ?_⟩
  have hdone := h.accounted.done hup fun e => e.payload.eventId == event.payload.eventId
  omega

/-- So it is replayed at most once. -/
theorem Reachable.replayed_once (h : s.Reachable config) (hdistinct : s.issued.Nodup)
    (event : OutboundEvent) : event.times s.replaysEnded + event.times s.inReplay ≤ 1 := by
  have hone : event.times s.generatedEvents ≤ 1 := times_le_one (h.issued_eq ▸ hdistinct)
  have hcreated := h.accounted.created fun e => e.payload.eventId == event.payload.eventId
  have hreplays : event.times s.replaysEnded + event.times s.inReplay ≤
      event.times s.deliveries :=
    h.accounted.replays fun e => e.payload.eventId == event.payload.eventId
  simp only [OutboundEvent.times] at hone hreplays ⊢
  omega

end Simulator

open Simulator

/-- No event is lost or counted twice: (1) an event generated is in `put`, queued, in its first
delivery, committed or failed, (2) and in one of these places only; when its delivery and its
replay have ended, its `task_done` has been called once; (3) the receipts are those of the events
committed and of the replays; (4) at most the events committed are replayed, (5) each at most
once, and (6) no replay is queued or replayed.  (7) Where `uuid4` gives nothing twice, the
`event_id` tells the events apart, and (2) and (5) can be said of each. -/
theorem events_accounted {config : SimulatorConfig} {s : Simulator} (h : s.Reachable config) :
    s.stats.generatedSales + s.stats.generatedRefunds =
      (if s.putting.isSome then 1 else 0) + s.queue.length + s.inDelivery.length +
        s.deliveries.length + s.stats.permanentFailures ∧
    ((s.putting.toList ++ s.queue ++ s.inDelivery ++ s.deliveries ++ s.failures).Perm
        s.generatedEvents ∧
      (s.down = false → (s.finished ++ s.inReplay).Perm (s.deliveries ++ s.failures))) ∧
    s.stats.deliveredAccepted + s.stats.deliveredDuplicate =
      s.deliveries.length + s.stats.deliberateDuplicates ∧
    s.stats.deliberateDuplicates + s.stats.duplicateReplayFailures + s.inReplay.length ≤
      s.deliveries.length ∧
    (s.replaysEnded ++ s.inReplay.map TrafficGenerator.makeDuplicate).Subperm
      (s.deliveries.map TrafficGenerator.makeDuplicate) ∧
    ((∀ event ∈ s.pending ++ s.inReplay, event ∈ s.generatedEvents ∧ event.kind ≠ .duplicate) ∧
      ∀ (worker : Nat) event replay retry,
        s.workers[worker]? = some (.replaying event replay retry) →
        replay = TrafficGenerator.makeDuplicate event) ∧
    (s.issued.Nodup →
      (∀ event ∈ s.generatedEvents, s.putting ≠ some event → event ∉ s.queue →
        event.times s.deliveries + event.times s.failures + event.times s.inDelivery = 1 ∧
        (s.down = false →
          event.times s.finished + event.times s.inDelivery + event.times s.inReplay = 1)) ∧
      ∀ event : OutboundEvent, event.times s.replaysEnded + event.times s.inReplay ≤ 1) := by
  obtain ⟨hrec, _⟩ := h.balanced
  have hposted := h.posted
  have hcounted := h.counted
  have hplaces := h.accounted
  refine ⟨?_, ⟨hplaces.places, hplaces.ends⟩, hcounted.receiptCount, ?_, hplaces.replayed,
    ⟨fun event he => ?_, fun worker event replay retry hw => (hposted.workers _ _ hw).1⟩,
    fun hdistinct => ⟨fun event => h.accounted_once hdistinct, h.replayed_once hdistinct⟩⟩
  · have hcreated := hplaces.places.length_eq
    have hwaiting : s.putting.toList.length = if s.putting.isSome then 1 else 0 := by
      cases s.putting <;> rfl
    simp only [pending, List.length_append, hwaiting] at hcreated
    rw [hcounted.eventCount, hcounted.failureCount, ← hcreated, inDelivery]
  · have hreplays := hplaces.replayed.length_le
    simp only [List.length_append, List.length_map] at hreplays
    rw [hcounted.replayCount]
    exact hreplays
  · have hgenerated : ∃ now, .generated event now ∈ s.log := by
      rcases List.mem_append.mp he with he | he
      · exact hrec.pending event he
      · exact hrec.deliveries event (hposted.mem_deliveries_of_replay he)
    obtain ⟨now, hm⟩ := hgenerated
    exact ⟨mem_generatedEvents hm, hrec.kind_ne hm⟩

/-! ## A run -/

/-- A SALE is delivered and replayed; during its replay a REFUND is queued. -/
def Sample.accountingSteps : List SimulatorLabel :=
  [.generate 5 (draws (3 / 4) 3 10), .get 0, .postEnds 0 (success 201 "accepted") (1 / 4),
    .generate 6 (draws 0 2 11), .postEnds 0 (success 200 "duplicate") 0]

/-- Two events are generated: one is queued and one is committed, and its replay is counted. -/
theorem events_accounted_after_replay :
    ∃ s, Sample.produce Sample.accountingSteps = some s ∧ s.queue.length = 1 ∧
      s.stats.generatedSales + s.stats.generatedRefunds =
        (if s.putting.isSome then 1 else 0) + s.queue.length + s.inDelivery.length +
          s.deliveries.length + s.stats.permanentFailures ∧
      s.stats.deliveredAccepted + s.stats.deliveredDuplicate =
        s.deliveries.length + s.stats.deliberateDuplicates ∧
      s.stats.deliberateDuplicates = 1 := by
  have hrun : ((Sample.produce Sample.accountingSteps).map fun s =>
      (s.queue.length, s.stats.deliberateDuplicates)) = some (1, 1) := by decide +kernel
  obtain ⟨s, hs, he⟩ := Option.map_eq_some_iff.mp hrun
  obtain ⟨hqueue, hreplays⟩ := Prod.mk.inj he
  obtain ⟨hevents, _, hreceipts, _⟩ := events_accounted (Sample.produce_reachable hs).reachable
  exact ⟨s, hs, hqueue, hevents, hreceipts, hreplays⟩

end StorePulse
