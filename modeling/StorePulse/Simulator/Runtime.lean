import StorePulse.Foundation.Transition
import StorePulse.Simulator.Transport

/-!
# The producer

`_traffic_loop`, `_delivery_worker` and the queue between them, as tasks of one
event loop.  A step runs one task from one `await` to the next: the traffic loop
generates an event and puts it into the queue, or waits in `put` while the queue
is full; a worker takes an event and posts it, wakes up to post it again, or
comes back from a post (`SimulatorLabel.postEnds`) with any result.

An exception that escapes a task ends the task group, and with it every task
(`Simulator.down`).  `Simulator.log` records what happened, oldest first.  It is
never read by a step, nor are the clock and the ids issued: a step may take any
time and any id, and a result that needs a clock that does not go back, or ids
that differ, is about the runs with `keepsTime` or `issuesAnew`.
-/

namespace StorePulse

/-- `SimulatorStats`. -/
structure SimulatorStats where
  generatedSales : Nat := 0
  generatedRefunds : Nat := 0
  deliveredAccepted : Nat := 0
  deliveredDuplicate : Nat := 0
  deliberateDuplicates : Nat := 0
  duplicateReplayFailures : Nat := 0
  retryAttempts : Nat := 0
  permanentFailures : Nat := 0
deriving DecidableEq

/-- Where a call of `post_event_with_retry` waits. -/
inductive Retry where
  /-- For the end of a post, which has a number. -/
  | posting (attempt post : Nat)
  /-- In `asyncio.sleep` after an attempt. -/
  | sleeping (attempt : Nat)

/-- What a delivery worker does. -/
inductive Worker where
  /-- It waits in `queue.get`. -/
  | waiting
  /-- The first delivery of an event. -/
  | delivering (event : OutboundEvent) (retry : Retry)
  /-- The deliberate replay of an event that was delivered. -/
  | replaying (event replay : OutboundEvent) (retry : Retry)

/-- Something that happened in the producer. -/
inductive SimulatorEntry where
  /-- An event was generated, at the time `now` gave. -/
  | generated (event : OutboundEvent) (now : Instant)
  /-- `commit_delivery`. -/
  | committed (event : OutboundEvent)
  /-- `rollback_delivery`, for an error. -/
  | rolledBack (event : OutboundEvent) (error : DeliveryError)
  /-- A replay was delivered. -/
  | replayed (event : OutboundEvent) (receipt : DeliveryReceipt)
  /-- A replay was given up. -/
  | replayFailed (event : OutboundEvent)
  /-- The warning `duplicate replay unexpectedly accepted`. -/
  | unexpectedlyAccepted (eventId : UUID)
  /-- `queue.task_done`. -/
  | taskDone (event : OutboundEvent)

/-- The producer. -/
structure Simulator where
  generator : TrafficGenerator
  stats : SimulatorStats
  /-- The event the traffic loop waits in `put` with. -/
  putting : Option OutboundEvent
  queue : List OutboundEvent
  workers : List Worker
  /-- The last time `now` gave. -/
  clock : Instant
  /-- What `uuid4` has given. -/
  issued : List UUID
  /-- The payloads posted, by number. -/
  posts : List EventBody
  /-- An exception has escaped a task. -/
  down : Bool
  log : List SimulatorEntry

/-- A step of the producer. -/
inductive SimulatorLabel where
  /-- The traffic loop generates an event. -/
  | generate (now : Instant) (draws : Draws)
  /-- The traffic loop comes back from `put`. -/
  | put
  /-- A worker takes an event and posts it. -/
  | get (worker : Nat)
  /-- A post of a worker ends; `draw` is what its random source gives next. -/
  | postEnds (worker : Nat) (result : PostResult) (draw : Rat)
  /-- A worker has slept and posts again. -/
  | wake (worker : Nat)

namespace Simulator

/-- The start of `run`. -/
def initial (config : SimulatorConfig) (hostname : String) (clock : Instant) : Simulator where
  generator := ⟨config.effective hostname, []⟩
  stats := {}
  putting := none
  queue := []
  workers := List.replicate config.workerCount.toNat .waiting
  clock := clock
  issued := []
  posts := []
  down := false
  log := []

variable (s : Simulator)

/-- The configuration `run` works with. -/
def config : SimulatorConfig := s.generator.config

/-- `queue.full()`. -/
def full : Bool := 0 < s.config.queueSize && s.config.queueSize ≤ s.queue.length

/-! ## Tasks -/

/-- `make_business_event` and the statistics of the traffic loop. -/
def generated (g : TrafficGenerator) (event : OutboundEvent) (now : Instant) : Simulator :=
  { s with
    generator := g
    stats :=
      if event.kind = .refund then
        { s.stats with generatedRefunds := s.stats.generatedRefunds + 1 }
      else { s.stats with generatedSales := s.stats.generatedSales + 1 }
    clock := now
    issued := s.issued ++ [event.payload.eventId]
    log := s.log ++ [.generated event now] }

/-- `queue.put`. -/
def put (event : OutboundEvent) : Simulator :=
  if s.full then { s with putting := some event }
  else { s with putting := none, queue := s.queue ++ [event] }

/-- A worker posts a payload. -/
def post (worker : Nat) (payload : EventBody) (state : Nat → Worker) : Simulator :=
  { s with
    workers := s.workers.set worker (state s.posts.length)
    posts := s.posts ++ [payload] }

/-- A worker ends an event. -/
def taskDone (worker : Nat) (event : OutboundEvent) : Simulator :=
  { s with
    workers := s.workers.set worker .waiting
    log := s.log ++ [.taskDone event] }

/-- An exception escapes a worker, through its `finally`. -/
def escape (event : OutboundEvent) : Simulator :=
  { s with down := true, log := s.log ++ [.taskDone event] }

/-- The statistics of a receipt. -/
def count (receipt : DeliveryReceipt) : SimulatorStats :=
  let stats := { s.stats with retryAttempts := s.stats.retryAttempts + (receipt.attempts - 1) }
  if receipt.status = .accepted then
    { stats with deliveredAccepted := stats.deliveredAccepted + 1 }
  else { stats with deliveredDuplicate := stats.deliveredDuplicate + 1 }

/-- The first delivery of an event has succeeded. -/
def delivered (event : OutboundEvent) (receipt : DeliveryReceipt) : Simulator :=
  { s with
    stats := s.count receipt
    generator := s.generator.commitDelivery event
    log := s.log ++ [.committed event] }

/-- The first delivery of an event has failed. -/
def failed (event : OutboundEvent) (error : DeliveryError) : Simulator :=
  { s with
    generator := s.generator.rollbackDelivery event
    stats := { s.stats with permanentFailures := s.stats.permanentFailures + 1 }
    log := s.log ++ [.rolledBack event error] }

/-- The replay of an event has succeeded. -/
def replayed (replay : OutboundEvent) (receipt : DeliveryReceipt) : Simulator :=
  let stats := s.count receipt
  { s with
    stats := { stats with deliberateDuplicates := stats.deliberateDuplicates + 1 }
    log := s.log ++ [.replayed replay receipt] ++
      if receipt.status = .accepted then [.unexpectedlyAccepted replay.payload.eventId] else [] }

/-- The replay of an event has failed. -/
def replayFailed (replay : OutboundEvent) : Simulator :=
  { s with
    stats := { s.stats with duplicateReplayFailures := s.stats.duplicateReplayFailures + 1 }
    log := s.log ++ [.replayFailed replay] }

/-- A worker goes on after the first delivery: it replays the event, or ends it. -/
def afterDelivery (worker : Nat) (event : OutboundEvent) (draw : Rat) : Option Simulator :=
  if event.allowDeliberateDuplicate then
    (rngRandom draw).map fun u =>
      if u.lt s.config.duplicateRate then
        let replay := TrafficGenerator.makeDuplicate event
        s.post worker replay.payload fun n => .replaying event replay (.posting 1 n)
      else s.taskDone worker event
  else some (s.taskDone worker event)

/-- A post of a worker has ended. -/
def postEnds (worker : Nat) (result : PostResult) (draw : Rat) : Option Simulator :=
  match s.workers[worker]? with
  | some (.delivering event (.posting attempt _)) =>
      (afterAttempt s.config attempt result draw).bind fun
        | .sleeping _ => some
            { s with workers := s.workers.set worker (.delivering event (.sleeping attempt)) }
        | .escaped _ => some (s.escape event)
        | .raised error => some ((s.failed event error).taskDone worker event)
        | .returned receipt => (s.delivered event receipt).afterDelivery worker event draw
  | some (.replaying event replay (.posting attempt _)) =>
      (afterAttempt s.config attempt result draw).bind fun
        | .sleeping _ => some
            { s with workers := s.workers.set worker (.replaying event replay (.sleeping attempt)) }
        | .escaped _ => some (s.escape event)
        | .raised _ => some ((s.replayFailed replay).taskDone worker event)
        | .returned receipt => some ((s.replayed replay receipt).taskDone worker event)
  | _ => none

/-- A step of the producer. -/
def step (s : Simulator) (l : SimulatorLabel) : Option Simulator :=
  if s.down then none
  else match l with
    | .generate now draws =>
        if s.putting.isSome then none
        else (s.generator.makeBusinessEvent now draws).map fun
          | .error _ => { s with clock := now, down := true }
          | .ok (event, g) => (s.generated g event now).put event
    | .put => s.putting.bind fun event => if s.full then none else some (s.put event)
    | .get worker =>
        match s.workers[worker]?, s.queue with
        | some .waiting, event :: rest => some <|
            { s with queue := rest }.post worker event.payload fun n =>
              .delivering event (.posting 1 n)
        | _, _ => none
    | .postEnds worker result draw => s.postEnds worker result draw
    | .wake worker =>
        match s.workers[worker]? with
        | some (.delivering event (.sleeping attempt)) => some <|
            s.post worker event.payload fun n => .delivering event (.posting (attempt + 1) n)
        | some (.replaying event replay (.sleeping attempt)) => some <|
            s.post worker replay.payload fun n => .replaying event replay (.posting (attempt + 1) n)
        | _ => none

/-! ## Conditions on a step -/

/-- The clock does not go back. -/
def keepsTime : SimulatorLabel → Bool
  | .generate now _ => s.clock ≤ now
  | _ => true

/-- `uuid4` gives nothing twice. -/
def issuesAnew : SimulatorLabel → Bool
  | .generate _ draws => draws.eventId ∉ s.issued
  | _ => true

end Simulator

/-- The producer as a transition system. -/
def producer : System Simulator SimulatorLabel := ⟨Simulator.step⟩

/-- The states of the runs with a configuration whose steps meet a condition. -/
def Simulator.ReachableWithin (config : SimulatorConfig)
    (P : Simulator → SimulatorLabel → Prop) (s : Simulator) : Prop :=
  ∃ hostname clock, producer.ReachesWithin P (.initial config hostname clock) s

/-- The states of all runs with a configuration. -/
def Simulator.Reachable (config : SimulatorConfig) (s : Simulator) : Prop :=
  ∃ hostname clock, producer.Reaches (.initial config hostname clock) s

theorem Simulator.ReachableWithin.mono {config : SimulatorConfig}
    {P Q : Simulator → SimulatorLabel → Prop} {s : Simulator} (h : s.ReachableWithin config P)
    (hPQ : ∀ s l, P s l → Q s l) : s.ReachableWithin config Q := by
  obtain ⟨hostname, clock, hr⟩ := h
  exact ⟨hostname, clock, hr.mono hPQ⟩

theorem Simulator.ReachableWithin.reachable {config : SimulatorConfig}
    {P : Simulator → SimulatorLabel → Prop} {s : Simulator} (h : s.ReachableWithin config P) :
    s.Reachable config := by
  obtain ⟨hostname, clock, hr⟩ := h
  exact ⟨hostname, clock, hr.reaches⟩

/-! ## What a step can be -/

namespace Simulator

variable {s s' : Simulator}

/-- The cases of a step. -/
inductive StepTo (s : Simulator) : SimulatorLabel → Simulator → Prop where
  | generateFails {now : Instant} {draws : Draws} :
      StepTo s (.generate now draws) { s with clock := now, down := true }
  | generate {now : Instant} {draws : Draws} {event : OutboundEvent} {g : TrafficGenerator} :
      s.putting = none →
      s.generator.makeBusinessEvent now draws = some (.ok (event, g)) →
      StepTo s (.generate now draws) ((s.generated g event now).put event)
  | put {event : OutboundEvent} : s.putting = some event → s.full = false →
      StepTo s .put (s.put event)
  | get {worker : Nat} {event : OutboundEvent} {rest : List OutboundEvent} :
      s.workers[worker]? = some .waiting → s.queue = event :: rest →
      StepTo s (.get worker) ({ s with queue := rest }.post worker event.payload fun n =>
        .delivering event (.posting 1 n))
  | deliverySleeps {worker attempt n : Nat} {event : OutboundEvent} {result : PostResult}
      {draw : Rat} {delay : PyFloat} :
      s.workers[worker]? = some (.delivering event (.posting attempt n)) →
      afterAttempt s.config attempt result draw = some (.sleeping delay) →
      StepTo s (.postEnds worker result draw)
        { s with workers := s.workers.set worker (.delivering event (.sleeping attempt)) }
  | deliveryEscapes {worker attempt n : Nat} {event : OutboundEvent} {result : PostResult}
      {draw : Rat} {error : PyError} :
      s.workers[worker]? = some (.delivering event (.posting attempt n)) →
      afterAttempt s.config attempt result draw = some (.escaped error) →
      StepTo s (.postEnds worker result draw) (s.escape event)
  | deliveryFails {worker attempt n : Nat} {event : OutboundEvent} {result : PostResult}
      {draw : Rat} {error : DeliveryError} :
      s.workers[worker]? = some (.delivering event (.posting attempt n)) →
      afterAttempt s.config attempt result draw = some (.raised error) →
      StepTo s (.postEnds worker result draw) ((s.failed event error).taskDone worker event)
  | deliveryReplays {worker attempt n : Nat} {event : OutboundEvent} {result : PostResult}
      {draw : Rat} {receipt : DeliveryReceipt} :
      s.workers[worker]? = some (.delivering event (.posting attempt n)) →
      afterAttempt s.config attempt result draw = some (.returned receipt) →
      event.allowDeliberateDuplicate = true →
      StepTo s (.postEnds worker result draw) ((s.delivered event receipt).post worker
        event.payload fun m =>
          .replaying event (TrafficGenerator.makeDuplicate event) (.posting 1 m))
  | deliveryEnds {worker attempt n : Nat} {event : OutboundEvent} {result : PostResult}
      {draw : Rat} {receipt : DeliveryReceipt} :
      s.workers[worker]? = some (.delivering event (.posting attempt n)) →
      afterAttempt s.config attempt result draw = some (.returned receipt) →
      StepTo s (.postEnds worker result draw)
        ((s.delivered event receipt).taskDone worker event)
  | replaySleeps {worker attempt n : Nat} {event replay : OutboundEvent} {result : PostResult}
      {draw : Rat} {delay : PyFloat} :
      s.workers[worker]? = some (.replaying event replay (.posting attempt n)) →
      afterAttempt s.config attempt result draw = some (.sleeping delay) →
      StepTo s (.postEnds worker result draw)
        { s with workers := s.workers.set worker (.replaying event replay (.sleeping attempt)) }
  | replayEscapes {worker attempt n : Nat} {event replay : OutboundEvent} {result : PostResult}
      {draw : Rat} {error : PyError} :
      s.workers[worker]? = some (.replaying event replay (.posting attempt n)) →
      afterAttempt s.config attempt result draw = some (.escaped error) →
      StepTo s (.postEnds worker result draw) (s.escape event)
  | replayFails {worker attempt n : Nat} {event replay : OutboundEvent} {result : PostResult}
      {draw : Rat} {error : DeliveryError} :
      s.workers[worker]? = some (.replaying event replay (.posting attempt n)) →
      afterAttempt s.config attempt result draw = some (.raised error) →
      StepTo s (.postEnds worker result draw) ((s.replayFailed replay).taskDone worker event)
  | replaySucceeds {worker attempt n : Nat} {event replay : OutboundEvent} {result : PostResult}
      {draw : Rat} {receipt : DeliveryReceipt} :
      s.workers[worker]? = some (.replaying event replay (.posting attempt n)) →
      afterAttempt s.config attempt result draw = some (.returned receipt) →
      StepTo s (.postEnds worker result draw)
        ((s.replayed replay receipt).taskDone worker event)
  | wakeDelivery {worker attempt : Nat} {event : OutboundEvent} :
      s.workers[worker]? = some (.delivering event (.sleeping attempt)) →
      StepTo s (.wake worker) (s.post worker event.payload fun n =>
        .delivering event (.posting (attempt + 1) n))
  | wakeReplay {worker attempt : Nat} {event replay : OutboundEvent} :
      s.workers[worker]? = some (.replaying event replay (.sleeping attempt)) →
      StepTo s (.wake worker) (s.post worker replay.payload fun n =>
        .replaying event replay (.posting (attempt + 1) n))

/-- What follows the end of a post. -/
theorem postEnds_cases {worker : Nat} {result : PostResult} {draw : Rat}
    (h : s.postEnds worker result draw = some s') : s.StepTo (.postEnds worker result draw) s' := by
  rw [postEnds] at h
  split at h
  · next event attempt n hw =>
    obtain ⟨after, ha, h⟩ := Option.bind_eq_some_iff.mp h
    cases after with
    | sleeping delay => cases h; exact .deliverySleeps hw ha
    | escaped e => cases h; exact .deliveryEscapes hw ha
    | raised error => cases h; exact .deliveryFails hw ha
    | returned receipt =>
        simp only [afterDelivery] at h
        split at h
        · next hallow =>
          obtain ⟨u, _, h⟩ := Option.map_eq_some_iff.mp h
          split at h
          · cases h; exact .deliveryReplays hw ha hallow
          · cases h; exact .deliveryEnds hw ha
        · cases h; exact .deliveryEnds hw ha
  · next event replay attempt n hw =>
    obtain ⟨after, ha, h⟩ := Option.bind_eq_some_iff.mp h
    cases after with
    | sleeping delay => cases h; exact .replaySleeps hw ha
    | escaped e => cases h; exact .replayEscapes hw ha
    | raised error => cases h; exact .replayFails hw ha
    | returned receipt => cases h; exact .replaySucceeds hw ha
  · cases h

/-- Every step is one of the cases. -/
theorem step_cases {l : SimulatorLabel} (h : s.step l = some s') : s.StepTo l s' := by
  unfold step at h
  split at h
  · cases h
  · cases l with
    | generate now draws =>
        simp only at h
        split at h
        · cases h
        · next hputting =>
          obtain ⟨made, hm, h⟩ := Option.map_eq_some_iff.mp h
          cases made with
          | error e => cases h; exact .generateFails
          | ok made =>
              cases h
              exact .generate (Option.not_isSome_iff_eq_none.mp hputting) hm
    | put =>
        obtain ⟨event, hp, h⟩ := Option.bind_eq_some_iff.mp h
        split at h
        · cases h
        · next hfull =>
          cases h
          exact .put hp (Bool.not_eq_true _ |>.mp hfull)
    | get worker =>
        simp only at h
        split at h
        · next hw hq => cases h; exact .get hw hq
        · cases h
    | postEnds worker result draw => exact postEnds_cases h
    | wake worker =>
        simp only at h
        split at h
        · next hw => cases h; exact .wakeDelivery hw
        · next hw => cases h; exact .wakeReplay hw
        · cases h

end Simulator

/-! ## What a step shows -/

/-- The `event_id` of which an entry says that the backend has it. -/
def SimulatorEntry.confirms : SimulatorEntry → Option UUID
  | .committed event => some event.payload.eventId
  | .replayed replay _ => some replay.payload.eventId
  | .unexpectedlyAccepted eventId => some eventId
  | _ => none

namespace Simulator

variable {s s' : Simulator}

/-- Which step of the producer shows an entry. -/
inductive Shows (s : Simulator) : SimulatorLabel → SimulatorEntry → Prop where
  | committed {worker attempt n : Nat} {event : OutboundEvent} {result : PostResult} {draw : Rat}
      {receipt : DeliveryReceipt} :
      s.workers[worker]? = some (.delivering event (.posting attempt n)) →
      afterAttempt s.config attempt result draw = some (.returned receipt) →
      Shows s (.postEnds worker result draw) (.committed event)
  | replayed {worker attempt n : Nat} {event replay : OutboundEvent} {result : PostResult}
      {draw : Rat} {receipt : DeliveryReceipt} :
      s.workers[worker]? = some (.replaying event replay (.posting attempt n)) →
      afterAttempt s.config attempt result draw = some (.returned receipt) →
      Shows s (.postEnds worker result draw) (.replayed replay receipt)
  | unexpectedlyAccepted {worker attempt n : Nat} {event replay : OutboundEvent}
      {result : PostResult} {draw : Rat} {receipt : DeliveryReceipt} :
      s.workers[worker]? = some (.replaying event replay (.posting attempt n)) →
      afterAttempt s.config attempt result draw = some (.returned receipt) →
      receipt.status = .accepted →
      Shows s (.postEnds worker result draw) (.unexpectedlyAccepted replay.payload.eventId)
  | generated {now : Instant} {draws : Draws} {event : OutboundEvent} {g : TrafficGenerator} :
      s.generator.makeBusinessEvent now draws = some (.ok (event, g)) →
      Shows s (.generate now draws) (.generated event now)
  | other {l : SimulatorLabel} {x : SimulatorEntry} : x.confirms = none →
      (∀ event now, x ≠ .generated event now) → Shows s l x

/-- Every entry is shown by a step. -/
theorem shows_of_step {l : SimulatorLabel} {x : SimulatorEntry} (hs : s.step l = some s')
    (hx : x ∈ s'.log) : x ∈ s.log ∨ s.Shows l x := by
  have hadd : ∀ new : List SimulatorEntry, s'.log = s.log ++ new →
      (∀ y ∈ new, s.Shows l y) → x ∈ s.log ∨ s.Shows l x := by
    intro new hlog hnew
    rw [hlog, List.mem_append] at hx
    exact hx.imp_right (hnew x)
  have hdone : ∀ {event : OutboundEvent}, s.Shows l (.taskDone event) :=
    .other rfl fun _ _ he => by cases he
  cases step_cases hs with
  | generateFails | get | deliverySleeps | replaySleeps | wakeDelivery | wakeReplay =>
      exact Or.inl hx
  | @generate now draws event g _ hmade =>
      refine hadd [.generated event now] ?_ fun y hy => ?_
      · rw [put]
        split <;> rfl
      · obtain rfl := List.mem_singleton.mp hy
        exact .generated hmade
  | put =>
      rw [put] at hx
      split at hx <;> exact Or.inl hx
  | @deliveryEscapes _ _ _ event =>
      refine hadd [.taskDone event] rfl fun y hy => ?_
      obtain rfl := List.mem_singleton.mp hy
      exact hdone
  | @deliveryFails _ _ _ event _ _ error =>
      refine hadd [.rolledBack event error, .taskDone event] ?_ fun y hy => ?_
      · simp [failed, taskDone]
      · simp only [List.mem_cons, List.not_mem_nil, or_false] at hy
        rcases hy with rfl | rfl
        · exact .other rfl fun _ _ he => by cases he
        · exact hdone
  | @deliveryReplays _ _ _ event _ _ _ hw ha _ =>
      refine hadd [.committed event] rfl fun y hy => ?_
      obtain rfl := List.mem_singleton.mp hy
      exact .committed hw ha
  | @deliveryEnds _ _ _ event _ _ _ hw ha =>
      refine hadd [.committed event, .taskDone event] ?_ fun y hy => ?_
      · simp [delivered, taskDone]
      · simp only [List.mem_cons, List.not_mem_nil, or_false] at hy
        rcases hy with rfl | rfl
        · exact .committed hw ha
        · exact hdone
  | @replayEscapes _ _ _ event =>
      refine hadd [.taskDone event] rfl fun y hy => ?_
      obtain rfl := List.mem_singleton.mp hy
      exact hdone
  | @replayFails _ _ _ event replay =>
      refine hadd [.replayFailed replay, .taskDone event] ?_ fun y hy => ?_
      · simp [replayFailed, taskDone]
      · simp only [List.mem_cons, List.not_mem_nil, or_false] at hy
        rcases hy with rfl | rfl
        · exact .other rfl fun _ _ he => by cases he
        · exact hdone
  | @replaySucceeds _ _ _ event replay _ _ receipt hw ha =>
      refine hadd ([.replayed replay receipt] ++ (if receipt.status = .accepted then
        [.unexpectedlyAccepted replay.payload.eventId] else []) ++ [.taskDone event]) ?_
        fun y hy => ?_
      · simp [replayed, taskDone]
      · rw [List.mem_append, List.mem_append, List.mem_singleton, List.mem_singleton] at hy
        rcases hy with (rfl | hy) | rfl
        · exact .replayed hw ha
        · split at hy
          · next haccepted =>
            obtain rfl := List.mem_singleton.mp hy
            exact .unexpectedlyAccepted hw ha haccepted
          · cases hy
        · exact hdone

end Simulator

end StorePulse
