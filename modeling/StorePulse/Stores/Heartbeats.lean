import StorePulse.Backend.Receipts
import StorePulse.Foundation.Periodic
import StorePulse.Simulator.Capacity
import StorePulse.Stores.Presence

/-!
# The heartbeats of a producer

`_heartbeat_loop` of the producer, against the server.  A post reaches the server
at most once and at any time after it was made, or never.  `httpx.HTTPError` stands
for a lost or late response and for a status that is no success; the loop goes on
after it.  The one clock is that of the server, and the sleeps are measured by it.

While a post and a sleep take no longer than a pace allows, and not too many posts
fail in a row, the store is online (`heartbeats_keep_online`).
-/

namespace StorePulse

/-! ## What a success shows -/

/-- `Response.is_success`. -/
def isSuccess (statusCode : Nat) : Bool := 200 ≤ statusCode && statusCode < 300

/-- The answer that is decided at a point of a heartbeat. -/
def HeartbeatPoint.decision : HeartbeatPoint → Option Answer
  | .broadcast store t => some (.heartbeat store.code t)
  | .done answer => some answer
  | _ => none

theorem HeartbeatPoint.decided_resume (c : String) (pt : HeartbeatPoint) :
    (pt.resume c).decided = pt.decision := by
  cases pt with
  | begin => rw [resume_begin]; rfl
  | selectStore => rw [resume_selectStore]; rfl
  | now store => rfl
  | updateStore store t => rw [resume_updateStore]; rfl
  | commit store t => rw [resume_commit]; rfl
  | broadcast store t => rfl
  | done answer => rfl

variable {cat : Catalogue} {i : Nat} {t : Instant}

/-- A heartbeat of a store was read at `t`, and its time is a value the store has had. -/
structure Stamped (cat : Catalogue) (c : String) (log : List Entry) (i : Nat) (store : Store)
    (t : Instant) : Prop where
  known : cat.storeByCode c = some store
  readClock : .readClock i t ∈ log
  seen : (store.id, t) ∈ log.flatMap Entry.versions

theorem Stamped.grow {c : String} {log log' : List Entry} {store : Store}
    (h : Stamped cat c log i store t) (hl : log ⊆ log') : Stamped cat c log' i store t := by
  obtain ⟨e, he, hv⟩ := List.mem_flatMap.mp h.seen
  exact ⟨h.known, hl h.readClock, List.mem_flatMap.mpr ⟨e, hl he, hv⟩⟩

namespace World

variable {w w' : World} {l : Label}

/-- Heartbeats that are answered with a success have committed. -/
def Confirms (cat : Catalogue) (w : World) : Prop :=
  ∀ i c state a, w.requests[i]? = some ⟨.heartbeat c, state⟩ → state.decided = some a →
    isSuccess a.statusCode = true →
    ∃ store t, a = .heartbeat store.code t ∧ Stamped cat c w.log i store t

theorem Confirms.step (hd : w.Dated cat) (h : w.Confirms cat) (hs : w.step cat l = some w') :
    w'.Confirms cat := by
  have hgrow : w.log ⊆ w'.log := (log_grows (System.Reaches.refl.tail hs)).subset
  -- what was decided before stays confirmed
  have hold : ∀ {i c state a}, w.requests[i]? = some ⟨.heartbeat c, state⟩ →
      state.decided = some a → isSuccess a.statusCode = true →
      ∃ store t, a = .heartbeat store.code t ∧ Stamped cat c w'.log i store t := by
    intro i c state a hi ha hsuccess
    obtain ⟨store, t, rfl, hstamped⟩ := h i c state a hi ha hsuccess
    exact ⟨store, t, rfl, hstamped.grow hgrow⟩
  intro i c state a hi ha hsuccess
  cases step_cases hs with
  | tick | lock => exact hold hi ha hsuccess
  | arrive =>
      rcases getElem?_arrived hi with hi | ⟨rfl, he⟩
      · exact hold hi ha hsuccess
      · cases he
        rw [RequestState.decided, Call.program, HeartbeatPoint.heartbeat_eq,
          HeartbeatPoint.decided_resume] at ha
        cases ha
  | @perform j call op k reply db hr hp =>
      by_cases hij : i = j
      swap
      · exact hold (getElem?_set_other hij hi) ha hsuccess
      subst hij
      cases getElem?_set_same hr hi
      obtain ⟨pt, hpt, hholds, htimed⟩ := hd.requests i _ hr _ rfl
      obtain ⟨pt', hk, hm⟩ := HeartbeatPoint.step_cases hpt.symm hp
      rw [RequestState.decided, hk, HeartbeatPoint.decided_resume] at ha
      cases hm with
      | begin | storeFound | now | nowSeen | storeUpdated => cases ha
      | storeUnreadable | storeUnknown => cases ha; cases hsuccess
      | @committed store t =>
          cases ha
          rw [HeartbeatPoint.resume_commit] at hpt
          cases hpt
          refine ⟨store, t, rfl, htimed.1.1, List.mem_append_left _ htimed.2, ?_⟩
          -- the time is flushed now, or it was the value when the store was loaded
          rw [List.flatMap_append, Op.entries, List.flatMap_singleton, Entry.versions,
            hholds.lastSeen]
          exact (htimed.1.2.flushed t).mem
      | @broadcast store t =>
          refine hold hr ?_ hsuccess
          rw [RequestState.decided, hpt, HeartbeatPoint.decided_resume]
          exact ha
  | @answer j call answer hr =>
      by_cases hij : i = j
      · subst hij
        cases getElem?_set_same hr hi
        exact hold hr ha hsuccess
      · exact hold (getElem?_set_other hij hi) ha hsuccess
  | @abort j call program hr =>
      by_cases hij : i = j
      · subst hij
        cases getElem?_set_same hr hi
        cases ha
      · exact hold (getElem?_set_other hij hi) ha hsuccess

theorem Reachable.confirms (h : w.Reachable cat) : w.Confirms cat := by
  obtain ⟨clock, hr⟩ := h
  refine hr.invariant (I := Confirms cat) (fun i c state a hi => by simp [initial] at hi) ?_
  exact fun v _ _ hv ht hs => ht.step (Reachable.dated ⟨clock, hv⟩) hs

/-- A clock that is read is read by a request, and shows the time. -/
theorem readClock_of_step (hs : w.step cat l = some w') (hm : .readClock i t ∈ w'.log) :
    .readClock i t ∈ w.log ∨ t = w.db.clock ∧ i < w.requests.length := by
  cases step_cases hs with
  | tick | lock => exact Or.inl hm
  | arrive | answer | abort =>
      rcases List.mem_append.mp hm with hm | hm
      · exact Or.inl hm
      · cases List.mem_singleton.mp hm
  | @perform j call op k reply db hr hp =>
      rcases List.mem_append.mp hm with hm | hm
      · exact Or.inl hm
      · have ht := Op.stamps_eq hm t (List.mem_singleton_self t)
        have hij : i = j := by
          cases op with
          | sql s => cases s <;> simp [Op.entries] at hm
          | now => simp [Op.entries] at hm; exact hm.1
          | broadcast m => simp [Op.entries] at hm
        exact Or.inr ⟨ht, hij ▸ lt_of_getElem? hr⟩

theorem requests_length_le (hs : w.step cat l = some w') :
    w.requests.length ≤ w'.requests.length := by
  cases step_cases hs with
  | tick | lock => exact le_rfl
  | arrive => simp
  | perform | answer | abort => simp

theorem Reachable.readClock_lt (h : w.Reachable cat) (hm : .readClock i t ∈ w.log) :
    i < w.requests.length := by
  obtain ⟨clock, hr⟩ := h
  revert hm
  refine hr.invariant (I := fun v => .readClock i t ∈ v.log → i < v.requests.length)
    (fun hm => by simp [initial] at hm) fun v l v' _ ih hs hm => ?_
  rcases readClock_of_step hs hm with hold | ⟨_, hlt⟩
  · exact (ih hold).trans_le (requests_length_le hs)
  · exact hlt.trans_le (requests_length_le hs)

end World

/-! ## The loop -/

/-- The loop of a producer and the server. -/
structure Heartbeats where
  /-- It posts, or it sleeps. -/
  activity : Activity
  /-- The number of the last post. -/
  post : Nat
  world : World
  /-- The posts that have reached the server, each with the number of its request. -/
  routes : List (Nat × Nat)
  /-- How many posts have failed in a row.  No step reads it. -/
  failures : Nat
  /-- When the last post that was accepted was made.  No step reads it. -/
  accepted : Option Instant

/-- A step of the loop, of the network or of the server. -/
inductive HeartbeatLabel where
  /-- A step of the server; an arrival is a call of another client. -/
  | server (label : Label)
  /-- A post reaches the server. -/
  | deliver (post : Nat)
  /-- `raise_for_status` returns: the post is answered with a success. -/
  | accepted
  /-- `httpx.HTTPError`. -/
  | failed
  /-- `asyncio.sleep` returns. -/
  | wake

namespace Heartbeats

variable (s : Heartbeats)

/-- The start of `_heartbeat_loop`. -/
def initial (clock : Instant) : Heartbeats :=
  ⟨.attempting clock, 0, .initial clock, [], 0, none⟩

/-- The last post is answered with a success. -/
def succeeded : Bool :=
  match (s.routes.lookup s.post).bind fun i => s.world.requests[i]? with
  | some ⟨_, .answered answer⟩ => isSuccess answer.statusCode
  | _ => false

/-- A step of `_heartbeat_loop`. -/
def step (cat : Catalogue) (config : SimulatorConfig) (s : Heartbeats) :
    HeartbeatLabel → Option Heartbeats
  | .server label => (s.world.step cat label).map fun world => { s with world }
  | .deliver post =>
      if post ≤ s.post ∧ s.routes.lookup post = none then
        (s.world.step cat (.arrive (.heartbeat config.storeCode))).map fun world =>
          { s with world, routes := (post, s.world.requests.length) :: s.routes }
      else none
  | .accepted =>
      match s.activity with
      | .attempting since =>
          if s.succeeded then
            some { s with
              activity := .pausing s.world.db.clock
              failures := 0
              accepted := some since }
          else none
      | .pausing _ => none
  | .failed =>
      match s.activity with
      | .attempting _ => some { s with
          activity := .pausing s.world.db.clock
          failures := s.failures + 1 }
      | .pausing _ => none
  | .wake =>
      match s.activity with
      | .attempting _ => none
      | .pausing since =>
          let slept : Rat := (s.world.db.clock - since : Int) / microseconds
          if config.heartbeatInterval.le (.finite slept) then
            some { s with activity := .attempting s.world.db.clock, post := s.post + 1 }
          else none

/-- The loop as a periodic task. -/
def periodic : Periodic := ⟨s.activity, s.world.db.clock, s.failures, s.accepted⟩

/-- A step that keeps a pace: the clock stops at the end of what the loop does, and a post only
fails while fewer have failed in a row. -/
def keeps (pace : Pace) (s : Heartbeats) : HeartbeatLabel → Bool
  | .server (.tick t) => t ≤ s.activity.deadline pace
  | .failed => s.failures < pace.failures
  | _ => true

end Heartbeats

/-- The loop and the server as a transition system. -/
def heartbeats (cat : Catalogue) (config : SimulatorConfig) : System Heartbeats HeartbeatLabel :=
  ⟨Heartbeats.step cat config⟩

/-- The states of the runs that keep a pace. -/
def Heartbeats.ReachableWithin (cat : Catalogue) (config : SimulatorConfig) (pace : Pace)
    (s : Heartbeats) : Prop :=
  ∃ clock, (heartbeats cat config).ReachesWithin (fun s l => s.keeps pace l = true)
    (.initial clock) s

/-! ## The invariants -/

namespace Heartbeats

variable {config : SimulatorConfig} {pace : Pace} {s s' : Heartbeats} {l : HeartbeatLabel}

/-- What a step of the system is to the server. -/
theorem step_world (hs : s.step cat config l = some s') :
    s'.world = s.world ∨ ∃ x, s.world.step cat x = some s'.world := by
  cases l with
  | server x =>
      obtain ⟨w, hw, rfl⟩ := Option.map_eq_some_iff.mp hs
      exact Or.inr ⟨x, hw⟩
  | deliver post =>
      rw [step] at hs
      split at hs
      · obtain ⟨w, hw, rfl⟩ := Option.map_eq_some_iff.mp hs
        exact Or.inr ⟨_, hw⟩
      · cases hs
  | accepted =>
      rw [step] at hs
      split at hs
      · split at hs
        · cases hs; exact Or.inl rfl
        · cases hs
      · cases hs
  | failed =>
      rw [step] at hs
      split at hs
      · cases hs; exact Or.inl rfl
      · cases hs
  | wake =>
      simp only [step] at hs
      split at hs
      · cases hs
      · split at hs
        · cases hs; exact Or.inl rfl
        · cases hs

/-- A step that keeps the pace is one of the periodic task, or does not concern it. -/
theorem step_periodic (hs : s.step cat config l = some s') (hl : s.keeps pace l = true) :
    s'.periodic = s.periodic ∨ s.periodic.Step pace s'.periodic := by
  cases l with
  | server x =>
      obtain ⟨w, hw, rfl⟩ := Option.map_eq_some_iff.mp hs
      cases World.step_cases hw with
      | tick ht => exact Or.inr (.tick ht (of_decide_eq_true hl))
      | perform hr hp =>
          exact Or.inl (congrArg (fun t => (⟨s.activity, t, s.failures, s.accepted⟩ : Periodic))
            (World.perform_clock_eq hp))
      | arrive | lock | answer | abort => exact Or.inl rfl
  | deliver post =>
      rw [step] at hs
      split at hs
      · obtain ⟨w, hw, rfl⟩ := Option.map_eq_some_iff.mp hs
        cases hw
        exact Or.inl rfl
      · cases hs
  | accepted =>
      rw [step] at hs
      split at hs
      · next since hactivity =>
        split at hs
        · cases hs
          exact Or.inr (.succeed hactivity)
        · cases hs
      · cases hs
  | failed =>
      rw [step] at hs
      split at hs
      · next since hactivity =>
        cases hs
        exact Or.inr (.fail hactivity (of_decide_eq_true hl))
      · cases hs
  | wake =>
      simp only [step] at hs
      split at hs
      · cases hs
      · next since hactivity =>
        split at hs
        · cases hs
          exact Or.inr (.resume hactivity)
        · cases hs

/-- The loop keeps its pace. -/
theorem ReachableWithin.kept (hr : s.ReachableWithin cat config pace) : s.periodic.Kept pace := by
  obtain ⟨clock, hr⟩ := hr
  refine hr.invariant (I := fun t => t.periodic.Kept pace)
    ⟨Nat.zero_le _, le_add_of_nonneg_right pace.attempt_nonneg, nofun⟩
    fun t l t' _ ht hl hs => ?_
  rcases step_periodic hs hl with he | hstep
  · exact he ▸ ht
  · exact ht.step hstep

theorem ReachableWithin.world (hr : s.ReachableWithin cat config pace) :
    s.world.Reachable cat := by
  obtain ⟨clock, hr⟩ := hr
  refine ⟨clock, hr.invariant (I := fun t => (server cat).Reaches (.initial clock) t.world) .refl
    fun t l t' _ ht _ hs => ?_⟩
  rcases step_world hs with he | ⟨x, hx⟩
  · exact he ▸ ht
  · exact ht.tail hx

/-- The requests of the loop, and what an accepted post has done. -/
structure Linked (cat : Catalogue) (config : SimulatorConfig) (s : Heartbeats) : Prop where
  routed : ∀ post i, (post, i) ∈ s.routes → post ≤ s.post ∧
    ∃ state, s.world.requests[i]? = some ⟨.heartbeat config.storeCode, state⟩
  later : ∀ since, s.activity = .attempting since → since ≤ s.world.db.clock ∧
    ∀ i t, (s.post, i) ∈ s.routes → .readClock i t ∈ s.world.log → since ≤ t
  signed : ∀ since, s.accepted = some since → ∃ i store t, since ≤ t ∧
    .arrived i (.heartbeat config.storeCode) ∈ s.world.log ∧
    Stamped cat config.storeCode s.world.log i store t

/-- A step of the server. -/
theorem Linked.world {x : Label} {w : World} (h : s.Linked cat config)
    (hs : s.world.step cat x = some w) : Linked cat config { s with world := w } := by
  have hgrow : s.world.log ⊆ w.log := (World.log_grows (System.Reaches.refl.tail hs)).subset
  refine ⟨fun post i hm => ?_, fun since hactivity => ?_, fun since he => ?_⟩
  · obtain ⟨hle, state, hi⟩ := h.routed post i hm
    obtain ⟨state', hi', _⟩ := World.step_keeps hs hi
    exact ⟨hle, state', hi'⟩
  · obtain ⟨hle, hread⟩ := h.later since hactivity
    refine ⟨hle.trans (World.clock_le (System.Reaches.refl.tail hs)), fun i t hm ht => ?_⟩
    rcases World.readClock_of_step hs ht with hold | ⟨rfl, _⟩
    · exact hread i t hm hold
    · exact hle
  · obtain ⟨i, store, t, hle, harrived, hstamped⟩ := h.signed since he
    exact ⟨i, store, t, hle, hgrow harrived, hstamped.grow hgrow⟩

theorem Linked.step (hw : s.world.Reachable cat) (h : s.Linked cat config)
    (hs : s.step cat config l = some s') : s'.Linked cat config := by
  cases l with
  | server x =>
      obtain ⟨w, hx, rfl⟩ := Option.map_eq_some_iff.mp hs
      exact h.world hx
  | deliver post =>
      rw [Heartbeats.step] at hs
      split at hs
      swap
      · cases hs
      next hpost =>
      obtain ⟨w, hx, rfl⟩ := Option.map_eq_some_iff.mp hs
      have hnext := h.world hx
      have hreads : ∀ t, .readClock s.world.requests.length t ∉ w.log := by
        intro t ht
        rcases World.readClock_of_step hx ht with hold | ⟨_, hlt⟩
        · exact lt_irrefl _ (hw.readClock_lt hold)
        · exact lt_irrefl _ hlt
      cases hx
      refine ⟨fun n i hm => ?_, fun since hactivity => ⟨(hnext.later since hactivity).1,
        fun i t hm ht => ?_⟩, hnext.signed⟩
      · rcases List.mem_cons.mp hm with he | hm
        · obtain ⟨rfl, rfl⟩ := Prod.mk.inj he
          exact ⟨hpost.1, _, List.getElem?_concat_length⟩
        · exact hnext.routed n i hm
      · rcases List.mem_cons.mp hm with he | hm
        · obtain ⟨_, rfl⟩ := Prod.mk.inj he
          exact absurd ht (hreads t)
        · exact (hnext.later since hactivity).2 i t hm ht
  | accepted =>
      rw [Heartbeats.step] at hs
      split at hs
      swap
      · cases hs
      next since hactivity =>
      split at hs
      swap
      · cases hs
      next hsucceeded =>
      cases hs
      refine ⟨h.routed, nofun, fun since' he => ?_⟩
      cases he
      rw [succeeded] at hsucceeded
      split at hsucceeded
      swap
      · cases hsucceeded
      next call answer hanswer =>
      obtain ⟨i, hroute, hi⟩ := Option.bind_eq_some_iff.mp hanswer
      have hm : (s.post, i) ∈ s.routes := by
        obtain ⟨_, _, hroutes, _⟩ := List.lookup_eq_some_iff.mp hroute
        rw [hroutes]
        exact List.mem_append_right _ List.mem_cons_self
      obtain ⟨_, state, hi'⟩ := h.routed s.post i hm
      rw [hi] at hi'
      cases hi'
      obtain ⟨store, t, rfl, hstamped⟩ := hw.confirms i _ _ _ hi rfl hsucceeded
      exact ⟨i, store, t, (h.later since hactivity).2 i t hm hstamped.readClock,
        (hw.listed.arrived i _).mpr ⟨_, hi⟩, hstamped⟩
  | failed =>
      rw [Heartbeats.step] at hs
      split at hs
      · cases hs
        exact ⟨h.routed, nofun, h.signed⟩
      · cases hs
  | wake =>
      simp only [Heartbeats.step] at hs
      split at hs
      · cases hs
      · split at hs
        swap
        · cases hs
        cases hs
        refine ⟨fun n i hm => ?_, fun since hactivity => ?_, h.signed⟩
        · obtain ⟨hle, hi⟩ := h.routed n i hm
          exact ⟨hle.trans (Nat.le_succ _), hi⟩
        · cases hactivity
          refine ⟨le_rfl, fun i t hm _ => absurd (h.routed _ i hm).1 ?_⟩
          exact Nat.not_succ_le_self _

theorem ReachableWithin.linked (hr : s.ReachableWithin cat config pace) : s.Linked cat config := by
  obtain ⟨clock, hr⟩ := hr
  refine hr.invariant (I := Linked cat config)
    ⟨fun _ _ hm => (List.not_mem_nil hm).elim, fun since hactivity => ?_, nofun⟩
    fun t l t' ht hlinked _ hs => hlinked.step (ReachableWithin.world ⟨clock, ht⟩) hs
  cases hactivity
  exact ⟨le_rfl, fun _ _ hm => (List.not_mem_nil hm).elim⟩

end Heartbeats

/-- While a producer keeps the pace, from its first accepted heartbeat on its store has given a
sign of life no longer ago than the bound of the pace.  So the store is online at every moment
when the bound is within the threshold and no two writers of the store overlap. -/
theorem heartbeats_keep_online (settings : Settings) {config : SimulatorConfig} {pace : Pace}
    {store : Store} {s : Heartbeats} (hstore : cat.storeByCode config.storeCode = some store)
    (hr : s.ReachableWithin cat config pace) (haccepted : s.accepted ≠ none) :
    (∃ t, s.world.Sign cat store.id t ∧ s.world.db.clock - t ≤ pace.bound) ∧
    (pace.bound ≤ settings.threshold → (∀ i j u t, ¬ s.world.Overlap store.id i j u t) →
      s.world.online settings store.id = .ok true) := by
  obtain ⟨since, hsince⟩ := Option.ne_none_iff_exists'.mp haccepted
  obtain ⟨i, store', t, hle, harrived, hstamped⟩ := hr.linked.signed since hsince
  obtain rfl := Option.some.inj (hstore.symm.trans hstamped.known)
  have hage : s.world.db.clock - t ≤ pace.bound :=
    (Int.sub_le_sub_left hle _).trans (hr.kept.age_le (p := s.periodic) hsince)
  have hsign : s.world.Sign cat store.id t := by
    refine hr.world.mem_seen.mp (Db.mem_seen.mpr ?_)
    rw [hr.world.tables.lastSeen]
    exact hstamped.seen
  refine ⟨⟨t, hsign, hage⟩, fun hbound hno => ?_⟩
  obtain ⟨u, hu, hlater⟩ := hr.world.le_lastSeenAt hno hsign
  exact World.online_iff.mpr
    ⟨u, hu, (Int.sub_le_sub_left hlater _).trans (hage.trans hbound)⟩

namespace Sample

/-- A post takes five seconds and a sleep of five little more, and one post fails in a row. -/
def heartbeatPace : Pace := ⟨5000000, 5500000, 1, by omega, by omega⟩

/-- A heartbeat is accepted within two seconds; the next one is lost, and it is time for a third. -/
def heartbeatLabels : List HeartbeatLabel :=
  [.deliver 0] ++ List.replicate 7 (.server (.run 0)) ++
  [.server (.tick 2000000), .accepted, .server (.tick 7000000), .wake, .server (.tick 12000000),
    .failed, .server (.tick 17500000), .wake, .server (.tick 22500000)]

end Sample

/-- With a threshold of thirty seconds the store is online while the third heartbeat is late. -/
theorem heartbeats_keep_online_after_loss : ∃ s,
    System.runWithin (fun (s : Heartbeats) l => s.keeps Sample.heartbeatPace l = true)
      (heartbeats Sample.catalogue Sample.simulatorConfig) (.initial 0) Sample.heartbeatLabels =
        some s ∧
    s.world.db.clock = 22500000 ∧ s.failures = 1 ∧
    s.world.log.countP (fun e => !e.versions.isEmpty) = 1 ∧
    s.world.online ⟨30, by decide⟩ 1 = .ok true := by
  have hrun : ((System.runWithin (fun (s : Heartbeats) l => s.keeps Sample.heartbeatPace l = true)
      (heartbeats Sample.catalogue Sample.simulatorConfig) (.initial 0)
        Sample.heartbeatLabels).map fun s =>
      (s.world.db.clock, s.failures, s.accepted,
        s.world.log.countP fun e => !e.versions.isEmpty)) = some (22500000, 1, some 0, 1) := by
    decide +kernel
  obtain ⟨s, hs, he⟩ := Option.map_eq_some_iff.mp hrun
  simp only [Prod.mk.injEq] at he
  obtain ⟨hclock, hfailures, haccepted, hcommits⟩ := he
  refine ⟨s, hs, hclock, hfailures, hcommits, ?_⟩
  have hr : s.ReachableWithin Sample.catalogue Sample.simulatorConfig Sample.heartbeatPace :=
    ⟨0, System.runWithin_reaches hs⟩
  have hstore : Sample.catalogue.storeByCode Sample.simulatorConfig.storeCode =
      some ⟨1, "POA-CENTRO"⟩ := rfl
  obtain ⟨_, honline⟩ := heartbeats_keep_online ⟨30, by decide⟩ hstore hr
    (by rw [haccepted]; exact Option.some_ne_none _)
  refine honline (by decide) fun i j u t hoverlap => ?_
  -- two writers would need two commits
  obtain ⟨call, rows, rows', _, hsub⟩ := hoverlap
  have htwo := hsub.countP_le (p := fun e => !e.versions.isEmpty)
  rw [hcommits] at htwo
  cases call with
  | event | heartbeat => exact absurd htwo (by simp [Call.stamp, Entry.versions])

end StorePulse
