import StorePulse.Harness.FinalizeRuns

/-!
# The write barrier of the smoke harness

`finalize_verification_run` stops the simulators and the backend, cleans the
database up, and starts the backend again.  `WriteBarrier` is what it is for: no
cleanup under a live writer, no backend left down, and no success without the
final state.

The first and the last hold of every run (`GuardedRun`).  The second does not.
`backend_stopped` is set when `stop_backend` has returned, so a `stop` that took the
backend down is not undone when the query after it fails.
`finalize_keeps_writeBarrier_iff` gives the runs in which the barrier holds.
-/

namespace StorePulse

open Program

/-! ## The barrier -/

/-- A `stop` or `kill` has taken the backend from running to stopped. -/
def takesBackendDown (p : HarnessStep) : Prop :=
  p.op.kind = .stopping ∧ p.before.running backendService ≠ [] ∧
    p.after.running backendService = []

/-- The simulators and then the backend have been observed not running. -/
def WritersObservedIdle (trace : List HarnessStep) : Prop :=
  ∃ sims backend, [sims, backend].Sublist trace ∧ observesIdle simulatorServices sims ∧
    observesIdle [backendService] backend

/-- What a run does before its cleanup, and before it returns. -/
structure GuardedRun (casts : Casts) (run : VerificationRun) (trace : List HarnessStep)
    (outcome : Except HarnessException Unit) (h' : DockerHost) : Prop where
  /-- The cleanup comes after all writers were observed not running. -/
  observed : ComesAfter (fun p => p.op.kind = .cleaning) WritersObservedIdle trace
  /-- No writer runs when the cleanup begins. -/
  quiescent : ∀ p ∈ trace, p.op.kind = .cleaning →
    p.before.Idle (simulatorServices ++ [backendService])
  /-- Success comes after a start, with no simulator running and the database as it was. -/
  verified : outcome = .ok () → ∃ up probe sims rows stores,
    [up, probe, sims, rows, stores].Sublist trace ∧ succeeds .up up ∧ succeeds .probe probe ∧
      observesIdle simulatorServices sims ∧ findsNoRow run rows ∧
      findsNoMismatch casts run stores
  /-- No simulator runs after success. -/
  idle : outcome = .ok () → h'.Idle simulatorServices

/-- What a run of `finalize_verification_run` must do. -/
structure WriteBarrier (casts : Casts) (run : VerificationRun) (trace : List HarnessStep)
    (outcome : Except HarnessException Unit) (h' : DockerHost) : Prop
    extends GuardedRun casts run trace outcome h' where
  /-- A backend that the harness took down is started again. -/
  restarted : LeadsTo takesBackendDown (fun p => p.op.kind = .starting) trace

/-! ## When it holds -/

/-- The result of a `stop`, `kill` or `ps` of the backend. -/
def backendResult : HarnessStep → Option CommandResult
  | ⟨_, .compose (.ps _ services), result, _⟩ =>
      if services = [backendService] then some result else none
  | ⟨_, .compose (.stop _ services), result, _⟩ =>
      if services = [backendService] then some result else none
  | ⟨_, .compose (.kill _ services), result, _⟩ =>
      if services = [backendService] then some result else none
  | _ => none

/-- The results of the commands of `stop_backend`. -/
def backendResults (trace : List HarnessStep) : List CommandResult :=
  trace.filterMap backendResult

/-- `stop`, or else `kill`, succeeded, and the queries after them did, the last of them
listing nothing. -/
def StopConfirmed : List CommandResult → Prop
  | [stop, ps] => stop.returncode = 0 ∧ ps.returncode = 0 ∧ serviceIds ps.stdout = []
  | [_, ps, kill, ps'] => ps.returncode = 0 ∧ kill.returncode = 0 ∧ ps'.returncode = 0 ∧
      serviceIds ps'.stdout = []
  | _ => False

variable {reprs : Reprs} {casts : Casts} {h h' : DockerHost} {trace : List HarnessStep}
  {outcome : Except HarnessException Unit}

/-! ## Stopping -/

/-- A run of `_stop_services` that returns has observed that the services do not run. -/
theorem StopTrace.observed {services : List String} {profile : Option String}
    (ht : StopTrace services profile trace (.ok ()) h) :
    (∃ p ∈ trace, observesIdle services p) ∧ h.Idle services := by
  cases ht with
  | @stopped h₁ h₂ h₃ _ stop ps hstop hps hnone hbefore hafter =>
      exact ⟨⟨⟨h₃, .compose (.ps profile services), ps, h⟩, by simp, rfl, hps, hnone, hbefore⟩,
        hafter⟩
  | @killed h₁ h₂ h₃ h₄ h₅ h₆ h₇ _ stop ps kill ps' hps hkill hps' hnone hbefore hafter =>
      exact ⟨⟨⟨h₇, .compose (.ps profile services), ps', h⟩, by simp, rfl, hps', hnone, hbefore⟩,
        hafter⟩

theorem backendResults_append (xs ys : List HarnessStep) :
    backendResults (xs ++ ys) = backendResults xs ++ backendResults ys := List.filterMap_append

/-- Stopping the simulators says nothing about the backend. -/
theorem StopTrace.no_backendResults
    (ht : StopTrace simulatorServices (some "demo") trace outcome h) :
    backendResults trace = [] := by
  have hother : simulatorServices ≠ [backendService] := by decide
  cases ht <;> simp [backendResults, backendResult, hother]

/-- `stop_backend` returns exactly when its commands confirm it. -/
theorem StopTrace.stopConfirmed_iff (ht : StopTrace [backendService] none trace outcome h) :
    StopConfirmed (backendResults trace) ↔ outcome = .ok () := by
  cases ht with
  | unobserved hps => simp [backendResults, backendResult, StopConfirmed, hps]
  | stopped hstop hps hnone =>
      simp [backendResults, backendResult, StopConfirmed, hstop, hps, hnone]
  | killUnobserved hps hps' => simp [backendResults, backendResult, StopConfirmed, hps']
  | killed hps hkill hps' hnone =>
      simp [backendResults, backendResult, StopConfirmed, hps, hkill, hps', hnone]
  | unstopped hps hps' hleft =>
      simp only [not_and] at hleft
      simpa [backendResults, backendResult, StopConfirmed, hps, hps'] using hleft

/-! ## What a command leaves as it is -/

/-- Only `up` starts containers, and those of the backend. -/
theorem idle_of_answers {services : List String} {op : HarnessOp} {reply : op.Reply}
    (ha : HarnessAnswers casts h op reply h')
    (hstart : op.kind = .starting → backendService ∉ services) (hidle : h.Idle services) :
    h'.Idle services := by
  intro s hs
  have hfewer : h.Fewer h' → h'.running s = [] := fun hf =>
    List.sublist_nil.mp (hidle s hs ▸ hf s)
  have hsame : h'.running = h.running → h'.running s = [] := fun he => he ▸ hidle s hs
  cases op with
  | compose command =>
      obtain ⟨hanswer, -⟩ := ha
      cases command with
      | ps profile services' => exact hsame hanswer.1
      | stop profile services' => exact hfewer hanswer.1
      | kill profile services' => exact hfewer hanswer.1
      | psql sql dbUser dbName scalar => exact hsame hanswer.1
      | probe => exact hsame hanswer.1
      | logs => exact hsame hanswer.1
      | up =>
          have hother : s ≠ backendService := fun he => hstart rfl (he ▸ hs)
          exact (hanswer.2 s hother).trans (hidle s hs)
  | monotonic => exact hsame (congrArg DockerHost.running ha.2)
  | sleep milliseconds => exact hsame ha.1
  | print line => exact hsame (congrArg DockerHost.running (show h' = h from ha))

/-- Services that do not run do not run in a run that does not start them. -/
theorem idle_of_runs {α : Type} {m : Harness α} {outcome : Except HarnessException α}
    {services : List String} (hr : HarnessRuns casts m h trace outcome h')
    (hstart : ∀ p ∈ trace, p.op.kind = .starting → backendService ∉ services)
    (hidle : h.Idle services) : (∀ p ∈ trace, p.before.Idle services) ∧ h'.Idle services := by
  have hanswers := hr.answers
  refine hr.invariant (fun {s s'} hs hdrift t ht => ?_)
    (fun p hp => idle_of_answers (hanswers p hp) (hstart p hp)) hidle
  exact List.sublist_nil.mp (hs t ht ▸ hdrift.fewer t)

/-- Stopping the simulators takes no backend down. -/
theorem not_takesBackendDown_of_simulators
    (hr : HarnessRuns casts stopSimulators h trace outcome h') :
    ∀ p ∈ trace, ¬ takesBackendDown p := by
  rintro p hp ⟨-, hup, hdown⟩
  have hother : backendService ∉ simulatorServices := by decide
  have hanswer := hr.answers p hp
  obtain ⟨before, op, reply, after⟩ := p
  have hsame : after.running backendService = before.running backendService := by
    rcases (stopTrace_of_runs hr).ops _ hp with rfl | rfl | rfl
    · exact hanswer.1.2.2 _ hother
    · exact hanswer.1.2.2 _ hother
    · exact congrFun hanswer.1.1 _
  exact hup (hsame ▸ hdown)

/-! ## The barrier in each phase -/

/-- Stopping neither cleans up nor starts anything. -/
theorem StopTrace.kinds {services : List String} {profile : Option String}
    (ht : StopTrace services profile trace outcome h) :
    ∀ p ∈ trace, p.op.kind ≠ .cleaning ∧ p.op.kind ≠ .starting := by
  intro p hp
  rcases ht.ops p hp with hop | hop | hop
  · simp [hop, HarnessOp.kind]
  · simp [hop, HarnessOp.kind]
  · rw [hop, HarnessOp.kind]
    split <;> simp

theorem backendResults_of_kinds (hk : ∀ p ∈ trace, p.op.kind ≠ .stopping ∧ p.op.kind ≠ .watching) :
    backendResults trace = [] := by
  refine List.filterMap_eq_nil_iff.mpr fun p hp => ?_
  obtain ⟨hstopping, hwatching⟩ := hk p hp
  obtain ⟨before, op, reply, after⟩ := p
  cases op with
  | compose command =>
      cases command with
      | ps profile services =>
          have hother : services ≠ [backendService] := by
            rintro rfl
            exact hwatching (by simp [HarnessOp.kind])
          exact if_neg hother
      | stop profile services => exact absurd rfl hstopping
      | kill profile services => exact absurd rfl hstopping
      | psql sql dbUser dbName scalar => rfl
      | probe => rfl
      | logs => rfl
      | up => rfl
  | monotonic => rfl
  | sleep milliseconds => rfl
  | print line => rfl

variable {run : VerificationRun} {turns : Nat} {t₁ t₂ t₃ t₄ rest : List HarnessStep}
  {h₁ h₂ h₃ : DockerHost} {cleaned started : Except HarnessException Unit}

theorem kinds_cleanUpBehindBarrier
    (hclean : HarnessRuns casts (cleanUpBehindBarrier reprs run) h t₃ cleaned h') :
    ∀ p ∈ t₃, p.op.kind = .cleaning ∨ p.op.kind = .other :=
  hclean.uses (OnlyUses.bind (.effect (Or.inr rfl)) fun _ =>
    .bind (onlyUses_cleanupVerificationData run) fun _ => .effect (Or.inr rfl))

theorem kinds_startAndAnnounce
    (hstart : HarnessRuns casts (startAndAnnounce turns) h t₄ started h') :
    ∀ p ∈ t₄, p.op.kind = .starting ∨ p.op.kind = .other :=
  hstart.uses (OnlyUses.bind (onlyUses_startBackend turns) fun _ => .effect (Or.inr rfl))

/-- The restart runs `up`, whatever comes of it. -/
theorem starting_of_startAndAnnounce
    (hstart : HarnessRuns casts (startAndAnnounce turns) h t₄ started h') :
    ∃ p ∈ t₄, p.op.kind = .starting := by
  rcases runs_exceptBind.mp hstart with ⟨e, hm, -⟩ | ⟨first, _, h₁, rest, hm, -, rfl⟩
  · exact starting_of_runs hm
  · obtain ⟨p, hp, hkind⟩ := starting_of_runs hm
    exact ⟨p, List.mem_append_left _ hp, hkind⟩

/-- A restart that succeeds has probed the backend after `up`. -/
theorem started_of_startAndAnnounce
    (hstart : HarnessRuns casts (startAndAnnounce turns) h t₄ (.ok ()) h') :
    ∃ up probe, [up, probe].Sublist t₄ ∧ succeeds .up up ∧ succeeds .probe probe := by
  rcases runs_exceptBind.mp hstart with ⟨e, -, he⟩ | ⟨first, _, h₁, rest, hm, -, rfl⟩
  · cases he
  obtain ⟨up, probe, hsub, hup, hprobe⟩ := started_of_runs hm
  exact ⟨up, probe, hsub.trans (List.sublist_append_left _ _), hup, hprobe⟩

/-- Simulators that do not run do not run after any function of the harness. -/
theorem simulators_idle_of_runs {α : Type} {m : Harness α} {outcome : Except HarnessException α}
    (hr : HarnessRuns casts m h trace outcome h') (hidle : h.Idle simulatorServices) :
    h'.Idle simulatorServices := by
  have hother : backendService ∉ simulatorServices := by decide
  exact (idle_of_runs hr (fun _ _ _ => hother) hidle).2

/-- Behind both stops nothing writes. -/
theorem idle_of_stopped (hsims : HarnessRuns casts stopSimulators h t₁ (.ok ()) h₁)
    (hstop : HarnessRuns casts stopBackend h₁ t₂ (.ok ()) h₂) :
    h₂.Idle (simulatorServices ++ [backendService]) := by
  have hkept := simulators_idle_of_runs hstop (stopTrace_of_runs hsims).observed.2
  intro s hs
  rcases List.mem_append.mp hs with hs | hs
  · exact hkept s hs
  · exact (stopTrace_of_runs hstop).observed.2 s hs

/-- Both stops have observed what they stopped. -/
theorem writersObservedIdle (hsims : HarnessRuns casts stopSimulators h t₁ (.ok ()) h₁)
    (hstop : HarnessRuns casts stopBackend h₁ t₂ (.ok ()) h₂) (zs : List HarnessStep) :
    WritersObservedIdle (t₁ ++ t₂ ++ zs) := by
  obtain ⟨⟨sims, hmem, hsim⟩, -⟩ := (stopTrace_of_runs hsims).observed
  obtain ⟨⟨backend, hmem', hbackend⟩, -⟩ := (stopTrace_of_runs hstop).observed
  have hsub : [sims, backend].Sublist (t₁ ++ t₂) :=
    (List.singleton_sublist.mpr hmem).append (List.singleton_sublist.mpr hmem')
  exact ⟨sims, backend, hsub.trans (List.sublist_append_left _ _), hsim, hbackend⟩

/-- Once `stop_backend` has returned, the barrier holds if what success promises holds. -/
theorem WriteBarrier.of_stopped (hsims : HarnessRuns casts stopSimulators h t₁ (.ok ()) h₁)
    (hstop : HarnessRuns casts stopBackend h₁ t₂ (.ok ()) h₂)
    (hclean : HarnessRuns casts (cleanUpBehindBarrier reprs run) h₂ t₃ cleaned h₃)
    (hrest : ∀ p ∈ rest, p.op.kind = .starting ∨ p.op.kind = .other)
    (hstarting : ∃ p ∈ rest, p.op.kind = .starting)
    (hverified : outcome = .ok () → ∃ up probe sims rows stores,
      [up, probe, sims, rows, stores].Sublist rest ∧ succeeds .up up ∧ succeeds .probe probe ∧
        observesIdle simulatorServices sims ∧ findsNoRow run rows ∧
        findsNoMismatch casts run stores)
    (hidle : outcome = .ok () → h'.Idle simulatorServices) :
    WriteBarrier casts run (t₁ ++ t₂ ++ (t₃ ++ rest)) outcome h' := by
  have hstopping : ∀ p ∈ t₁ ++ t₂, p.op.kind ≠ .cleaning := by
    intro p hp
    rcases List.mem_append.mp hp with hp | hp
    · exact ((stopTrace_of_runs hsims).kinds p hp).1
    · exact ((stopTrace_of_runs hstop).kinds p hp).1
  have hcleaning := kinds_cleanUpBehindBarrier hclean
  have hkinds : ∀ p ∈ t₃, p.op.kind ≠ .starting := by
    intro p hp hk
    have := hcleaning p hp
    simp [hk] at this
  refine ⟨⟨comesAfter_append hstopping (writersObservedIdle hsims hstop), fun p hp hk => ?_,
    fun hok => ?_, hidle⟩, leadsTo_append ?_ ?_⟩
  · rcases List.mem_append.mp hp with hp | hp
    · exact absurd hk (hstopping p hp)
    rcases List.mem_append.mp hp with hp | hp
    · exact (idle_of_runs hclean (fun p hp hk => absurd hk (hkinds p hp))
        (idle_of_stopped hsims hstop)).1 p hp
    · have := hrest p hp
      simp [hk] at this
  · obtain ⟨up, probe, sims, rows, stores, hsub, hshown⟩ := hverified hok
    exact ⟨up, probe, sims, rows, stores,
      hsub.trans ((List.sublist_append_right _ _).trans (List.sublist_append_right _ _)), hshown⟩
  · rintro p hp ⟨hk, -, -⟩
    rcases List.mem_append.mp hp with hp | hp
    · have := hcleaning p hp
      simp [hk] at this
    · have := hrest p hp
      simp [hk] at this
  · obtain ⟨p, hp, hk⟩ := hstarting
    exact ⟨p, List.mem_append_right _ hp, hk⟩

/-- What follows `stop_backend` adds no result of its commands. -/
theorem stopConfirmed_of_stopped (hsims : HarnessRuns casts stopSimulators h t₁ (.ok ()) h₁)
    (hstop : HarnessRuns casts stopBackend h₁ t₂ (.ok ()) h₂)
    (hclean : HarnessRuns casts (cleanUpBehindBarrier reprs run) h₂ t₃ cleaned h₃)
    (hrest : ∀ p ∈ rest, p.op.kind = .starting ∨ p.op.kind = .other) :
    StopConfirmed (backendResults (t₁ ++ t₂ ++ (t₃ ++ rest))) := by
  have hafter : backendResults (t₃ ++ rest) = [] := by
    refine backendResults_of_kinds fun p hp => ?_
    rcases List.mem_append.mp hp with hp | hp
    · rcases kinds_cleanUpBehindBarrier hclean p hp with hk | hk
      · simp [hk]
      · simp [hk]
    · rcases hrest p hp with hk | hk
      · simp [hk]
      · simp [hk]
  rw [backendResults_append, backendResults_append, hafter, List.append_nil,
    (stopTrace_of_runs hsims).no_backendResults, List.nil_append]
  exact (stopTrace_of_runs hstop).stopConfirmed_iff.mpr rfl

/-- A run that stops before the cleanup keeps the barrier if it takes no backend down, and
otherwise does not. -/
theorem writeBarrier_of_unstopped
    (hkinds : ∀ p ∈ trace, p.op.kind ≠ .cleaning ∧ p.op.kind ≠ .starting)
    (houtcome : outcome ≠ .ok ()) : GuardedRun casts run trace outcome h' ∧
      (WriteBarrier casts run trace outcome h' ↔ ∀ p ∈ trace, ¬ takesBackendDown p) := by
  have hguarded : GuardedRun casts run trace outcome h' :=
    ⟨comesAfter_of_none fun p hp => (hkinds p hp).1, fun p hp hk => absurd hk (hkinds p hp).1,
      fun hok => absurd hok houtcome, fun hok => absurd hok houtcome⟩
  refine ⟨hguarded, fun hbarrier => ?_, fun hnone => ⟨hguarded, leadsTo_of_none hnone⟩⟩
  exact hbarrier.restarted.none fun p hp => (hkinds p hp).2

/-! ## A host with a backend -/

/-- A host on which no other containers run than these, of the backend. -/
def DockerHost.onlyBackend (ids : List ContainerId) : DockerHost :=
  ⟨fun s => if s = backendService then ids else [], ⟨[], [], []⟩, 0⟩

/-- The simulators are found stopped. -/
theorem HarnessRuns.stopSimulators_onlyBackend (casts : Casts) (ids : List ContainerId) :
    HarnessRuns casts stopSimulators (.onlyBackend ids)
      [⟨.onlyBackend ids, .compose (.stop (some "demo") simulatorServices), ⟨"", "", 0⟩,
          .onlyBackend ids⟩,
        ⟨.onlyBackend ids, .compose (.ps (some "demo") simulatorServices), ⟨psOutput [], "", 0⟩,
          .onlyBackend ids⟩]
      (.ok ()) (.onlyBackend ids) := by
  have hnone : simulatorServices.flatMap (DockerHost.onlyBackend ids).running = [] := by
    refine List.flatMap_eq_nil_iff.mpr fun s hs => if_neg ?_
    rintro rfl
    exact absurd hs (by decide)
  refine .stopServices_stopped ⟨⟨fun _ => .refl _, rfl, fun _ _ => rfl⟩, le_rfl⟩
    ⟨⟨rfl, rfl, fun _ => ?_⟩, le_rfl⟩ rfl rfl (serviceIds_psOutput [])
  rw [hnone]

/-- Stopping the backend leaves the other services as they are. -/
theorem onlyBackend_stop_answers (casts : Casts) (ids : List ContainerId) :
    HarnessAnswers casts (.onlyBackend ids) (.compose (.stop none [backendService])) ⟨"", "", 0⟩
      (.onlyBackend []) := by
  refine ⟨⟨fun s => ?_, rfl, fun s hs => ?_⟩, le_rfl⟩
  · simp only [DockerHost.onlyBackend]
    split
    · exact List.nil_sublist _
    · exact List.nil_sublist _
  · have hother : s ≠ backendService := fun he => hs (he ▸ List.mem_singleton_self _)
    simp [DockerHost.onlyBackend, hother]

/-! ## Every run -/

/-- `finalize_verification_run` guards its cleanup and its success in every run.  It keeps the
whole write barrier exactly in the runs in which no command of it takes the backend down, or its
commands confirm that the backend is stopped. -/
theorem finalize_keeps_writeBarrier_iff
    (hr : HarnessRuns casts (finalizeVerificationRun reprs run turns) h trace outcome h') :
    GuardedRun casts run trace outcome h' ∧ (WriteBarrier casts run trace outcome h' ↔
      (∀ p ∈ trace, ¬ takesBackendDown p) ∨ StopConfirmed (backendResults trace)) := by
  have hconfirmed : WriteBarrier casts run trace outcome h' →
      StopConfirmed (backendResults trace) → GuardedRun casts run trace outcome h' ∧
        (WriteBarrier casts run trace outcome h' ↔
          (∀ p ∈ trace, ¬ takesBackendDown p) ∨ StopConfirmed (backendResults trace)) :=
    fun hbarrier hstop => ⟨hbarrier.toGuardedRun, iff_of_true hbarrier (Or.inr hstop)⟩
  cases finalizeRun_of_runs hr with
  | simulatorsLeft hsims houtcome =>
      have hnone := not_takesBackendDown_of_simulators hsims
      obtain ⟨hguarded, hiff⟩ :=
        writeBarrier_of_unstopped (stopTrace_of_runs hsims).kinds houtcome
      exact ⟨hguarded, iff_of_true (hiff.mpr hnone) (Or.inl hnone)⟩
  | @backendLeft t₁ t₂ h₁ _ e outcome hsims hstop houtcome =>
      have hkinds : ∀ p ∈ t₁ ++ t₂, p.op.kind ≠ .cleaning ∧ p.op.kind ≠ .starting := by
        intro p hp
        rcases List.mem_append.mp hp with hp | hp
        · exact (stopTrace_of_runs hsims).kinds p hp
        · exact (stopTrace_of_runs hstop).kinds p hp
      have hunconfirmed : ¬ StopConfirmed (backendResults (t₁ ++ t₂)) := by
        rw [backendResults_append, (stopTrace_of_runs hsims).no_backendResults, List.nil_append,
          (stopTrace_of_runs hstop).stopConfirmed_iff]
        exact nofun
      rw [or_iff_left hunconfirmed]
      exact writeBarrier_of_unstopped hkinds houtcome
  | restartFailed hsims hstop hclean hstart houtcome =>
      have hrest := kinds_startAndAnnounce hstart
      exact hconfirmed (.of_stopped hsims hstop hclean hrest (starting_of_startAndAnnounce hstart)
        (fun hok => absurd hok houtcome) fun hok => absurd hok houtcome)
        (stopConfirmed_of_stopped hsims hstop hclean hrest)
  | @restarted t₁ t₂ t₃ t₄ t₅ h₁ h₂ h₃ h₄ _ cleaned verified outcome hsims hstop hclean hstart
      hverify houtcome =>
      have hverifyKinds : ∀ p ∈ t₅, p.op.kind = .starting ∨ p.op.kind = .other :=
        hverify.uses (onlyUses_verifyAfterRestart run)
      have hrest : ∀ p ∈ t₄ ++ t₅, p.op.kind = .starting ∨ p.op.kind = .other := by
        intro p hp
        rcases List.mem_append.mp hp with hp | hp
        · exact kinds_startAndAnnounce hstart p hp
        · exact hverifyKinds p hp
      obtain ⟨p, hp, hk⟩ := starting_of_startAndAnnounce hstart
      refine hconfirmed (.of_stopped hsims hstop hclean hrest
        ⟨p, List.mem_append_left _ hp, hk⟩ (fun hok => ?_) fun hok => ?_)
        (stopConfirmed_of_stopped hsims hstop hclean hrest)
      · obtain rfl := (houtcome.mp hok).2
        obtain ⟨up, probe, hsub, hup, hprobe⟩ := started_of_startAndAnnounce hstart
        obtain ⟨sims, rows, stores, hsub', hshown⟩ := verified_of_runs hverify
        exact ⟨up, probe, sims, rows, stores, hsub.append hsub', hup, hprobe, hshown⟩
      · -- the simulators were stopped first, and only the backend was started
        have hidle := (stopTrace_of_runs hsims).observed.2
        have hidle := simulators_idle_of_runs hclean (simulators_idle_of_runs hstop hidle)
        exact simulators_idle_of_runs hverify (simulators_idle_of_runs hstart hidle)

/-- `stop` takes the backend down, the query after it fails, and the backend is left down. -/
theorem finalize_leaves_backend_down :
    let casts : Casts := ⟨fun _ => none, fun _ => none⟩
    let reprs : Reprs := ⟨fun s => "'" ++ s ++ "'", fun _ => ""⟩
    let run : VerificationRun := ⟨"verify-abc123", [], "storepulse", "storepulse"⟩
    let up : DockerHost := .onlyBackend [⟨"4f1c", by decide, by decide⟩]
    let down : DockerHost := .onlyBackend []
    let stop : HarnessStep := ⟨up, .compose (.stop none [backendService]), ⟨"", "", 0⟩, down⟩
    ∃ trace e, HarnessRuns casts (finalizeVerificationRun reprs run 60) up trace (.error e) down ∧
      stop ∈ trace ∧ takesBackendDown stop ∧ (∀ p ∈ trace, p.op.kind ≠ .starting) ∧
      ¬ WriteBarrier casts run trace (.error e) down := by
  intro casts reprs run up down stop
  have hsims := HarnessRuns.stopSimulators_onlyBackend casts [⟨"4f1c", by decide, by decide⟩]
  have hstop : HarnessRuns casts stopBackend up
      [stop, ⟨down, .compose (.ps none [backendService]),
        ⟨"", "Cannot connect to the Docker daemon", 1⟩, down⟩] (.error _) down :=
    .stopServices_unobserved (onlyBackend_stop_answers casts _)
      ⟨⟨rfl, rfl, nofun⟩, le_rfl⟩ (by decide)
  have hunstarted := List.forall_mem_append.mpr
    ⟨fun p hp => ((stopTrace_of_runs hsims).kinds p hp).2,
      fun p hp => ((stopTrace_of_runs hstop).kinds p hp).2⟩
  have hdown : takesBackendDown stop := ⟨rfl, nofun, rfl⟩
  refine ⟨_, _, hsims.finalize_backendLeft hstop, ?_, hdown, hunstarted, fun hbarrier => ?_⟩
  · exact List.mem_append_right _ List.mem_cons_self
  · exact hbarrier.restarted.none hunstarted stop (List.mem_append_right _ List.mem_cons_self) hdown

/-- A run in which the cleanup fails, and the restart as well. -/
theorem finalize_keeps_writeBarrier_when_cleanup_fails :
    let casts : Casts := ⟨fun _ => none, fun _ => none⟩
    let reprs : Reprs := ⟨fun s => "'" ++ s ++ "'", fun _ => ""⟩
    let run : VerificationRun := ⟨"verify-abc123", [], "storepulse", "storepulse"⟩
    let up : DockerHost := .onlyBackend [⟨"4f1c", by decide, by decide⟩]
    let down : DockerHost := .onlyBackend []
    let stop : HarnessStep := ⟨up, .compose (.stop none [backendService]), ⟨"", "", 0⟩, down⟩
    ∃ trace e, HarnessRuns casts (finalizeVerificationRun reprs run 60) up trace (.error e) up ∧
      stop ∈ trace ∧ takesBackendDown stop ∧ WriteBarrier casts run trace (.error e) up := by
  intro casts reprs run up down stop
  have hsims := HarnessRuns.stopSimulators_onlyBackend casts [⟨"4f1c", by decide, by decide⟩]
  have hstop : HarnessRuns casts stopBackend up
      [stop, ⟨down, .compose (.ps none [backendService]), ⟨psOutput [], "", 0⟩, down⟩]
      (.ok ()) down :=
    .stopServices_stopped (onlyBackend_stop_answers casts _) ⟨⟨rfl, rfl, fun _ => rfl⟩, le_rfl⟩
      rfl rfl (serviceIds_psOutput [])
  have hprint : HarnessAnswers casts down (.print "Backend write barrier: PASS") () down := rfl
  have hpsql : HarnessAnswers casts down
      (.compose (.psql (.cleanupTransaction run.runTag run.snapshot) run.dbUser run.dbName false))
      (⟨"", "cleanup exploded", 1⟩ : CommandResult) down := ⟨⟨rfl, Or.inl rfl⟩, le_rfl⟩
  have hclean : HarnessRuns casts (cleanUpBehindBarrier reprs run) down _ (.error _) down :=
    (HarnessRuns.effect hprint).exceptBind
      (HarnessRuns.compose_error hpsql (by decide)).exceptRaise.exceptRaise.exceptRaise
  have hup : HarnessAnswers casts down (.compose .up)
      (⟨"", "no such image", 1⟩ : CommandResult) up :=
    ⟨⟨rfl, fun s hs => by simp [up, down, DockerHost.onlyBackend, hs]⟩, le_rfl⟩
  have hstart : HarnessRuns casts (startAndAnnounce 60) down _ (.error _) up :=
    (HarnessRuns.compose_error hup (by decide)).exceptRaise.exceptRaise
  have hrun := hsims.finalize_restartFailed hstop hclean hstart
  refine ⟨_, _, hrun, ?_, ⟨rfl, nofun, rfl⟩,
    (finalize_keeps_writeBarrier_iff hrun).2.mpr (Or.inr ?_)⟩
  · simp
  · exact ⟨rfl, rfl, serviceIds_psOutput []⟩

end StorePulse
