import StorePulse.Harness.DockerHost

/-!
# Runs of the harness's functions

One lemma for each function that runs commands: which commands a run of it
performs, in which order, and how their results decide its outcome.
-/

namespace StorePulse

open Program

variable {reprs : Reprs} {casts : Casts} {h h' : DockerHost} {trace : List HarnessStep}
  {α β : Type}

/-! ## Single commands -/

theorem runs_pure {a : α} {outcome : Except HarnessException α} :
    HarnessRuns casts (pure a) h trace outcome h' ↔ trace = [] ∧ outcome = .ok a ∧ h' = h :=
  runs_ret

theorem runs_throw {e : HarnessException} {outcome : Except HarnessException α} :
    HarnessRuns casts (throw e) h trace outcome h' ↔ trace = [] ∧ outcome = .error e ∧ h' = h :=
  runs_ret

theorem runs_effect {op : HarnessOp} {outcome : Except HarnessException op.Reply} :
    HarnessRuns casts (effect op) h trace outcome h' ↔ ∃ h₁ reply, h.Drifts h₁ ∧
      HarnessAnswers casts h₁ op reply h' ∧ trace = [⟨h₁, op, reply, h'⟩] ∧
      outcome = .ok reply := by
  constructor
  · intro hr
    obtain ⟨h₁, reply, h₂, rest, hdrift, hanswer, hrest, rfl⟩ := runs_call.mp hr
    obtain ⟨rfl, rfl, rfl⟩ := runs_ret.mp hrest
    exact ⟨h₁, reply, hdrift, hanswer, rfl, rfl⟩
  · rintro ⟨h₁, reply, hdrift, hanswer, rfl, rfl⟩
    exact .call hdrift hanswer .ret

theorem runs_effect_bind {op : HarnessOp} {f : op.Reply → Harness α}
    {outcome : Except HarnessException α} :
    HarnessRuns casts (effect op >>= f) h trace outcome h' ↔ ∃ h₁ reply h₂ rest, h.Drifts h₁ ∧
      HarnessAnswers casts h₁ op reply h₂ ∧ HarnessRuns casts (f reply) h₂ rest outcome h' ∧
      trace = ⟨h₁, op, reply, h₂⟩ :: rest :=
  runs_call

/-- A command whose failure is an exception. -/
theorem runs_compose {command : ComposeCommand} {outcome : Except HarnessException CommandResult}
    (hr : HarnessRuns casts (compose command) h trace outcome h') :
    ∃ h₁ result, h.Drifts h₁ ∧ HarnessAnswers casts h₁ (.compose command) result h' ∧
      trace = [⟨h₁, .compose command, result, h'⟩] ∧
      (result.returncode = 0 ∧ outcome = .ok result ∨
        result.returncode ≠ 0 ∧ ∃ e, outcome = .error e) := by
  rcases runs_exceptBind.mp hr with ⟨e, hm, -⟩ | ⟨first, result, h₁, rest, hm, hf, rfl⟩
  · obtain ⟨_, _, _, _, _, he⟩ := runs_effect.mp hm
    cases he
  · obtain ⟨h₂, reply, hdrift, hanswer, rfl, he⟩ := runs_effect.mp hm
    cases he
    by_cases hcode : result.returncode = 0
    · rw [if_neg (not_not.mpr hcode)] at hf
      obtain ⟨rfl, rfl, rfl⟩ := runs_pure.mp hf
      exact ⟨h₂, result, hdrift, hanswer, rfl, Or.inl ⟨hcode, rfl⟩⟩
    · rw [if_pos hcode] at hf
      obtain ⟨rfl, rfl, rfl⟩ := runs_throw.mp hf
      exact ⟨h₂, result, hdrift, hanswer, rfl, Or.inr ⟨hcode, _, rfl⟩⟩

/-- An operation that is answered at once. -/
theorem HarnessRuns.effect {op : HarnessOp} {reply : op.Reply}
    (ha : HarnessAnswers casts h op reply h') :
    HarnessRuns casts (effect op) h [⟨h, op, reply, h'⟩] (.ok reply) h' :=
  runs_effect.mpr ⟨h, reply, .refl h, ha, rfl, rfl⟩

theorem HarnessRuns.compose_ok {command : ComposeCommand} {result : CommandResult}
    (ha : HarnessAnswers casts h (.compose command) result h') (hcode : result.returncode = 0) :
    HarnessRuns casts (compose command) h [⟨h, .compose command, result, h'⟩] (.ok result) h' := by
  refine Runs.exceptBind (HarnessRuns.effect ha) (?_ : Runs _ _ _ [] _ _)
  rw [if_neg (not_not.mpr hcode)]
  exact .ret

theorem HarnessRuns.compose_error {command : ComposeCommand} {result : CommandResult}
    (ha : HarnessAnswers casts h (.compose command) result h') (hcode : result.returncode ≠ 0) :
    HarnessRuns casts (compose command) h [⟨h, .compose command, result, h'⟩]
      (.error (commandError command result)) h' := by
  refine Runs.exceptBind (HarnessRuns.effect ha) (?_ : Runs _ _ _ [] _ _)
  rw [if_pos hcode]
  exact .ret

/-- A `ps` that lists nothing finds nothing running. -/
theorem idle_of_ps {profile : Option String} {services : List String} {result : CommandResult}
    (ha : HarnessAnswers casts h (.compose (.ps profile services)) result h')
    (hcode : result.returncode = 0) (hnone : serviceIds result.stdout = []) :
    h.Idle services := by
  obtain ⟨⟨_, _, houtput⟩, _⟩ := ha
  rw [houtput hcode, serviceIds_psOutput, List.map_eq_nil_iff, List.flatMap_eq_nil_iff] at hnone
  exact hnone

/-- `_running_service_ids`. -/
theorem runs_runningServiceIds {services : List String} {profile : Option String}
    {outcome : Except HarnessException (List String)}
    (hr : HarnessRuns casts (runningServiceIds services profile) h trace outcome h') :
    ∃ h₁ result, h.Drifts h₁ ∧ HarnessAnswers casts h₁ (.compose (.ps profile services)) result h' ∧
      trace = [⟨h₁, .compose (.ps profile services), result, h'⟩] ∧
      (result.returncode = 0 ∧ outcome = .ok (serviceIds result.stdout) ∨
        result.returncode ≠ 0 ∧ ∃ e, outcome = .error e) := by
  rcases runs_exceptBind.mp hr with ⟨e, hm, he⟩ | ⟨first, result, h₁, rest, hm, hf, rfl⟩
  · obtain ⟨h₁, result, hdrift, hanswer, rfl, ⟨_, hok⟩ | ⟨hcode, _⟩⟩ := runs_compose hm
    · cases hok
    · exact ⟨h₁, result, hdrift, hanswer, rfl, Or.inr ⟨hcode, e, he⟩⟩
  · obtain ⟨rfl, rfl, rfl⟩ := runs_pure.mp hf
    obtain ⟨h₂, result', hdrift, hanswer, rfl, ⟨hcode, hok⟩ | ⟨_, _, herror⟩⟩ := runs_compose hm
    · cases hok
      exact ⟨h₂, result, hdrift, hanswer, rfl, Or.inl ⟨hcode, rfl⟩⟩
    · cases herror

/-! ## Stopping services -/

/-- What a run of `_stop_services` performs, how it ends, and what it leaves. -/
inductive StopTrace (services : List String) (profile : Option String) :
    List HarnessStep → Except HarnessException Unit → DockerHost → Prop where
  /-- The query after `stop` failed. -/
  | unobserved {h₁ h₂ h₃ h₄ : DockerHost} {stop ps : CommandResult} {e : HarnessException} :
      ps.returncode ≠ 0 →
      StopTrace services profile
        [⟨h₁, .compose (.stop profile services), stop, h₂⟩,
          ⟨h₃, .compose (.ps profile services), ps, h₄⟩] (.error e) h₄
  /-- `stop` was confirmed. -/
  | stopped {h₁ h₂ h₃ h₄ : DockerHost} {stop ps : CommandResult} :
      stop.returncode = 0 → ps.returncode = 0 → serviceIds ps.stdout = [] → h₃.Idle services →
      h₄.Idle services →
      StopTrace services profile
        [⟨h₁, .compose (.stop profile services), stop, h₂⟩,
          ⟨h₃, .compose (.ps profile services), ps, h₄⟩] (.ok ()) h₄
  /-- The query after `kill` failed. -/
  | killUnobserved {h₁ h₂ h₃ h₄ h₅ h₆ h₇ h₈ : DockerHost} {stop ps kill ps' : CommandResult}
      {e : HarnessException} : ps.returncode = 0 → ps'.returncode ≠ 0 →
      StopTrace services profile
        [⟨h₁, .compose (.stop profile services), stop, h₂⟩,
          ⟨h₃, .compose (.ps profile services), ps, h₄⟩,
          ⟨h₅, .compose (.kill profile services), kill, h₆⟩,
          ⟨h₇, .compose (.ps profile services), ps', h₈⟩] (.error e) h₈
  /-- `kill` was confirmed. -/
  | killed {h₁ h₂ h₃ h₄ h₅ h₆ h₇ h₈ : DockerHost} {stop ps kill ps' : CommandResult} :
      ps.returncode = 0 → kill.returncode = 0 → ps'.returncode = 0 →
      serviceIds ps'.stdout = [] → h₇.Idle services → h₈.Idle services →
      StopTrace services profile
        [⟨h₁, .compose (.stop profile services), stop, h₂⟩,
          ⟨h₃, .compose (.ps profile services), ps, h₄⟩,
          ⟨h₅, .compose (.kill profile services), kill, h₆⟩,
          ⟨h₇, .compose (.ps profile services), ps', h₈⟩] (.ok ()) h₈
  /-- `kill` failed, or left a container running. -/
  | unstopped {h₁ h₂ h₃ h₄ h₅ h₆ h₇ h₈ : DockerHost} {stop ps kill ps' : CommandResult}
      {e : HarnessException} : ps.returncode = 0 → ps'.returncode = 0 →
      ¬ (kill.returncode = 0 ∧ serviceIds ps'.stdout = []) →
      StopTrace services profile
        [⟨h₁, .compose (.stop profile services), stop, h₂⟩,
          ⟨h₃, .compose (.ps profile services), ps, h₄⟩,
          ⟨h₅, .compose (.kill profile services), kill, h₆⟩,
          ⟨h₇, .compose (.ps profile services), ps', h₈⟩] (.error e) h₈

/-- A `ps` leaves what it finds. -/
theorem idle_after_ps {profile : Option String} {services services' : List String}
    {result : CommandResult}
    (ha : HarnessAnswers casts h (.compose (.ps profile services)) result h')
    (hidle : h.Idle services') : h'.Idle services' := by
  obtain ⟨⟨hrunning, _, _⟩, _⟩ := ha
  intro s hs
  rw [hrunning]
  exact hidle s hs

/-- `_stop_services`. -/
theorem stopTrace_of_runs {services : List String} {label : String} {profile : Option String}
    {outcome : Except HarnessException Unit}
    (hr : HarnessRuns casts (stopServices services label profile) h trace outcome h') :
    StopTrace services profile trace outcome h' := by
  obtain ⟨h₁, stop, h₂, rest, -, -, hafter, rfl⟩ := runs_effect_bind.mp hr
  rcases runs_exceptBind.mp hafter with ⟨e, hm, rfl⟩ | ⟨first, ids, h₄, rest, hm, hgo, rfl⟩
  · obtain ⟨h₃, ps, -, -, rfl, ⟨_, hok⟩ | ⟨hps, _⟩⟩ := runs_runningServiceIds hm
    · cases hok
    · exact .unobserved hps
  obtain ⟨h₃, ps, -, hanswer, rfl, ⟨hps, hids⟩ | ⟨_, _, herror⟩⟩ := runs_runningServiceIds hm
  swap
  · cases herror
  cases hids
  by_cases hstopped : stop.returncode = 0 ∧ serviceIds ps.stdout = []
  · rw [if_pos hstopped] at hgo
    obtain ⟨rfl, rfl, rfl⟩ := runs_pure.mp hgo
    have hidle := idle_of_ps hanswer hps hstopped.2
    exact .stopped hstopped.1 hps hstopped.2 hidle (idle_after_ps hanswer hidle)
  -- `stop` was not confirmed
  rw [if_neg hstopped] at hgo
  obtain ⟨h₅, kill, h₆, rest, -, -, hafterKill, rfl⟩ := runs_effect_bind.mp hgo
  rcases runs_exceptBind.mp hafterKill with ⟨e, hm, rfl⟩ | ⟨first, ids, h₈, rest, hm, hend, rfl⟩
  · obtain ⟨h₇, ps', -, -, rfl, ⟨_, hok⟩ | ⟨hps', _⟩⟩ := runs_runningServiceIds hm
    · cases hok
    · exact .killUnobserved hps hps'
  obtain ⟨h₇, ps', -, hanswer, rfl, ⟨hps', hids⟩ | ⟨_, _, herror⟩⟩ := runs_runningServiceIds hm
  swap
  · cases herror
  cases hids
  by_cases hkilled : kill.returncode = 0 ∧ serviceIds ps'.stdout = []
  · rw [if_pos hkilled] at hend
    obtain ⟨rfl, rfl, rfl⟩ := runs_pure.mp hend
    have hidle := idle_of_ps hanswer hps' hkilled.2
    exact .killed hps hkilled.1 hps' hkilled.2 hidle (idle_after_ps hanswer hidle)
  · rw [if_neg hkilled] at hend
    obtain ⟨rfl, rfl, rfl⟩ := runs_throw.mp hend
    exact .unstopped hps hps' hkilled

/-- A run in which `stop` is confirmed. -/
theorem HarnessRuns.stopServices_stopped {services : List String} {label : String}
    {profile : Option String} {stop ps : CommandResult} {h₁ : DockerHost}
    (hstop : HarnessAnswers casts h (.compose (.stop profile services)) stop h₁)
    (hps : HarnessAnswers casts h₁ (.compose (.ps profile services)) ps h')
    (hcode : stop.returncode = 0) (hcode' : ps.returncode = 0)
    (hnone : serviceIds ps.stdout = []) :
    HarnessRuns casts (stopServices services label profile) h
      [⟨h, .compose (.stop profile services), stop, h₁⟩,
        ⟨h₁, .compose (.ps profile services), ps, h'⟩] (.ok ()) h' := by
  have hquery := (compose_ok hps hcode').exceptBind
    (f := fun result => pure (serviceIds result.stdout)) .ret
  refine (HarnessRuns.effect hstop).exceptBind (hquery.exceptBind (?_ : Runs _ _ _ [] _ _))
  rw [if_pos ⟨hcode, hnone⟩]
  exact .ret

/-- A run in which the query after `stop` fails. -/
theorem HarnessRuns.stopServices_unobserved {services : List String} {label : String}
    {profile : Option String} {stop ps : CommandResult} {h₁ : DockerHost}
    (hstop : HarnessAnswers casts h (.compose (.stop profile services)) stop h₁)
    (hps : HarnessAnswers casts h₁ (.compose (.ps profile services)) ps h')
    (hcode : ps.returncode ≠ 0) :
    HarnessRuns casts (stopServices services label profile) h
      [⟨h, .compose (.stop profile services), stop, h₁⟩,
        ⟨h₁, .compose (.ps profile services), ps, h'⟩]
      (.error (commandError (.ps profile services) ps)) h' :=
  (HarnessRuns.effect hstop).exceptBind (compose_error hps hcode).exceptRaise.exceptRaise

/-- The commands of a run of `_stop_services`. -/
theorem StopTrace.ops {services : List String} {profile : Option String}
    {outcome : Except HarnessException Unit} (ht : StopTrace services profile trace outcome h) :
    ∀ p ∈ trace, p.op = .compose (.stop profile services) ∨
      p.op = .compose (.kill profile services) ∨ p.op = .compose (.ps profile services) := by
  cases ht <;> simp

/-! ## Kinds of operations -/

/-- What an operation is for. -/
inductive OpKind where
  /-- `stop` and `kill`. -/
  | stopping
  /-- `ps` of the backend. -/
  | watching
  /-- The cleanup transaction. -/
  | cleaning
  /-- `up`. -/
  | starting
  | other
deriving DecidableEq

/-- The kind of an operation. -/
def HarnessOp.kind : HarnessOp → OpKind
  | .compose (.stop _ _) => .stopping
  | .compose (.kill _ _) => .stopping
  | .compose (.ps _ services) => if services = [backendService] then .watching else .other
  | .compose (.psql (.cleanupTransaction _ _) _ _ _) => .cleaning
  | .compose .up => .starting
  | _ => .other

/-- A computation performs operations of two kinds at most. -/
abbrev OnlyUses (m : Harness α) (kind : OpKind) : Prop :=
  Program.Uses (fun op : HarnessOp => op.kind = kind ∨ op.kind = .other) m.run

variable {kind : OpKind}

theorem OnlyUses.effect {op : HarnessOp} (hop : op.kind = kind ∨ op.kind = .other) :
    OnlyUses (effect op) kind := ⟨hop, fun _ => trivial⟩

theorem OnlyUses.pure (a : α) : OnlyUses (pure a) kind := trivial

theorem OnlyUses.throw (e : HarnessException) : OnlyUses (throw e : Harness α) kind := trivial

theorem OnlyUses.bind {m : Harness α} {f : α → Harness β} (hm : OnlyUses m kind)
    (hf : ∀ a, OnlyUses (f a) kind) : OnlyUses (m >>= f) kind := Uses.exceptBind hm hf

theorem OnlyUses.ite {c : Prop} [Decidable c] {m m' : Harness α} (hm : OnlyUses m kind)
    (hm' : OnlyUses m' kind) : OnlyUses (if c then m else m') kind := by
  split
  · exact hm
  · exact hm'

theorem onlyUses_compose {command : ComposeCommand}
    (hop : HarnessOp.kind (.compose command) = kind ∨ HarnessOp.kind (.compose command) = .other) :
    OnlyUses (compose command) kind :=
  .bind (.effect hop) fun _ => .ite (.throw _) (.pure _)

theorem onlyUses_psql {sql : BuiltSql} {dbUser dbName : String} {scalar : Bool}
    (hop : HarnessOp.kind (.compose (.psql sql dbUser dbName scalar)) = kind ∨
      HarnessOp.kind (.compose (.psql sql dbUser dbName scalar)) = .other) :
    OnlyUses (psql sql dbUser dbName scalar) kind :=
  .bind (onlyUses_compose hop) fun _ => .pure _

theorem onlyUses_harnessInt (text : String) : OnlyUses (harnessInt reprs text) kind := by
  rw [harnessInt]
  split
  · exact .pure _
  · exact .throw _

theorem onlyUses_verifyNoRunRows (run : VerificationRun) :
    OnlyUses (verifyNoRunRows reprs run) kind :=
  .bind (.bind (onlyUses_psql (Or.inr rfl)) onlyUses_harnessInt) fun _ => .ite (.throw _) (.pure _)

theorem onlyUses_verifySnapshot (run : VerificationRun) (ending : String) :
    OnlyUses (verifySnapshot reprs run ending) kind :=
  .bind (.bind (onlyUses_psql (Or.inr rfl)) onlyUses_harnessInt) fun _ => .ite (.throw _) (.pure _)

theorem onlyUses_cleanupVerificationData (run : VerificationRun) :
    OnlyUses (cleanupVerificationData reprs run) .cleaning :=
  .bind (onlyUses_psql (Or.inl rfl)) fun _ => .bind (onlyUses_verifyNoRunRows run) fun _ =>
    onlyUses_verifySnapshot run "."

theorem onlyUses_probeLoop (deadline turns : Nat) (lastResult : Option CommandResult) :
    OnlyUses (probeLoop deadline turns lastResult) kind := by
  induction turns generalizing lastResult with
  | zero => exact .bind (.effect (Or.inr rfl)) fun _ => .ite (.pure _) (.pure _)
  | succ turns ih =>
      exact .bind (.effect (Or.inr rfl)) fun _ => .ite (.bind (.effect (Or.inr rfl)) fun _ =>
        .ite (.pure _) (.bind (.effect (Or.inr rfl)) fun _ => ih _)) (.pure _)

theorem onlyUses_startBackend (turns : Nat) : OnlyUses (startBackend turns) .starting :=
  .bind (onlyUses_compose (Or.inl rfl)) fun _ => .bind (.effect (Or.inr rfl)) fun _ =>
    .bind (onlyUses_probeLoop ..) fun _ => .ite (.pure _) (.bind (.effect (Or.inr rfl)) fun _ =>
      .throw _)

theorem onlyUses_verifyAfterRestart (run : VerificationRun) :
    OnlyUses (verifyAfterRestart reprs run) kind :=
  .bind (.bind (onlyUses_compose (Or.inr rfl)) fun _ => .pure _) fun _ => .ite (.throw _)
    (.bind (.effect (Or.inr rfl)) fun _ => .bind (onlyUses_verifyNoRunRows run) fun _ =>
      .bind (onlyUses_verifySnapshot run _) fun _ => .bind (.effect (Or.inr rfl)) fun _ =>
        .effect (Or.inr rfl))

/-! ## What a command shows -/

/-- The command was run, and succeeded. -/
def succeeds (command : ComposeCommand) : HarnessStep → Prop
  | ⟨_, .compose command', result, _⟩ => command' = command ∧ result.returncode = 0
  | _ => False

/-- A query listed no container of the services, and none was running. -/
def observesIdle (services : List String) : HarnessStep → Prop
  | ⟨h, .compose (.ps _ services'), result, _⟩ => services' = services ∧ result.returncode = 0 ∧
      serviceIds result.stdout = [] ∧ h.Idle services
  | _ => False

/-- A query counted no event of the run, and there was none. -/
def findsNoRow (run : VerificationRun) : HarnessStep → Prop
  | ⟨h, .compose (.psql sql _ _ _), result, _⟩ => sql = .remaining run.runTag ∧
      result.returncode = 0 ∧ pyInt (pyStrip result.stdout) = some 0 ∧
      h.tables.remaining (sourcePattern run.runTag) = .ok 0
  | _ => False

/-- A query counted no store that differs from the snapshot, and there was none. -/
def findsNoMismatch (casts : Casts) (run : VerificationRun) : HarnessStep → Prop
  | ⟨h, .compose (.psql sql _ _ _), result, _⟩ => sql = .snapshotMismatch run.snapshot ∧
      result.returncode = 0 ∧ pyInt (pyStrip result.stdout) = some 0 ∧
      h.tables.snapshotMismatches casts run.snapshot = .ok 0
  | _ => False

/-- The first command of `start_backend` is `up`, whatever comes of it. -/
theorem starting_of_runs {turns : Nat} {outcome : Except HarnessException Unit}
    (hr : HarnessRuns casts (startBackend turns) h trace outcome h') :
    ∃ p ∈ trace, p.op.kind = .starting := by
  rcases runs_exceptBind.mp hr with ⟨e, hm, -⟩ | ⟨first, result, h₁, rest, hm, -, rfl⟩
  · obtain ⟨_, _, _, _, rfl, _⟩ := runs_compose hm
    exact ⟨_, List.mem_cons_self, rfl⟩
  · obtain ⟨_, _, _, _, rfl, _⟩ := runs_compose hm
    exact ⟨_, List.mem_cons_self, rfl⟩

/-- The loop ends early when a probe succeeds. -/
theorem probe_of_runs {deadline turns : Nat} {lastResult result : Option CommandResult}
    (hr : HarnessRuns casts (probeLoop deadline turns lastResult) h trace (.ok (true, result)) h') :
    ∃ p ∈ trace, succeeds .probe p := by
  induction turns generalizing h trace lastResult with
  | zero =>
      rw [probeLoop] at hr
      obtain ⟨h₁, now, h₂, rest, -, -, hrest, rfl⟩ := runs_effect_bind.mp hr
      split at hrest
      · cases (runs_pure.mp hrest).2.1
      · cases (runs_pure.mp hrest).2.1
  | succ turns ih =>
      rw [probeLoop] at hr
      obtain ⟨h₁, now, h₂, rest, -, -, hrest, rfl⟩ := runs_effect_bind.mp hr
      split at hrest
      case isFalse => cases (runs_pure.mp hrest).2.1
      case isTrue =>
        obtain ⟨h₃, probe, h₄, rest', -, -, hprobed, rfl⟩ := runs_effect_bind.mp hrest
        split at hprobed
        case isTrue hcode =>
          exact ⟨⟨h₃, .compose .probe, probe, h₄⟩, List.mem_cons_of_mem _ List.mem_cons_self,
            rfl, hcode⟩
        case isFalse =>
          obtain ⟨h₅, _, h₆, rest'', -, -, hloop, rfl⟩ := runs_effect_bind.mp hprobed
          obtain ⟨p, hp, hs⟩ := ih hloop
          exact ⟨p, List.mem_cons_of_mem _ (List.mem_cons_of_mem _ (List.mem_cons_of_mem _ hp)), hs⟩

/-- When `start_backend` returns, `up` has succeeded and then a probe. -/
theorem started_of_runs {turns : Nat}
    (hr : HarnessRuns casts (startBackend turns) h trace (.ok ()) h') :
    ∃ up probe, [up, probe].Sublist trace ∧ succeeds .up up ∧ succeeds .probe probe := by
  rcases runs_exceptBind.mp hr with ⟨e, -, he⟩ | ⟨first, result, h₁, rest, hm, hwait, rfl⟩
  · cases he
  obtain ⟨h₂, result', -, -, rfl, ⟨hcode, hok⟩ | ⟨_, _, he⟩⟩ := runs_compose hm
  swap
  · cases he
  obtain ⟨h₃, start, h₄, rest', -, -, hloop, rfl⟩ := runs_effect_bind.mp hwait
  rcases runs_exceptBind.mp hloop with ⟨e, -, he⟩ | ⟨first, value, h₅, rest, hm, hend, rfl⟩
  · cases he
  obtain ⟨ready, lastResult⟩ := value
  cases ready with
  | true =>
      obtain ⟨p, hp, hs⟩ := probe_of_runs hm
      refine ⟨⟨h₂, .compose .up, result', h₁⟩, p, ?_, ⟨rfl, hcode⟩, hs⟩
      exact .cons_cons _ (.cons _ (List.singleton_sublist.mpr (List.mem_append_left _ hp)))
  | false =>
      obtain ⟨_, _, _, _, -, -, hthrow, -⟩ := runs_effect_bind.mp hend
      cases (runs_throw.mp hthrow).2.1

/-- A query that gives a number. -/
theorem runs_countSql {run : VerificationRun} {sql : BuiltSql} {n : Int}
    (hr : HarnessRuns casts (countSql reprs run sql) h trace (.ok n) h') :
    ∃ h₁ result,
      HarnessAnswers casts h₁ (.compose (.psql sql run.dbUser run.dbName true)) result h' ∧
      trace = [⟨h₁, .compose (.psql sql run.dbUser run.dbName true), result, h'⟩] ∧
      result.returncode = 0 ∧ pyInt (pyStrip result.stdout) = some n := by
  rcases runs_exceptBind.mp hr with ⟨e, -, he⟩ | ⟨first, output, h₁, rest, hpsql, hint, rfl⟩
  · cases he
  rcases runs_exceptBind.mp hpsql with ⟨e, -, he⟩ | ⟨first, result, h₂, rest', hcompose, hpure, rfl⟩
  · cases he
  obtain ⟨rfl, houtput, rfl⟩ := runs_pure.mp hpure
  cases houtput
  obtain ⟨h₃, result', -, hanswer, rfl, ⟨hcode, hok⟩ | ⟨_, _, he⟩⟩ := runs_compose hcompose
  swap
  · cases he
  cases hok
  rw [harnessInt] at hint
  split at hint
  case h_1 m hm =>
    obtain ⟨rfl, hn, rfl⟩ := runs_pure.mp hint
    cases hn
    exact ⟨h₃, result, hanswer, rfl, hcode, hm⟩
  case h_2 => cases (runs_throw.mp hint).2.1

/-- A number that may only be zero: when nothing is raised, the query gave zero. -/
theorem zero_of_runs {run : VerificationRun} {sql : BuiltSql} {e : Int → HarnessException}
    (hr : HarnessRuns casts (do
      let n ← countSql reprs run sql
      if n ≠ 0 then throw (e n) else pure ()) h trace (.ok ()) h') :
    ∃ h₁ result,
      HarnessAnswers casts h₁ (.compose (.psql sql run.dbUser run.dbName true)) result h' ∧
      trace = [⟨h₁, .compose (.psql sql run.dbUser run.dbName true), result, h'⟩] ∧
      result.returncode = 0 ∧ Denotes result 0 := by
  rcases runs_exceptBind.mp hr with ⟨e, -, he⟩ | ⟨first, n, h₁, rest, hcount, hend, rfl⟩
  · cases he
  obtain ⟨h₂, result, hanswer, rfl, hcode, hn⟩ := runs_countSql hcount
  by_cases hzero : n = 0
  · rw [if_neg (not_not.mpr hzero)] at hend
    obtain ⟨rfl, -, rfl⟩ := runs_pure.mp hend
    subst hzero
    exact ⟨h₂, result, hanswer, rfl, hcode, hn⟩
  · rw [if_pos hzero] at hend
    cases (runs_throw.mp hend).2.1

/-- A query denotes one number. -/
theorem Denotes.eq {result : CommandResult} {m n : Nat} (hm : Denotes result m)
    (hn : Denotes result n) : m = n := Int.ofNat.inj (Option.some.inj (hm.symm.trans hn))

/-- When `verify_no_run_rows` returns, its query found no event. -/
theorem noRow_of_runs {run : VerificationRun}
    (hr : HarnessRuns casts (verifyNoRunRows reprs run) h trace (.ok ()) h') :
    ∃ p, trace = [p] ∧ findsNoRow run p := by
  obtain ⟨h₁, result, ⟨⟨-, -, hanswer⟩, -⟩, rfl, hcode, hzero⟩ := zero_of_runs hr
  obtain ⟨n, hremaining, hdenotes⟩ := hanswer hcode
  obtain rfl := hdenotes.eq hzero
  exact ⟨_, rfl, rfl, hcode, hzero, hremaining⟩

/-- When the comparison with the snapshot returns, its query found no difference. -/
theorem noMismatch_of_runs {run : VerificationRun} {ending : String}
    (hr : HarnessRuns casts (verifySnapshot reprs run ending) h trace (.ok ()) h') :
    ∃ p, trace = [p] ∧ findsNoMismatch casts run p := by
  obtain ⟨h₁, result, ⟨⟨-, -, hanswer⟩, -⟩, rfl, hcode, hzero⟩ := zero_of_runs hr
  obtain ⟨n, hmismatches, hdenotes⟩ := hanswer hcode
  obtain rfl := hdenotes.eq hzero
  exact ⟨_, rfl, rfl, hcode, hzero, hmismatches⟩

/-- When the last `try` succeeds, no simulator ran, and the database was as it should be. -/
theorem verified_of_runs {run : VerificationRun}
    (hr : HarnessRuns casts (verifyAfterRestart reprs run) h trace (.ok ()) h') :
    ∃ sims rows stores, [sims, rows, stores].Sublist trace ∧
      observesIdle simulatorServices sims ∧ findsNoRow run rows ∧
      findsNoMismatch casts run stores := by
  rcases runs_exceptBind.mp hr with ⟨e, -, he⟩ | ⟨first, running, h₁, rest, hps, hgo, rfl⟩
  · cases he
  obtain ⟨h₂, ps, -, hanswer, rfl, ⟨hcode, hids⟩ | ⟨_, _, he⟩⟩ := runs_runningServiceIds hps
  swap
  · cases he
  cases hids
  split at hgo
  case isTrue => cases (runs_throw.mp hgo).2.1
  case isFalse hnone =>
    have hnone := not_not.mp hnone
    obtain ⟨h₃, _, h₄, rest, -, -, hqueries, rfl⟩ := runs_effect_bind.mp hgo
    rcases runs_exceptBind.mp hqueries with ⟨e, -, he⟩ | ⟨t₁, _, h₅, rest, hrows, hmore, rfl⟩
    · cases he
    rcases runs_exceptBind.mp hmore with ⟨e, -, he⟩ | ⟨t₂, _, h₆, rest, hstores, -, rfl⟩
    · cases he
    obtain ⟨rows, rfl, hrow⟩ := noRow_of_runs hrows
    obtain ⟨stores, rfl, hstore⟩ := noMismatch_of_runs hstores
    refine ⟨⟨h₂, .compose (.ps (some "demo") simulatorServices), ps, h₁⟩, rows, stores, ?_,
      ⟨rfl, hcode, hnone, idle_of_ps hanswer hcode hnone⟩, hrow, hstore⟩
    exact .cons_cons _ (.cons _ (.cons_cons _ (.cons_cons _ (List.nil_sublist _))))

/-! ## The turns of the loop -/

theorem runs_effect_congr {op : HarnessOp} {f g : op.Reply → Harness α}
    {outcome : Except HarnessException α}
    (hfg : ∀ {h₁ reply h₂ trace}, h.Drifts h₁ → HarnessAnswers casts h₁ op reply h₂ →
      (HarnessRuns casts (f reply) h₂ trace outcome h' ↔
        HarnessRuns casts (g reply) h₂ trace outcome h')) :
    HarnessRuns casts (effect op >>= f) h trace outcome h' ↔
      HarnessRuns casts (effect op >>= g) h trace outcome h' := by
  refine runs_effect_bind.trans (Iff.trans ?_ runs_effect_bind.symm)
  refine exists₄_congr fun h₁ reply h₂ rest => ?_
  exact and_congr_right fun hdrift => and_congr_right fun hanswer =>
    and_congr_left' (hfg hdrift hanswer)

/-- Turns that would begin after the deadline do not matter. -/
theorem probeLoop_turns {deadline turns : Nat} (more : Nat) {lastResult : Option CommandResult}
    {outcome : Except HarnessException (Bool × Option CommandResult)}
    (hdeadline : deadline ≤ h.clock + 500 * turns) :
    HarnessRuns casts (probeLoop deadline (turns + more) lastResult) h trace outcome h' ↔
      HarnessRuns casts (probeLoop deadline turns lastResult) h trace outcome h' := by
  induction turns generalizing h trace lastResult with
  | zero =>
      rw [probeLoop.eq_def, probeLoop.eq_def deadline 0]
      refine runs_effect_congr fun {_ now h₁ rest} hdrift hanswer => ?_
      -- the clock has reached the deadline, so neither loop takes a turn
      obtain ⟨rfl, rfl⟩ := hanswer
      have hpast : ¬ h₁.clock < deadline := by
        have := hdrift.clock
        omega
      rw [if_neg hpast, if_neg hpast]
  | succ turns ih =>
      rw [Nat.add_right_comm, probeLoop.eq_def, probeLoop.eq_def deadline (turns + 1)]
      refine runs_effect_congr fun {_ now h₁ rest} hmonotonic hnow => ?_
      obtain ⟨rfl, rfl⟩ := hnow
      by_cases hpast : h₁.clock < deadline
      swap
      · rw [if_neg hpast, if_neg hpast]
      rw [if_pos hpast, if_pos hpast]
      refine runs_effect_congr fun {h₂ result h₃ rest} hprobe hanswer => ?_
      by_cases hcode : result.returncode = 0
      · rw [if_pos hcode, if_pos hcode]
      rw [if_neg hcode, if_neg hcode]
      refine runs_effect_congr fun {h₄ _ h₅ rest} hsleep hslept => ih ?_
      have := hmonotonic.clock
      have := hprobe.clock
      have := hanswer.2
      have := hsleep.clock
      have := hslept.2.2
      omega

/-- No run of `start_backend` takes more than 60 turns. -/
theorem startBackend_turns {turns : Nat} (hturns : 60 ≤ turns)
    {outcome : Except HarnessException Unit} :
    HarnessRuns casts (startBackend turns) h trace outcome h' ↔
      HarnessRuns casts (startBackend 60) h trace outcome h' := by
  obtain ⟨more, rfl⟩ := Nat.exists_eq_add_of_le hturns
  have hwait : ∀ {h trace}, HarnessRuns casts (waitForBackendReady (60 + more)) h trace outcome h' ↔
      HarnessRuns casts (waitForBackendReady 60) h trace outcome h' := by
    intro h trace
    refine runs_effect_congr fun {_ start h₁ rest} _ hstart => ?_
    obtain ⟨rfl, rfl⟩ := hstart
    have hloop : ∀ {trace outcome h'},
        HarnessRuns casts (probeLoop (h₁.clock + 30000) (60 + more) none) h₁ trace outcome h' ↔
          HarnessRuns casts (probeLoop (h₁.clock + 30000) 60 none) h₁ trace outcome h' :=
      probeLoop_turns more le_rfl
    simp only [HarnessRuns] at hloop ⊢
    simp only [runs_exceptBind, hloop]
  simp only [HarnessRuns] at hwait ⊢
  rw [startBackend, startBackend]
  simp only [runs_exceptBind, hwait]

end StorePulse
