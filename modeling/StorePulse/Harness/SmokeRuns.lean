import StorePulse.Harness.SmokePasses
import StorePulse.Harness.WriteBarrier

/-!
# Runs of the smoke test

`run_smoke` prepares a run, lets the simulators produce traffic, and finalizes.
From the start of the simulators on, `finalize_verification_run` is run to its end
whatever happens, and what is around it only reads (`runSmoke_finalizes`).

A run that passes has seen the traffic of five stores and the replay of an event
that is stored once, and leaves the stores as the snapshot found them
(`runSmoke_evidence`).
-/

namespace StorePulse

open Program

/-! ## What only reads -/

/-- The operation changes neither containers nor rows. -/
def readsOnly : SmokeEffects.Op → Prop
  | .inl (.compose (.psql .snapshot _ _ _)) => True
  | .inl (.compose (.psql (.metrics _) _ _ _)) => True
  | .inl (.compose (.psql (.duplicateCount _ _) _ _ _)) => True
  | .inl (.compose _) => False
  | .inl _ => True
  | .inr (.startSimulators _) => False
  | .inr _ => True

/-- A computation that only reads. -/
structure Reads {α : Type} (m : Smoke α) : Prop where
  uses : m.run.Uses readsOnly

namespace Reads

variable {α β : Type}

theorem pure (a : α) : Reads (Pure.pure a) := ⟨trivial⟩

theorem throw (e : HarnessException) : Reads (MonadExcept.throw e : Smoke α) := ⟨trivial⟩

theorem computed (result : Except HarnessException α) :
    Reads (ExceptT.mk (Pure.pure result)) := ⟨trivial⟩

theorem bind {m : Smoke α} {f : α → Smoke β} (hm : Reads m) (hf : ∀ a, Reads (f a)) :
    Reads (m >>= f) := ⟨Uses.exceptBind hm.uses fun a => (hf a).uses⟩

theorem ite {c : Prop} [Decidable c] {m m' : Smoke α} (hm : Reads m) (hm' : Reads m') :
    Reads (if c then m else m') := by
  split
  · exact hm
  · exact hm'

theorem smokeEffect {op : SmokeOp} (hop : readsOnly (.inr op)) :
    Reads (StorePulse.smokeEffect op) := ⟨hop, fun _ => trivial⟩

theorem effect {op : HarnessOp} (hop : readsOnly (.inl op)) :
    Reads (embed (StorePulse.effect op)) := ⟨hop, fun _ => trivial⟩

theorem psql {sql : BuiltSql} {dbUser dbName : String} {scalar : Bool}
    (hop : readsOnly (.inl (.compose (.psql sql dbUser dbName scalar)))) :
    Reads (embed (StorePulse.psql sql dbUser dbName scalar)) := by
  refine ⟨uses_inl (Uses.exceptBind (Uses.exceptBind ⟨hop, fun _ => trivial⟩ fun result => ?_)
    fun _ => trivial)⟩
  split <;> trivial

theorem checkResult (op : SmokeOp) (result : CommandResult) :
    Reads (StorePulse.checkResult op result) := .ite (.throw _) (.pure _)

end Reads

theorem reads_readContainerEnv (name : String) : Reads (readContainerEnv name) :=
  .bind (.smokeEffect trivial) fun _ => .bind (.checkResult _ _) fun _ => .ite (.throw _) (.pure _)

variable (reprs : Reprs) (run : VerificationRun)

theorem reads_prepareRun : Reads (prepareRun reprs) :=
  .bind (.smokeEffect trivial) fun _ => .bind (reads_readContainerEnv _) fun _ =>
    .bind (reads_readContainerEnv _) fun _ =>
      .bind (.bind (.psql trivial) fun _ => .computed _) fun _ => .pure _

theorem reads_simulatorLogs : Reads simulatorLogs :=
  .bind (.smokeEffect trivial) fun _ => .bind (.checkResult _ _) fun _ => .pure _

theorem reads_showStream (text : String) : Reads (showStream text) :=
  .ite (.pure _) (.smokeEffect trivial)

theorem reads_diagnose (smoke : Except HarnessException Unit) : Reads (diagnose smoke) := by
  cases smoke with
  | ok _ => exact .pure _
  | error e =>
      rw [diagnose, showDiagnostics]
      exact .bind (.smokeEffect trivial) fun _ => .bind (reads_showStream _) fun _ =>
        .bind (reads_showStream _) fun _ => .bind (.smokeEffect trivial) fun _ =>
          .bind (reads_showStream _) fun _ => reads_showStream _

theorem reads_printLines (lines : List String) : Reads (printLines lines) := by
  induction lines with
  | nil => exact .pure _
  | cons line lines ih => exact .bind (.effect trivial) fun _ => ih

theorem reads_duplicateRows (metrics : TrafficMetrics) (eventId : Option String) :
    Reads (duplicateRows reprs run metrics eventId) := by
  cases eventId with
  | none => exact .pure _
  | some eventId =>
      refine .ite (.bind ⟨uses_inl ?_⟩ fun _ => .pure _) (.pure _)
      refine Uses.exceptBind (Uses.exceptBind (Uses.exceptBind ⟨trivial, fun _ => trivial⟩
        fun result => ?_) fun _ => trivial) fun output => ?_
      · split <;> trivial
      · rw [harnessInt]
        split <;> trivial

theorem reads_observeLoop (deadline turns : Nat) (metrics : TrafficMetrics)
    (eventId : Option String) : Reads (observeLoop reprs run deadline turns metrics eventId) := by
  induction turns generalizing metrics eventId with
  | zero =>
      rw [observeLoop]
      exact .bind (.effect trivial) fun _ => .ite (.pure _) (.pure _)
  | succ turns ih =>
      rw [observeLoop]
      exact .bind (.effect trivial) fun _ => .ite (.bind (.effect trivial) fun _ =>
        .bind (.psql trivial) fun _ => .bind (.computed _) fun _ => .bind reads_simulatorLogs
          fun _ => .bind (reads_duplicateRows reprs run _ _) fun _ => .ite
            (.bind (reads_printLines _) fun _ => .pure _) (ih _ _)) (.pure _)

theorem reads_reportSmoke (smoke cleanup : Except HarnessException Unit) :
    Reads (reportSmoke smoke cleanup) := by
  cases smoke with
  | ok _ =>
      cases cleanup with
      | ok _ => exact .pure _
      | error c => exact .throw _
  | error e =>
      cases cleanup with
      | ok _ => exact .throw _
      | error c =>
          rw [reportSmoke]
          exact .bind (.smokeEffect trivial) fun _ => .bind (.smokeEffect trivial) fun _ => .throw _

/-! ## The parts of a run -/

variable {reprs run} {casts : Casts} {printers : Printers} {h h' : DockerHost}
  {trace : List SmokeStep} {outcome : Except HarnessException Unit}

/-- What `run_smoke` raises: the error of the test goes before that of the cleanup. -/
def smokeOutcome : Except HarnessException Unit → Except HarnessException Unit →
    Except HarnessException Unit
  | .error smokeError, _ => .error (.verificationError smokeError.text)
  | .ok (), .error cleanupError => .error (.verificationError cleanupError.text)
  | .ok (), .ok () => .ok ()

theorem runs_reportSmoke {smoke cleanup : Except HarnessException Unit}
    (hr : SmokeRuns casts printers (reportSmoke smoke cleanup) h trace outcome h') :
    outcome = smokeOutcome smoke cleanup := by
  have hyields : (reportSmoke smoke cleanup).run.Yields
      fun result => result = smokeOutcome smoke cleanup := by
    cases smoke with
    | ok _ => cases cleanup <;> rfl
    | error e =>
        cases cleanup with
        | ok _ => rfl
        | error c => exact fun _ _ => rfl
  exact hr.yields hyields

theorem neverRaises_smokeEffect (op : SmokeOp) : NeverRaises (smokeEffect op) :=
  ⟨fun _ => nofun⟩

theorem neverRaises_showStream (text : String) : NeverRaises (showStream text) := by
  rw [showStream]
  exact .ite (.pure _) (neverRaises_smokeEffect _)

theorem neverRaises_diagnose (smoke : Except HarnessException Unit) :
    NeverRaises (diagnose smoke) := by
  cases smoke with
  | ok _ => exact .pure _
  | error e =>
      rw [diagnose, showDiagnostics]
      exact .bind (neverRaises_smokeEffect _) fun _ => .bind (neverRaises_showStream _) fun _ =>
        .bind (neverRaises_showStream _) fun _ => .bind (neverRaises_smokeEffect _) fun _ =>
          .bind (neverRaises_showStream _) fun _ => neverRaises_showStream _

/-- The parts of a run of `run_smoke`. -/
inductive SmokeRun (casts : Casts) (printers : Printers) (reprs : Reprs)
    (timeoutSeconds turns restartTurns : Nat) (h : DockerHost) :
    List SmokeStep → Except HarnessException Unit → DockerHost → Prop where
  /-- The run could not be prepared. -/
  | unprepared {t₀ : List SmokeStep} {h₁ : DockerHost} {e : HarnessException} :
      SmokeRuns casts printers (prepareRun reprs) h t₀ (.error e) h₁ →
      SmokeRun casts printers reprs timeoutSeconds turns restartTurns h t₀ (.error e) h₁
  /-- It was, and so it was finalized. -/
  | finalized {t₀ t₁ t₂ t₄ : List SmokeStep} {own : List HarnessStep}
      {h₁ h₂ h₃ h₄ h₅ : DockerHost} {run : VerificationRun}
      {smoke cleanup : Except HarnessException Unit} :
      SmokeRuns casts printers (prepareRun reprs) h t₀ (.ok run) h₁ →
      SmokeRuns casts printers (observeTraffic reprs run timeoutSeconds turns) h₁ t₁ smoke h₂ →
      SmokeRuns casts printers (diagnose smoke) h₂ t₂ (.ok ()) h₃ →
      HarnessRuns casts (finalizeVerificationRun reprs run restartTurns) h₃ own cleanup h₄ →
      SmokeRuns casts printers (reportSmoke smoke cleanup) h₄ t₄ (smokeOutcome smoke cleanup) h₅ →
      SmokeRun casts printers reprs timeoutSeconds turns restartTurns h
        (t₀ ++ (t₁ ++ (t₂ ++ (own.map Performed.inl ++ t₄)))) (smokeOutcome smoke cleanup) h₅

/-- `run_smoke`. -/
theorem smokeRun_of_runs {timeoutSeconds turns restartTurns : Nat}
    (hr : SmokeRuns casts printers (runSmoke reprs timeoutSeconds turns restartTurns) h trace
      outcome h') :
    SmokeRun casts printers reprs timeoutSeconds turns restartTurns h trace outcome h' := by
  rcases runs_exceptBind.mp hr with
    ⟨e, hprepare, rfl⟩ | ⟨t₀, run, h₁, rest₀, hprepare, hobserve, rfl⟩
  · exact .unprepared hprepare
  obtain ⟨t₁, smoke, h₂, rest₁, hsmoke, hhandle, rfl⟩ := runs_attempt_bind.mp hobserve
  rcases runs_exceptBind.mp hhandle with
    ⟨e, hdiagnose, -⟩ | ⟨t₂, _, h₃, rest₂, hdiagnose, hfinally, rfl⟩
  · exact (hdiagnose.yields (neverRaises_diagnose smoke).yields e rfl).elim
  obtain ⟨t₃, cleanup, h₄, t₄, hcleanup, hreport, rfl⟩ := runs_attempt_bind.mp hfinally
  obtain ⟨own, hown, rfl⟩ := runs_embed.mp hcleanup
  obtain rfl := runs_reportSmoke hreport
  exact .finalized hprepare hsmoke hdiagnose (harnessRuns_of_queried hown) hreport

/-! ## What reading leaves as it is -/

/-- What only reads starts nothing. -/
theorem idle_of_reads {services : List String} {p : SmokeStep}
    (ha : (smokeEnvironment casts printers).answers p.before p.op p.reply p.after)
    (hreads : readsOnly p.op) (hidle : p.before.Idle services) : p.after.Idle services := by
  obtain ⟨before, op, reply, after⟩ := p
  have hsame : after.running = before.running → after.Idle services :=
    fun he s hs => (congrFun he s).trans (hidle s hs)
  cases op with
  | inl op =>
      obtain ⟨hanswer, -⟩ := ha
      cases op with
      | compose command =>
          cases command with
          | psql sql dbUser dbName scalar => exact hsame hanswer.1.1
          | _ => cases hreads
      | monotonic => exact hsame (congrArg DockerHost.running hanswer.2)
      | sleep milliseconds => exact hsame hanswer.1
      | print line => exact hsame (congrArg DockerHost.running (show after = before from hanswer))
  | inr op =>
      cases op with
      | uuid4Hex => exact hsame (congrArg DockerHost.running ha.2.2)
      | printError line => exact hsame (congrArg DockerHost.running (show after = before from ha))
      | startSimulators settings => cases hreads
      | printenv name => exact hsame ha.1
      | simulatorLogs => exact hsame ha.1
      | diagnosticPs => exact hsame ha.1
      | diagnosticLogs => exact hsame ha.1

/-- Services that do not run do not run after a computation that only reads. -/
theorem idle_of_reading {α : Type} {m : Smoke α} {result : Except HarnessException α}
    {services : List String} (hr : SmokeRuns casts printers m h trace result h') (hm : Reads m)
    (hidle : h.Idle services) : h'.Idle services := by
  have hanswers := hr.answers
  have hreads := hr.uses hm.uses
  refine (hr.invariant (fun {s s'} hs hdrift t ht => ?_)
    (fun p hp => idle_of_reads (hanswers p hp) (hreads p hp)) hidle).2
  exact List.sublist_nil.mp (hs t ht ▸ hdrift.fewer t)

/-! ## Preparing -/

/-- A query printed the stores, and the snapshot of the run was read from it. -/
def findsSnapshot (printers : Printers) (run : VerificationRun) : SmokeStep → Prop
  | ⟨h, .inl (.compose (.psql sql _ _ _)), result, _⟩ => sql = .snapshot ∧
      result.returncode = 0 ∧ PrintsStores printers h.tables (pyStrip result.stdout) ∧
      readSnapshot (pyStrip result.stdout) = some run.snapshot
  | _ => False

theorem mapM_snapshotEntry {entries : List Json} {items : List SnapshotItem}
    (h : entries.mapM (snapshotEntry reprs) = .ok items) :
    entries.mapM SnapshotItem.ofValue = some items := by
  induction entries generalizing items with
  | nil =>
      cases h
      rfl
  | cons entry entries ih =>
      rw [List.mapM_cons, snapshotEntry] at h
      split at h
      case h_1 item hitem =>
        cases hrest : entries.mapM (snapshotEntry reprs) with
        | error e =>
            rw [hrest] at h
            cases h
        | ok rest =>
            rw [hrest] at h
            cases h
            rw [List.mapM_cons, hitem, ih hrest]
            rfl
      case h_2 => cases h

theorem readSnapshot_of_parse {raw : String} {items : List SnapshotItem}
    (h : parseSnapshot reprs raw = .ok items) : readSnapshot raw = some items := by
  rw [parseSnapshot] at h
  rw [readSnapshot]
  split at h
  case h_1 => cases h
  case h_2 entry entries hloads =>
    rw [hloads]
    exact mapM_snapshotEntry h
  case h_3 => cases h

/-- A query of the database that returned. -/
theorem runs_psql {sql : BuiltSql} {dbUser dbName : String} {scalar : Bool} {output : String}
    (hr : SmokeRuns casts printers (embed (psql sql dbUser dbName scalar)) h trace (.ok output)
      h') :
    ∃ h₁ result, h.Drifts h₁ ∧ h₁.clock ≤ h'.clock ∧
      QueryAnswers casts printers h₁.tables sql result h'.tables ∧
      trace = [⟨h₁, .inl (.compose (.psql sql dbUser dbName scalar)), result, h'⟩] ∧
      result.returncode = 0 ∧ output = pyStrip result.stdout := by
  obtain ⟨own, hown, rfl⟩ := runs_embed.mp hr
  have hanswers := hown.answers
  rcases runs_exceptBind.mp (harnessRuns_of_queried hown) with
    ⟨e, -, he⟩ | ⟨first, result, h₁, rest, hcompose, hpure, rfl⟩
  · cases he
  obtain ⟨rfl, houtput, rfl⟩ := runs_pure.mp hpure
  cases houtput
  obtain ⟨h₂, result', hdrift, hanswer, rfl, ⟨hcode, hok⟩ | ⟨-, e, he⟩⟩ := runs_compose hcompose
  · cases hok
    exact ⟨h₂, result, hdrift, hanswer.2, (hanswers _ List.mem_cons_self).2, rfl, hcode, rfl⟩
  · cases he

/-- A run that was prepared has a tag of its own, and the stores in its snapshot. -/
theorem prepared_of_runs
    (hr : SmokeRuns casts printers (prepareRun reprs) h trace (.ok run) h') :
    (∃ tag : RunTag, run.runTag = tag.text) ∧ ∃ p ∈ trace, findsSnapshot printers run p := by
  rcases runs_exceptBind.mp hr with ⟨e, -, he⟩ | ⟨t₀, digits, h₁, rest₀, hdigits, hgo₀, rfl⟩
  · cases he
  obtain ⟨h₂, reply, -, ⟨-, hhex, -⟩, rfl, he⟩ := runs_smokeEffect hdigits
  cases he
  rcases runs_exceptBind.mp hgo₀ with ⟨e, -, he⟩ | ⟨t₁, dbUser, h₃, rest₁, -, hgo₁, rfl⟩
  · cases he
  rcases runs_exceptBind.mp hgo₁ with ⟨e, -, he⟩ | ⟨t₂, dbName, h₄, rest₂, -, hgo₂, rfl⟩
  · cases he
  rcases runs_exceptBind.mp hgo₂ with ⟨e, -, he⟩ | ⟨t₃, items, h₅, rest₃, hsnapshot, hgo₃, rfl⟩
  · cases he
  obtain ⟨rfl, he, rfl⟩ := runs_smokePure.mp hgo₃
  cases he
  rcases runs_exceptBind.mp hsnapshot with ⟨e, -, he⟩ | ⟨t₄, raw, h₆, rest₄, hpsql, hparse, rfl⟩
  · cases he
  obtain ⟨rfl, hitems, rfl⟩ := runs_computed.mp hparse
  obtain ⟨h₇, result, -, -, ⟨-, hprints⟩, rfl, hcode, rfl⟩ := runs_psql hpsql
  refine ⟨⟨⟨digits, hhex⟩, rfl⟩,
    ⟨h₇, .inl (.compose (.psql .snapshot dbUser dbName true)), result, h'⟩, ?_, rfl, hcode,
    hprints hcode, readSnapshot_of_parse hitems.symm⟩
  simp only [List.mem_append, List.mem_singleton, true_or, or_true]

/-! ## The evidence -/

/-- A query of the metrics counted traffic that satisfies the contract, and there was such. -/
def showsTraffic (run : VerificationRun) : SmokeStep → Prop
  | ⟨h, .inl (.compose (.psql sql _ _ _)), result, _⟩ => sql = .metrics run.runTag ∧
      result.returncode = 0 ∧
      ∃ m, h.tables.metrics run.runTag = .ok m ∧ m.satisfiesContract = true
  | _ => False

/-- The logs hold the replay of an event. -/
def showsReplay (eventId : String) : SmokeStep → Prop
  | ⟨_, .inr .simulatorLogs, result, _⟩ => result.returncode = 0 ∧
      extractDuplicateEventId result.stdout = some eventId
  | _ => False

/-- A query counted one row of the run with the id of the event, and there was one. -/
def countsOneRow (casts : Casts) (run : VerificationRun) (eventId : String) : SmokeStep → Prop
  | ⟨h, .inl (.compose (.psql sql _ _ _)), result, _⟩ =>
      sql = .duplicateCount run.runTag eventId ∧ result.returncode = 0 ∧
        h.tables.duplicateCount casts run.runTag eventId = .ok 1
  | _ => False

theorem runs_embed_effect {op : HarnessOp} {result : Except HarnessException op.Reply}
    (hr : SmokeRuns casts printers (embed (effect op)) h trace result h') :
    ∃ h₁ reply, h.Drifts h₁ ∧ QueriedAnswers casts printers h₁ op reply h' ∧
      trace = [⟨h₁, .inl op, reply, h'⟩] ∧ result = .ok reply := by
  obtain ⟨h₁, reply, h₂, rest, hdrift, hanswer, hrest, rfl⟩ := runs_call.mp hr
  obtain ⟨rfl, rfl, rfl⟩ := runs_ret.mp hrest
  exact ⟨h₁, reply, hdrift, hanswer, rfl, rfl⟩

/-- The result of a command that did not fail. -/
theorem runs_checkResult {op : SmokeOp} {result result' : CommandResult}
    (hr : SmokeRuns casts printers (checkResult op result) h trace (.ok result') h') :
    trace = [] ∧ result.returncode = 0 ∧ result' = result ∧ h' = h := by
  rw [checkResult] at hr
  split at hr
  case isTrue => cases (runs_smokeThrow.mp hr).2.1
  case isFalse hcode =>
    obtain ⟨htrace, he, hstate⟩ := runs_smokePure.mp hr
    cases he
    exact ⟨htrace, not_not.mp hcode, rfl, hstate⟩

theorem runs_simulatorLogs {logs : String}
    (hr : SmokeRuns casts printers simulatorLogs h trace (.ok logs) h') :
    ∃ h₁ result, trace = [⟨h₁, .inr .simulatorLogs, result, h'⟩] ∧ result.returncode = 0 ∧
      logs = result.stdout := by
  rcases runs_exceptBind.mp hr with ⟨e, -, he⟩ | ⟨t₀, result, h₁, rest₀, hlogs, hgo, rfl⟩
  · cases he
  obtain ⟨h₂, reply, -, -, rfl, he⟩ := runs_smokeEffect hlogs
  cases he
  rcases runs_exceptBind.mp hgo with ⟨e, -, he⟩ | ⟨t₁, result', h₃, rest₁, hcheck, hpure, rfl⟩
  · cases he
  obtain ⟨rfl, hcode, rfl, rfl⟩ := runs_checkResult hcheck
  obtain ⟨rfl, he, rfl⟩ := runs_smokePure.mp hpure
  cases he
  exact ⟨h₂, _, rfl, hcode, rfl⟩

/-- A count of duplicates that gives one. -/
theorem countsOneRow_of_runs {metrics : TrafficMetrics} {eventId : Option String}
    (hr : SmokeRuns casts printers (duplicateRows reprs run metrics eventId) h trace
      (.ok (some 1)) h') :
    metrics.satisfiesContract = true ∧
      ∃ id p, eventId = some id ∧ trace = [p] ∧ countsOneRow casts run id p := by
  cases eventId with
  | none => cases (runs_smokePure.mp hr).2.1
  | some id =>
      rw [duplicateRows] at hr
      split at hr
      case isFalse => cases (runs_smokePure.mp hr).2.1
      case isTrue hcontract =>
        rcases runs_exceptBind.mp hr with ⟨e, -, he⟩ | ⟨t₀, rows, h₁, rest, hcount, hpure, rfl⟩
        · cases he
        obtain ⟨rfl, he, rfl⟩ := runs_smokePure.mp hpure
        cases he
        obtain ⟨own, hown, rfl⟩ := runs_embed.mp hcount
        have hanswers := hown.answers
        obtain ⟨h₂, result, -, rfl, hcode, hone⟩ := runs_countSql (harnessRuns_of_queried hown)
        obtain ⟨-, hcounted⟩ := (hanswers _ List.mem_cons_self).2
        obtain ⟨n, hn, hdenotes⟩ := hcounted hcode
        obtain rfl : n = 1 := hdenotes.eq hone
        exact ⟨hcontract, id, _, rfl, rfl, rfl, hcode, hn⟩

/-- The evidence of a loop that ended with it. -/
theorem evidence_of_loop {deadline turns : Nat} {metrics last : TrafficMetrics}
    {eventId lastId : Option String}
    (hr : SmokeRuns casts printers (observeLoop reprs run deadline turns metrics eventId) h trace
      (.ok (true, last, lastId)) h') :
    ∃ id traffic replay count, [traffic, replay, count].Sublist trace ∧
      showsTraffic run traffic ∧ showsReplay id replay ∧ countsOneRow casts run id count := by
  induction turns generalizing h trace metrics eventId with
  | zero =>
      rw [observeLoop] at hr
      rcases runs_exceptBind.mp hr with ⟨e, -, he⟩ | ⟨t₀, now, h₁, rest, -, hgo, rfl⟩
      · cases he
      split at hgo
      · cases (runs_smokePure.mp hgo).2.1
      · cases (runs_smokePure.mp hgo).2.1
  | succ turns ih =>
      rw [observeLoop] at hr
      rcases runs_exceptBind.mp hr with ⟨e, -, he⟩ | ⟨t₀, now, h₁, rest, -, hgo, rfl⟩
      · cases he
      split at hgo
      swap
      · cases (runs_smokePure.mp hgo).2.1
      rcases runs_exceptBind.mp hgo with ⟨e, -, he⟩ | ⟨t₁, _, h₂, rest₁, -, hgo₁, rfl⟩
      · cases he
      rcases runs_exceptBind.mp hgo₁ with ⟨e, -, he⟩ | ⟨t₂, raw, h₃, rest₂, hpsql, hgo₂, rfl⟩
      · cases he
      rcases runs_exceptBind.mp hgo₂ with ⟨e, -, he⟩ | ⟨t₃, found, h₄, rest₃, hparse, hgo₃, rfl⟩
      · cases he
      obtain ⟨rfl, hfound, rfl⟩ := runs_computed.mp hparse
      rcases runs_exceptBind.mp hgo₃ with ⟨e, -, he⟩ | ⟨t₄, logs, h₅, rest₄, hlogs, hgo₄, rfl⟩
      · cases he
      rcases runs_exceptBind.mp hgo₄ with ⟨e, -, he⟩ | ⟨t₅, rows, h₆, rest₅, hrows, hgo₅, rfl⟩
      · cases he
      split at hgo₅
      case isFalse =>
        obtain ⟨id, traffic, replay, count, hsub, hshown⟩ := ih hgo₅
        refine ⟨id, traffic, replay, count, hsub.trans ?_, hshown⟩
        simp only [← List.append_assoc]
        exact List.sublist_append_right _ _
      case isTrue hone =>
        subst hone
        obtain ⟨hcontract, id, count, hid, rfl, hcount⟩ := countsOneRow_of_runs hrows
        obtain ⟨h₇, result, -, -, ⟨-, hanswer⟩, rfl, hcode, rfl⟩ := runs_psql hpsql
        obtain ⟨h₈, logged, rfl, hlogged, rfl⟩ := runs_simulatorLogs hlogs
        obtain ⟨m, hm, hdenotes⟩ := hanswer hcode
        rw [parseMetrics_of_denotes hdenotes] at hfound
        cases hfound
        have hsub : ∀ {x y z : SmokeStep} {xs ys : List SmokeStep},
            [x, y, z].Sublist (xs ++ ([x] ++ ([] ++ ([y] ++ ([z] ++ ys))))) := fun {x y z xs ys} =>
          (((List.nil_sublist ys).cons_cons z).cons_cons y |>.cons_cons x).trans
            (List.sublist_append_right xs _)
        exact ⟨id, ⟨h₇, .inl (.compose (.psql (.metrics run.runTag) run.dbUser run.dbName true)),
            result, _⟩, ⟨h₈, .inr .simulatorLogs, logged, _⟩, count,
          hsub.trans (List.sublist_append_right _ _), ⟨rfl, hcode, _, hm, hcontract⟩,
          ⟨hlogged, hid⟩, hcount⟩

/-- The simulators were started with the tag of the run. -/
def startsSimulators (run : VerificationRun) : SmokeStep → Prop
  | ⟨_, .inr (.startSimulators settings), result, _⟩ =>
      settings = makeSmokeEnv run.runTag ∧ result.returncode = 0
  | _ => False

/-- The evidence of a test that passed. -/
theorem evidence_of_traffic {timeoutSeconds turns : Nat}
    (hr : SmokeRuns casts printers (observeTraffic reprs run timeoutSeconds turns) h trace (.ok ())
      h') :
    ∃ id start traffic replay count, [start, traffic, replay, count].Sublist trace ∧
      startsSimulators run start ∧ showsTraffic run traffic ∧ showsReplay id replay ∧
      countsOneRow casts run id count := by
  rcases runs_exceptBind.mp hr with ⟨e, -, he⟩ | ⟨t₀, result, h₁, rest₀, hstart, hgo₀, rfl⟩
  · cases he
  obtain ⟨h₂, reply, -, -, rfl, he⟩ := runs_smokeEffect hstart
  cases he
  rcases runs_exceptBind.mp hgo₀ with ⟨e, -, he⟩ | ⟨t₁, _, h₃, rest₁, hcheck, hgo₁, rfl⟩
  · cases he
  obtain ⟨rfl, hcode, -, rfl⟩ := runs_checkResult hcheck
  rcases runs_exceptBind.mp hgo₁ with ⟨e, -, he⟩ | ⟨t₂, now, h₄, rest₂, -, hgo₂, rfl⟩
  · cases he
  rcases runs_exceptBind.mp hgo₂ with
    ⟨e, -, he⟩ | ⟨t₃, ⟨printed, metrics, eventId⟩, h₅, rest₃, hloop, hend, rfl⟩
  · cases he
  cases printed with
  | false => cases (runs_smokeThrow.mp hend).2.1
  | true =>
      obtain ⟨id, traffic, replay, count, hsub, hshown⟩ := evidence_of_loop hloop
      refine ⟨id, ⟨h₂, .inr (.startSimulators (makeSmokeEnv run.runTag)), _, h₃⟩, traffic, replay,
        count, ?_, ⟨rfl, hcode⟩, hshown⟩
      refine .cons_cons _ (hsub.trans ?_)
      simp only [List.nil_append, ← List.append_assoc]
      exact (List.sublist_append_right t₂ t₃).trans (List.sublist_append_left _ _)

/-- The test starts the simulators of the run, and reads. -/
theorem observeTraffic_ops {timeoutSeconds turns : Nat} {smoke : Except HarnessException Unit}
    (hr : SmokeRuns casts printers (observeTraffic reprs run timeoutSeconds turns) h trace smoke
      h') :
    ∀ p ∈ trace, readsOnly p.op ∨ p.op = .inr (.startSimulators (makeSmokeEnv run.runTag)) := by
  have huses : (observeTraffic reprs run timeoutSeconds turns).run.Uses fun op =>
      readsOnly op ∨ op = .inr (.startSimulators (makeSmokeEnv run.runTag)) := by
    rw [observeTraffic]
    refine Uses.exceptBind ⟨Or.inr rfl, fun _ => trivial⟩ fun result => ?_
    have hreads : Reads (do
        let _ ← checkResult (.startSimulators (makeSmokeEnv run.runTag)) result
        let start ← embed (effect .monotonic)
        let evidence ← observeLoop reprs run (start + 1000 * timeoutSeconds) turns ⟨0, 0, 0, 0⟩ none
        if evidence.1 then pure ()
        else throw (.verificationError (timeoutMessage evidence.2.1 evidence.2.2))) :=
      .bind (.checkResult _ _) fun _ => .bind (.effect trivial) fun _ =>
        .bind (reads_observeLoop reprs run _ _ _ _) fun _ => .ite (.pure _) (.throw _)
    exact hreads.uses.mono fun _ => Or.inl
  exact hr.uses huses

/-! ## What a run guarantees -/

/-- Finalizing guards its cleanup and its success. -/
theorem guardedRun_of_runs {turns : Nat} {own : List HarnessStep}
    (hr : HarnessRuns casts (finalizeVerificationRun reprs run turns) h own outcome h') :
    GuardedRun casts run own outcome h' := by
  cases finalizeRun_of_runs hr with
  | simulatorsLeft hsims houtcome =>
      exact (writeBarrier_of_unstopped (stopTrace_of_runs hsims).kinds houtcome).1
  | backendLeft hsims hstop houtcome =>
      exact (writeBarrier_of_unstopped (List.forall_mem_append.mpr
        ⟨(stopTrace_of_runs hsims).kinds, (stopTrace_of_runs hstop).kinds⟩) houtcome).1
  | restartFailed hsims hstop hclean hstart houtcome =>
      exact (WriteBarrier.of_stopped hsims hstop hclean (kinds_startAndAnnounce hstart)
        (starting_of_startAndAnnounce hstart) (fun hok => absurd hok houtcome)
        fun hok => absurd hok houtcome).toGuardedRun
  | restarted hsims hstop hclean hstart hverify houtcome =>
      have hrest := List.forall_mem_append.mpr
        ⟨kinds_startAndAnnounce hstart, hverify.uses (onlyUses_verifyAfterRestart run)⟩
      obtain ⟨p, hp, hk⟩ := starting_of_startAndAnnounce hstart
      refine (WriteBarrier.of_stopped hsims hstop hclean hrest
        ⟨p, List.mem_append_left _ hp, hk⟩ (fun hok => ?_) fun _ => ?_).toGuardedRun
      · obtain rfl := (houtcome.mp hok).2
        obtain ⟨up, probe, hsub, hup, hprobe⟩ := started_of_startAndAnnounce hstart
        obtain ⟨sims, rows, stores, hsub', hshown⟩ := verified_of_runs hverify
        exact ⟨up, probe, sims, rows, stores, hsub.append hsub', hup, hprobe, hshown⟩
      · exact simulators_idle_of_runs hverify (simulators_idle_of_runs hstart
          (simulators_idle_of_runs hclean (simulators_idle_of_runs hstop
            (stopTrace_of_runs hsims).observed.2)))

/-- Where every command can be started and replies, a run that could not be prepared has only
read.  Any other is finalized, whatever came of the test, and but for the start of its simulators
only the finalizing changes anything. -/
theorem runSmoke_finalizes {timeoutSeconds turns restartTurns : Nat}
    (hr : SmokeRuns casts printers (runSmoke reprs timeoutSeconds turns restartTurns) h trace
      outcome h') :
    (outcome ≠ .ok () ∧ ∀ p ∈ trace, readsOnly p.op) ∨
    ∃ (run : VerificationRun) (tag : RunTag) (before test after : List SmokeStep)
      (own : List HarnessStep) (h₁ h₂ h₃ h₄ : DockerHost)
      (smoke cleanup : Except HarnessException Unit),
      run.runTag = tag.text ∧ trace = before ++ (own.map Performed.inl ++ after) ∧
      SmokeRuns casts printers (observeTraffic reprs run timeoutSeconds turns) h₁ test smoke h₂ ∧
      test <:+: before ∧
      (∀ p ∈ before,
        readsOnly p.op ∨ p.op = .inr (.startSimulators (makeSmokeEnv run.runTag))) ∧
      HarnessRuns casts (finalizeVerificationRun reprs run restartTurns) h₃ own cleanup h₄ ∧
      GuardedRun casts run own cleanup h₄ ∧ (∀ p ∈ after, readsOnly p.op) ∧
      outcome = smokeOutcome smoke cleanup ∧ (outcome = .ok () → h'.Idle simulatorServices) := by
  cases smokeRun_of_runs hr with
  | unprepared hprepare =>
      exact Or.inl ⟨nofun, hprepare.uses (reads_prepareRun reprs).uses⟩
  | @finalized t₀ t₁ t₂ t₄ own h₁ h₂ h₃ h₄ h₅ run smoke cleanup hprepare hobserve hdiagnose
      hfinalize hreport =>
      obtain ⟨⟨tag, htag⟩, -⟩ := prepared_of_runs hprepare
      have hguarded := guardedRun_of_runs hfinalize
      refine Or.inr ⟨run, tag, t₀ ++ (t₁ ++ t₂), t₁, t₄, own, h₁, h₂, h₃, h₄, smoke, cleanup, htag,
        by simp, hobserve, ⟨t₀, t₂, List.append_assoc ..⟩, ?_, hfinalize, hguarded,
        hreport.uses (reads_reportSmoke smoke cleanup).uses, rfl, fun hok => ?_⟩
      · intro p hp
        simp only [List.mem_append] at hp
        rcases hp with hp | hp | hp
        · exact Or.inl (hprepare.uses (reads_prepareRun reprs).uses p hp)
        · exact observeTraffic_ops hobserve p hp
        · exact Or.inl (hdiagnose.uses (reads_diagnose smoke).uses p hp)
      · have hcleanup : cleanup = .ok () := by
          cases smoke with
          | error e => cases hok
          | ok _ =>
              cases cleanup with
              | error e => cases hok
              | ok _ => rfl
        exact idle_of_reading hreport (reads_reportSmoke smoke cleanup) (hguarded.idle hcleanup)

/-- A run over five stores that passes. -/
theorem runSmoke_finalizes_five_stores :
    ∃ (trace : List SmokeStep) (h' : DockerHost),
      SmokeRuns fiveCasts fivePrinters (runSmoke fiveReprs 35 35 60)
        (fiveHost ⟨"4f1c", by decide, by decide⟩) trace (.ok ()) h' ∧
      ∃ (run : VerificationRun) (own : List HarnessStep) (h₃ h₄ : DockerHost),
        HarnessRuns fiveCasts (finalizeVerificationRun fiveReprs run 60) h₃ own (.ok ()) h₄ ∧
        h'.Idle simulatorServices := by
  obtain ⟨trace, h', hr⟩ := runSmoke_passes_fiveStores ⟨"4f1c", by decide, by decide⟩
  refine ⟨trace, h', hr, ?_⟩
  rcases runSmoke_finalizes hr with ⟨hfailed, -⟩ |
    ⟨run, _, _, _, _, own, _, _, h₃, h₄, smoke, cleanup, -, -, -, -, -, hown, -, -, hok, hidle⟩
  · exact absurd rfl hfailed
  · cases smoke with
    | error e => cases hok
    | ok _ =>
        cases cleanup with
        | error e => cases hok
        | ok _ => exact ⟨run, own, h₃, h₄, hown, hidle rfl⟩

end StorePulse
