import StorePulse.Harness.CommandRuns
import StorePulse.Harness.Smoke

/-!
# What the commands of the smoke test do

The host of `DockerHost`, with the commands that only the smoke test has.  The
start of the simulators may start any of their containers, whatever it reports,
and leaves the backend alone (`--no-deps`).  The queries of the smoke test change
nothing, and report the truth when they succeed.
-/

namespace StorePulse

open Program

/-! ## The queries -/

/-- The events whose `source_instance` a pattern takes. -/
def Tables.eventsLike (t : Tables) (pattern : String) : Except SqlError (List PosEvent) :=
  match Like.parse pattern.toList with
  | none => .error .dataError
  | some tokens => .ok (t.events.filter fun e => Like.matchesTokens tokens e.sourceInstance.toList)

/-- The query of `build_metrics_sql`. -/
def Tables.metrics (t : Tables) (runTag : String) : Except SqlError TrafficMetrics := do
  let events ← t.eventsLike (sourcePattern runTag)
  return ⟨(events.map fun e => e.storeId).dedup.length, events.countP fun e => e.eventType == .sale,
    events.countP fun e => e.eventType == .refund,
    events.countP fun e => e.occurredAt < e.receivedAt - microseconds⟩

/-- The query of `build_duplicate_count_sql`. -/
def Tables.duplicateCount (casts : Casts) (t : Tables) (runTag eventId : String) :
    Except SqlError Nat := do
  let events ← t.eventsLike (sourcePattern runTag)
  match casts.uuid eventId with
  | none => .error .dataError
  | some id => return events.countP fun e => e.eventId == id

/-- The output of the metrics query denotes four numbers. -/
def DenotesMetrics (result : CommandResult) (m : TrafficMetrics) : Prop :=
  ∃ stores sales refunds late, splitBars (pyStrip (pyStrip result.stdout)) =
      [stores, sales, refunds, late] ∧
    pyInt stores = some m.stores ∧ pyInt sales = some m.sales ∧
    pyInt refunds = some m.refunds ∧ pyInt late = some m.late

theorem parseMetrics_of_denotes {reprs : Reprs} {result : CommandResult} {m : TrafficMetrics}
    (h : DenotesMetrics result m) : parseMetrics reprs (pyStrip result.stdout) = .ok m := by
  obtain ⟨stores, sales, refunds, late, hsplit, hstores, hsales, hrefunds, hlate⟩ := h
  simp only [parseMetrics, hsplit, hstores, hsales, hrefunds, hlate]

/-- What the queries of the smoke test report. -/
def QueryAnswers (casts : Casts) (printers : Printers) (t : Tables) :
    BuiltSql → CommandResult → Tables → Prop
  | .snapshot, result, t' => t' = t ∧
      (result.returncode = 0 → PrintsStores printers t (pyStrip result.stdout))
  | .metrics runTag, result, t' => t' = t ∧
      (result.returncode = 0 → ∃ m, t.metrics runTag = .ok m ∧ DenotesMetrics result m)
  | .duplicateCount runTag eventId, result, t' => t' = t ∧
      (result.returncode = 0 →
        ∃ n, t.duplicateCount casts runTag eventId = .ok n ∧ Denotes result n)
  | _, _, _ => True

/-! ## The environment -/

/-- What an operation of `Compose` may do, and the reply to it, with the queries. -/
def QueriedAnswers (casts : Casts) (printers : Printers) (h : DockerHost) (op : HarnessOp)
    (reply : op.Reply) (h' : DockerHost) : Prop :=
  HarnessAnswers casts h op reply h' ∧
    match op, reply with
    | .compose (.psql sql _ _ _), result =>
        QueryAnswers casts printers h.tables sql result h'.tables
    | _, _ => True

/-- What the other operations may do. -/
def SmokeAnswers (h : DockerHost) : (op : SmokeOp) → op.Reply → DockerHost → Prop
  | .uuid4Hex, digits, h' =>
      digits.toList.length = 12 ∧ digits.toList.all isHexDigit = true ∧ h' = h
  | .printError _, _, h' => h' = h
  | .startSimulators _, _, h' => h'.tables = h.tables ∧ h.clock ≤ h'.clock ∧
      ∀ s, s ∉ simulatorServices → h'.running s = h.running s
  | .printenv _, _, h' | .simulatorLogs, _, h' | .diagnosticPs, _, h' | .diagnosticLogs, _, h' =>
      h'.running = h.running ∧ h'.tables = h.tables ∧ h.clock ≤ h'.clock

/-- The environment of `Compose`, with the queries. -/
def queriedEnvironment (casts : Casts) (printers : Printers) :
    Environment HarnessEffects DockerHost where
  drifts := DockerHost.Drifts
  answers := QueriedAnswers casts printers

/-- The environment of the smoke test. -/
def smokeEnvironment (casts : Casts) (printers : Printers) :
    Environment SmokeEffects DockerHost :=
  (queriedEnvironment casts printers).sum SmokeAnswers

/-- A command of the smoke test as it was run. -/
abbrev SmokeStep := Performed SmokeEffects DockerHost

/-- A complete run of a function of the smoke test. -/
abbrev SmokeRuns {α : Type} (casts : Casts) (printers : Printers) (m : Smoke α) (h : DockerHost)
    (trace : List SmokeStep) (outcome : Except HarnessException α) (h' : DockerHost) : Prop :=
  Runs (smokeEnvironment casts printers) m.run h trace outcome h'

/-! ## Runs of the parts -/

variable {casts : Casts} {printers : Printers} {h h' : DockerHost} {trace : List SmokeStep}
  {α β : Type}

/-- A function of `Compose` runs in the smoke test as it does by itself. -/
theorem runs_embed {m : Harness α} {outcome : Except HarnessException α} :
    SmokeRuns casts printers (embed m) h trace outcome h' ↔
      ∃ own, Runs (queriedEnvironment casts printers) m.run h own outcome h' ∧
        trace = own.map Performed.inl := runs_inl

/-- Its run is one of the harness. -/
theorem harnessRuns_of_queried {m : Harness α} {own : List HarnessStep}
    {outcome : Except HarnessException α}
    (hr : Runs (queriedEnvironment casts printers) m.run h own outcome h') :
    HarnessRuns casts m h own outcome h' := hr.mono (fun hd => hd) fun ha => ha.1

theorem runs_smokeEffect {op : SmokeOp} {outcome : Except HarnessException op.Reply}
    (hr : SmokeRuns casts printers (smokeEffect op) h trace outcome h') :
    ∃ h₁ reply, h.Drifts h₁ ∧ SmokeAnswers h₁ op reply h' ∧
      trace = [⟨h₁, .inr op, reply, h'⟩] ∧ outcome = .ok reply := by
  obtain ⟨h₁, reply, h₂, rest, hdrift, hanswer, hrest, rfl⟩ := runs_call.mp hr
  obtain ⟨rfl, rfl, rfl⟩ := runs_ret.mp hrest
  exact ⟨h₁, reply, hdrift, hanswer, rfl, rfl⟩

theorem runs_smokePure {a : α} {outcome : Except HarnessException α} :
    SmokeRuns casts printers (pure a) h trace outcome h' ↔
      trace = [] ∧ outcome = .ok a ∧ h' = h := runs_ret

theorem runs_smokeThrow {e : HarnessException} {outcome : Except HarnessException α} :
    SmokeRuns casts printers (throw e) h trace outcome h' ↔
      trace = [] ∧ outcome = .error e ∧ h' = h := runs_ret

/-- A value or an exception that was computed without an effect. -/
theorem runs_computed {result outcome : Except HarnessException α} :
    SmokeRuns casts printers (ExceptT.mk (pure result)) h trace outcome h' ↔
      trace = [] ∧ outcome = result ∧ h' = h := runs_ret

end StorePulse
