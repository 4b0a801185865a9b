import StorePulse.Foundation.ProgramSum
import StorePulse.Harness.Compose
import StorePulse.Harness.DuplicateLog
import StorePulse.Harness.Snapshot

/-!
# The smoke test

The rest of `scripts/verify_simulator_smoke.py`: the snapshot, the simulators, the
loop that waits for their traffic, and `run_smoke` and `main` around them.  These
functions run commands that finalizing does not have, so they are programs over a
sum of signatures, and `finalize_verification_run` is embedded in them.

What `argparse` makes of the arguments is given, and what it prints is left out.

The loop waits until a deadline.  It has an argument for the turns it may still
take, and every turn sleeps for a second.
-/

namespace StorePulse

/-! ## Commands -/

/-- What the smoke test asks of its environment besides. -/
inductive SmokeOp where
  /-- `uuid4().hex[:12]`. -/
  | uuid4Hex
  /-- `printenv` in the container of the database. -/
  | printenv (name : String)
  /-- `up` of the simulators, with some variables set. -/
  | startSimulators (settings : List (String × String))
  /-- The last lines of the simulators' logs. -/
  | simulatorLogs
  /-- `ps`, as `show_diagnostics` runs it. -/
  | diagnosticPs
  /-- `logs`, as `show_diagnostics` runs it. -/
  | diagnosticLogs
  /-- `print(..., file=sys.stderr)`. -/
  | printError (line : String)

/-- The reply to an effect. -/
abbrev SmokeOp.Reply : SmokeOp → Type
  | .uuid4Hex => String
  | .printError _ => Unit
  | _ => CommandResult

/-- The arguments of `compose`, for the effects that are commands. -/
def SmokeOp.args : SmokeOp → List String
  | .printenv name => ["exec", "-T", "postgres", "printenv", name]
  | .startSimulators _ =>
      ["--profile", "demo", "up", "-d", "--build", "--force-recreate", "--no-deps"] ++
      simulatorServices
  | .simulatorLogs =>
      ["--profile", "demo", "logs", "--no-color", "--tail=1000"] ++ simulatorServices
  | .diagnosticPs => ["--profile", "demo", "ps"]
  | .diagnosticLogs =>
      ["--profile", "demo", "logs", "--no-color", "--tail=100"] ++ simulatorServices
  | .uuid4Hex | .printError _ => []

/-- The effects of the smoke test. -/
abbrev SmokeEffects : Signature := HarnessEffects.sum ⟨SmokeOp, SmokeOp.Reply⟩

/-- A computation of the smoke test. -/
abbrev Smoke := ExceptT HarnessException (Program SmokeEffects)

/-- A computation of `Compose`. -/
def embed {α : Type} (m : Harness α) : Smoke α := ExceptT.mk m.run.inl

/-- Perform an effect. -/
def smokeEffect (op : SmokeOp) : Smoke op.Reply :=
  ExceptT.mk (.call (S := SmokeEffects) (.inr op) fun reply => .ret (.ok reply))

/-- The result of a command, unless it failed. -/
def checkResult (op : SmokeOp) (result : CommandResult) : Smoke CommandResult :=
  if result.returncode ≠ 0 then
    throw (.verificationError ("\n".intercalate
      (["Command failed with exit code " ++ toString result.returncode ++ ": " ++
          " ".intercalate (["docker", "compose"] ++ op.args)] ++
        detail "stdout" result.stdout ++ detail "stderr" result.stderr)))
  else return result

/-! ## Reading the database -/

/-- `read_container_env`. -/
def readContainerEnv (name : String) : Smoke String := do
  let result ← smokeEffect (.printenv name)
  let result ← checkResult (.printenv name) result
  if (pyStrip result.stdout).isEmpty then
    throw (.verificationError ("PostgreSQL container variable " ++ name ++ " is empty."))
  else return pyStrip result.stdout

/-- `TrafficMetrics`. -/
structure TrafficMetrics where
  stores : Int
  sales : Int
  refunds : Int
  late : Int
deriving DecidableEq

/-- `TrafficMetrics.satisfies_contract`. -/
def TrafficMetrics.satisfiesContract (m : TrafficMetrics) : Bool :=
  m.stores == 5 && 5 ≤ m.sales && 1 ≤ m.refunds && 1 ≤ m.late

/-- `text.split("|")`. -/
def splitBars (text : String) : List String := (text.toList.splitOn '|').map String.ofList

variable (reprs : Reprs)

/-- `parse_metrics`. -/
def parseMetrics (raw : String) : Except HarnessException TrafficMetrics :=
  match splitBars (pyStrip raw) with
  | [stores, sales, refunds, late] =>
      match pyInt stores, pyInt sales, pyInt refunds, pyInt late with
      | some stores, some sales, some refunds, some late => .ok ⟨stores, sales, refunds, late⟩
      | _, _, _, _ =>
          .error (.verificationError ("Simulator metrics are not integers: " ++ reprs.str raw))
  | _ => .error (.verificationError ("Unexpected simulator metrics result: " ++ reprs.str raw))

/-- The check of an entry, and the item in it.  The query gives texts; an entry with other values
is taken as malformed too, since an item has no place for them. -/
def snapshotEntry (entry : Json) : Except HarnessException SnapshotItem :=
  match SnapshotItem.ofValue entry with
  | some item => .ok item
  | none => .error (.verificationError ("Malformed store snapshot entry: " ++ reprs.value entry))

/-- `snapshot_store_state`, from the output of its query on. -/
def parseSnapshot (raw : String) : Except HarnessException (List SnapshotItem) :=
  match jsonLoads raw with
  | none => .error (.verificationError
      ("Could not parse store connectivity snapshot: " ++ reprs.str raw))
  | some (.arr (entry :: entries)) => (entry :: entries).mapM (snapshotEntry reprs)
  | some _ => .error (.verificationError "Store connectivity snapshot is empty or malformed.")

/-- `snapshot_store_state`. -/
def snapshotStoreState (dbUser dbName : String) : Smoke (List SnapshotItem) := do
  let raw ← embed (psql .snapshot dbUser dbName true)
  ExceptT.mk (pure (parseSnapshot reprs raw))

/-- What `make_smoke_env` sets, on top of the environment of the harness. -/
def makeSmokeEnv (runTag : String) : List (String × String) :=
  [("SIMULATOR_MADRID_EVENTS_PER_SECOND", "2"), ("SIMULATOR_LONDON_EVENTS_PER_SECOND", "2"),
    ("SIMULATOR_NYC_EVENTS_PER_SECOND", "2"), ("SIMULATOR_TOKYO_EVENTS_PER_SECOND", "2"),
    ("SIMULATOR_WARSAW_EVENTS_PER_SECOND", "2"), ("SIMULATOR_REFUND_RATE", "1.00"),
    ("SIMULATOR_DUPLICATE_RATE", "1.00"), ("SIMULATOR_LATE_EVENT_RATE", "1.00"),
    ("SIMULATOR_STATS_INTERVAL_SECONDS", "5"), ("SIMULATOR_RUN_TAG", runTag)]

/-- `simulator_logs`. -/
def simulatorLogs : Smoke String := do
  let result ← smokeEffect .simulatorLogs
  let result ← checkResult .simulatorLogs result
  return result.stdout

/-- The part of `show_diagnostics` for one stream. -/
def showStream (text : String) : Smoke Unit :=
  if (pyStrip text).isEmpty then return () else smokeEffect (.printError (pyRstrip text))

/-- `show_diagnostics`. -/
def showDiagnostics : Smoke Unit := do
  let ps ← smokeEffect .diagnosticPs
  showStream ps.stdout
  showStream ps.stderr
  let logs ← smokeEffect .diagnosticLogs
  showStream logs.stdout
  showStream logs.stderr

/-! ## Waiting for traffic -/

/-- What a run prints once it has its evidence. -/
def evidenceLines (runTag : String) (metrics : TrafficMetrics) (duplicateRows : Int) :
    List String :=
  ["Simulator traffic observed from exactly 5 stores.",
    "Persisted SALE rows: " ++ toString metrics.sales,
    "Persisted REFUND rows: " ++ toString metrics.refunds,
    "Persisted late rows: " ++ toString metrics.late,
    "Exact duplicate replay observed: yes",
    "Duplicate replay durable row count: " ++ toString duplicateRows,
    "Verification run tag: " ++ runTag]

/-- `print`, for some lines. -/
def printLines : List String → Smoke Unit
  | [] => return ()
  | line :: lines => do
      embed (effect (.print line))
      printLines lines

variable (run : VerificationRun)

/-- The count of rows with the id, if there is an id and the metrics satisfy the contract. -/
def duplicateRows (metrics : TrafficMetrics) : Option String → Smoke (Option Int)
  | none => return none
  | some eventId =>
      if metrics.satisfiesContract then do
        let rows ← embed (countSql reprs run (.duplicateCount run.runTag eventId))
        return some rows
      else return none

/-- The `while` loop of `run_smoke`: whether the evidence was printed, and the last values. -/
def observeLoop (deadline : Nat) : Nat → TrafficMetrics → Option String →
    Smoke (Bool × TrafficMetrics × Option String)
  | turns, metrics, duplicateEventId => do
      let now ← embed (effect .monotonic)
      if now < deadline then
        match turns with
        | 0 => return (false, metrics, duplicateEventId)
        | turns + 1 =>
            embed (effect (.sleep 1000))
            let raw ← embed (psql (.metrics run.runTag) run.dbUser run.dbName true)
            let metrics ← ExceptT.mk (pure (parseMetrics reprs raw))
            let logs ← simulatorLogs
            let duplicateEventId := extractDuplicateEventId logs
            let rows ← duplicateRows reprs run metrics duplicateEventId
            if rows = some 1 then
              printLines (evidenceLines run.runTag metrics 1)
              return (true, metrics, duplicateEventId)
            else observeLoop deadline turns metrics duplicateEventId
      else return (false, metrics, duplicateEventId)

/-- A bool in an f-string. -/
def pyBool (b : Bool) : String := if b then "True" else "False"

/-- The message of a run that found no evidence. -/
def timeoutMessage (metrics : TrafficMetrics) (duplicateEventId : Option String) : String :=
  "Simulator smoke timed out: stores=" ++ toString metrics.stores ++ " sales=" ++
  toString metrics.sales ++ " refunds=" ++ toString metrics.refunds ++ " late=" ++
  toString metrics.late ++ " duplicate=" ++ pyBool duplicateEventId.isSome ++ "."

/-- The body of the `try` of `run_smoke`. -/
def observeTraffic (timeoutSeconds turns : Nat) : Smoke Unit := do
  let result ← smokeEffect (.startSimulators (makeSmokeEnv run.runTag))
  let _ ← checkResult (.startSimulators (makeSmokeEnv run.runTag)) result
  let start ← embed (effect .monotonic)
  let (evidencePrinted, metrics, duplicateEventId) ←
    observeLoop reprs run (start + 1000 * timeoutSeconds) turns ⟨0, 0, 0, 0⟩ none
  if evidencePrinted then return ()
  else throw (.verificationError (timeoutMessage metrics duplicateEventId))

/-! ## The whole run -/

/-- `run_smoke` before its `try`. -/
def prepareRun : Smoke VerificationRun := do
  let digits ← smokeEffect .uuid4Hex
  let dbUser ← readContainerEnv "POSTGRES_USER"
  let dbName ← readContainerEnv "POSTGRES_DB"
  let snapshot ← snapshotStoreState reprs dbUser dbName
  return ⟨"verify-" ++ digits, snapshot, dbUser, dbName⟩

/-- The `except` of `run_smoke`. -/
def diagnose : Except HarnessException Unit → Smoke Unit
  | .error _ => showDiagnostics
  | .ok () => return ()

/-- The end of `run_smoke`: the error of the test goes before that of the cleanup. -/
def reportSmoke : Except HarnessException Unit → Except HarnessException Unit → Smoke Unit
  | .error smokeError, .error cleanupError => do
      smokeEffect (.printError "Cleanup diagnostics:")
      smokeEffect (.printError ("- " ++ cleanupError.text))
      throw (.verificationError smokeError.text)
  | .error smokeError, .ok () => throw (.verificationError smokeError.text)
  | .ok (), .error cleanupError => throw (.verificationError cleanupError.text)
  | .ok (), .ok () => return ()

/-- `run_smoke`. -/
def runSmoke (timeoutSeconds turns restartTurns : Nat) : Smoke Unit := do
  let run ← prepareRun reprs
  let smoke ← Program.attempt (observeTraffic reprs run timeoutSeconds turns)
  diagnose smoke
  let cleanup ← Program.attempt (embed (finalizeVerificationRun reprs run restartTurns))
  reportSmoke smoke cleanup

/-- What `parser.parse_args` makes of the arguments: the value of `--timeout`, or `SystemExit`,
with 0 after `--help` and with 2 after an error. -/
inductive ParsedArgs where
  | timeout (seconds : Int)
  | systemExit (code : Int)

/-- `parse_args`: the timeout, or the code of its `SystemExit`.  `parser.error` exits with 2. -/
def parseArgs : ParsedArgs → Except Int Nat
  | .timeout seconds => if seconds < 5 then .error 2 else .ok seconds.toNat
  | .systemExit code => .error code

/-- `main` under `raise SystemExit`: the exit code. -/
def smokeMain (parsed : ParsedArgs) (turns restartTurns : Nat) : Smoke Int := do
  match parseArgs parsed with
  | .error code => return code
  | .ok timeoutSeconds =>
      match ← Program.attempt (runSmoke reprs timeoutSeconds turns restartTurns) with
      | .ok () => return 0
      | .error (.verificationError message) =>
          smokeEffect (.printError ("Simulator verification failed:\n" ++ message))
          return 1
      | .error exc => throw exc

end StorePulse
