import StorePulse.Foundation.ProgramRuns
import StorePulse.Harness.SqlText
import StorePulse.Python.Numbers

/-!
# The commands of the smoke harness

`scripts/verify_simulator_smoke.py` from `run_command` to
`finalize_verification_run`, function by function.  A function is a program over
the commands it runs with `docker compose`, the monotonic clock, `time.sleep` and
`print`, with Python's exceptions as the error of an `ExceptT`.  Every command can be
started and replies: what `subprocess.run` itself could raise, such as an `OSError`
where there is no `docker`, is left out.  `repr` is used in messages only, and is a
parameter.

`wait_for_backend_ready` loops until a deadline.  The loop has an argument for the
turns it may still take.  Every turn that goes on sleeps for half a second, so 60
are enough (`startBackend_turns`).
-/

namespace StorePulse

/-! ## Commands -/

/-- `SIMULATOR_SERVICES`. -/
def simulatorServices : List String :=
  ["simulator-madrid", "simulator-london", "simulator-new-york", "simulator-tokyo",
    "simulator-warsaw"]

/-- `BACKEND_SERVICE`. -/
def backendService : String := "backend"

/-- The probe of `wait_for_backend_ready`. -/
def readinessProbe : String :=
  "import urllib.request; urllib.request.urlopen('http://localhost:8000/api/v1/health/ready', " ++
  "timeout=2).read()"

/-- A call of `compose`. -/
inductive ComposeCommand where
  | ps (profile : Option String) (services : List String)
  | stop (profile : Option String) (services : List String)
  | kill (profile : Option String) (services : List String)
  /-- `psql` in the container of the database. -/
  | psql (sql : BuiltSql) (dbUser dbName : String) (scalar : Bool)
  /-- The readiness probe. -/
  | probe
  /-- The last lines of the backend's log. -/
  | logs
  /-- Start the backend. -/
  | up

/-- `--profile`, when there is one. -/
def profileArgs : Option String → List String
  | none => []
  | some profile => ["--profile", profile]

/-- The arguments of `compose`.  The text of a statement is the builder's
(`BuiltSql.text_eq`). -/
def ComposeCommand.args : ComposeCommand → List String
  | .ps profile services => profileArgs profile ++ ["ps", "--status", "running", "-q"] ++ services
  | .stop profile services => profileArgs profile ++ ["stop"] ++ services
  | .kill profile services => profileArgs profile ++ ["kill"] ++ services
  | .psql sql dbUser dbName scalar =>
      ["exec", "-T", "postgres", "psql", "-X", "-v", "ON_ERROR_STOP=1", "-U", dbUser, "-d",
        dbName] ++ (if scalar then ["-A", "-t"] else []) ++
      ["-c", assembleText sql.parts.1 sql.parts.2]
  | .probe => ["exec", "-T", backendService, "python", "-c", readinessProbe]
  | .logs => ["logs", "--no-color", "--tail=100", backendService]
  | .up => ["up", "-d", "--no-deps", backendService]

/-- `CommandResult`. -/
structure CommandResult where
  stdout : String
  stderr : String
  returncode : Int
deriving DecidableEq

/-! ## Effects -/

/-- What the harness asks of its environment. -/
inductive HarnessOp where
  /-- `subprocess.run` of `docker compose`. -/
  | compose (command : ComposeCommand)
  /-- `time.monotonic()`. -/
  | monotonic
  /-- `time.sleep`. -/
  | sleep (milliseconds : Nat)
  | print (line : String)

/-- The reply to an effect.  Times are in milliseconds. -/
abbrev HarnessOp.Reply : HarnessOp → Type
  | .compose _ => CommandResult
  | .monotonic => Nat
  | .sleep _ => Unit
  | .print _ => Unit

/-- The effects of the harness. -/
abbrev HarnessEffects : Signature := ⟨HarnessOp, HarnessOp.Reply⟩

/-- The exceptions that can occur, where every command can be started. -/
inductive HarnessException where
  | verificationError (message : String)
  | valueError (message : String)

/-- `str(exc)`. -/
def HarnessException.text : HarnessException → String
  | .verificationError message => message
  | .valueError message => message

/-- A computation of the harness. -/
abbrev Harness := ExceptT HarnessException (Program HarnessEffects)

/-- Perform an effect. -/
def effect (op : HarnessOp) : Harness op.Reply :=
  ExceptT.mk (.call op fun reply => .ret (.ok reply))

/-! ## Running commands -/

/-- `title:\n`, and the text, when there is more than white space in it. -/
def detail (title text : String) : List String :=
  if (pyStrip text).isEmpty then [] else [title ++ ":\n" ++ pyRstrip text]

/-- `compose(..., check=False)`. -/
def composeUnchecked (command : ComposeCommand) : Harness CommandResult := effect (.compose command)

/-- What `run_command` raises. -/
def commandError (command : ComposeCommand) (result : CommandResult) : HarnessException :=
  .verificationError ("\n".intercalate
    (["Command failed with exit code " ++ toString result.returncode ++ ": " ++
        " ".intercalate (["docker", "compose"] ++ command.args)] ++
      detail "stdout" result.stdout ++ detail "stderr" result.stderr))

/-- `compose`, which raises when the command fails. -/
def compose (command : ComposeCommand) : Harness CommandResult := do
  let result ← composeUnchecked command
  if result.returncode ≠ 0 then
    throw (commandError command result)
  else
    return result

/-- `psql`. -/
def psql (sql : BuiltSql) (dbUser dbName : String) (scalar : Bool) : Harness String := do
  let result ← compose (.psql sql dbUser dbName scalar)
  return pyStrip result.stdout

/-- `repr`. -/
structure Reprs where
  str : String → String
  value : Json → String

/-- `int(text)`.  The message has the start of the `repr` of the text. -/
def harnessInt (reprs : Reprs) (text : String) : Harness Int :=
  match pyInt text with
  | some n => return n
  | none => throw (.valueError ("invalid literal for int() with base 10: " ++
      String.ofList ((reprs.str text).toList.take 200)))

/-! ## Stopping services -/

/-- The container ids in the output of `ps`. -/
def serviceIds (stdout : String) : List String :=
  (splitLines stdout).filterMap fun line =>
    let line := pyStrip line
    if line.isEmpty then none else some line

/-- `_running_service_ids`. -/
def runningServiceIds (services : List String) (profile : Option String) :
    Harness (List String) := do
  let result ← compose (.ps profile services)
  return serviceIds result.stdout

/-- `title: `, and the ids, when there are any. -/
def idsDetail (title : String) (ids : List String) : List String :=
  if ids.isEmpty then [] else [title ++ ": " ++ ", ".intercalate ids]

/-- `_stop_services`. -/
def stopServices (services : List String) (label : String) (profile : Option String) :
    Harness Unit := do
  let stopped ← composeUnchecked (.stop profile services)
  let runningAfterStop ← runningServiceIds services profile
  if stopped.returncode = 0 ∧ runningAfterStop = [] then
    return ()
  else
    let killed ← composeUnchecked (.kill profile services)
    let runningAfterKill ← runningServiceIds services profile
    if killed.returncode = 0 ∧ runningAfterKill = [] then
      return ()
    else
      throw (.verificationError ("\n".intercalate
        (["Could not establish stopped state for " ++ label ++ "."] ++
          detail "stop stdout" stopped.stdout ++ detail "stop stderr" stopped.stderr ++
          idsDetail "running after stop" runningAfterStop ++
          detail "kill stdout" killed.stdout ++ detail "kill stderr" killed.stderr ++
          idsDetail "running after kill" runningAfterKill)))

/-- `stop_simulators`. -/
def stopSimulators : Harness Unit :=
  stopServices simulatorServices "simulator producers" (some "demo")

/-- `stop_backend`. -/
def stopBackend : Harness Unit := stopServices [backendService] "backend write barrier" none

/-! ## Starting the backend -/

/-- The loop of `wait_for_backend_ready`: whether a probe succeeded, and the last result. -/
def probeLoop (deadline : Nat) : Nat → Option CommandResult → Harness (Bool × Option CommandResult)
  | turns, lastResult => do
      let now ← effect .monotonic
      if now < deadline then
        match turns with
        | 0 => return (false, lastResult)
        | turns + 1 =>
            let result ← composeUnchecked .probe
            if result.returncode = 0 then
              return (true, some result)
            else
              effect (.sleep 500)
              probeLoop deadline turns (some result)
      else
        return (false, lastResult)

/-- `wait_for_backend_ready`, with 30 seconds. -/
def waitForBackendReady (turns : Nat) : Harness Unit := do
  let start ← effect .monotonic
  let (ready, lastResult) ← probeLoop (start + 30000) turns none
  if ready then
    return ()
  else
    let lastError := match lastResult with
      | none => []
      | some result => detail "last probe stderr" result.stderr
    let logs ← composeUnchecked .logs
    throw (.verificationError ("\n".intercalate
      (["Backend did not become ready within 30 seconds."] ++ lastError ++
        detail "backend logs" logs.stdout ++ detail "backend log stderr" logs.stderr)))

/-- `start_backend`. -/
def startBackend (turns : Nat) : Harness Unit := do
  let _ ← compose .up
  waitForBackendReady turns

/-! ## Cleaning up -/

/-- The run that is verified, and how its database is reached. -/
structure VerificationRun where
  runTag : String
  snapshot : List SnapshotItem
  dbUser : String
  dbName : String

variable (reprs : Reprs) (run : VerificationRun)

/-- The number a query gives. -/
def countSql (sql : BuiltSql) : Harness Int := do
  let output ← psql sql run.dbUser run.dbName true
  harnessInt reprs output

/-- `verify_no_run_rows`. -/
def verifyNoRunRows : Harness Unit := do
  let remaining ← countSql reprs run (.remaining run.runTag)
  if remaining ≠ 0 then
    throw (.verificationError ("Simulator verification cleanup left " ++ toString remaining ++
      " event rows for run tag " ++ run.runTag ++ "."))
  else
    return ()

/-- The comparison with the snapshot.  Its two callers differ in the end of the message. -/
def verifySnapshot (ending : String) : Harness Unit := do
  let mismatches ← countSql reprs run (.snapshotMismatch run.snapshot)
  if mismatches ≠ 0 then
    throw (.verificationError ("Store connectivity restore verification found " ++
      toString mismatches ++ " mismatched rows" ++ ending))
  else
    return ()

/-- `cleanup_verification_data`. -/
def cleanupVerificationData : Harness Unit := do
  let _ ← psql (.cleanupTransaction run.runTag run.snapshot) run.dbUser run.dbName false
  verifyNoRunRows reprs run
  verifySnapshot reprs run "."

/-! ## Finalizing -/

/-- The rest of the second `try`, once `backend_stopped` is set. -/
def cleanUpBehindBarrier : Harness Unit := do
  effect (.print "Backend write barrier: PASS")
  cleanupVerificationData reprs run
  effect (.print "Simulator verification data cleanup: PASS")

/-- The second `try` up to its `finally`: whether `backend_stopped` is set, and the errors. -/
def stopAndCleanUp : Harness (Bool × List String) := do
  match ← Program.attempt stopBackend with
  | .error exc => return (false, ["verification data cleanup failed: " ++ exc.text])
  | .ok () =>
      match ← Program.attempt (cleanUpBehindBarrier reprs run) with
      | .error exc => return (true, ["verification data cleanup failed: " ++ exc.text])
      | .ok () => return (true, [])

/-- The body of the `try` in the `finally`. -/
def startAndAnnounce (turns : Nat) : Harness Unit := do
  startBackend turns
  effect (.print "Backend restart readiness: PASS")

/-- The `finally` of the second `try`: the errors of the restart. -/
def restartBackend (turns : Nat) : Harness (List String) := do
  match ← Program.attempt (startAndAnnounce turns) with
  | .error exc => return ["backend restart failed: " ++ exc.text]
  | .ok () => return []

/-- The body of the last `try`. -/
def verifyAfterRestart : Harness Unit := do
  let running ← runningServiceIds simulatorServices (some "demo")
  if running ≠ [] then
    throw (.verificationError "Simulator containers resumed unexpectedly after backend restart.")
  else
    effect (.sleep 500)
    verifyNoRunRows reprs run
    verifySnapshot reprs run " after backend restart."
    effect (.print "Post-restart run isolation: PASS")
    effect (.print "Store connectivity restore: PASS")

/-- The last `try`: the errors of the verification. -/
def verifyFinally : Harness (List String) := do
  match ← Program.attempt (verifyAfterRestart reprs run) with
  | .error exc => return ["post-restart verification failed: " ++ exc.text]
  | .ok () => return []

/-- `message.startswith("backend restart failed:")`. -/
def isRestartFailure (message : String) : Bool :=
  "backend restart failed:".toList.isPrefixOf message.toList

/-- The errors, raised as one. -/
def reportErrors (errors : List String) : Harness Unit :=
  if errors ≠ [] then throw (.verificationError ("\n".intercalate errors)) else pure ()

/-- The end of `finalize_verification_run`, from `backend_restart_failed` on. -/
def verifyAndReport (backendStopped : Bool) (errors : List String) : Harness Unit := do
  let verificationErrors ←
    if backendStopped && !errors.any isRestartFailure then verifyFinally reprs run else pure []
  reportErrors (errors ++ verificationErrors)

/-- `finalize_verification_run`. -/
def finalizeVerificationRun (turns : Nat) : Harness Unit := do
  match ← Program.attempt stopSimulators with
  | .error exc => throw (.verificationError ("simulator stop failed: " ++ exc.text))
  | .ok () =>
      let (backendStopped, cleanupErrors) ← stopAndCleanUp reprs run
      let restartErrors ← if backendStopped then restartBackend turns else pure []
      verifyAndReport reprs run backendStopped (cleanupErrors ++ restartErrors)

end StorePulse
