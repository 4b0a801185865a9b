import StorePulse.Backend.Api
import StorePulse.Foundation.Linearizability
import StorePulse.Foundation.Transition

/-!
# The server

Any number of requests run at once, each as a program over the one database.
A step is a tick of the clock, the arrival of a request, one effect of one
request, or the end of a request that is cancelled or loses its connection
(`Label.abort`, possible between any two effects).  A statement that needs
several locks may get them one at a time before it is executed (`Label.lock`).
A request whose program has ended closes its session, which rolls back what is
not committed, and answers.

`World.log` records what happened, oldest first.  It is never read by a step.
-/

namespace StorePulse

/-- A call of a write endpoint. -/
inductive Call where
  /-- `POST /api/v1/events`. -/
  | event (payload : EventCreate)
  /-- `POST /api/v1/stores/{store_code}/heartbeat`. -/
  | heartbeat (storeCode : String)

/-- The program of a call. -/
def Call.program : Call → Program Effects Answer
  | .event payload => createEvent payload
  | .heartbeat storeCode => StorePulse.heartbeat storeCode

/-- How far a request has come. -/
inductive RequestState where
  /-- The rest of its program. -/
  | running (program : Program Effects Answer)
  /-- It has answered, and its session is closed. -/
  | answered (answer : Answer)
  /-- It was cancelled or lost its connection, and its session is closed. -/
  | aborted

/-- A request. -/
structure Request where
  call : Call
  state : RequestState

/-- Something that happened. -/
inductive Entry where
  | arrived (i : Nat) (call : Call)
  /-- A transaction began, at the time its `now()` gives. -/
  | began (i : Nat) (t : Instant)
  /-- The process read its clock. -/
  | readClock (i : Nat) (t : Instant)
  /-- A commit, with the events and the versions of `last_seen_at` it made visible. -/
  | committed (i : Nat) (events : List PosEvent) (lastSeen : List (UUID × Instant))
  | broadcast (i : Nat) (message : Message)
  | answered (i : Nat) (call : Call) (answer : Answer)
  | aborted (i : Nat)

/-- What an effect adds to the log. -/
def Op.entries (db : Db) (i : Nat) : Op → List Entry
  | .sql .begin => [.began i db.clock]
  | .now => [.readClock i db.clock]
  | .sql .commit => [.committed i (db.events.own i) (db.lastSeen.own i)]
  | .broadcast message => [.broadcast i message]
  | _ => []

/-- The database, the requests by number, and the log. -/
structure World where
  db : Db
  requests : List Request
  log : List Entry

/-- A step of the server. -/
inductive Label where
  /-- The clock moves to `t`. -/
  | tick (t : Instant)
  /-- A request arrives; it gets the next number. -/
  | arrive (call : Call)
  /-- Request `i` gets one of the locks its next statement needs. -/
  | lock (i : Nat) (l : Lock)
  /-- Request `i` performs its next effect, or answers. -/
  | run (i : Nat)
  /-- Request `i` ends without an answer, wherever it is. -/
  | abort (i : Nat)

/-- The request that makes a step. -/
def Label.request : Label → Option Nat
  | .tick _ => none
  | .arrive _ => none
  | .lock i _ => some i
  | .run i => some i
  | .abort i => some i

namespace World

/-- The server before any request. -/
def initial (clock : Instant) : World := ⟨.initial clock, [], []⟩

/-- The reply to an effect of request `i`, and the database after it. -/
def perform (cat : Catalogue) (db : Db) (i : Nat) : (op : Op) → Option (op.Reply × Db)
  | .sql s => db.exec cat i s
  | .now => some (db.clock, db)
  | .broadcast _ => some ((), db)

/-- Request `i` performs the head of its program, or answers. -/
def runRequest (cat : Catalogue) (w : World) (i : Nat) : Option World :=
  match w.requests[i]? with
  | some ⟨call, .running (.call op k)⟩ =>
      (perform cat w.db i op).map fun (reply, db) => {
        db := db
        requests := w.requests.set i ⟨call, .running (k reply)⟩
        log := w.log ++ op.entries w.db i }
  | some ⟨call, .running (.ret answer)⟩ => some {
      db := w.db.rollback i
      requests := w.requests.set i ⟨call, .answered answer⟩
      log := w.log ++ [.answered i call answer] }
  | _ => none

/-- Request `i` gets the lock `l` before its next statement is executed. -/
def lockRequest (w : World) (i : Nat) (l : Lock) : Option World :=
  match w.requests[i]? with
  | some ⟨_, .running (.call (.sql s) _)⟩ =>
      if l ∈ w.db.needs i s ∧ w.db.locks.grantable LockMode.conflicts i [l] = true then
        some { w with db := { w.db with locks := w.db.locks.acquire i [l] } }
      else none
  | _ => none

/-- A step of the server. -/
def step (cat : Catalogue) (w : World) : Label → Option World
  | .tick t => if w.db.clock ≤ t then some { w with db := { w.db with clock := t } } else none
  | .arrive call => some { w with
      requests := w.requests ++ [⟨call, .running call.program⟩]
      log := w.log ++ [.arrived w.requests.length call] }
  | .lock i l => w.lockRequest i l
  | .run i => w.runRequest cat i
  | .abort i =>
      match w.requests[i]? with
      | some ⟨call, .running _⟩ => some {
          db := w.db.rollback i
          requests := w.requests.set i ⟨call, .aborted⟩
          log := w.log ++ [.aborted i] }
      | _ => none

end World

/-- The server as a transition system. -/
def server (cat : Catalogue) : System World Label := ⟨World.step cat⟩

/-- The states of the server. -/
def World.Reachable (cat : Catalogue) (w : World) : Prop :=
  ∃ clock, (server cat).Reaches (.initial clock) w

/-! ## Waiting -/

/-- Request `i` cannot execute its next statement before `j` has ended: `j` has a
lock that stands in the way. -/
def World.WaitsFor (w : World) (i j : Nat) : Prop :=
  ∃ call s k, w.requests[i]? = some ⟨call, .running (.call (.sql s) k)⟩ ∧
    w.db.locks.Blocks LockMode.conflicts i (w.db.needs i s) j

/-! ## What a step can be -/

/-- The cases of a step. -/
inductive World.StepTo (cat : Catalogue) (w : World) : Label → World → Prop where
  | tick {t : Instant} : w.db.clock ≤ t →
      StepTo cat w (.tick t) { w with db := { w.db with clock := t } }
  | arrive {call : Call} :
      StepTo cat w (.arrive call) { w with
        requests := w.requests ++ [⟨call, .running call.program⟩]
        log := w.log ++ [.arrived w.requests.length call] }
  | lock {i : Nat} {l : Lock} {call : Call} {s : Stmt}
      {k : Except SqlError s.Result → Program Effects Answer} :
      w.requests[i]? = some ⟨call, .running (.call (.sql s) k)⟩ →
      l ∈ w.db.needs i s →
      w.db.locks.grantable LockMode.conflicts i [l] = true →
      StepTo cat w (.lock i l) { w with db := { w.db with locks := w.db.locks.acquire i [l] } }
  | perform {i : Nat} {call : Call} {op : Op} {k : op.Reply → Program Effects Answer}
      {reply : op.Reply} {db : Db} :
      w.requests[i]? = some ⟨call, .running (.call op k)⟩ →
      World.perform cat w.db i op = some (reply, db) →
      StepTo cat w (.run i) {
        db := db
        requests := w.requests.set i ⟨call, .running (k reply)⟩
        log := w.log ++ op.entries w.db i }
  | answer {i : Nat} {call : Call} {answer : Answer} :
      w.requests[i]? = some ⟨call, .running (.ret answer)⟩ →
      StepTo cat w (.run i) {
        db := w.db.rollback i
        requests := w.requests.set i ⟨call, .answered answer⟩
        log := w.log ++ [.answered i call answer] }
  | abort {i : Nat} {call : Call} {program : Program Effects Answer} :
      w.requests[i]? = some ⟨call, .running program⟩ →
      StepTo cat w (.abort i) {
        db := w.db.rollback i
        requests := w.requests.set i ⟨call, .aborted⟩
        log := w.log ++ [.aborted i] }

/-- Every step is one of the cases. -/
theorem World.step_cases {cat : Catalogue} {w w' : World} {l : Label}
    (h : w.step cat l = some w') : w.StepTo cat l w' := by
  cases l with
  | tick t =>
      by_cases ht : w.db.clock ≤ t
      · rw [World.step, if_pos ht] at h
        cases h
        exact .tick ht
      · rw [World.step, if_neg ht] at h
        cases h
  | arrive call =>
      cases h
      exact .arrive
  | lock i l =>
      rw [World.step, World.lockRequest] at h
      split at h
      case h_1 hr =>
        split at h
        case isTrue hl =>
          cases h
          exact .lock hr hl.1 hl.2
        case isFalse => cases h
      case h_2 => cases h
  | run i =>
      rw [World.step, World.runRequest] at h
      match hr : w.requests[i]? with
      | some ⟨call, .running (.call op k)⟩ =>
          simp only [hr, Option.map_eq_some_iff] at h
          obtain ⟨⟨reply, db⟩, hp, rfl⟩ := h
          exact .perform hr hp
      | some ⟨call, .running (.ret answer)⟩ =>
          simp only [hr] at h
          cases h
          exact .answer hr
      | some ⟨call, .answered _⟩ => simp [hr] at h
      | some ⟨call, .aborted⟩ => simp [hr] at h
      | none => simp [hr] at h
  | abort i =>
      rw [World.step] at h
      match hr : w.requests[i]? with
      | some ⟨call, .running program⟩ =>
          simp only [hr] at h
          cases h
          exact .abort hr
      | some ⟨call, .answered _⟩ => simp [hr] at h
      | some ⟨call, .aborted⟩ => simp [hr] at h
      | none => simp [hr] at h

end StorePulse
