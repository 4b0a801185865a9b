import StorePulse.Foundation.Transition
import StorePulse.Backend.EventIngestion

/-!
# Dashboard sockets and broadcasts

`realtime.py` and the handler `dashboard_socket`.  A socket is the number of the
handler that serves it.  Nothing awaits inside an `async with self._lock` block,
so a task that has the lock runs to the end of the block, and the block is one
step; a task may be held up before it.  The registry is a set, which `list` may
give in any order.

A handler leaves `receive_text` by `WebSocketDisconnect`, which it catches, by
another exception, or by cancellation, which it does not.
-/

namespace StorePulse

/-- Where a call of `dashboard_socket` stands. -/
inductive Handler where
  /-- In `websocket.accept`. -/
  | accepting
  /-- Before the block that adds the socket. -/
  | adding
  /-- In `websocket.receive_text`. -/
  | receiving
  /-- `WebSocketDisconnect` is caught; before the block that discards the socket. -/
  | discarding
  | ended
deriving DecidableEq

/-- The handler waits for its socket, or has ended. -/
def Handler.Settled (handler : Handler) : Prop :=
  handler = .accepting ∨ handler = .receiving ∨ handler = .ended

/-- How a handler ends that `except WebSocketDisconnect` does not see. -/
inductive Failure where
  | exception
  | cancelled

/-- How `send_json` ends. -/
inductive SendResult where
  | sent
  | osError
  | runtimeError
  | disconnect
deriving DecidableEq

/-- `except (OSError, RuntimeError, WebSocketDisconnect)`. -/
def SendResult.failed : SendResult → Bool
  | .sent => false
  | _ => true

/-- Where a call of `broadcast` stands. -/
inductive BroadcastPhase where
  /-- Before the block that copies the registry. -/
  | starting
  /-- In a `send_json` of the loop. -/
  | sending
  /-- Before the block that discards the stale sockets. -/
  | sweeping
  | done
deriving DecidableEq

/-- A call of `broadcast`. -/
structure Broadcast where
  payload : Message
  phase : BroadcastPhase
  /-- The local list `connections`. -/
  connections : List Nat
  /-- What the loop has still to send to. -/
  rest : List Nat
  stale : List Nat
  /-- The sends so far, with how they ended. -/
  sends : List (Nat × SendResult)

namespace Broadcast

/-- A call that has done nothing. -/
def start (payload : Message) : Broadcast := ⟨payload, .starting, [], [], [], []⟩

/-- The phase after a turn of the loop. -/
def nextPhase (rest stale : List Nat) : BroadcastPhase :=
  if rest ≠ [] then .sending else if stale ≠ [] then .sweeping else .done

/-- The call has not begun, or is over. -/
def Idle (b : Broadcast) : Prop := b.phase = .starting ∨ b.phase = .done

/-- `connections = list(self._connections)`. -/
def copy (b : Broadcast) (order : List Nat) : Broadcast :=
  { b with connections := order, rest := order, phase := nextPhase order b.stale }

/-- A turn of the loop, for the next socket of the list. -/
def sendTo (b : Broadcast) (socket : Nat) (rest : List Nat) (result : SendResult) : Broadcast :=
  let stale := if result.failed then b.stale ++ [socket] else b.stale
  { b with
    rest := rest
    stale := stale
    sends := b.sends ++ [(socket, result)]
    phase := nextPhase rest stale }

/-- The loop has still to send to a socket, or the last block to discard it. -/
def holds (b : Broadcast) (socket : Nat) : Bool :=
  b.phase != .done && (socket ∈ b.rest || socket ∈ b.stale)

end Broadcast

/-- The sockets, the registry and the calls that use it. -/
structure Registry where
  handlers : List Handler
  /-- `_connections`. -/
  connections : List Nat
  broadcasts : List Broadcast

/-- A step of a handler or of a broadcast. -/
inductive RealtimeLabel where
  /-- A socket is opened, and its handler starts. -/
  | opened
  /-- `accept` returns. -/
  | accepted (socket : Nat)
  /-- The block of `connect`. -/
  | add (socket : Nat)
  /-- `receive_text` gives a text. -/
  | text (socket : Nat)
  /-- `receive_text` raises `WebSocketDisconnect`. -/
  | disconnected (socket : Nat)
  /-- The block of `disconnect`. -/
  | discard (socket : Nat)
  /-- The handler ends by another exception, or is cancelled where it waits. -/
  | fail (socket : Nat) (failure : Failure)
  /-- A request starts a broadcast. -/
  | start (payload : Message)
  /-- The block that copies the registry, which `list` gives in an order. -/
  | copy (broadcast : Nat) (order : List Nat)
  /-- A `send_json` ends. -/
  | send (broadcast : Nat) (result : SendResult)
  /-- The block that discards the stale sockets. -/
  | sweep (broadcast : Nat)

namespace Registry

/-- No socket. -/
def initial : Registry := ⟨[], [], []⟩

variable (s : Registry)

/-- A handler goes on. -/
def setHandler (socket : Nat) (handler : Handler) : Registry :=
  { s with handlers := s.handlers.set socket handler }

/-- A broadcast goes on. -/
def setBroadcast (broadcast : Nat) (b : Broadcast) : Registry :=
  { s with broadcasts := s.broadcasts.set broadcast b }

/-- `_connections.add`. -/
def addSocket (socket : Nat) : Registry := { s with connections := s.connections.insert socket }

/-- `_connections.discard`, for each of some sockets. -/
def discardAll (sockets : List Nat) : Registry :=
  { s with connections := s.connections.filter (· ∉ sockets) }

/-- A step from one point of a handler to another. -/
def move (socket : Nat) (source target : Handler) : Option Registry :=
  if s.handlers[socket]? = some source then some (s.setHandler socket target) else none

/-- A step. -/
def step (s : Registry) : RealtimeLabel → Option Registry
  | .opened => some { s with handlers := s.handlers ++ [.accepting] }
  | .accepted socket => s.move socket .accepting .adding
  | .add socket => (s.move socket .adding .receiving).map fun t => t.addSocket socket
  | .text socket => s.move socket .receiving .receiving
  | .disconnected socket => s.move socket .receiving .discarding
  | .discard socket => (s.move socket .discarding .ended).map fun t => t.discardAll [socket]
  | .fail socket _ =>
      match s.handlers[socket]? with
      | some .ended => none
      | some _ => some (s.setHandler socket .ended)
      | none => none
  | .start payload => some { s with broadcasts := s.broadcasts ++ [.start payload] }
  | .copy broadcast order =>
      match s.broadcasts[broadcast]? with
      | some b =>
          if b.phase = .starting ∧ order.Perm s.connections then
            some (s.setBroadcast broadcast (b.copy order))
          else none
      | none => none
  | .send broadcast result =>
      match s.broadcasts[broadcast]? with
      | some b =>
          match b.rest with
          | socket :: rest =>
              if b.phase = .sending then
                some (s.setBroadcast broadcast (b.sendTo socket rest result))
              else none
          | [] => none
      | none => none
  | .sweep broadcast =>
      match s.broadcasts[broadcast]? with
      | some b =>
          if b.phase = .sweeping then
            some ((s.discardAll b.stale).setBroadcast broadcast { b with phase := .done })
          else none
      | none => none

end Registry

/-- The sockets and the broadcasts as a transition system. -/
def realtime : System Registry RealtimeLabel := ⟨Registry.step⟩

/-! ## What a step can be -/

namespace Registry

variable {s s' : Registry}

/-- The cases of a step. -/
inductive StepTo (s : Registry) : RealtimeLabel → Registry → Prop where
  | opened : StepTo s .opened { s with handlers := s.handlers ++ [.accepting] }
  | accepted {socket : Nat} : s.handlers[socket]? = some .accepting →
      StepTo s (.accepted socket) (s.setHandler socket .adding)
  | add {socket : Nat} : s.handlers[socket]? = some .adding →
      StepTo s (.add socket) ((s.setHandler socket .receiving).addSocket socket)
  | text {socket : Nat} : s.handlers[socket]? = some .receiving →
      StepTo s (.text socket) (s.setHandler socket .receiving)
  | disconnected {socket : Nat} : s.handlers[socket]? = some .receiving →
      StepTo s (.disconnected socket) (s.setHandler socket .discarding)
  | discard {socket : Nat} : s.handlers[socket]? = some .discarding →
      StepTo s (.discard socket) ((s.setHandler socket .ended).discardAll [socket])
  | fail {socket : Nat} {failure : Failure} {handler : Handler} :
      s.handlers[socket]? = some handler → handler ≠ .ended →
      StepTo s (.fail socket failure) (s.setHandler socket .ended)
  | start {payload : Message} :
      StepTo s (.start payload) { s with broadcasts := s.broadcasts ++ [.start payload] }
  | copy {broadcast : Nat} {order : List Nat} {b : Broadcast} :
      s.broadcasts[broadcast]? = some b → b.phase = .starting → order.Perm s.connections →
      StepTo s (.copy broadcast order) (s.setBroadcast broadcast (b.copy order))
  | send {broadcast socket : Nat} {result : SendResult} {b : Broadcast} {rest : List Nat} :
      s.broadcasts[broadcast]? = some b → b.phase = .sending → b.rest = socket :: rest →
      StepTo s (.send broadcast result) (s.setBroadcast broadcast (b.sendTo socket rest result))
  | sweep {broadcast : Nat} {b : Broadcast} :
      s.broadcasts[broadcast]? = some b → b.phase = .sweeping →
      StepTo s (.sweep broadcast)
        ((s.discardAll b.stale).setBroadcast broadcast { b with phase := .done })

theorem move_eq_some {socket : Nat} {source target : Handler} {t : Registry} :
    s.move socket source target = some t ↔
      s.handlers[socket]? = some source ∧ t = s.setHandler socket target := by
  rw [move]
  split
  · next h => simp [h, eq_comm]
  · next h => simp [h]

theorem step_cases {l : RealtimeLabel} (h : s.step l = some s') : StepTo s l s' := by
  cases l with
  | opened =>
      cases h
      exact .opened
  | accepted socket =>
      obtain ⟨hh, rfl⟩ := move_eq_some.1 h
      exact .accepted hh
  | add socket =>
      obtain ⟨t, ht, rfl⟩ := Option.map_eq_some_iff.1 h
      obtain ⟨hh, rfl⟩ := move_eq_some.1 ht
      exact .add hh
  | text socket =>
      obtain ⟨hh, rfl⟩ := move_eq_some.1 h
      exact .text hh
  | disconnected socket =>
      obtain ⟨hh, rfl⟩ := move_eq_some.1 h
      exact .disconnected hh
  | discard socket =>
      obtain ⟨t, ht, rfl⟩ := Option.map_eq_some_iff.1 h
      obtain ⟨hh, rfl⟩ := move_eq_some.1 ht
      exact .discard hh
  | fail socket failure =>
      simp only [step] at h
      split at h
      · cases h
      · next handler hne hh =>
        cases h
        exact .fail hh hne
      · cases h
  | start payload =>
      cases h
      exact .start
  | copy broadcast order =>
      simp only [step] at h
      split at h
      · next b hb =>
        split at h
        · next hc =>
          cases h
          exact .copy hb hc.1 hc.2
        · cases h
      · cases h
  | send broadcast result =>
      simp only [step] at h
      split at h
      · next b hb =>
        split at h
        · next socket rest hr =>
          split at h
          · next hp =>
            cases h
            exact .send hb hp hr
          · cases h
        · cases h
      · cases h
  | sweep broadcast =>
      simp only [step] at h
      split at h
      · next b hb =>
        split at h
        · next hp =>
          cases h
          exact .sweep hb hp
        · cases h
      · cases h

end Registry

end StorePulse
