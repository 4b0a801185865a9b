import Mathlib.Algebra.Ring.Nat
import StorePulse.Foundation.Timers
import StorePulse.Foundation.Transition
import StorePulse.Python.Values

/-!
# The dashboard

`App.vue` with the browser around it: the timers, the WebSockets and the
requests of `fetchStores`.  A handler runs to its end before the next one
starts, so a step is one callback: a fetch that settles, a timer, an event of a
socket, a click, or a lifecycle hook.

A socket delivers messages while it is open, so none after `close()`, and a
timer that was cleared is gone.  The button is there while the component is
mounted.  The URL of the socket is one the browser takes.
-/

namespace StorePulse

/-! ## The browser -/

/-- `WebSocket.readyState`. -/
inductive ReadyState where
  | connecting
  | «open»
  | closing
  | closed
deriving DecidableEq

/-- A `WebSocket`, and whether its `onclose` is still set. -/
structure WebSocket where
  readyState : ReadyState
  onclose : Bool

/-- `close()`. -/
def WebSocket.close (ws : WebSocket) : WebSocket :=
  match ws.readyState with
  | .closed => ws
  | _ => { ws with readyState := .closing }

/-- A call of `fetchStores`. -/
inductive FetchStores (α : Type) where
  | inFlight
  | succeeded (stores : List α)
  | failed
deriving DecidableEq

/-- The callbacks of the timers. -/
inductive TimerCallback where
  | refresh
  | connect
  | poll
deriving DecidableEq

/-- The lifecycle of the component. -/
inductive Lifecycle where
  | setup
  | mounted
  | unmounted
deriving DecidableEq

/-! ## The component -/

/-- The variables of `App.vue`, the lifecycle and the browser. -/
structure App (α : Type) where
  stores : List α
  loading : Bool
  error : Option String
  wsConnected : Bool
  lastRefresh : Option Instant
  socket : Option Nat
  reconnectTimer : Option Nat
  reconnectAttempt : Nat
  refreshTimer : Option Nat
  pollingTimer : Option Nat
  refreshInFlight : Bool
  refreshPending : Bool
  stopped : Bool
  lifecycle : Lifecycle
  timers : Timers TimerCallback
  /-- The sockets, in the order they were created. -/
  sockets : List WebSocket
  /-- The calls of `fetchStores`, in the order they started. -/
  fetches : List (FetchStores α)

namespace App

variable {α : Type}

/-- The component before it is mounted. -/
def initial : App α where
  stores := []
  loading := true
  error := none
  wsConnected := false
  lastRefresh := none
  socket := none
  reconnectTimer := none
  reconnectAttempt := 0
  refreshTimer := none
  pollingTimer := none
  refreshInFlight := false
  refreshPending := false
  stopped := false
  lifecycle := .setup
  timers := .empty
  sockets := []
  fetches := []

/-- `scheduleRefresh`. -/
def scheduleRefresh (s : App α) : App α :=
  match s.refreshTimer with
  | some _ => s
  | none =>
      { s with
        refreshTimer := some s.timers.next
        timers := s.timers.start 150 false .refresh }

/-- `refreshStores`, up to its `await`. -/
def refreshStores (s : App α) : App α :=
  if s.refreshInFlight then { s with refreshPending := true }
  else { s with refreshInFlight := true, fetches := s.fetches ++ [.inFlight] }

/-- The `finally` block of `refreshStores`. -/
def finishRefresh (s : App α) : App α :=
  if s.refreshPending && !s.stopped then
    { s with loading := false, refreshInFlight := false, refreshPending := false }.scheduleRefresh
  else
    { s with loading := false, refreshInFlight := false }

/-- The rest of `refreshStores` when `fetchStores` returns. -/
def fetchSucceeds (s : App α) (i : Nat) (stores : List α) (now : Instant) : App α :=
  { s with
    fetches := s.fetches.set i (.succeeded stores)
    stores := stores
    error := none
    lastRefresh := some now }.finishRefresh

/-- The rest of `refreshStores` when `fetchStores` throws: an `Error` with its message, or
another value. -/
def fetchFails (s : App α) (i : Nat) (message : Option String) : App α :=
  { s with
    fetches := s.fetches.set i .failed
    error := some (message.getD "Unknown API error") }.finishRefresh

/-- `connectWebSocket`, with a URL that `new WebSocket` takes. -/
def connectWebSocket (s : App α) : App α :=
  if s.stopped then s
  else
    { s with
      socket := some s.sockets.length
      sockets := s.sockets ++ [⟨.connecting, true⟩] }

/-- `currentSocket.onopen`. -/
def onOpen (s : App α) (i : Nat) : App α :=
  if s.socket = some i then { s with wsConnected := true, reconnectAttempt := 0 } else s

/-- A parsed message, or `none` for text that is not JSON, is news about stores or events. -/
def invalidates : Option Json → Bool
  | some (.obj fields) =>
      match fields.lookup "type" with
      | some (.str type) => type == "stores.changed" || type == "events.changed"
      | _ => false
  | _ => false

/-- `currentSocket.onmessage`. -/
def onMessage (s : App α) (data : Option Json) : App α :=
  if invalidates data then s.scheduleRefresh else s

/-- `currentSocket.onclose`. -/
def onClose (s : App α) (i : Nat) : App α :=
  if s.socket ≠ some i || s.stopped then s
  else
    { s with
      wsConnected := false
      reconnectAttempt := s.reconnectAttempt + 1
      reconnectTimer := some s.timers.next
      timers := s.timers.start (min (1000 * 2 ^ s.reconnectAttempt) 10000) false .connect }

/-- The callback of a timer. -/
def onTimer (s : App α) : TimerCallback → App α
  | .refresh => { s with refreshTimer := none }.refreshStores
  | .connect => s.connectWebSocket
  | .poll => s.refreshStores

/-- `onMounted`. -/
def onMounted (s : App α) : App α :=
  let s := s.refreshStores.connectWebSocket
  { s with
    pollingTimer := some s.timers.next
    timers := s.timers.start 10000 true .poll }

/-- `onBeforeUnmount`. -/
def onBeforeUnmount (s : App α) : App α :=
  { s with
    stopped := true
    timers := ((s.timers.clear? s.reconnectTimer).clear? s.refreshTimer).clear? s.pollingTimer
    sockets := match s.socket with
      | none => s.sockets
      | some i => s.sockets.modify i fun ws => { ws with onclose := false }.close }

end App

/-! ## Steps -/

/-- What can happen next. -/
inductive AppLabel (α : Type) where
  | mount
  | unmount
  | click
  | timer (id : Nat)
  | fetchSucceeds (i : Nat) (stores : List α) (now : Instant)
  | fetchFails (i : Nat) (message : Option String)
  | socketOpens (i : Nat)
  | socketMessage (i : Nat) (data : Option Json)
  | socketErrors (i : Nat)
  | socketCloses (i : Nat)

namespace App

variable {α : Type}

/-- One callback. -/
def step (s : App α) : AppLabel α → Option (App α)
  | .mount =>
      match s.lifecycle with
      | .setup => some { s with lifecycle := .mounted }.onMounted
      | _ => none
  | .unmount =>
      match s.lifecycle with
      | .mounted => some { s with lifecycle := .unmounted }.onBeforeUnmount
      | _ => none
  | .click =>
      match s.lifecycle with
      | .mounted => some s.refreshStores
      | _ => none
  | .timer id =>
      match s.timers.find? id with
      | some t => some ({ s with timers := s.timers.fire t }.onTimer t.callback)
      | none => none
  | .fetchSucceeds i stores now =>
      match s.fetches[i]? with
      | some .inFlight => some (s.fetchSucceeds i stores now)
      | _ => none
  | .fetchFails i message =>
      match s.fetches[i]? with
      | some .inFlight => some (s.fetchFails i message)
      | _ => none
  | .socketOpens i =>
      match s.sockets[i]? with
      | some ⟨.connecting, onclose⟩ =>
          some ({ s with sockets := s.sockets.set i ⟨.open, onclose⟩ }.onOpen i)
      | _ => none
  | .socketMessage i data =>
      match s.sockets[i]? with
      | some ⟨.open, _⟩ => some (s.onMessage data)
      | _ => none
  | .socketErrors i =>
      match s.sockets[i]? with
      | some ⟨.closed, _⟩ => none
      | some ws => some { s with sockets := s.sockets.set i ws.close }
      | none => none
  | .socketCloses i =>
      match s.sockets[i]? with
      | some ⟨.closed, _⟩ => none
      | some ⟨_, onclose⟩ =>
          let s := { s with sockets := s.sockets.set i ⟨.closed, onclose⟩ }
          some (if onclose then s.onClose i else s)
      | none => none

end App

/-- The dashboard as a transition system. -/
def dashboard (α : Type) : System (App α) (AppLabel α) := ⟨App.step⟩

/-- The states of the dashboard. -/
def App.Reachable {α : Type} (s : App α) : Prop := (dashboard α).Reaches .initial s

namespace App

variable {α : Type} {s s' : App α} {l : AppLabel α}

/-! ## Steps and functions -/

/-- What a step does. -/
inductive StepTo (s : App α) : AppLabel α → App α → Prop
  | mount : s.lifecycle = .setup → StepTo s .mount { s with lifecycle := .mounted }.onMounted
  | unmount : s.lifecycle = .mounted →
      StepTo s .unmount { s with lifecycle := .unmounted }.onBeforeUnmount
  | click : s.lifecycle = .mounted → StepTo s .click s.refreshStores
  | timer {id : Nat} {t : Timer TimerCallback} : t ∈ s.timers.pending →
      StepTo s (.timer id) ({ s with timers := s.timers.fire t }.onTimer t.callback)
  | fetchSucceeds {i : Nat} {stores : List α} {now : Instant} : s.fetches[i]? = some .inFlight →
      StepTo s (.fetchSucceeds i stores now) (s.fetchSucceeds i stores now)
  | fetchFails {i : Nat} {message : Option String} : s.fetches[i]? = some .inFlight →
      StepTo s (.fetchFails i message) (s.fetchFails i message)
  | socketOpens {i : Nat} {onclose : Bool} : s.sockets[i]? = some ⟨.connecting, onclose⟩ →
      StepTo s (.socketOpens i) ({ s with sockets := s.sockets.set i ⟨.open, onclose⟩ }.onOpen i)
  | socketMessage {i : Nat} {onclose : Bool} {data : Option Json} :
      s.sockets[i]? = some ⟨.open, onclose⟩ → StepTo s (.socketMessage i data) (s.onMessage data)
  | socketErrors {i : Nat} {ws : WebSocket} : s.sockets[i]? = some ws →
      ws.readyState ≠ .closed →
      StepTo s (.socketErrors i) { s with sockets := s.sockets.set i ws.close }
  | socketCloses {i : Nat} {ws : WebSocket} : s.sockets[i]? = some ws →
      ws.readyState ≠ .closed → ws.onclose = true →
      StepTo s (.socketCloses i) ({ s with sockets := s.sockets.set i ⟨.closed, true⟩ }.onClose i)
  | socketClosesSilently {i : Nat} {ws : WebSocket} : s.sockets[i]? = some ws →
      ws.readyState ≠ .closed → ws.onclose = false →
      StepTo s (.socketCloses i) { s with sockets := s.sockets.set i ⟨.closed, false⟩ }

/-- Every step is one of these. -/
theorem step_cases (hs : s.step l = some s') : s.StepTo l s' := by
  cases l with
  | mount =>
      simp only [step] at hs
      split at hs
      · rename_i h
        cases hs
        exact .mount h
      · cases hs
  | unmount =>
      simp only [step] at hs
      split at hs
      · rename_i h
        cases hs
        exact .unmount h
      · cases hs
  | click =>
      simp only [step] at hs
      split at hs
      · rename_i h
        cases hs
        exact .click h
      · cases hs
  | timer id =>
      simp only [step] at hs
      split at hs
      · rename_i t h
        cases hs
        exact .timer (Timers.find?_spec h).1
      · cases hs
  | fetchSucceeds i stores now =>
      simp only [step] at hs
      split at hs
      · rename_i h
        cases hs
        exact .fetchSucceeds h
      · cases hs
  | fetchFails i message =>
      simp only [step] at hs
      split at hs
      · rename_i h
        cases hs
        exact .fetchFails h
      · cases hs
  | socketOpens i =>
      simp only [step] at hs
      split at hs
      · rename_i onclose h
        cases hs
        exact .socketOpens h
      · cases hs
  | socketMessage i data =>
      simp only [step] at hs
      split at hs
      · rename_i onclose h
        cases hs
        exact .socketMessage h
      · cases hs
  | socketErrors i =>
      simp only [step] at hs
      split at hs
      · cases hs
      · rename_i ws hopen h
        cases hs
        exact .socketErrors h fun he => hopen ws.onclose (by rw [← he])
      · cases hs
  | socketCloses i =>
      simp only [step] at hs
      split at hs
      · cases hs
      · rename_i state onclose hopen h
        cases onclose with
        | true => cases hs; exact .socketCloses h hopen rfl
        | false => cases hs; exact .socketClosesSilently h hopen rfl
      · cases hs

/-- `scheduleRefresh` touches the refresh timer only. -/
theorem scheduleRefresh_eq (s : App α) : s.scheduleRefresh =
    { s with
      refreshTimer := s.scheduleRefresh.refreshTimer
      timers := s.scheduleRefresh.timers } := by
  unfold scheduleRefresh
  split <;> rfl

/-- `refreshStores` touches the requests only. -/
theorem refreshStores_eq (s : App α) : s.refreshStores =
    { s with
      refreshInFlight := s.refreshStores.refreshInFlight
      refreshPending := s.refreshStores.refreshPending
      fetches := s.refreshStores.fetches } := by
  unfold refreshStores
  split <;> rfl

theorem finishRefresh_stopped (s : App α) : s.finishRefresh.stopped = s.stopped := by
  unfold finishRefresh
  split
  · rw [scheduleRefresh_eq]
  · rfl

theorem finishRefresh_fetches (s : App α) : s.finishRefresh.fetches = s.fetches := by
  unfold finishRefresh
  split
  · rw [scheduleRefresh_eq]
  · rfl

/-- `connectWebSocket` touches the sockets only. -/
theorem connectWebSocket_eq (s : App α) : s.connectWebSocket =
    { s with socket := s.connectWebSocket.socket, sockets := s.connectWebSocket.sockets } := by
  unfold connectWebSocket
  split <;> rfl

/-- `onopen` touches the connection only. -/
theorem onOpen_eq (s : App α) (i : Nat) : s.onOpen i =
    { s with
      wsConnected := (s.onOpen i).wsConnected
      reconnectAttempt := (s.onOpen i).reconnectAttempt } := by
  unfold onOpen
  split <;> rfl

/-- `onclose` touches the connection and its timer only. -/
theorem onClose_eq (s : App α) (i : Nat) : s.onClose i =
    { s with
      wsConnected := (s.onClose i).wsConnected
      reconnectAttempt := (s.onClose i).reconnectAttempt
      reconnectTimer := (s.onClose i).reconnectTimer
      timers := (s.onClose i).timers } := by
  unfold onClose
  split <;> rfl

end App

end StorePulse
