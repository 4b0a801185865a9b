import StorePulse.Dashboard.App

/-!
# What holds of the dashboard

Four invariants of a component and its browser.  `Flight` is about the requests:
only the last one can be in flight, and the stores that are shown are those of
the last successful one.  `Clock` is about the timers: a variable holds the id
of each.  `Wires` is about the sockets: only the current one is not closed.
`Phase` is about the lifecycle: before and after its life the component has no
timers.
-/

namespace StorePulse

variable {α : Type}

/-- What a call has returned. -/
def FetchStores.stores? : FetchStores α → Option (List α)
  | .succeeded stores => some stores
  | _ => none

/-- The call has not settled. -/
def FetchStores.pending : FetchStores α → Bool
  | .inFlight => true
  | _ => false

/-- What the last of the successful calls has returned. -/
def shown (fetches : List (FetchStores α)) : List α :=
  (fetches.reverse.findSome? FetchStores.stores?).getD []

@[simp] theorem shown_succeeded (fetches : List (FetchStores α)) (stores : List α) :
    shown (fetches ++ [.succeeded stores]) = stores := by
  rw [shown, List.reverse_append]
  rfl

@[simp] theorem shown_failed (fetches : List (FetchStores α)) :
    shown (fetches ++ [.failed]) = shown fetches := by
  rw [shown, List.reverse_append]
  rfl

@[simp] theorem shown_inFlight (fetches : List (FetchStores α)) :
    shown (fetches ++ [.inFlight]) = shown fetches := by
  rw [shown, List.reverse_append]
  rfl

/-- A socket that is not closed is closing after `close()`. -/
theorem WebSocket.close_closing {ws : WebSocket} (h : ws.readyState ≠ .closed) :
    ws.close.readyState = .closing := by
  unfold WebSocket.close
  split
  · rename_i hclosed
    exact absurd hclosed h
  · rfl

namespace App

variable {s s' : App α} {i : Nat} {l : AppLabel α}

/-! ## Requests -/

/-- At most the last request is in flight, and the stores of the last successful one are
shown. -/
def Flight (s : App α) : Prop :=
  ∃ past, s.fetches = past ++ (if s.refreshInFlight then [.inFlight] else []) ∧
    (∀ f ∈ past, f ≠ .inFlight) ∧ s.stores = shown past

/-- The request in flight is the last one. -/
theorem Flight.inFlight (h : s.Flight) (hi : s.fetches[i]? = some .inFlight) :
    ∃ past, s.fetches = past ++ [.inFlight] ∧ i = past.length ∧ (∀ f ∈ past, f ≠ .inFlight) ∧
      s.stores = shown past := by
  obtain ⟨past, hfetches, hpast, hstores⟩ := h
  have hmem : ∀ {j : Nat}, past[j]? ≠ some .inFlight := fun hj =>
    hpast _ (List.mem_of_getElem? hj) rfl
  cases hflight : s.refreshInFlight with
  | false =>
      rw [hfetches, hflight, if_neg (by decide), List.append_nil] at hi
      exact absurd hi hmem
  | true =>
      rw [hflight, if_pos rfl] at hfetches
      refine ⟨past, hfetches, ?_, hpast, hstores⟩
      rw [hfetches] at hi
      rcases lt_or_ge i past.length with hlt | hge
      · rw [List.getElem?_append_left hlt] at hi
        exact absurd hi hmem
      · rw [List.getElem?_append_right hge] at hi
        have hzero := (List.getElem?_eq_some_iff.mp hi).1
        simp only [List.length_singleton] at hzero
        omega

theorem Flight.scheduleRefresh (h : s.Flight) : s.scheduleRefresh.Flight := by
  rw [scheduleRefresh_eq]
  exact h

theorem Flight.refreshStores (h : s.Flight) : s.refreshStores.Flight := by
  obtain ⟨past, hfetches, hpast, hstores⟩ := h
  unfold App.refreshStores
  split
  · exact ⟨past, hfetches, hpast, hstores⟩
  · rename_i hflight
    rw [if_neg hflight, List.append_nil] at hfetches
    exact ⟨past, by simp [hfetches], hpast, hstores⟩

/-- Nothing is in flight after the `finally` block. -/
theorem Flight.finishRefresh (hpast : ∀ f ∈ s.fetches, f ≠ .inFlight)
    (hstores : s.stores = shown s.fetches) : s.finishRefresh.Flight := by
  unfold App.finishRefresh
  split
  · exact Flight.scheduleRefresh ⟨s.fetches, by simp, hpast, hstores⟩
  · exact ⟨s.fetches, by simp, hpast, hstores⟩

/-- A request that ends leaves the older ones before it. -/
theorem settled {past : List (FetchStores α)} {f : FetchStores α}
    (hpast : ∀ f ∈ past, f ≠ .inFlight) (hf : f ≠ .inFlight) :
    ∀ g ∈ (past ++ [FetchStores.inFlight]).set past.length f, g ≠ .inFlight := by
  intro g hg
  rw [List.set_append_right _ _ le_rfl, Nat.sub_self, List.set_cons_zero, List.mem_append,
    List.mem_singleton] at hg
  rcases hg with hg | rfl
  · exact hpast g hg
  · exact hf

theorem Flight.step (h : s.Flight) (hs : s.step l = some s') : s'.Flight := by
  cases step_cases hs with
  | mount =>
      unfold onMounted
      rw [connectWebSocket_eq]
      exact Flight.refreshStores h
  | unmount => exact h
  | click => exact h.refreshStores
  | @timer _ t _ =>
      cases t.callback with
      | refresh => exact Flight.refreshStores h
      | poll => exact Flight.refreshStores h
      | connect =>
          show ({ s with timers := s.timers.fire t } : App α).connectWebSocket.Flight
          rw [connectWebSocket_eq]
          exact h
  | fetchSucceeds hi =>
      obtain ⟨past, hfetches, rfl, hpast, _⟩ := h.inFlight hi
      refine Flight.finishRefresh ?_ ?_
      · simp only [hfetches]
        exact settled hpast nofun
      · simp [hfetches]
  | fetchFails hi =>
      obtain ⟨past, hfetches, rfl, hpast, hstores⟩ := h.inFlight hi
      refine Flight.finishRefresh ?_ ?_
      · simp only [hfetches]
        exact settled hpast nofun
      · simp [hfetches, hstores]
  | socketOpens =>
      rw [onOpen_eq]
      exact h
  | socketMessage =>
      unfold onMessage
      split
      · exact h.scheduleRefresh
      · exact h
  | socketErrors => exact h
  | socketCloses =>
      rw [onClose_eq]
      exact h
  | socketClosesSilently => exact h

/-! ## Timers -/

/-- The variable that holds the id of a timer. -/
def timerOf (s : App α) : TimerCallback → Option Nat
  | .refresh => s.refreshTimer
  | .connect => s.reconnectTimer
  | .poll => s.pollingTimer

/-- The variables hold the ids of the pending timers. -/
structure Clock (s : App α) : Prop where
  owned : ∀ t ∈ s.timers.pending, s.timerOf t.callback = some t.id
  repeating : ∀ t ∈ s.timers.pending, t.repeats = true → t.callback = .poll
  scheduled : s.stopped = false → ∀ i, s.refreshTimer = some i →
    ∃ t ∈ s.timers.pending, t.id = i ∧ t.callback = .refresh

/-- The sockets but the current one are closed, and all are when another one is to be made. -/
structure Wires (s : App α) : Prop where
  current : ∀ (i : Nat) ws, s.sockets[i]? = some ws → ws.readyState ≠ .closed → s.socket = some i
  idle : ∀ t ∈ s.timers.pending, t.callback = .connect → ∀ ws ∈ s.sockets,
    ws.readyState = .closed

/-- What the lifecycle says about the browser. -/
structure Phase (s : App α) : Prop where
  setup : s.lifecycle = .setup → s.timers.pending = [] ∧ s.sockets = [] ∧ s.fetches = []
  stopped : s.stopped = true ↔ s.lifecycle = .unmounted
  ended : s.stopped = true → s.timers.pending = [] ∧ ∀ ws ∈ s.sockets,
    ws.readyState = .closing ∨ ws.readyState = .closed

/-- What holds of every state of the dashboard. -/
structure Ok (s : App α) : Prop where
  flight : s.Flight
  clock : s.Clock
  wires : s.Wires
  phase : s.Phase

/-- Nothing about the timers has changed. -/
theorem Clock.keep (h : s.Clock) (htimers : s'.timers = s.timers)
    (howners : s'.timerOf = s.timerOf) (hstopped : s'.stopped = s.stopped) : s'.Clock where
  owned := by
    rw [htimers, howners]
    exact h.owned
  repeating := by
    rw [htimers]
    exact h.repeating
  scheduled := by
    rw [hstopped, htimers, show s'.refreshTimer = s.refreshTimer from congrFun howners .refresh]
    exact h.scheduled

theorem Clock.scheduleRefresh (h : s.Clock) : s.scheduleRefresh.Clock := by
  unfold App.scheduleRefresh
  split
  · exact h
  · rename_i hnone
    refine ⟨fun t ht => ?_, fun t ht hr => ?_, fun _ i hi => ?_⟩
    · rcases Timers.mem_start.mp ht with ht | rfl
      · have howned := h.owned t ht
        cases hc : t.callback with
        | refresh => simp [timerOf, hc, hnone] at howned
        | connect => simpa [timerOf, hc] using howned
        | poll => simpa [timerOf, hc] using howned
      · rfl
    · rcases Timers.mem_start.mp ht with ht | rfl
      · exact h.repeating t ht hr
      · cases hr
    · cases hi
      exact ⟨_, Timers.mem_start.mpr (Or.inr rfl), rfl, rfl⟩

/-- A refresh is scheduled after `scheduleRefresh`. -/
theorem Clock.refresh_pending (h : s.Clock) (hstopped : s.stopped = false) :
    ∃ t ∈ s.scheduleRefresh.timers.pending, t.callback = .refresh := by
  unfold App.scheduleRefresh
  split
  · rename_i i hi
    obtain ⟨t, ht, _, hc⟩ := h.scheduled hstopped i hi
    exact ⟨t, ht, hc⟩
  · exact ⟨_, Timers.mem_start.mpr (Or.inr rfl), rfl⟩

/-- The refresh timer fires. -/
theorem Clock.fire_refresh (h : s.Clock) {t : Timer TimerCallback} (ht : t ∈ s.timers.pending)
    (hc : t.callback = .refresh) :
    ({ s with timers := s.timers.fire t, refreshTimer := none } : App α).Clock := by
  have howner := h.owned t ht
  have honce : t.repeats ≠ true := by
    intro hr
    rw [h.repeating t ht hr] at hc
    cases hc
  refine ⟨fun t' ht' => ?_, fun t' ht' => h.repeating t' (Timers.mem_fire.mp ht').1, nofun⟩
  obtain ⟨hmem, hne⟩ := Timers.mem_fire.mp ht'
  have howned := h.owned t' hmem
  cases hc' : t'.callback with
  | refresh =>
      rw [hc'] at howned
      rw [hc] at howner
      exact absurd (Option.some.inj (howned.symm.trans howner)) (hne.resolve_left honce)
  | connect => simpa [timerOf, hc'] using howned
  | poll => simpa [timerOf, hc'] using howned

/-- Another timer fires. -/
theorem Clock.fire_other (h : s.Clock) {t : Timer TimerCallback} (ht : t ∈ s.timers.pending)
    (hc : t.callback ≠ .refresh) : ({ s with timers := s.timers.fire t } : App α).Clock where
  owned t' ht' := h.owned t' (Timers.mem_fire.mp ht').1
  repeating t' ht' := h.repeating t' (Timers.mem_fire.mp ht').1
  scheduled hstopped i hi := by
    obtain ⟨t', ht', hid, hc'⟩ := h.scheduled hstopped i hi
    refine ⟨t', Timers.mem_fire.mpr ⟨ht', Or.inr fun he => ?_⟩, hid, hc'⟩
    rw [Timers.eq_of_id ht' ht he] at hc'
    exact hc hc'

theorem Clock.onClose (h : s.Clock) (hnone : ∀ t ∈ s.timers.pending, t.callback ≠ .connect) :
    (s.onClose i).Clock := by
  unfold App.onClose
  split
  · exact h
  · refine ⟨fun t ht => ?_, fun t ht hr => ?_, fun hstopped i hi => ?_⟩
    · rcases Timers.mem_start.mp ht with ht | rfl
      · have howned := h.owned t ht
        cases hc : t.callback with
        | refresh => simpa [timerOf, hc] using howned
        | connect => exact absurd hc (hnone t ht)
        | poll => simpa [timerOf, hc] using howned
      · rfl
    · rcases Timers.mem_start.mp ht with ht | rfl
      · exact h.repeating t ht hr
      · cases hr
    · obtain ⟨t, ht, hid⟩ := h.scheduled hstopped i hi
      exact ⟨t, Timers.mem_start.mpr (Or.inl ht), hid⟩

theorem Clock.finishRefresh (h : s.Clock) : s.finishRefresh.Clock := by
  unfold App.finishRefresh
  split
  · exact Clock.scheduleRefresh (h.keep rfl rfl rfl)
  · exact h.keep rfl rfl rfl

/-- The only timer of a component that has just been mounted is the polling timer. -/
theorem Clock.onMounted (h : s.Clock) (hnone : s.timers.pending = []) : s.onMounted.Clock := by
  unfold App.onMounted
  rw [connectWebSocket_eq, refreshStores_eq]
  have hmem : ∀ {t}, t ∈ (s.timers.start 10000 true TimerCallback.poll).pending ↔
      t = ⟨s.timers.next, 10000, true, .poll⟩ := by
    intro t
    rw [Timers.mem_start, hnone]
    simp
  refine ⟨fun t ht => ?_, fun t ht _ => ?_, fun hstopped i hi => ?_⟩
  · obtain rfl := hmem.mp ht
    rfl
  · obtain rfl := hmem.mp ht
    rfl
  · obtain ⟨t, ht, _⟩ := h.scheduled hstopped i hi
    rw [hnone] at ht
    cases ht

/-- No timer is left when the component is unmounted. -/
theorem Clock.onBeforeUnmount (h : s.Clock) : s.onBeforeUnmount.timers.pending = [] := by
  rw [List.eq_nil_iff_forall_not_mem]
  intro t ht
  simp only [App.onBeforeUnmount, Timers.mem_clear?] at ht
  obtain ⟨⟨⟨hmem, hconnect⟩, hrefresh⟩, hpoll⟩ := ht
  have howned := h.owned t hmem
  cases hc : t.callback with
  | refresh => exact hrefresh (by rw [hc] at howned; exact howned)
  | connect => exact hconnect (by rw [hc] at howned; exact howned)
  | poll => exact hpoll (by rw [hc] at howned; exact howned)

theorem Clock.step (h : s.Ok) (hs : s.step l = some s') : s'.Clock := by
  have hclock := h.clock
  cases step_cases hs with
  | mount hsetup =>
      obtain ⟨hnone, _⟩ := h.phase.setup hsetup
      exact Clock.onMounted (hclock.keep rfl rfl rfl) hnone
  | unmount =>
      have hnone := Clock.onBeforeUnmount (s := { s with lifecycle := .unmounted })
        (hclock.keep rfl rfl rfl)
      refine ⟨fun t ht => ?_, fun t ht => ?_, nofun⟩ <;>
      · rw [hnone] at ht
        cases ht
  | click =>
      rw [refreshStores_eq]
      exact hclock.keep rfl rfl rfl
  | @timer _ t ht =>
      cases hc : t.callback with
      | refresh =>
          have hfired := hclock.fire_refresh ht hc
          show (App.refreshStores _).Clock
          rw [refreshStores_eq]
          exact hfired.keep rfl rfl rfl
      | connect =>
          have hfired := hclock.fire_other ht (by rw [hc]; decide)
          show (App.connectWebSocket _).Clock
          rw [connectWebSocket_eq]
          exact hfired.keep rfl rfl rfl
      | poll =>
          have hfired := hclock.fire_other ht (by rw [hc]; decide)
          show (App.refreshStores _).Clock
          rw [refreshStores_eq]
          exact hfired.keep rfl rfl rfl
  | fetchSucceeds =>
      exact Clock.finishRefresh (hclock.keep rfl rfl rfl)
  | fetchFails =>
      exact Clock.finishRefresh (hclock.keep rfl rfl rfl)
  | socketOpens =>
      rw [onOpen_eq]
      exact hclock.keep rfl rfl rfl
  | socketMessage =>
      unfold onMessage
      split
      · exact hclock.scheduleRefresh
      · exact hclock
  | socketErrors => exact hclock.keep rfl rfl rfl
  | @socketCloses i ws hws hopen _ =>
      refine Clock.onClose (hclock.keep rfl rfl rfl) fun t ht hc => ?_
      exact hopen (h.wires.idle t ht hc ws (List.mem_of_getElem? hws))
  | socketClosesSilently => exact hclock.keep rfl rfl rfl

/-! ## Sockets -/

/-- Nothing about the sockets has changed, and no timer will make another one. -/
theorem Wires.keep (h : s.Wires) (hsockets : s'.sockets = s.sockets)
    (hsocket : s'.socket = s.socket)
    (htimers : ∀ t ∈ s'.timers.pending, t.callback = .connect → t ∈ s.timers.pending) :
    s'.Wires where
  current := by
    rw [hsockets, hsocket]
    exact h.current
  idle t ht hc := by
    rw [hsockets]
    exact h.idle t (htimers t ht hc) hc

theorem Wires.scheduleRefresh (h : s.Wires) : s.scheduleRefresh.Wires := by
  unfold App.scheduleRefresh
  split
  · exact h
  · refine h.keep rfl rfl fun t ht hc => ?_
    rcases Timers.mem_start.mp ht with ht | rfl
    · exact ht
    · cases hc

theorem Wires.finishRefresh (h : s.Wires) : s.finishRefresh.Wires := by
  unfold App.finishRefresh
  split
  · exact Wires.scheduleRefresh (h.keep rfl rfl fun _ ht _ => ht)
  · exact h.keep rfl rfl fun _ ht _ => ht

/-- An open socket is the current one, and no timer is about to replace it. -/
theorem Wires.set (h : s.Wires) {ws : WebSocket} (hi : s.sockets[i]? = some ws)
    (hopen : ws.readyState ≠ .closed) (ws' : WebSocket) :
    ({ s with sockets := s.sockets.set i ws' } : App α).Wires where
  current j ws'' hj hopen'' := by
    by_cases hij : i = j
    · exact hij ▸ h.current i ws hi hopen
    · rw [List.getElem?_set_ne hij] at hj
      exact h.current j ws'' hj hopen''
  idle t ht hc := absurd (h.idle t ht hc ws (List.mem_of_getElem? hi)) hopen

/-- When the current socket closes, all are closed. -/
theorem Wires.onClose (h : s.Wires) {ws : WebSocket} (hi : s.sockets[i]? = some ws)
    (hopen : ws.readyState ≠ .closed) (onclose : Bool) :
    ({ s with sockets := s.sockets.set i ⟨.closed, onclose⟩ }.onClose i).Wires := by
  have hset := h.set hi hopen ⟨.closed, onclose⟩
  unfold App.onClose
  split
  · exact hset
  · refine ⟨hset.current, fun t _ _ ws' hws' => ?_⟩
    obtain ⟨j, hj⟩ := List.mem_iff_getElem?.mp hws'
    by_contra hopen'
    have hcurrent := (h.current i ws hi hopen).symm.trans (hset.current j ws' hj hopen')
    obtain rfl := Option.some.inj hcurrent
    rw [List.getElem?_set_self (List.getElem?_eq_some_iff.mp hi).1] at hj
    cases hj
    exact hopen' rfl

/-- A new socket is made when all others are closed. -/
theorem Wires.connectWebSocket (h : s.Wires)
    (hclosed : s.stopped = false → ∀ ws ∈ s.sockets, ws.readyState = .closed)
    (hnone : ∀ t ∈ s.timers.pending, t.callback ≠ .connect) : s.connectWebSocket.Wires := by
  unfold App.connectWebSocket
  split
  · exact h
  · rename_i hstopped
    refine ⟨fun j ws hj hopen => ?_, fun t ht hc => absurd hc (hnone t ht)⟩
    simp only [List.getElem?_append] at hj
    split at hj
    · exact absurd (hclosed (by simpa using hstopped) ws (List.mem_of_getElem? hj)) hopen
    · have hzero := (List.getElem?_eq_some_iff.mp hj).1
      simp only [List.length_singleton] at hzero
      show some s.sockets.length = some j
      congr 1
      omega

/-- A socket that is not closed after `onBeforeUnmount` was not before it. -/
theorem open_before_unmount {ws : WebSocket} (hi : s.onBeforeUnmount.sockets[i]? = some ws)
    (hopen : ws.readyState ≠ .closed) :
    ∃ ws₀, s.sockets[i]? = some ws₀ ∧ ws₀.readyState ≠ .closed := by
  simp only [onBeforeUnmount] at hi
  split at hi
  · exact ⟨ws, hi, hopen⟩
  · rw [List.getElem?_modify, Option.map_eq_map, Option.map_eq_some_iff] at hi
    obtain ⟨ws₀, hi, rfl⟩ := hi
    refine ⟨ws₀, hi, fun hclosed => hopen ?_⟩
    split <;> simp [WebSocket.close, hclosed]

theorem Wires.step (h : s.Ok) (hs : s.step l = some s') : s'.Wires := by
  have hwires := h.wires
  cases step_cases hs with
  | mount hsetup =>
      obtain ⟨hnone, hsockets, _⟩ := h.phase.setup hsetup
      have hrefresh : ({ s with lifecycle := .mounted } : App α).refreshStores.Wires := by
        rw [refreshStores_eq]
        exact hwires.keep rfl rfl fun _ ht _ => ht
      have hconnect := hrefresh.connectWebSocket
        (fun _ ws hws => by rw [refreshStores_eq] at hws; simp [hsockets] at hws)
        fun t ht => by rw [refreshStores_eq] at ht; simp [hnone] at ht
      refine hconnect.keep rfl rfl fun t ht hc => ?_
      rcases Timers.mem_start.mp ht with ht | rfl
      · exact ht
      · cases hc
  | unmount =>
      have hnone := Clock.onBeforeUnmount (s := { s with lifecycle := .unmounted })
        (h.clock.keep rfl rfl rfl)
      refine ⟨fun j ws hj hopen => ?_, fun t ht => by rw [hnone] at ht; cases ht⟩
      obtain ⟨ws₀, hj₀, hopen₀⟩ := open_before_unmount hj hopen
      exact hwires.current j ws₀ hj₀ hopen₀
  | click =>
      rw [refreshStores_eq]
      exact hwires.keep rfl rfl fun _ ht _ => ht
  | @timer _ t ht =>
      have hfired : ({ s with timers := s.timers.fire t } : App α).Wires :=
        hwires.keep rfl rfl fun t' ht' _ => (Timers.mem_fire.mp ht').1
      cases hc : t.callback with
      | refresh =>
          show (App.refreshStores _).Wires
          rw [refreshStores_eq]
          exact hfired.keep rfl rfl fun _ ht _ => ht
      | connect =>
          refine hfired.connectWebSocket (fun _ => hwires.idle t ht hc) fun t' ht' hc' => ?_
          -- the variable holds the id of one timer only
          obtain ⟨hmem, hne⟩ := Timers.mem_fire.mp ht'
          have howner := h.clock.owned t ht
          have howner' := h.clock.owned t' hmem
          rw [hc] at howner
          rw [hc'] at howner'
          rcases hne with hr | hne
          · rw [h.clock.repeating t ht hr] at hc
            cases hc
          · exact hne (Option.some.inj (howner'.symm.trans howner))
      | poll =>
          show (App.refreshStores _).Wires
          rw [refreshStores_eq]
          exact hfired.keep rfl rfl fun _ ht _ => ht
  | fetchSucceeds => exact Wires.finishRefresh (hwires.keep rfl rfl fun _ ht _ => ht)
  | fetchFails => exact Wires.finishRefresh (hwires.keep rfl rfl fun _ ht _ => ht)
  | socketOpens hws =>
      rw [onOpen_eq]
      exact (hwires.set hws nofun _).keep rfl rfl fun _ ht _ => ht
  | socketMessage =>
      unfold onMessage
      split
      · exact hwires.scheduleRefresh
      · exact hwires
  | socketErrors hws hopen => exact hwires.set hws hopen _
  | socketCloses hws hopen _ => exact hwires.onClose hws hopen true
  | socketClosesSilently hws hopen _ => exact hwires.set hws hopen _

/-! ## Lifecycle -/

/-- The lifecycle has not changed, and where the component is unmounted the browser has
nothing left to do. -/
theorem Phase.keep (h : s.Phase) (hlifecycle : s'.lifecycle = s.lifecycle)
    (hstopped : s'.stopped = s.stopped) (hsetup : s.lifecycle ≠ .setup)
    (hended : s.stopped = true → s'.timers.pending = [] ∧ ∀ ws ∈ s'.sockets,
      ws.readyState = .closing ∨ ws.readyState = .closed) : s'.Phase where
  setup he := absurd (hlifecycle.symm.trans he) hsetup
  stopped := by
    rw [hlifecycle, hstopped]
    exact h.stopped
  ended he := hended (hstopped.symm.trans he)

/-- A component that is mounted has not been stopped. -/
theorem Phase.not_stopped (h : s.Phase) (hlifecycle : s.lifecycle ≠ .unmounted) :
    s.stopped ≠ true := fun he => hlifecycle (h.stopped.mp he)

/-- A pending timer shows that the component is mounted. -/
theorem Phase.of_timer (h : s.Phase) {t : Timer TimerCallback} (ht : t ∈ s.timers.pending) :
    s.lifecycle = .mounted := by
  cases hl : s.lifecycle with
  | setup =>
      rw [(h.setup hl).1] at ht
      cases ht
  | mounted => rfl
  | unmounted =>
      rw [(h.ended (h.stopped.mpr hl)).1] at ht
      cases ht

/-- A socket that may still open or deliver shows that the component is mounted. -/
theorem Phase.of_socket (h : s.Phase) {ws : WebSocket} (hi : s.sockets[i]? = some ws)
    (hopen : ws.readyState = .connecting ∨ ws.readyState = .open) : s.lifecycle = .mounted := by
  have hmem := List.mem_of_getElem? hi
  cases hl : s.lifecycle with
  | setup =>
      rw [(h.setup hl).2.1] at hmem
      cases hmem
  | mounted => rfl
  | unmounted =>
      rcases (h.ended (h.stopped.mpr hl)).2 ws hmem with he | he <;>
      · rw [he] at hopen
        rcases hopen with hopen | hopen <;> cases hopen

/-- A socket shows that the component has been mounted. -/
theorem Phase.not_setup_of_socket (h : s.Phase) {ws : WebSocket} (hi : s.sockets[i]? = some ws) :
    s.lifecycle ≠ .setup := by
  intro he
  rw [(h.setup he).2.1] at hi
  cases hi

/-- A call of `fetchStores` shows it too. -/
theorem Phase.not_setup_of_fetch (h : s.Phase) {f : FetchStores α} (hi : s.fetches[i]? = some f) :
    s.lifecycle ≠ .setup := by
  intro he
  rw [(h.setup he).2.2] at hi
  cases hi

/-- A socket that is closing or closed takes the place of another one. -/
theorem Phase.set (h : s.Phase) {ws : WebSocket} (hi : s.sockets[i]? = some ws) (ws' : WebSocket)
    (hclosing : ws'.readyState = .closing ∨ ws'.readyState = .closed) :
    ({ s with sockets := s.sockets.set i ws' } : App α).Phase := by
  refine h.keep rfl rfl (h.not_setup_of_socket hi) fun he =>
    ⟨(h.ended he).1, fun ws'' hws => ?_⟩
  rcases List.mem_or_eq_of_mem_set hws with hws | rfl
  · exact (h.ended he).2 ws'' hws
  · exact hclosing

theorem Phase.finishRefresh (h : s.Phase) (hsetup : s.lifecycle ≠ .setup) :
    s.finishRefresh.Phase := by
  unfold App.finishRefresh
  split
  · rename_i hpending
    have hstopped : s.stopped = false := by simp at hpending; exact hpending.2
    rw [scheduleRefresh_eq]
    exact h.keep rfl rfl hsetup fun he => absurd he (by simp [hstopped])
  · exact h.keep rfl rfl hsetup h.ended

theorem Phase.step (h : s.Ok) (hs : s.step l = some s') : s'.Phase := by
  have hphase := h.phase
  -- a mounted component stays mounted in every step but one
  have hlive : ∀ {t : App α}, s.lifecycle = .mounted → t.lifecycle = s.lifecycle →
      t.stopped = s.stopped → t.Phase := by
    intro t hm hl ht
    have hne : s.lifecycle ≠ .unmounted := by rw [hm]; decide
    exact hphase.keep hl ht (by rw [hm]; decide) fun he =>
      absurd he (hphase.not_stopped hne)
  cases step_cases hs with
  | mount hsetup =>
      have hstopped := hphase.not_stopped (by rw [hsetup]; decide)
      unfold onMounted
      rw [connectWebSocket_eq, refreshStores_eq]
      exact ⟨nofun, ⟨fun he => absurd he hstopped, nofun⟩, fun he => absurd he hstopped⟩
  | unmount hmounted =>
      have hnone := Clock.onBeforeUnmount (s := { s with lifecycle := .unmounted })
        (h.clock.keep rfl rfl rfl)
      refine ⟨nofun, ⟨fun _ => rfl, fun _ => rfl⟩, fun _ => ⟨hnone, fun ws hws => ?_⟩⟩
      by_contra hne
      rw [not_or] at hne
      obtain ⟨j, hj⟩ := List.mem_iff_getElem?.mp hws
      obtain ⟨ws₀, hj₀, hopen⟩ := open_before_unmount hj hne.2
      -- it is the current socket, which has been told to close
      have hcurrent : s.socket = some j := h.wires.current j ws₀ hj₀ hopen
      replace hj₀ : s.sockets[j]? = some ws₀ := hj₀
      simp only [onBeforeUnmount, hcurrent, List.getElem?_modify_eq, hj₀] at hj
      cases hj
      exact hne.1 (WebSocket.close_closing hopen)
  | click hmounted =>
      rw [refreshStores_eq]
      exact hlive hmounted rfl rfl
  | @timer _ t ht =>
      have hmounted := hphase.of_timer ht
      cases t.callback with
      | refresh =>
          show (App.refreshStores _).Phase
          rw [refreshStores_eq]
          exact hlive hmounted rfl rfl
      | connect =>
          show (App.connectWebSocket _).Phase
          rw [connectWebSocket_eq]
          exact hlive hmounted rfl rfl
      | poll =>
          show (App.refreshStores _).Phase
          rw [refreshStores_eq]
          exact hlive hmounted rfl rfl
  | fetchSucceeds hi =>
      have hsetup := hphase.not_setup_of_fetch hi
      exact Phase.finishRefresh (hphase.keep rfl rfl hsetup hphase.ended) hsetup
  | fetchFails hi =>
      have hsetup := hphase.not_setup_of_fetch hi
      exact Phase.finishRefresh (hphase.keep rfl rfl hsetup hphase.ended) hsetup
  | socketOpens hi =>
      rw [onOpen_eq]
      exact hlive (hphase.of_socket hi (Or.inl rfl)) rfl rfl
  | socketMessage hi =>
      unfold onMessage
      split
      · rw [scheduleRefresh_eq]
        exact hlive (hphase.of_socket hi (Or.inr rfl)) rfl rfl
      · exact hphase
  | socketErrors hi hopen => exact hphase.set hi _ (Or.inl (WebSocket.close_closing hopen))
  | @socketCloses i ws hi _ _ =>
      have hset := hphase.set hi ⟨.closed, true⟩ (Or.inr rfl)
      unfold onClose
      split
      · exact hset
      · rename_i hcurrent
        simp only [ne_eq, Bool.or_eq_true, decide_eq_true_eq, not_or] at hcurrent
        exact hset.keep rfl rfl (hphase.not_setup_of_socket hi) fun he => absurd he hcurrent.2
  | socketClosesSilently hi => exact hphase.set hi _ (Or.inr rfl)

/-! ## Every reachable state -/

theorem Ok.initial : (App.initial : App α).Ok where
  flight := ⟨[], rfl, nofun, rfl⟩
  clock := ⟨nofun, nofun, fun _ _ => nofun⟩
  wires := ⟨nofun, nofun⟩
  phase := ⟨fun _ => ⟨rfl, rfl, rfl⟩, ⟨nofun, nofun⟩, nofun⟩

theorem Ok.step (h : s.Ok) (hs : s.step l = some s') : s'.Ok where
  flight := h.flight.step hs
  clock := Clock.step h hs
  wires := Wires.step h hs
  phase := Phase.step h hs

theorem Ok.reaches (h : s.Ok) (hr : (dashboard α).Reaches s s') : s'.Ok :=
  hr.invariant h fun _ _ _ _ h hs => h.step hs

theorem Reachable.ok (h : s.Reachable) : s.Ok := Ok.initial.reaches h

end App

end StorePulse
