import StorePulse.Dashboard.Refreshes

/-!
# The connection of the dashboard

While the component is mounted it has either one socket that is not closed, or one
timer that will make another one, and it polls all the time.  `App.Link` says so
together with what the header shows.

The n-th failure in a row waits for a second, twice as long each time and ten
seconds at most.  The failures are counted in the labels of a run (`failures`).

A mounted component is never stuck: whatever has happened, it can be connected and
show the stores of a new request without a click and without a failure
(`dashboard_recovers`).
-/

namespace StorePulse

variable {α : Type}

/-- How long the dashboard waits after a number of failures in a row. -/
def reconnectDelay (failures : Nat) : Nat := min (1000 * 2 ^ (failures - 1)) 10000

/-- The failures in a row after a step. -/
def failuresAfter (failures : Nat) : AppLabel α → Nat
  | .socketOpens _ => 0
  | .socketCloses _ => failures + 1
  | _ => failures

/-- The failures in a row after some steps. -/
def failures (labels : List (AppLabel α)) : Nat := labels.foldl failuresAfter 0

theorem WebSocket.close_onclose (ws : WebSocket) : ws.close.onclose = ws.onclose := by
  unfold WebSocket.close
  split <;> rfl

namespace App

variable {s s' : App α} {i : Nat} {l : AppLabel α}

/-! ## One connection -/

/-- A socket is not closed. -/
def Connected (s : App α) : Prop := ∃ ws ∈ s.sockets, ws.readyState ≠ .closed

/-- A timer will make a socket. -/
def Reconnecting (s : App α) : Prop := ∃ t ∈ s.timers.pending, t.callback = .connect

/-- What the header shows of the current socket. -/
structure Header (wsConnected : Bool) (sockets : List WebSocket) : Prop where
  opened : ∀ ws ∈ sockets, ws.readyState = .open → wsConnected = true
  connected : wsConnected = true →
    ∃ ws ∈ sockets, ws.readyState = .open ∨ ws.readyState = .closing

/-- What holds of the connection of a mounted component. -/
structure Link (s : App α) : Prop where
  /-- There is a socket, or there will be. -/
  live : s.lifecycle = .mounted → s.Connected ∨ s.Reconnecting
  /-- A socket that closes is noticed. -/
  listening : s.stopped = false → ∀ ws ∈ s.sockets, ws.onclose = true
  header : s.stopped = false → Header s.wsConnected s.sockets
  delayed : ∀ t ∈ s.timers.pending, t.callback = .connect →
    0 < s.reconnectAttempt ∧ t.delay = reconnectDelay s.reconnectAttempt
  polling : s.lifecycle = .mounted →
    ∃ t ∈ s.timers.pending, t.callback = .poll ∧ t.repeats = true ∧ t.delay = 10000

/-- The connection does not change in a step that leaves the sockets alone. -/
theorem Link.keep (h : s.Link) (hsockets : s'.sockets = s.sockets)
    (hconnected : s'.wsConnected = s.wsConnected)
    (hattempt : s'.reconnectAttempt = s.reconnectAttempt)
    (hlifecycle : s'.lifecycle = s.lifecycle) (hstopped : s'.stopped = s.stopped)
    (htimers : ∀ t : Timer TimerCallback, t.callback ≠ .refresh →
      (t ∈ s'.timers.pending ↔ t ∈ s.timers.pending)) : s'.Link where
  live hm := by
    rw [hlifecycle] at hm
    refine (h.live hm).imp (fun hc => ?_) ?_
    · rw [Connected, hsockets]
      exact hc
    · rintro ⟨t, ht, hc⟩
      exact ⟨t, (htimers t (by rw [hc]; decide)).mpr ht, hc⟩
  listening hs := by
    rw [hsockets]
    exact h.listening (hstopped.symm.trans hs)
  header hs := by
    rw [hsockets, hconnected]
    exact h.header (hstopped.symm.trans hs)
  delayed t ht hc := by
    rw [hattempt]
    exact h.delayed t ((htimers t (by rw [hc]; decide)).mp ht) hc
  polling hm := by
    rw [hlifecycle] at hm
    obtain ⟨t, ht, hc, hr⟩ := h.polling hm
    exact ⟨t, (htimers t (by rw [hc]; decide)).mpr ht, hc, hr⟩

theorem Link.refreshStores (h : s.Link) : s.refreshStores.Link := by
  rw [refreshStores_eq]
  exact h.keep rfl rfl rfl rfl rfl fun _ _ => Iff.rfl

theorem Link.scheduleRefresh (h : s.Link) : s.scheduleRefresh.Link := by
  unfold App.scheduleRefresh
  split
  · exact h
  · refine h.keep rfl rfl rfl rfl rfl fun t hc => ?_
    rw [Timers.mem_start]
    refine or_iff_left ?_
    rintro rfl
    exact hc rfl

theorem Link.finishRefresh (h : s.Link) : s.finishRefresh.Link := by
  unfold App.finishRefresh
  split
  · exact Link.scheduleRefresh (h.keep rfl rfl rfl rfl rfl fun _ _ => Iff.rfl)
  · exact h.keep rfl rfl rfl rfl rfl fun _ _ => Iff.rfl

/-- A socket that is not closed takes the place of another one. -/
theorem Link.set (h : s.Link) {ws ws' : WebSocket} (hi : s.sockets[i]? = some ws)
    (hclosing : ws'.readyState = .closing) (honclose : ws'.onclose = ws.onclose) :
    ({ s with sockets := s.sockets.set i ws' } : App α).Link where
  live hm := by
    refine (h.live hm).imp_left fun _ => ⟨ws', List.mem_set ?_ ws', by rw [hclosing]; decide⟩
    exact (List.getElem?_eq_some_iff.mp hi).1
  listening hs ws'' hws := by
    rcases List.mem_or_eq_of_mem_set hws with hws | rfl
    · exact h.listening hs ws'' hws
    · rw [honclose]
      exact h.listening hs ws (List.mem_of_getElem? hi)
  header hs := by
    obtain ⟨hopened, -⟩ := h.header hs
    refine ⟨fun ws'' hws ho => ?_, fun _ => ⟨ws', List.mem_set ?_ ws', Or.inr hclosing⟩⟩
    · rcases List.mem_or_eq_of_mem_set hws with hws | rfl
      · exact hopened ws'' hws ho
      · rw [hclosing] at ho
        cases ho
    · exact (List.getElem?_eq_some_iff.mp hi).1
  delayed := h.delayed
  polling := h.polling

/-- The current socket opens. -/
theorem Link.onOpen (h : s.Link) (hwires : s.Wires) {onclose : Bool}
    (hi : s.sockets[i]? = some ⟨.connecting, onclose⟩) :
    ({ s with sockets := s.sockets.set i ⟨.open, onclose⟩ }.onOpen i).Link := by
  have hcurrent : s.socket = some i := hwires.current i _ hi nofun
  have hmem : (⟨.open, onclose⟩ : WebSocket) ∈ s.sockets.set i ⟨.open, onclose⟩ :=
    List.mem_set (List.getElem?_eq_some_iff.mp hi).1 _
  rw [App.onOpen, if_pos hcurrent]
  refine ⟨fun hm => Or.inl ⟨_, hmem, nofun⟩, fun hs ws hws => ?_,
    fun _ => ⟨fun _ _ _ => rfl, fun _ => ⟨_, hmem, Or.inl rfl⟩⟩, fun t ht hc => ?_, h.polling⟩
  · rcases List.mem_or_eq_of_mem_set hws with hws | rfl
    · exact h.listening hs ws hws
    · exact h.listening hs ⟨.connecting, onclose⟩ (List.mem_of_getElem? hi)
  · exact absurd (hwires.idle t ht hc _ (List.mem_of_getElem? hi)) nofun

/-- The current socket closes, and a timer is started. -/
theorem Link.onClose (h : s.Link) (hwires : s.Wires) {ws : WebSocket}
    (hi : s.sockets[i]? = some ws) (hopen : ws.readyState ≠ .closed)
    (hstopped : s.stopped = true ↔ s.lifecycle = .unmounted) :
    ({ s with sockets := s.sockets.set i ⟨.closed, true⟩ }.onClose i).Link := by
  have hcurrent : s.socket = some i := hwires.current i _ hi hopen
  by_cases hs : s.stopped = true
  · have hunmounted : s.lifecycle ≠ .mounted := by rw [hstopped.mp hs]; decide
    rw [App.onClose, if_pos (by simp [hs])]
    exact ⟨fun hm => absurd hm hunmounted, fun hs' => absurd (hs.symm.trans hs') (by decide),
      fun hs' => absurd (hs.symm.trans hs') (by decide), h.delayed, h.polling⟩
  · rw [App.onClose, if_neg (by simp [hs, hcurrent])]
    refine ⟨fun _ => Or.inr ⟨_, Timers.mem_start.mpr (Or.inr rfl), rfl⟩, fun hs' ws' hws => ?_,
      fun _ => ⟨fun ws' hws ho => ?_, nofun⟩, fun t ht hc => ?_, fun hm => ?_⟩
    · rcases List.mem_or_eq_of_mem_set hws with hws | rfl
      · exact h.listening hs' ws' hws
      · rfl
    · -- no other socket can be open
      obtain ⟨j, hj⟩ := List.mem_iff_getElem?.mp hws
      by_cases hij : i = j
      · subst hij
        rw [List.getElem?_set_self (List.getElem?_eq_some_iff.mp hi).1] at hj
        cases hj
        cases ho
      · rw [List.getElem?_set_ne hij] at hj
        have hother := hwires.current j ws' hj (by rw [ho]; decide)
        exact absurd (Option.some.inj (hcurrent.symm.trans hother)) hij
    · rcases Timers.mem_start.mp ht with ht | rfl
      · exact absurd (hwires.idle t ht hc ws (List.mem_of_getElem? hi)) hopen
      · exact ⟨Nat.succ_pos _, rfl⟩
    · obtain ⟨t, ht, hpoll⟩ := h.polling hm
      exact ⟨t, Timers.mem_start.mpr (Or.inl ht), hpoll⟩

/-- The variable holds the id of one timer only, so no other one makes a socket. -/
theorem Clock.fire_connect (h : s.Clock) {t : Timer TimerCallback} (ht : t ∈ s.timers.pending)
    (hc : t.callback = .connect) :
    ∀ t' ∈ (s.timers.fire t).pending, t'.callback ≠ .connect := by
  intro t' ht' hc'
  obtain ⟨hmem, hr | hne⟩ := Timers.mem_fire.mp ht'
  · rw [h.repeating t ht hr] at hc
    cases hc
  · have howner := h.owned t ht
    have howner' := h.owned t' hmem
    rw [hc] at howner
    rw [hc'] at howner'
    exact hne (Option.some.inj (howner'.symm.trans howner))

/-- The timer makes another socket. -/
theorem Link.reconnect (h : s.Link) (hclock : s.Clock) (hstopped : s.stopped = false)
    {t : Timer TimerCallback} (ht : t ∈ s.timers.pending) (hc : t.callback = .connect)
    (hclosed : ∀ ws ∈ s.sockets, ws.readyState = .closed) :
    ({ s with timers := s.timers.fire t } : App α).connectWebSocket.Link := by
  rw [App.connectWebSocket, if_neg (by simp [hstopped])]
  refine ⟨fun _ => Or.inl ⟨⟨.connecting, true⟩, by simp, nofun⟩, fun hs ws hws => ?_,
    fun hs => ⟨fun ws hws ho => ?_, fun hconn => ?_⟩,
    fun t' ht' hc' => absurd hc' (hclock.fire_connect ht hc t' ht'), fun hm => ?_⟩
  · rcases List.mem_append.mp hws with hws | hws
    · exact h.listening hs ws hws
    · rw [List.mem_singleton.mp hws]
  · rcases List.mem_append.mp hws with hws | hws
    · rw [hclosed ws hws] at ho
      cases ho
    · rw [List.mem_singleton.mp hws] at ho
      cases ho
  · obtain ⟨ws, hws, ho⟩ := (h.header hs).connected hconn
    exact ⟨ws, List.mem_append_left _ hws, ho⟩
  · obtain ⟨t', ht', hc', hr⟩ := h.polling hm
    refine ⟨t', Timers.mem_fire.mpr ⟨ht', Or.inr fun he => ?_⟩, hc', hr⟩
    rw [Timers.eq_of_id ht' ht he, hc] at hc'
    cases hc'

/-- A timer fires that makes no socket. -/
theorem Link.fire (h : s.Link) {t : Timer TimerCallback}
    (ht : t ∈ s.timers.pending) (hc : t.callback ≠ .connect) :
    ({ s with timers := s.timers.fire t } : App α).Link := by
  refine ⟨fun hm => (h.live hm).imp_right ?_, h.listening, h.header,
    fun t' ht' => h.delayed t' (Timers.mem_fire.mp ht').1, fun hm => ?_⟩
  · rintro ⟨t', ht', hc'⟩
    refine ⟨t', Timers.mem_fire.mpr ⟨ht', Or.inr fun he => hc ?_⟩, hc'⟩
    rw [← Timers.eq_of_id ht' ht he]
    exact hc'
  · obtain ⟨t', ht', hc', hr, hd⟩ := h.polling hm
    refine ⟨t', Timers.mem_fire.mpr ⟨ht', ?_⟩, hc', hr, hd⟩
    by_cases he : t'.id = t.id
    · rw [← Timers.eq_of_id ht' ht he]
      exact Or.inl hr
    · exact Or.inr he

theorem Link.step (h : s.Ok) (hlink : s.Link) (hs : s.step l = some s') : s'.Link := by
  cases step_cases hs with
  | mount hsetup =>
      obtain ⟨hnone, hsockets, -⟩ := h.phase.setup hsetup
      have hstopped : s.stopped = false := by
        simpa using h.phase.not_stopped (by rw [hsetup]; decide)
      unfold onMounted
      rw [refreshStores_eq, App.connectWebSocket, if_neg (by simp [hstopped])]
      refine ⟨fun _ => Or.inl ⟨⟨.connecting, true⟩, by simp, nofun⟩, fun _ ws hws => ?_,
        fun _ => ⟨fun ws hws ho => ?_, fun hconn => ?_⟩, fun t ht hc => ?_,
        fun _ => ⟨_, Timers.mem_start.mpr (Or.inr rfl), rfl, rfl, rfl⟩⟩
      · simp only [hsockets, List.nil_append, List.mem_singleton] at hws
        rw [hws]
      · simp only [hsockets, List.nil_append, List.mem_singleton] at hws
        rw [hws] at ho
        cases ho
      · obtain ⟨ws, hws, -⟩ := (hlink.header hstopped).connected hconn
        rw [hsockets] at hws
        cases hws
      · rcases Timers.mem_start.mp ht with ht | rfl
        · rw [hnone] at ht
          cases ht
        · cases hc
  | unmount hmounted =>
      have hnone := Clock.onBeforeUnmount (s := { s with lifecycle := .unmounted })
        (h.clock.keep rfl rfl rfl)
      refine ⟨nofun, nofun, nofun, fun t ht => ?_, nofun⟩
      rw [hnone] at ht
      cases ht
  | click => exact hlink.refreshStores
  | @timer _ t ht =>
      cases hc : t.callback with
      | refresh =>
          have hfired := hlink.fire ht (by rw [hc]; decide)
          exact Link.refreshStores (hfired.keep rfl rfl rfl rfl rfl fun _ _ => Iff.rfl)
      | connect =>
          have hmounted := h.phase.of_timer ht
          have hstopped : s.stopped = false := by
            simpa using h.phase.not_stopped (by rw [hmounted]; decide)
          exact hlink.reconnect h.clock hstopped ht hc (h.wires.idle t ht hc)
      | poll => exact Link.refreshStores (hlink.fire ht (by rw [hc]; decide))
  | fetchSucceeds =>
      exact Link.finishRefresh (hlink.keep rfl rfl rfl rfl rfl fun _ _ => Iff.rfl)
  | fetchFails =>
      exact Link.finishRefresh (hlink.keep rfl rfl rfl rfl rfl fun _ _ => Iff.rfl)
  | socketOpens hws => exact hlink.onOpen h.wires hws
  | socketMessage =>
      unfold onMessage
      split
      · exact hlink.scheduleRefresh
      · exact hlink
  | socketErrors hws hopen =>
      exact hlink.set hws (WebSocket.close_closing hopen) (WebSocket.close_onclose _)
  | socketCloses hws hopen _ => exact hlink.onClose h.wires hws hopen h.phase.stopped
  | socketClosesSilently hws hopen hsilent =>
      -- only an unmounted component does not listen
      have hstopped : s.stopped = true := by
        by_contra hs
        have hlistens := hlink.listening (by simpa using hs) _ (List.mem_of_getElem? hws)
        rw [hsilent] at hlistens
        cases hlistens
      have hunmounted : s.lifecycle ≠ .mounted := by rw [h.phase.stopped.mp hstopped]; decide
      exact ⟨fun hm => absurd hm hunmounted, fun hs => absurd (hstopped.symm.trans hs) (by decide),
        fun hs => absurd (hstopped.symm.trans hs) (by decide), hlink.delayed, hlink.polling⟩

theorem Link.initial : (App.initial : App α).Link where
  live := nofun
  listening := fun _ => nofun
  header := fun _ => ⟨nofun, nofun⟩
  delayed := nofun
  polling := nofun

theorem Link.reaches (h : s.Ok) (hlink : s.Link) (hr : (dashboard α).Reaches s s') : s'.Link :=
  hr.invariant hlink fun _ _ _ ht hl hs => Link.step (h.reaches ht) hl hs

theorem Reachable.link (h : s.Reachable) : s.Link := Link.initial.reaches Ok.initial h

/-! ## Failures in a row -/

/-- While the component is not stopped, the attempt counts the failures. -/
theorem reconnectAttempt_step (h : s.Ok) (hlink : s.Link) (hs : s.step l = some s')
    (hstopped : s'.stopped = false) :
    s'.reconnectAttempt = failuresAfter s.reconnectAttempt l := by
  have hrun : s.stopped = false := by
    by_contra hstop
    have hafter := h.after_unmount (by simpa using hstop) hs
    rw [hstopped] at hafter
    cases hafter.1
  cases step_cases hs with
  | mount =>
      unfold onMounted
      rw [connectWebSocket_eq, refreshStores_eq]
      rfl
  | unmount => rfl
  | click =>
      rw [refreshStores_eq]
      rfl
  | @timer _ t _ =>
      cases t.callback with
      | refresh =>
          show (App.refreshStores _).reconnectAttempt = _
          rw [refreshStores_eq]
          rfl
      | connect =>
          show (App.connectWebSocket _).reconnectAttempt = _
          rw [connectWebSocket_eq]
          rfl
      | poll =>
          show (App.refreshStores _).reconnectAttempt = _
          rw [refreshStores_eq]
          rfl
  | fetchSucceeds =>
      unfold App.fetchSucceeds finishRefresh
      split
      · rw [scheduleRefresh_eq]
        rfl
      · rfl
  | fetchFails =>
      unfold App.fetchFails finishRefresh
      split
      · rw [scheduleRefresh_eq]
        rfl
      · rfl
  | socketOpens hi => rw [onOpen, if_pos (h.wires.current _ _ hi nofun), failuresAfter]
  | socketMessage =>
      unfold onMessage
      split
      · rw [scheduleRefresh_eq]
        rfl
      · rfl
  | socketErrors => rfl
  | socketCloses hi hopen =>
      rw [onClose, if_neg (by simp [hrun, h.wires.current _ _ hi hopen]), failuresAfter]
  | socketClosesSilently hi _ hsilent =>
      have hlistens := hlink.listening hrun _ (List.mem_of_getElem? hi)
      rw [hsilent] at hlistens
      cases hlistens

/-- A component that is not stopped has never been. -/
theorem not_stopped_before (h : s.Ok) (hr : (dashboard α).Reaches s s')
    (hstopped : s'.stopped = false) : s.stopped = false := by
  by_contra hstop
  have hlast : s'.stopped = true := hr.invariant (I := fun t => t.stopped = true)
    (by simpa using hstop) fun t l t' ht ih hs => ((h.reaches ht).after_unmount ih hs).1
  rw [hstopped] at hlast
  cases hlast

/-- Over a run, the attempt counts the failures in a row. -/
theorem reconnectAttempt_run {labels : List (AppLabel α)} (h : s.Ok) (hlink : s.Link)
    (hr : (dashboard α).run s labels = some s') (hstopped : s'.stopped = false) :
    s'.reconnectAttempt = labels.foldl failuresAfter s.reconnectAttempt := by
  induction labels generalizing s with
  | nil =>
      cases hr
      rfl
  | cons l labels ih =>
      obtain ⟨t, ht, hrest⟩ := Option.bind_eq_some_iff.mp hr
      have hrun := not_stopped_before (h.step ht) (System.run_reaches hrest) hstopped
      rw [ih (h.step ht) (hlink.step h ht) hrest, reconnectAttempt_step h hlink ht hrun,
        List.foldl_cons]

/-! ## One connection at a time -/

/-- A socket is not closed, and is the only one; or all are, and one timer will make another. -/
def OneConnection (s : App α) : Prop :=
  (¬ s.Reconnecting ∧ ∃! i : Nat, ∃ ws : WebSocket, s.sockets[i]? = some ws ∧
      ws.readyState ≠ .closed) ∨
    (¬ s.Connected ∧ ∃! t, t ∈ s.timers.pending ∧ t.callback = .connect)

/-- There is a socket or a timer for one, and never two. -/
theorem one_connection (h : s.Ok) (hlink : s.Link) (hm : s.lifecycle = .mounted) :
    s.OneConnection := by
  rcases hlink.live hm with ⟨ws, hws, hopen⟩ | ⟨t, ht, hc⟩
  · refine Or.inl ?_
    obtain ⟨i, hi⟩ := List.mem_iff_getElem?.mp hws
    refine ⟨?_, i, ⟨ws, hi, hopen⟩, ?_⟩
    · rintro ⟨t, ht, hc⟩
      exact hopen (h.wires.idle t ht hc ws hws)
    · rintro j ⟨ws', hj, hopen'⟩
      exact Option.some.inj ((h.wires.current j ws' hj hopen').symm.trans
        (h.wires.current i ws hi hopen))
  · refine Or.inr ⟨?_, t, ⟨ht, hc⟩, ?_⟩
    · rintro ⟨ws, hws, hopen⟩
      exact hopen (h.wires.idle t ht hc ws hws)
    · rintro t' ⟨ht', hc'⟩
      have howner := h.clock.owned t ht
      have howner' := h.clock.owned t' ht'
      rw [hc] at howner
      rw [hc'] at howner'
      exact Timers.eq_of_id ht' ht (Option.some.inj (howner'.symm.trans howner))

/-- An unmounted component makes no socket. -/
theorem sockets_after_unmount (h : s.Ok) (hstopped : s.stopped = true)
    (hr : (dashboard α).Reaches s s') :
    s'.stopped = true ∧ s'.sockets.length = s.sockets.length := by
  refine hr.invariant (I := fun t => t.stopped = true ∧ t.sockets.length = s.sockets.length)
    ⟨hstopped, rfl⟩ fun t l t' ht ih hs => ?_
  have hok := h.reaches ht
  refine ⟨(hok.after_unmount ih.1 hs).1, (Eq.trans ?_ ih.2)⟩
  have hunmounted := hok.phase.stopped.mp ih.1
  cases step_cases hs with
  | mount hsetup =>
      rw [hunmounted] at hsetup
      cases hsetup
  | unmount hmounted =>
      rw [hunmounted] at hmounted
      cases hmounted
  | click => rw [refreshStores_eq]
  | timer hmem =>
      rw [(hok.phase.ended ih.1).1] at hmem
      cases hmem
  | fetchSucceeds =>
      unfold App.fetchSucceeds finishRefresh
      split
      · rw [scheduleRefresh_eq]
      · rfl
  | fetchFails =>
      unfold App.fetchFails finishRefresh
      split
      · rw [scheduleRefresh_eq]
      · rfl
  | socketOpens =>
      rw [onOpen_eq]
      exact List.length_set
  | socketMessage =>
      unfold onMessage
      split
      · rw [scheduleRefresh_eq]
      · rfl
  | socketErrors => exact List.length_set
  | socketCloses =>
      rw [onClose_eq]
      exact List.length_set
  | socketClosesSilently => exact List.length_set

end App

/-- While the component is mounted it has one socket that is not closed, or one timer that will
make another one, and it polls.  The timer waits for as long as the failures in a row of the run
say.  A socket that is open is shown as connected, and nothing is shown so once all sockets are
closed.  After the component is unmounted no socket is made, no timer is left and every socket is
told to close. -/
theorem dashboard_reconnects {labels : List (AppLabel α)} {s : App α}
    (hrun : (dashboard α).run .initial labels = some s) :
    (s.lifecycle = .mounted →
      s.OneConnection ∧
      (∃ t ∈ s.timers.pending, t.callback = .poll ∧ t.repeats = true ∧ t.delay = 10000) ∧
      (∀ t ∈ s.timers.pending, t.callback = .connect →
        0 < failures labels ∧ t.delay = reconnectDelay (failures labels)) ∧
      ((∃ ws ∈ s.sockets, ws.readyState = .open) → s.wsConnected = true) ∧
      (s.wsConnected = true →
        ∃ ws ∈ s.sockets, ws.readyState = .open ∨ ws.readyState = .closing)) ∧
    (s.stopped = true → ∀ s', (dashboard α).Reaches s s' →
      s'.sockets.length = s.sockets.length ∧ s'.timers.pending = [] ∧
        ∀ ws ∈ s'.sockets, ws.readyState = .closing ∨ ws.readyState = .closed) := by
  have hreach : s.Reachable := System.run_reaches hrun
  have hok := hreach.ok
  have hlink := hreach.link
  refine ⟨fun hm => ?_, fun hstopped s' hr => ?_⟩
  · have hstopped : s.stopped = false := by
      simpa using hok.phase.not_stopped (by rw [hm]; decide)
    have hattempt : s.reconnectAttempt = failures labels :=
      App.reconnectAttempt_run App.Ok.initial App.Link.initial hrun hstopped
    obtain ⟨hopened, hconnected⟩ := hlink.header hstopped
    rw [← hattempt]
    exact ⟨App.one_connection hok hlink hm, hlink.polling hm, hlink.delayed,
      fun ⟨ws, hws, ho⟩ => hopened ws hws ho, hconnected⟩
  · obtain ⟨hstill, hlength⟩ := App.sockets_after_unmount hok hstopped hr
    exact ⟨hlength, (hok.reaches hr).phase.ended hstill⟩

/-- A connection that is lost, and a failure to make another one: the dashboard waits for two
seconds. -/
theorem dashboard_reconnects_after_two_failures :
    let labels : List (AppLabel Unit) :=
      [.mount, .socketOpens 0, .socketCloses 0, .timer 1, .socketErrors 1, .socketCloses 1]
    ∃ s : App Unit, (dashboard Unit).run .initial labels = some s ∧ s.OneConnection ∧
      s.Reconnecting ∧ ∀ t ∈ s.timers.pending, t.callback = .connect → t.delay = 2000 := by
  intro labels
  have hrun : ((dashboard Unit).run .initial labels).map (fun s =>
      (s.lifecycle, s.timers.pending.map fun t => (t.callback, t.delay))) =
        some (.mounted, [(.poll, 10000), (.connect, 2000)]) := rfl
  obtain ⟨s, hs, he⟩ := Option.map_eq_some_iff.mp hrun
  obtain ⟨hm, htimers⟩ := Prod.mk.inj he
  obtain ⟨hone, -, hdelay, -⟩ := (dashboard_reconnects hs).1 hm
  have hconnect : (TimerCallback.connect, 2000) ∈ s.timers.pending.map fun t =>
      (t.callback, t.delay) := by
    rw [htimers]
    decide
  obtain ⟨t, ht, hc⟩ := List.mem_map.mp hconnect
  refine ⟨s, hs, hone, ⟨t, ht, (Prod.mk.inj hc).1⟩, fun t ht hc => (hdelay t ht hc).2.trans rfl⟩

/-! ## Recovery -/

/-- A step of the browser or the server that no one has to ask for, and that is no failure: of
the sockets only one that is closing already closes. -/
def AppLabel.served (s : App α) : AppLabel α → Prop
  | .timer _ | .fetchSucceeds .. | .socketOpens _ => True
  | .socketCloses i => ∃ ws, s.sockets[i]? = some ws ∧ ws.readyState = .closing
  | _ => False

namespace App

variable {s s' : App α}

/-- Steps of the browser and the server only. -/
abbrev Recovers (s s' : App α) : Prop :=
  (dashboard α).ReachesWithin (fun t l => l.served t) s s'

theorem recovers_step {l : AppLabel α} (hs : s.step l = some s') (hl : l.served s) :
    s.Recovers s' := System.ReachesWithin.refl.tail (S := dashboard α) hl hs

theorem step_timer {t : Timer TimerCallback} (ht : t ∈ s.timers.pending) :
    s.step (.timer t.id) = some ({ s with timers := s.timers.fire t }.onTimer t.callback) := by
  simp only [step, Timers.find?_of_mem ht]

/-- A socket of the component is open. -/
def Open (s : App α) : Prop := ∃ ws ∈ s.sockets, ws.readyState = .open

/-- A socket that is connecting opens. -/
theorem recovers_connecting {i : Nat} {onclose : Bool}
    (hi : s.sockets[i]? = some ⟨.connecting, onclose⟩) :
    ∃ s', s.Recovers s' ∧ s'.lifecycle = s.lifecycle ∧ s'.Open := by
  have hs : s.step (.socketOpens i) =
      some ({ s with sockets := s.sockets.set i ⟨.open, onclose⟩ }.onOpen i) := by
    simp only [step, hi]
  refine ⟨_, recovers_step hs trivial, ?_, ?_⟩
  · rw [onOpen_eq]
  · rw [onOpen_eq]
    exact ⟨_, List.mem_set (List.getElem?_eq_some_iff.mp hi).1 _, rfl⟩

/-- A timer for a socket makes one, which opens. -/
theorem recovers_reconnecting (h : s.Ok) (hm : s.lifecycle = .mounted) (hr : s.Reconnecting) :
    ∃ s', s.Recovers s' ∧ s'.lifecycle = .mounted ∧ s'.Open := by
  obtain ⟨t, ht, hc⟩ := hr
  have hstopped : s.stopped = false := by
    simpa using h.phase.not_stopped (by rw [hm]; decide)
  have hs := step_timer ht
  rw [hc, onTimer, App.connectWebSocket, if_neg (by simp [hstopped])] at hs
  obtain ⟨s', hrecovers, hlifecycle, hopen⟩ := recovers_connecting
    (s := { s with
      timers := s.timers.fire t
      socket := some s.sockets.length
      sockets := s.sockets ++ [⟨.connecting, true⟩] }) List.getElem?_concat_length
  exact ⟨s', (recovers_step hs trivial).trans hrecovers, hlifecycle.trans hm, hopen⟩

/-- A mounted component can be connected. -/
theorem recovers_open (h : s.Ok) (hlink : s.Link) (hm : s.lifecycle = .mounted) :
    ∃ s', s.Recovers s' ∧ s'.lifecycle = .mounted ∧ s'.Open := by
  rcases hlink.live hm with ⟨ws, hws, hlive⟩ | hr
  swap
  · exact recovers_reconnecting h hm hr
  obtain ⟨i, hi⟩ := List.mem_iff_getElem?.mp hws
  obtain ⟨state, onclose⟩ := ws
  cases state with
  | connecting =>
      obtain ⟨s', hrecovers, hlifecycle, hopen⟩ := recovers_connecting hi
      exact ⟨s', hrecovers, hlifecycle.trans hm, hopen⟩
  | «open» => exact ⟨s, System.ReachesWithin.refl, hm, _, hws, rfl⟩
  | closed => exact absurd rfl hlive
  | closing =>
      -- it closes first, and then a timer makes another one
      have hstopped : s.stopped = false := by
        simpa using h.phase.not_stopped (by rw [hm]; decide)
      obtain rfl : onclose = true := hlink.listening hstopped _ hws
      have hs : s.step (.socketCloses i) =
          some ({ s with sockets := s.sockets.set i ⟨.closed, true⟩ }.onClose i) := by
        simp [step, hi]
      have hcurrent := h.wires.current i _ hi (fun he => by cases he)
      rw [onClose, if_neg (by simp [hstopped, hcurrent])] at hs
      obtain ⟨s', hrecovers, hmounted, hopen⟩ := recovers_reconnecting (h.step hs) hm
        ⟨_, Timers.mem_start.mpr (Or.inr rfl), rfl⟩
      exact ⟨s', (recovers_step hs ⟨_, hi, rfl⟩).trans hrecovers, hmounted, hopen⟩

/-- A run starts requests, and loses none. -/
theorem fetches_grow (hr : (dashboard α).Reaches s s') : s.fetches.length ≤ s'.fetches.length :=
  hr.invariant (I := fun t => s.fetches.length ≤ t.fetches.length) le_rfl
    fun _ _ _ _ ih hs => ih.trans (fetches_length_le hs)

/-- The component is connected, and shows the stores of a request that was started after `s` and
has just succeeded. -/
structure Recovered (s s' : App α) (stores : List α) (now : Instant) : Prop where
  mounted : s'.lifecycle = .mounted
  connected : s'.Open
  fresh : ∃ i, s.fetches.length ≤ i ∧ s'.fetches[i]? = some (.succeeded stores)
  stores : s'.stores = stores
  error : s'.error = none
  lastRefresh : s'.lastRefresh = some now
  loading : s'.loading = false

/-- A request that succeeds: the sockets are left alone, and nothing is in flight. -/
theorem fetchSucceeds_spec (s : App α) (i : Nat) (stores : List α) (now : Instant) :
    (s.fetchSucceeds i stores now).lifecycle = s.lifecycle ∧
    (s.fetchSucceeds i stores now).sockets = s.sockets ∧
    (s.fetchSucceeds i stores now).fetches = s.fetches.set i (.succeeded stores) ∧
    (s.fetchSucceeds i stores now).refreshInFlight = false ∧
    (s.fetchSucceeds i stores now).stores = stores ∧
    (s.fetchSucceeds i stores now).error = none ∧
    (s.fetchSucceeds i stores now).lastRefresh = some now ∧
    (s.fetchSucceeds i stores now).loading = false := by
  unfold App.fetchSucceeds finishRefresh
  split
  · rw [scheduleRefresh_eq]
    exact ⟨rfl, rfl, rfl, rfl, rfl, rfl, rfl, rfl⟩
  · exact ⟨rfl, rfl, rfl, rfl, rfl, rfl, rfl, rfl⟩

theorem recovers_succeeds {i : Nat} (hi : s.fetches[i]? = some .inFlight) (stores : List α)
    (now : Instant) : s.Recovers (s.fetchSucceeds i stores now) := by
  have hs : s.step (.fetchSucceeds i stores now) = some (s.fetchSucceeds i stores now) := by
    simp only [step, hi]
  exact recovers_step hs trivial

/-- The request in flight can succeed, and then there is none. -/
theorem recovers_idle (h : s.Ok) (hm : s.lifecycle = .mounted) (hopen : s.Open)
    (stores : List α) (now : Instant) :
    ∃ s', s.Recovers s' ∧ s'.lifecycle = .mounted ∧ s'.Open ∧ s'.refreshInFlight = false := by
  by_cases hflight : s.refreshInFlight = true
  · obtain ⟨i, hi⟩ := List.mem_iff_getElem?.mp (h.flight.refreshInFlight.mp hflight)
    obtain ⟨hlifecycle, hsockets, -, hidle, -⟩ := s.fetchSucceeds_spec i stores now
    refine ⟨_, recovers_succeeds hi stores now, hlifecycle.trans hm, ?_, hidle⟩
    rw [Open, hsockets]
    exact hopen
  · exact ⟨s, System.ReachesWithin.refl, hm, hopen, by simpa using hflight⟩

/-- When nothing is in flight, the next poll starts a request, which can succeed. -/
theorem recovers_stores (hlink : s.Link) (hm : s.lifecycle = .mounted) (hopen : s.Open)
    (hidle : s.refreshInFlight = false) (stores : List α) (now : Instant) :
    ∃ s', s.Recovers s' ∧ s.Recovered s' stores now := by
  obtain ⟨t, ht, hc, -⟩ := hlink.polling hm
  have hs := step_timer ht
  rw [hc, onTimer, App.refreshStores, if_neg (by simp [hidle])] at hs
  let polled : App α := { s with
    timers := s.timers.fire t
    refreshInFlight := true
    fetches := s.fetches ++ [.inFlight] }
  have hi : polled.fetches[s.fetches.length]? = some .inFlight := List.getElem?_concat_length
  obtain ⟨hlifecycle, hsockets, hfetches, -, hshown⟩ :=
    polled.fetchSucceeds_spec s.fetches.length stores now
  refine ⟨_, (recovers_step hs trivial).trans (recovers_succeeds hi stores now),
    hlifecycle.trans hm, ?_, ⟨s.fetches.length, le_rfl, ?_⟩, hshown.1, hshown.2.1, hshown.2.2.1,
    hshown.2.2.2⟩
  · rw [Open, hsockets]
    exact hopen
  · rw [hfetches]
    exact List.getElem?_set_self (List.getElem?_eq_some_iff.mp hi).1

end App

/-- Whatever has happened to a mounted component, the browser and the server can bring it to a
state in which it is connected, says so, and shows the stores of a request that was started since,
without an error.  No click is needed, and nothing fails. -/
theorem dashboard_recovers {s : App α} (h : s.Reachable) (hm : s.lifecycle = .mounted)
    (stores : List α) (now : Instant) :
    ∃ s', (dashboard α).ReachesWithin (fun t l => l.served t) s s' ∧
      s.Recovered s' stores now ∧ s'.wsConnected = true := by
  obtain ⟨t, ht, hmounted, hopen⟩ := App.recovers_open h.ok h.link hm
  have hok : t.Ok := h.ok.reaches ht.reaches
  have hlink : t.Link := h.link.reaches h.ok ht.reaches
  obtain ⟨u, hu, humounted, huopen, hidle⟩ := App.recovers_idle hok hmounted hopen stores now
  have huok : u.Ok := hok.reaches hu.reaches
  have hulink : u.Link := hlink.reaches hok hu.reaches
  obtain ⟨s', hs', hrecovered⟩ := App.recovers_stores hulink humounted huopen hidle stores now
  have hreach := hs'.reaches
  have hstopped : s'.stopped = false := by
    simpa using (huok.reaches hreach).phase.not_stopped (by rw [hrecovered.mounted]; decide)
  obtain ⟨ws, hws, ho⟩ := hrecovered.connected
  obtain ⟨i, hi, hfetched⟩ := hrecovered.fresh
  have hgrown := App.fetches_grow (ht.trans hu).reaches
  exact ⟨s', (ht.trans hu).trans hs', { hrecovered with fresh := ⟨i, hgrown.trans hi, hfetched⟩ },
    ((hulink.reaches huok hreach).header hstopped).opened ws hws ho⟩

/-- A component whose first request has failed and whose socket has closed. -/
theorem dashboard_recovers_after_outage :
    ∃ s s' : App Nat, (dashboard Nat).run .initial
        [.mount, .fetchFails 0 (some "Failed to fetch"), .socketErrors 0, .socketCloses 0] =
        some s ∧
      s.error = some "Failed to fetch" ∧
      (dashboard Nat).ReachesWithin (fun t l => l.served t) s s' ∧
      s.Recovered s' [1, 2] 63924508800000000 ∧ s'.wsConnected = true := by
  have hrun : ((dashboard Nat).run .initial
      [.mount, .fetchFails 0 (some "Failed to fetch"), .socketErrors 0, .socketCloses 0]).map
        (fun s => (s.lifecycle, s.error)) = some (.mounted, some "Failed to fetch") := rfl
  obtain ⟨s, hs, he⟩ := Option.map_eq_some_iff.mp hrun
  obtain ⟨hm, herror⟩ := Prod.mk.inj he
  obtain ⟨s', hs', hrecovered⟩ :=
    dashboard_recovers (System.run_reaches hs) hm [1, 2] 63924508800000000
  exact ⟨s, s', hs, herror, hs', hrecovered⟩

end StorePulse
