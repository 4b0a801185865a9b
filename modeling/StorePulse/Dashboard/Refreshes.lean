import StorePulse.Dashboard.Invariant

/-!
# The refreshes of the dashboard

The dashboard never has two requests in flight, and it never loses news while
it is mounted.  `App.Owed` says that a request will follow: a refresh is
scheduled, or one is in flight and another one is wanted.  News make it true,
and until the component is unmounted it stays true until a request starts.

When the component is unmounted the timers are cleared, so news that no request
has followed are dropped with it.
-/

namespace StorePulse

variable {α : Type}

namespace App

variable {s s' : App α} {l : AppLabel α}

/-! ## News -/

/-- A request will follow: a refresh is scheduled, or one is in flight and another one is
wanted. -/
def Owed (s : App α) : Prop :=
  (∃ t ∈ s.timers.pending, t.callback = .refresh) ∨
    (.inFlight ∈ s.fetches ∧ s.refreshPending = true)

/-- The flag is set while a request is in flight. -/
theorem Flight.refreshInFlight (h : s.Flight) :
    s.refreshInFlight = true ↔ .inFlight ∈ s.fetches := by
  obtain ⟨past, hfetches, hpast, _⟩ := h
  cases hflight : s.refreshInFlight with
  | false =>
      rw [hflight, if_neg (by decide), List.append_nil] at hfetches
      rw [hfetches]
      exact ⟨nofun, fun hmem => absurd rfl (hpast _ hmem)⟩
  | true =>
      rw [hflight, if_pos rfl] at hfetches
      simp [hfetches]

/-- `refreshStores` starts a request, or leaves word for the one in flight. -/
theorem Flight.owed_or_started (h : s.Flight) :
    s.refreshStores.Owed ∨ s.refreshStores.fetches.length = s.fetches.length + 1 := by
  unfold App.refreshStores
  split
  · rename_i hflight
    exact Or.inl (Or.inr ⟨h.refreshInFlight.mp hflight, rfl⟩)
  · exact Or.inr (by simp)

/-- No request is lost from the list. -/
theorem fetches_length_le (hs : s.step l = some s') : s.fetches.length ≤ s'.fetches.length := by
  have hrefresh : ∀ t : App α, t.fetches.length ≤ t.refreshStores.fetches.length := by
    intro t
    unfold refreshStores
    split <;> simp
  cases step_cases hs with
  | mount =>
      unfold onMounted
      rw [connectWebSocket_eq]
      exact hrefresh { s with lifecycle := .mounted }
  | unmount => exact le_rfl
  | click => exact hrefresh s
  | @timer _ t _ =>
      cases t.callback with
      | refresh => exact hrefresh { s with timers := s.timers.fire t, refreshTimer := none }
      | connect =>
          show s.fetches.length ≤ (App.connectWebSocket _).fetches.length
          rw [connectWebSocket_eq]
      | poll => exact hrefresh { s with timers := s.timers.fire t }
  | fetchSucceeds => simp [App.fetchSucceeds, finishRefresh_fetches]
  | fetchFails => simp [App.fetchFails, finishRefresh_fetches]
  | socketOpens => rw [onOpen_eq]
  | socketMessage =>
      unfold onMessage
      split
      · rw [scheduleRefresh_eq]
      · exact le_rfl
  | socketErrors => exact le_rfl
  | socketCloses => rw [onClose_eq]
  | socketClosesSilently => exact le_rfl

/-- A refresh that is scheduled stays scheduled. -/
theorem Owed.keep (h : s.Owed)
    (htimers : ∀ t ∈ s.timers.pending, t.callback = .refresh → t ∈ s'.timers.pending)
    (hfetches : s'.fetches = s.fetches) (hpending : s'.refreshPending = s.refreshPending) :
    s'.Owed := by
  rcases h with ⟨t, ht, hc⟩ | h
  · exact Or.inl ⟨t, htimers t ht hc, hc⟩
  · rw [← hfetches, ← hpending] at h
    exact Or.inr h

/-- The `finally` block schedules what was wanted. -/
theorem Clock.owed_of_finish (h : s.Clock) (hstopped : s.stopped = false)
    (howed : (∃ t ∈ s.timers.pending, t.callback = .refresh) ∨ s.refreshPending = true) :
    s.finishRefresh.Owed := by
  unfold App.finishRefresh
  split
  · exact Or.inl (Clock.refresh_pending (h.keep rfl rfl rfl) hstopped)
  · rename_i hnone
    rcases howed with howed | howed
    · exact Or.inl howed
    · simp [howed, hstopped] at hnone

/-- While the component is mounted, what is owed stays owed until a request starts. -/
theorem Owed.step (h : s.Ok) (howed : s.Owed) (hs : s.step l = some s')
    (hstopped : s'.stopped = false) (hnone : s'.fetches.length = s.fetches.length) :
    s'.Owed := by
  have hrefresh : ∀ {t : App α}, t.Flight → t.refreshStores.fetches.length = t.fetches.length →
      t.refreshStores.Owed := by
    intro t ht hlength
    rcases ht.owed_or_started with howed | hstarted
    · exact howed
    · omega
  cases step_cases hs with
  | mount hsetup =>
      obtain ⟨htimers, _, hfetches⟩ := h.phase.setup hsetup
      simp [Owed, htimers, hfetches] at howed
  | unmount => cases hstopped
  | click => exact hrefresh h.flight hnone
  | @timer _ t ht =>
      cases hc : t.callback with
      | refresh =>
          rw [hc] at hnone
          exact hrefresh (t := { s with timers := s.timers.fire t, refreshTimer := none })
            h.flight hnone
      | connect =>
          show (App.connectWebSocket _).Owed
          rw [connectWebSocket_eq]
          refine howed.keep (fun t' ht' hc' => Timers.mem_fire.mpr ⟨ht', Or.inr fun he => ?_⟩)
            rfl rfl
          rw [Timers.eq_of_id ht' ht he, hc] at hc'
          cases hc'
      | poll =>
          rw [hc] at hnone
          exact hrefresh (t := { s with timers := s.timers.fire t }) h.flight hnone
  | fetchSucceeds =>
      exact Clock.owed_of_finish (h.clock.keep rfl rfl rfl)
        ((finishRefresh_stopped _).symm.trans hstopped) (howed.imp_right And.right)
  | fetchFails =>
      exact Clock.owed_of_finish (h.clock.keep rfl rfl rfl)
        ((finishRefresh_stopped _).symm.trans hstopped) (howed.imp_right And.right)
  | socketOpens =>
      rw [onOpen_eq]
      exact howed
  | socketMessage =>
      unfold onMessage at hstopped ⊢
      split
      · rename_i hnews
        rw [if_pos hnews, scheduleRefresh_eq] at hstopped
        exact Or.inl (h.clock.refresh_pending hstopped)
      · exact howed
  | socketErrors => exact howed
  | socketCloses =>
      unfold onClose
      split
      · exact howed
      · exact howed.keep (fun t ht _ => Timers.mem_start.mpr (Or.inl ht)) rfl rfl
  | socketClosesSilently => exact howed

/-- An unmounted component starts nothing. -/
theorem Ok.after_unmount (h : s.Ok) (hstopped : s.stopped = true) (hs : s.step l = some s') :
    s'.stopped = true ∧ s'.fetches.length = s.fetches.length := by
  have hnot : s.lifecycle ≠ .mounted := by rw [h.phase.stopped.mp hstopped]; decide
  cases step_cases hs with
  | mount hsetup =>
      rw [h.phase.stopped.mp hstopped] at hsetup
      cases hsetup
  | unmount => exact ⟨rfl, rfl⟩
  | click hmounted => exact absurd hmounted hnot
  | timer ht => exact absurd (h.phase.of_timer ht) hnot
  | fetchSucceeds =>
      exact ⟨(finishRefresh_stopped _).trans hstopped,
        by simp [App.fetchSucceeds, finishRefresh_fetches]⟩
  | fetchFails =>
      exact ⟨(finishRefresh_stopped _).trans hstopped,
        by simp [App.fetchFails, finishRefresh_fetches]⟩
  | socketOpens =>
      rw [onOpen_eq]
      exact ⟨hstopped, rfl⟩
  | socketMessage hi => exact absurd (h.phase.of_socket hi (Or.inr rfl)) hnot
  | socketErrors => exact ⟨hstopped, rfl⟩
  | socketCloses =>
      rw [onClose_eq]
      exact ⟨hstopped, rfl⟩
  | socketClosesSilently => exact ⟨hstopped, rfl⟩

/-- While the component is mounted, news are owed until a request starts. -/
theorem Owed.reaches (h : s.Ok) (howed : s.Owed) (hr : (dashboard α).Reaches s s') :
    s.fetches.length ≤ s'.fetches.length ∧
      (s'.stopped = false → s'.fetches.length = s.fetches.length → s'.Owed) := by
  refine hr.invariant (I := fun t => s.fetches.length ≤ t.fetches.length ∧
    (t.stopped = false → t.fetches.length = s.fetches.length → t.Owed))
    ⟨le_rfl, fun _ _ => howed⟩ fun t l t' ht ih hs => ?_
  have hle := fetches_length_le hs
  refine ⟨ih.1.trans hle, fun hstopped hlength => ?_⟩
  have hsame : t'.fetches.length = t.fetches.length :=
    le_antisymm (hlength.le.trans ih.1) hle
  refine Owed.step (h.reaches ht) (ih.2 ?_ (hsame.symm.trans hlength)) hs hstopped hsame
  by_contra hstop
  have hafter := (h.reaches ht).after_unmount (by simpa using hstop) hs
  rw [hstopped] at hafter
  cases hafter.1

end App

/-- In every state of the dashboard at most one request is in flight and at most one
refresh is scheduled, and the stores of the last successful request are shown.  News that
arrive while the component is mounted are owed until a request starts or the component is
unmounted; after that no request starts and none is scheduled. -/
theorem dashboard_refreshes {s : App α} (h : s.Reachable) :
    s.fetches.countP FetchStores.pending ≤ 1 ∧
    s.timers.pending.countP (fun t => t.callback = .refresh) ≤ 1 ∧
    (∀ i data s₁ s₂, s.step (.socketMessage i data) = some s₁ → App.invalidates data = true →
      (dashboard α).Reaches s₁ s₂ → s₂.fetches.length = s.fetches.length →
      s₂.stopped = false → s₂.Owed) ∧
    s.stores = shown s.fetches ∧
    (s.stopped = true → ∀ s', (dashboard α).Reaches s s' →
      s'.fetches.length = s.fetches.length ∧
        ∀ t ∈ s'.timers.pending, t.callback ≠ .refresh) := by
  have hok := h.ok
  obtain ⟨past, hfetches, hpast, hstores⟩ := hok.flight
  have hsettled : past.countP FetchStores.pending = 0 := by
    rw [List.countP_eq_zero]
    intro f hf
    cases f with
    | inFlight => exact absurd rfl (hpast _ hf)
    | succeeded => exact nofun
    | failed => exact nofun
  refine ⟨?_, ?_, fun i data s₁ s₂ hs hnews hr hlength hstopped => ?_, ?_,
    fun hstopped s' hr => ?_⟩
  · rw [hfetches, List.countP_append, hsettled]
    split
    · exact le_rfl
    · exact Nat.zero_le 1
  · refine Timers.countP_le_one (o := s.refreshTimer) fun t ht hc => ?_
    have howned := hok.clock.owned t ht
    rwa [of_decide_eq_true hc] at howned
  · have hmessage : s₁ = s.scheduleRefresh ∧ s.stopped = false := by
      cases App.step_cases hs with
      | socketMessage hi =>
          have hmounted := hok.phase.of_socket hi (Or.inr rfl)
          have hrun := hok.phase.not_stopped (by rw [hmounted]; decide)
          exact ⟨if_pos hnews, by simpa using hrun⟩
    obtain ⟨rfl, hrun⟩ := hmessage
    have howed : s.scheduleRefresh.Owed := Or.inl (hok.clock.refresh_pending hrun)
    have hsame : s.scheduleRefresh.fetches.length = s.fetches.length := by
      rw [App.scheduleRefresh_eq]
    exact ((App.Owed.reaches (hok.step hs) howed hr).2) hstopped (hlength.trans hsame.symm)
  · rw [hstores, hfetches]
    split
    · exact (shown_inFlight past).symm
    · rw [List.append_nil]
  · have hended : s'.stopped = true ∧ s'.fetches.length = s.fetches.length :=
      hr.invariant (I := fun t => t.stopped = true ∧ t.fetches.length = s.fetches.length)
        ⟨hstopped, rfl⟩ fun t l t' ht ih hs => by
          obtain ⟨hstop, hlength⟩ := (hok.reaches ht).after_unmount ih.1 hs
          exact ⟨hstop, hlength.trans ih.2⟩
    refine ⟨hended.2, fun t ht => ?_⟩
    rw [((hok.reaches hr).phase.ended hended.1).1] at ht
    cases ht

/-! ## A run -/

namespace Sample

/-- News about events. -/
def news : Option Json := some (.obj [("type", .str "events.changed")])

/-- The component is mounted, and its socket opens. -/
def mountSteps : List (AppLabel Unit) := [.mount, .socketOpens 0]

/-- The run of a list of steps of the dashboard. -/
def runApp (labels : List (AppLabel Unit)) : Option (App Unit) :=
  (dashboard Unit).run .initial labels

end Sample

/-- News that arrive before the component is unmounted are owed no more after it, though no
request has followed. -/
theorem news_dropped_at_unmount : ∃ s s₁ s₂ : App Unit, s.Reachable ∧ s.stopped = false ∧
    s.step (.socketMessage 0 Sample.news) = some s₁ ∧ App.invalidates Sample.news = true ∧
    (dashboard Unit).Reaches s₁ s₂ ∧ s₂.fetches.length = s.fetches.length ∧ ¬ s₂.Owed := by
  have hrun : ((Sample.runApp Sample.mountSteps).bind fun s =>
      (s.step (.socketMessage 0 Sample.news)).bind fun s₁ =>
        ((dashboard Unit).run s₁ [.unmount]).map fun s₂ =>
          (s.stopped, s.fetches, s₂.fetches, s₂.timers.pending.length, s₂.refreshPending)) =
      some (false, [.inFlight], [.inFlight], 0, false) := rfl
  obtain ⟨s, hs, hrun⟩ := Option.bind_eq_some_iff.mp hrun
  obtain ⟨s₁, hs₁, hrun⟩ := Option.bind_eq_some_iff.mp hrun
  obtain ⟨s₂, hs₂, he⟩ := Option.map_eq_some_iff.mp hrun
  simp only [Prod.mk.injEq, List.length_eq_zero_iff] at he
  obtain ⟨hstopped, hfetches, hfetches₂, htimers, hpending⟩ := he
  refine ⟨s, s₁, s₂, System.run_reaches hs, hstopped, hs₁, rfl, System.run_reaches hs₂, ?_, ?_⟩
  · rw [hfetches, hfetches₂]
  · simp [App.Owed, htimers, hpending]

/-- While the component is mounted they are owed, also when the refresh has found another
request in flight. -/
theorem news_owed_while_in_flight : ∃ s s₁ s₂ : App Unit,
    Sample.runApp Sample.mountSteps = some s ∧
    s.step (.socketMessage 0 Sample.news) = some s₁ ∧
    (dashboard Unit).run s₁ [.timer 1] = some s₂ ∧ s₂.timers.pending.length = 1 ∧ s₂.Owed := by
  have hrun : ((Sample.runApp Sample.mountSteps).bind fun s =>
      (s.step (.socketMessage 0 Sample.news)).bind fun s₁ =>
        ((dashboard Unit).run s₁ [.timer 1]).map fun s₂ =>
          (s.fetches, s₂.fetches, s₂.timers.pending.length, s₂.stopped)) =
      some ([.inFlight], [.inFlight], 1, false) := rfl
  obtain ⟨s, hs, hrun⟩ := Option.bind_eq_some_iff.mp hrun
  obtain ⟨s₁, hs₁, hrun⟩ := Option.bind_eq_some_iff.mp hrun
  obtain ⟨s₂, hs₂, he⟩ := Option.map_eq_some_iff.mp hrun
  simp only [Prod.mk.injEq] at he
  obtain ⟨hfetches, hfetches₂, htimers, hstopped⟩ := he
  refine ⟨s, s₁, s₂, hs, hs₁, hs₂, htimers, ?_⟩
  exact (dashboard_refreshes (System.run_reaches hs)).2.2.1 0 _ s₁ s₂ hs₁ rfl
    (System.run_reaches hs₂) (by rw [hfetches, hfetches₂]) hstopped

end StorePulse
