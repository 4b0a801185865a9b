import StorePulse.Backend.Realtime

/-!
# The registry of dashboard sockets

Every broadcast sends once to each socket it has copied, and nobody holds it up.
A socket leaves the registry only after its handler has ended or a send to it
has failed.  These hold in all runs.

That no ended handler leaves its socket behind does not: a handler that ends
without `WebSocketDisconnect` discards nothing.  It holds in the runs whose
steps are `orderly`: a handler ends so only while its socket is not registered,
or while a broadcast has still to send to it or to discard it, and such a
broadcast does not lose the socket again by a send that succeeds.  Any other
step leads to a quiet state with a socket left behind.
-/

namespace StorePulse

/-! ## One broadcast -/

namespace Broadcast

/-- The sends that have been tried to a socket. -/
def attempts (b : Broadcast) (socket : Nat) : Nat := (b.sends.map Prod.fst).count socket

/-- A send to a socket has failed. -/
def Failed (b : Broadcast) (socket : Nat) : Prop :=
  ∃ result, (socket, result) ∈ b.sends ∧ result.failed = true

/-- What holds of a broadcast at every step. -/
structure Ok (b : Broadcast) : Prop where
  starting : b.phase = .starting → b.rest = [] ∧ b.stale = [] ∧ b.sends = []
  sending : b.phase = .sending → b.rest ≠ []
  finished : b.phase = .sweeping ∨ b.phase = .done → b.rest = []
  /-- The list is what has been sent to and what is left. -/
  split : b.sends.map Prod.fst ++ b.rest = b.connections
  nodup : b.connections.Nodup
  stale : ∀ socket ∈ b.stale, b.Failed socket

variable {b : Broadcast} {socket : Nat} {rest stale : List Nat}

@[simp] theorem nextPhase_eq_sending : nextPhase rest stale = .sending ↔ rest ≠ [] := by
  cases rest <;> cases stale <;> simp [nextPhase]

@[simp] theorem nextPhase_ne_starting : nextPhase rest stale ≠ .starting := by
  cases rest <;> cases stale <;> simp [nextPhase]

@[simp] theorem nextPhase_finished :
    (nextPhase rest stale = .sweeping ∨ nextPhase rest stale = .done) ↔ rest = [] := by
  cases rest <;> cases stale <;> simp [nextPhase]

@[simp] theorem nextPhase_eq_done : nextPhase rest stale = .done ↔ rest = [] ∧ stale = [] := by
  cases rest <;> cases stale <;> simp [nextPhase]

theorem ok_start (payload : Message) : (start payload).Ok where
  starting _ := ⟨rfl, rfl, rfl⟩
  sending := nofun
  finished _ := rfl
  split := rfl
  nodup := List.nodup_nil
  stale := nofun

theorem Ok.copy (h : b.Ok) (hp : b.phase = .starting) {order : List Nat} (ho : order.Nodup) :
    (b.copy order).Ok := by
  obtain ⟨-, hstale, hsends⟩ := h.starting hp
  exact {
    starting := fun hs => absurd hs nextPhase_ne_starting
    sending := nextPhase_eq_sending.1
    finished := nextPhase_finished.1
    split := by simp [Broadcast.copy, hsends]
    nodup := ho
    stale := by simp [Broadcast.copy, hstale] }

theorem Ok.sendTo (h : b.Ok) (hr : b.rest = socket :: rest) (result : SendResult) :
    (b.sendTo socket rest result).Ok where
  starting hs := absurd hs nextPhase_ne_starting
  sending := nextPhase_eq_sending.1
  finished := nextPhase_finished.1
  split := by simpa [Broadcast.sendTo, hr] using h.split
  nodup := h.nodup
  stale := by
    intro k hk
    have hold : k ∈ b.stale → (b.sendTo socket rest result).Failed k := fun hk => by
      obtain ⟨r, hr, hf⟩ := h.stale k hk
      exact ⟨r, List.mem_append_left _ hr, hf⟩
    simp only [Broadcast.sendTo] at hk
    split at hk
    · next hf =>
      rcases List.mem_append.1 hk with hk | hk
      · exact hold hk
      · obtain rfl := List.mem_singleton.1 hk
        exact ⟨result, by simp [Broadcast.sendTo], hf⟩
    · exact hold hk

theorem Ok.sweep (h : b.Ok) (hp : b.phase = .sweeping) :
    Ok { b with phase := .done } where
  starting := nofun
  sending := nofun
  finished _ := h.finished (.inl hp)
  split := h.split
  nodup := h.nodup
  stale := h.stale

/-- No socket is tried twice. -/
theorem Ok.attempts_le_one (h : b.Ok) (socket : Nat) : b.attempts socket ≤ 1 := by
  have hnodup : (b.sends.map Prod.fst).Nodup :=
    (h.split ▸ h.nodup : (b.sends.map Prod.fst ++ b.rest).Nodup).of_append_left
  exact List.nodup_iff_count_le_one.1 hnodup socket

/-- Only the sockets of the list are tried. -/
theorem Ok.attempts_of_notMem (h : b.Ok) (hm : socket ∉ b.connections) :
    b.attempts socket = 0 :=
  List.count_eq_zero.2 fun hs => hm (h.split ▸ List.mem_append_left _ hs)

/-- Once it is done, a broadcast has tried each socket of its list. -/
theorem Ok.attempts_of_done (h : b.Ok) (hp : b.phase = .done) (hm : socket ∈ b.connections) :
    b.attempts socket = 1 := by
  have hsplit := h.split
  rw [h.finished (.inr hp), List.append_nil] at hsplit
  rw [attempts, hsplit]
  exact List.count_eq_one_of_mem h.nodup hm

theorem not_holds_iff (hp : b.phase ≠ .done) :
    b.holds socket = false ↔ socket ∉ b.rest ∧ socket ∉ b.stale := by
  simp [holds, hp]

/-- What a broadcast has still to do with other sockets stays to be done after a send. -/
theorem holds_sendTo (hh : b.holds socket = true) {k : Nat} (hr : b.rest = k :: rest)
    {result : SendResult} (hk : socket = k → socket ∈ b.stale ∨ result.failed = true) :
    (b.sendTo k rest result).holds socket = true := by
  have hmem : socket ∈ rest ∨
      socket ∈ (if result.failed then b.stale ++ [k] else b.stale) := by
    simp only [holds, hr, Bool.and_eq_true, Bool.or_eq_true, decide_eq_true_eq,
      List.mem_cons] at hh
    rcases hh.2 with (rfl | hrest) | hstale
    · rcases hk rfl with hstale | hf
      · exact .inr (by split <;> simp [hstale])
      · exact .inr (by simp [hf])
    · exact .inl hrest
    · exact .inr (by split <;> simp [hstale])
  have hphase : nextPhase rest (if result.failed then b.stale ++ [k] else b.stale) ≠ .done := by
    intro hdone
    obtain ⟨hrest, hstale⟩ := nextPhase_eq_done.1 hdone
    rw [hrest, hstale] at hmem
    simp at hmem
  simp only [holds, sendTo, Bool.and_eq_true, Bool.or_eq_true, bne_iff_ne]
  exact ⟨hphase, hmem.imp (fun h => decide_eq_true h) fun h => decide_eq_true h⟩

/-- Once a send to a socket has succeeded, the broadcast has nothing to do with it. -/
theorem Ok.not_holds_sendTo (h : b.Ok) (hr : b.rest = socket :: rest) :
    (b.sendTo socket rest .sent).holds socket = false := by
  have hnodup : (b.sends.map Prod.fst ++ socket :: rest).Nodup := hr ▸ h.split ▸ h.nodup
  rw [List.nodup_append] at hnodup
  have hrest : socket ∉ rest := (List.nodup_cons.1 hnodup.2.1).1
  have hstale : socket ∉ b.stale := by
    intro hmem
    obtain ⟨result, hsend, -⟩ := h.stale socket hmem
    exact hnodup.2.2 socket (List.mem_map_of_mem hsend) socket List.mem_cons_self rfl
  simp [holds, Broadcast.sendTo, SendResult.failed, hrest, hstale]

end Broadcast

/-! ## The state -/

namespace Registry

variable (s : Registry)

/-- Some broadcast has still to send to the socket or to discard it. -/
def pending (socket : Nat) : Bool := s.broadcasts.any fun b => b.holds socket

/-- Some send to the socket has failed. -/
def SendFailed (socket : Nat) : Prop := ∃ b ∈ s.broadcasts, b.Failed socket

/-- No handler and no broadcast is between two of its steps. -/
def Quiet : Prop := (∀ handler ∈ s.handlers, handler.Settled) ∧ ∀ b ∈ s.broadcasts, b.Idle

/-- A broadcast can take its next step, however the awaited send ends. -/
def CanGoOn (i : Nat) (b : Broadcast) : Prop :=
  match b.phase with
  | .starting => ∃ order, (s.step (.copy i order)).isSome
  | .sending => ∀ result, (s.step (.send i result)).isSome
  | .sweeping => (s.step (.sweep i)).isSome
  | .done => True

/-- What the registry owes in a state. -/
structure Exact : Prop where
  /-- A broadcast that has copied the registry tries each socket registered then exactly once,
  and no other one, whatever steps follow. -/
  fair : ∀ i order t u, s.step (.copy i order) = some t → realtime.Reaches t u →
    ∃ b, u.broadcasts[i]? = some b ∧
      (∀ socket, b.attempts socket ≤ if socket ∈ s.connections then 1 else 0) ∧
      (b.phase = .done →
        ∀ socket, b.attempts socket = if socket ∈ s.connections then 1 else 0)
  /-- Nobody holds a broadcast up. -/
  unblocked : ∀ i b, s.broadcasts[i]? = some b → s.CanGoOn i b
  removed : ∀ l t socket, s.step l = some t → socket ∈ s.connections → socket ∉ t.connections →
    t.handlers[socket]? = some .ended ∨ t.SendFailed socket
  running : s.Quiet → ∀ socket ∈ s.connections, s.handlers[socket]? = some .receiving

/-- A handler ends without `WebSocketDisconnect` only while its socket is not registered, or
while a broadcast has still to send to it or to discard it; and a send to a registered socket
whose handler has ended succeeds only while another broadcast has. -/
def orderly : RealtimeLabel → Bool
  | .fail socket _ => socket ∉ s.connections || s.pending socket
  | .send i .sent =>
      match (s.broadcasts[i]?).bind fun b => b.rest.head? with
      | some socket => socket ∉ s.connections || s.handlers[socket]? ≠ some .ended ||
          (s.broadcasts.eraseIdx i).any fun b => b.holds socket
      | none => true
  | _ => true

/-- What holds in every state of every run. -/
structure Ok : Prop where
  nodup : s.connections.Nodup
  registered : ∀ socket ∈ s.connections, s.handlers[socket]? = some .receiving ∨
    s.handlers[socket]? = some .discarding ∨ s.handlers[socket]? = some .ended
  broadcasts : ∀ b ∈ s.broadcasts, b.Ok

/-- A registered socket whose handler has ended is still to be discarded. -/
def Guarded : Prop :=
  ∀ socket ∈ s.connections, s.handlers[socket]? = some .ended → s.pending socket = true

variable {s} {s' : Registry}

theorem pending_iff {socket : Nat} :
    s.pending socket = true ↔
      ∃ (i : Nat) (b : Broadcast), s.broadcasts[i]? = some b ∧ b.holds socket = true := by
  simp only [pending, List.any_eq_true, List.mem_iff_getElem?]
  constructor
  · rintro ⟨b, ⟨i, hi⟩, hb⟩
    exact ⟨i, b, hi, hb⟩
  · rintro ⟨i, b, hi, hb⟩
    exact ⟨b, ⟨i, hi⟩, hb⟩

/-! ## Handlers and broadcasts that go on -/

theorem setHandler_self {socket : Nat} {old new : Handler}
    (h : s.handlers[socket]? = some old) :
    (s.setHandler socket new).handlers[socket]? = some new := by
  rw [setHandler, List.getElem?_set_self (List.getElem?_eq_some_iff.1 h).1]

theorem setHandler_ne {socket k : Nat} {new : Handler} (h : socket ≠ k) :
    (s.setHandler k new).handlers[socket]? = s.handlers[socket]? := by
  rw [setHandler, List.getElem?_set_ne h.symm]

theorem setBroadcast_self {i : Nat} {old new : Broadcast} (h : s.broadcasts[i]? = some old) :
    (s.setBroadcast i new).broadcasts[i]? = some new := by
  rw [setBroadcast, List.getElem?_set_self (List.getElem?_eq_some_iff.1 h).1]

theorem setBroadcast_ne {i j : Nat} {new : Broadcast} (h : j ≠ i) :
    (s.setBroadcast i new).broadcasts[j]? = s.broadcasts[j]? := by
  rw [setBroadcast, List.getElem?_set_ne h.symm]

theorem mem_discardAll {socket : Nat} {sockets : List Nat} :
    socket ∈ (s.discardAll sockets).connections ↔ socket ∈ s.connections ∧ socket ∉ sockets := by
  simp [discardAll]

theorem mem_addSocket {socket k : Nat} :
    socket ∈ (s.addSocket k).connections ↔ socket = k ∨ socket ∈ s.connections := by
  simp [addSocket]

/-! ## Every run -/

theorem ok_initial : initial.Ok where
  nodup := List.nodup_nil
  registered := nofun
  broadcasts := nofun

/-- Only sockets that have been opened are registered. -/
theorem Ok.registered_lt (h : s.Ok) {socket : Nat} (hs : socket ∈ s.connections) :
    socket < s.handlers.length := by
  rcases h.registered socket hs with hh | hh | hh <;> exact (List.getElem?_eq_some_iff.1 hh).1

/-- A registered handler moves on among the points at which it is registered. -/
theorem Ok.registered_setHandler (h : s.Ok) {k : Nat} {old new : Handler}
    (hk : s.handlers[k]? = some old)
    (hmove : old = .receiving ∨ old = .discarding ∨ old = .ended →
      new = .receiving ∨ new = .discarding ∨ new = .ended) :
    ∀ socket ∈ s.connections, (s.setHandler k new).handlers[socket]? = some .receiving ∨
      (s.setHandler k new).handlers[socket]? = some .discarding ∨
      (s.setHandler k new).handlers[socket]? = some .ended := by
  intro socket hs
  by_cases hne : socket = k
  · subst hne
    have hold := h.registered socket hs
    simp only [hk, setHandler_self hk, Option.some.injEq] at hold ⊢
    exact hmove hold
  · simpa only [setHandler_ne hne] using h.registered socket hs

theorem Ok.broadcasts_set (h : s.Ok) {i : Nat} {b : Broadcast} (hb : b.Ok) :
    ∀ c ∈ (s.setBroadcast i b).broadcasts, c.Ok := by
  intro c hc
  rcases List.mem_or_eq_of_mem_set hc with hc | rfl
  · exact h.broadcasts c hc
  · exact hb

/-- Every step keeps the invariant. -/
theorem Ok.step (h : s.Ok) {l : RealtimeLabel} (hs : StepTo s l s') : s'.Ok := by
  cases hs with
  | opened =>
      refine ⟨h.nodup, fun socket hs => ?_, h.broadcasts⟩
      simpa only [List.getElem?_append_left (h.registered_lt hs)] using h.registered socket hs
  | accepted hh =>
      exact ⟨h.nodup, h.registered_setHandler hh (by simp), h.broadcasts⟩
  | add hh =>
      refine ⟨h.nodup.insert, fun socket hs => ?_, h.broadcasts⟩
      rcases mem_addSocket.1 hs with rfl | hs
      · exact .inl (setHandler_self hh)
      · exact h.registered_setHandler hh (by simp) socket hs
  | text hh =>
      exact ⟨h.nodup, h.registered_setHandler hh (by simp), h.broadcasts⟩
  | disconnected hh =>
      exact ⟨h.nodup, h.registered_setHandler hh (by simp), h.broadcasts⟩
  | discard hh =>
      refine ⟨h.nodup.filter _, fun socket hs => ?_, h.broadcasts⟩
      exact h.registered_setHandler hh (by simp) socket (mem_discardAll.1 hs).1
  | fail hh _ =>
      exact ⟨h.nodup, h.registered_setHandler hh (by simp), h.broadcasts⟩
  | start =>
      refine ⟨h.nodup, h.registered, fun b hb => ?_⟩
      rcases List.mem_append.1 hb with hb | hb
      · exact h.broadcasts b hb
      · obtain rfl := List.mem_singleton.1 hb
        exact Broadcast.ok_start _
  | copy hb hp ho =>
      have hok := (h.broadcasts _ (List.mem_of_getElem? hb)).copy hp (ho.nodup_iff.2 h.nodup)
      exact ⟨h.nodup, h.registered, h.broadcasts_set hok⟩
  | @send _ _ result _ _ hb _ hr =>
      have hok := (h.broadcasts _ (List.mem_of_getElem? hb)).sendTo hr result
      exact ⟨h.nodup, h.registered, h.broadcasts_set hok⟩
  | sweep hb hp =>
      have hok := (h.broadcasts _ (List.mem_of_getElem? hb)).sweep hp
      exact ⟨h.nodup.filter _, fun socket hs => h.registered socket (mem_discardAll.1 hs).1,
        h.broadcasts_set hok⟩

theorem Ok.reaches (h : s.Ok) (hr : realtime.Reaches s s') : s'.Ok :=
  hr.invariant h fun _ _ _ _ ht hs => ht.step (step_cases hs)

/-- The broadcast `i` has copied the registry, in this order. -/
def Copied (s : Registry) (i : Nat) (order : List Nat) : Prop :=
  ∃ b, s.broadcasts[i]? = some b ∧ b.phase ≠ .starting ∧ b.connections = order

/-- What has been copied stays as it is. -/
theorem Copied.step {i : Nat} {order : List Nat} (h : s.Copied i order) {l : RealtimeLabel}
    (hs : StepTo s l s') : s'.Copied i order := by
  obtain ⟨b, hb, hp, ho⟩ := h
  cases hs with
  | start =>
      exact ⟨b, by rw [List.getElem?_append_left (List.getElem?_eq_some_iff.1 hb).1, hb], hp, ho⟩
  | @copy j order' c hc hcp _ =>
      have hne : i ≠ j := by
        rintro rfl
        cases hb.symm.trans hc
        exact hp hcp
      exact ⟨b, by rw [setBroadcast_ne hne, hb], hp, ho⟩
  | @send j socket result c rest hc hcp hr =>
      by_cases hne : i = j
      · subst hne
        cases hb.symm.trans hc
        exact ⟨_, setBroadcast_self hb, Broadcast.nextPhase_ne_starting, ho⟩
      · exact ⟨b, by rw [setBroadcast_ne hne, hb], hp, ho⟩
  | @sweep j c hc hcp =>
      by_cases hne : i = j
      · subst hne
        cases hb.symm.trans hc
        exact ⟨_, setBroadcast_self (s := s.discardAll _) hb, nofun, ho⟩
      · exact ⟨b, by rw [setBroadcast_ne (s := s.discardAll _) hne]; exact hb, hp, ho⟩
  | _ => exact ⟨b, hb, hp, ho⟩

theorem Copied.reaches {i : Nat} {order : List Nat} (h : s.Copied i order)
    (hr : realtime.Reaches s s') : s'.Copied i order :=
  hr.invariant (I := fun t => t.Copied i order) h fun _ _ _ _ ht hs => ht.step (step_cases hs)

/-- A broadcast tries the sockets it has copied, each exactly once. -/
theorem Ok.fair (h : s.Ok) {i : Nat} {order : List Nat} {t u : Registry}
    (hs : s.step (.copy i order) = some t) (hr : realtime.Reaches t u) :
    ∃ b, u.broadcasts[i]? = some b ∧
      (∀ socket, b.attempts socket ≤ if socket ∈ s.connections then 1 else 0) ∧
      (b.phase = .done →
        ∀ socket, b.attempts socket = if socket ∈ s.connections then 1 else 0) := by
  have hstep := step_cases hs
  cases hstep with
  | @copy _ _ c hb hp ho =>
      have hcopied : (s.setBroadcast i (c.copy order)).Copied i order :=
        ⟨c.copy order, setBroadcast_self hb, Broadcast.nextPhase_ne_starting, rfl⟩
      obtain ⟨b, hbu, -, horder⟩ := hcopied.reaches hr
      have hok := ((h.step (.copy hb hp ho)).reaches hr).broadcasts b (List.mem_of_getElem? hbu)
      have hmem : ∀ socket, socket ∈ b.connections ↔ socket ∈ s.connections := fun socket => by
        rw [horder, ho.mem_iff]
      refine ⟨b, hbu, fun socket => ?_, fun hdone socket => ?_⟩
      · by_cases hc : socket ∈ s.connections
        · rw [if_pos hc]
          exact hok.attempts_le_one socket
        · rw [if_neg hc, hok.attempts_of_notMem (mt (hmem socket).1 hc)]
      · by_cases hc : socket ∈ s.connections
        · rw [if_pos hc, hok.attempts_of_done hdone ((hmem socket).2 hc)]
        · rw [if_neg hc, hok.attempts_of_notMem (mt (hmem socket).1 hc)]

theorem Ok.canGoOn (h : s.Ok) {i : Nat} {b : Broadcast} (hb : s.broadcasts[i]? = some b) :
    s.CanGoOn i b := by
  rw [CanGoOn]
  split
  · next hp => exact ⟨s.connections, by simp [Registry.step, hb, hp]⟩
  · next hp =>
    intro result
    obtain ⟨socket, rest, hr⟩ :=
      List.exists_cons_of_ne_nil ((h.broadcasts b (List.mem_of_getElem? hb)).sending hp)
    simp [Registry.step, hb, hp, hr]
  · next hp => simp [Registry.step, hb, hp]
  · trivial

/-- A socket leaves the registry after its handler, or after a send to it that failed. -/
theorem Ok.removed (h : s.Ok) {l : RealtimeLabel} (hs : StepTo s l s') {socket : Nat}
    (hin : socket ∈ s.connections) (hout : socket ∉ s'.connections) :
    s'.handlers[socket]? = some .ended ∨ s'.SendFailed socket := by
  cases hs with
  | add hh => exact absurd (mem_addSocket.2 (.inr hin)) hout
  | @discard k hh =>
      have heq : socket = k := by
        by_contra hne
        exact hout (mem_discardAll.2 ⟨hin, by simpa using hne⟩)
      subst heq
      exact .inl (setHandler_self hh)
  | @sweep i b hb hp =>
      have hstale : socket ∈ b.stale := by
        by_contra hne
        exact hout (mem_discardAll.2 ⟨hin, hne⟩)
      have hfailed := (h.broadcasts b (List.mem_of_getElem? hb)).stale socket hstale
      exact .inr ⟨_, List.mem_of_getElem? (setBroadcast_self (s := s.discardAll _) hb), hfailed⟩
  | _ => exact absurd hin hout

/-! ## Orderly runs -/

theorem guarded_initial : initial.Guarded := nofun

/-- A handler that goes on to another point than its end changes nothing. -/
theorem Guarded.setHandler (h : s.Guarded) {k : Nat} {old new : Handler}
    (hk : s.handlers[k]? = some old) (hnew : new ≠ .ended) : (s.setHandler k new).Guarded := by
  intro socket hs hended
  by_cases hne : socket = k
  · subst hne
    rw [setHandler_self hk] at hended
    cases hended
    exact absurd rfl hnew
  · rw [setHandler_ne hne] at hended
    exact h socket hs hended

/-- A broadcast that goes on still holds what the others do not. -/
theorem pending_setBroadcast {i : Nat} {b c : Broadcast} {socket : Nat}
    (hb : s.broadcasts[i]? = some b) (hp : s.pending socket = true)
    (hholds : b.holds socket = true →
      c.holds socket = true ∨ ∃ j d, j ≠ i ∧ s.broadcasts[j]? = some d ∧ d.holds socket = true) :
    (s.setBroadcast i c).pending socket = true := by
  have hother : ∀ (j : Nat) (d : Broadcast), j ≠ i → s.broadcasts[j]? = some d →
      d.holds socket = true → (s.setBroadcast i c).pending socket = true :=
    fun j d hj hd hh => pending_iff.2 ⟨j, d, by rw [setBroadcast_ne hj, hd], hh⟩
  obtain ⟨j, d, hd, hh⟩ := pending_iff.1 hp
  by_cases hj : j = i
  · subst hj
    cases hb.symm.trans hd
    rcases hholds hh with hc | ⟨k, e, hk, he, hhe⟩
    · exact pending_iff.2 ⟨j, c, setBroadcast_self hb, hc⟩
    · exact hother k e hk he hhe
  · exact hother j d hj hd hh

/-- A send to a registered socket whose handler has ended fails, or another broadcast remains. -/
theorem orderly_send {i : Nat} {b : Broadcast} {socket : Nat} {rest : List Nat}
    {result : SendResult} (ho : s.orderly (.send i result) = true)
    (hb : s.broadcasts[i]? = some b) (hr : b.rest = socket :: rest)
    (hin : socket ∈ s.connections) (hended : s.handlers[socket]? = some .ended) :
    result.failed = true ∨
      ∃ j d, j ≠ i ∧ s.broadcasts[j]? = some d ∧ d.holds socket = true := by
  cases result with
  | sent =>
      simp only [orderly, hb, hr, hin, hended, Option.bind_some, List.head?_cons, not_true_eq_false,
        decide_false, Bool.false_or, ne_eq, List.any_eq_true] at ho
      obtain ⟨d, hd, hh⟩ := ho
      obtain ⟨j, hj, hd⟩ := List.mem_eraseIdx_iff_getElem?.1 hd
      exact .inr ⟨j, d, hj, hd, hh⟩
  | osError => exact .inl rfl
  | runtimeError => exact .inl rfl
  | disconnect => exact .inl rfl

/-- Every orderly step keeps the registered sockets guarded. -/
theorem Guarded.step (h : s.Guarded) (hok : s.Ok) {l : RealtimeLabel}
    (ho : s.orderly l = true) (hs : StepTo s l s') : s'.Guarded := by
  cases hs with
  | opened =>
      intro socket hs hended
      rw [List.getElem?_append_left (hok.registered_lt hs)] at hended
      exact h socket hs hended
  | accepted hh => exact h.setHandler hh nofun
  | @add k hh =>
      have hg : (s.setHandler k .receiving).Guarded := h.setHandler hh nofun
      intro socket hs hended
      rcases mem_addSocket.1 hs with rfl | hs
      · have hnew : (s.setHandler socket .receiving).handlers[socket]? = some .receiving :=
          setHandler_self hh
        cases hnew.symm.trans hended
      · exact hg socket hs hended
  | text hh => exact h.setHandler hh nofun
  | disconnected hh => exact h.setHandler hh nofun
  | @discard k hh =>
      intro socket hs hended
      obtain ⟨hs, hne⟩ := mem_discardAll.1 hs
      rw [List.mem_singleton] at hne
      exact h socket hs ((setHandler_ne hne).symm.trans hended)
  | @fail k failure old hh _ =>
      intro socket hs hended
      by_cases hne : socket = k
      · subst hne
        have hp : s.pending socket = true := by
          simpa [orderly, show socket ∈ s.connections from hs] using ho
        exact hp
      · rw [setHandler_ne hne] at hended
        exact h socket hs hended
  | start =>
      intro socket hs hended
      simp [pending, show s.broadcasts.any (fun b => b.holds socket) = true from
        h socket hs hended]
  | @copy i order b hb hp _ =>
      intro socket hs hended
      refine pending_setBroadcast hb (h socket hs hended) fun hh => ?_
      -- a broadcast that has not begun holds nothing
      obtain ⟨hrest, hstale, -⟩ := (hok.broadcasts b (List.mem_of_getElem? hb)).starting hp
      simp [Broadcast.holds, hrest, hstale] at hh
  | @send i k result b rest hb _ hr =>
      intro socket hs hended
      refine pending_setBroadcast hb (h socket hs hended) fun hh => ?_
      by_cases hne : socket = k
      · subst hne
        rcases orderly_send ho hb hr hs hended with hf | hother
        · exact .inl (Broadcast.holds_sendTo hh hr fun _ => .inr hf)
        · exact .inr hother
      · exact .inl (Broadcast.holds_sendTo hh hr fun he => absurd he hne)
  | @sweep i b hb hp =>
      intro socket hs hended
      obtain ⟨hs, hne⟩ := mem_discardAll.1 hs
      refine pending_setBroadcast (s := s.discardAll _) hb (h socket hs hended) fun hh => ?_
      -- the loop is over, so what it held is what it has just discarded
      have hrest := (hok.broadcasts b (List.mem_of_getElem? hb)).finished (.inl hp)
      simp [Broadcast.holds, hrest, hne] at hh

/-- In a quiet state nothing is left to be discarded. -/
theorem Ok.not_pending_of_quiet (h : s.Ok) (hq : s.Quiet) (socket : Nat) :
    s.pending socket = false := by
  rw [pending, List.any_eq_false]
  intro b hb
  rcases hq.2 b hb with hp | hp
  · obtain ⟨hrest, hstale, -⟩ := (h.broadcasts b hb).starting hp
    simp [Broadcast.holds, hrest, hstale]
  · simp [Broadcast.holds, hp]

theorem Ok.running (h : s.Ok) (hg : s.Guarded) (hq : s.Quiet) {socket : Nat}
    (hs : socket ∈ s.connections) : s.handlers[socket]? = some .receiving := by
  rcases h.registered socket hs with hh | hh | hh
  · exact hh
  · rcases hq.1 _ (List.mem_of_getElem? hh) with h' | h' | h' <;> cases h'
  · have hp := hg socket hs hh
    rw [h.not_pending_of_quiet hq] at hp
    cases hp

end Registry

/-- **The registry.**  In every state of every run whose steps are orderly, the broadcasts are
fair and unblocked, a socket is removed only after its handler has ended or a send to it has
failed, and in a quiet state the registered sockets are those of running handlers. -/
theorem registry_exact {s : Registry}
    (h : realtime.ReachesWithin (fun s l => s.orderly l = true) .initial s) : s.Exact := by
  have hok : s.Ok := Registry.ok_initial.reaches h.reaches
  have hguarded : s.Guarded :=
    h.invariant Registry.guarded_initial fun _ _ _ ht hg ho hs =>
      hg.step (Registry.ok_initial.reaches ht.reaches) ho (Registry.step_cases hs)
  exact {
    fair := fun _ _ _ _ hs hr => hok.fair hs hr
    unblocked := fun _ _ hb => hok.canGoOn hb
    removed := fun _ _ _ hs => hok.removed (Registry.step_cases hs)
    running := fun hq _ => hok.running hguarded hq }

/-! ## The condition is exact

A step that is not orderly leaves a registered socket that nobody is going to discard.  Once the
handlers and the broadcasts in progress have gone on, the state is quiet and the socket is still
there. -/

namespace Registry

variable {s s' : Registry} {socket : Nat}

/-- A socket that an ended handler has left in the registry, and nobody is to discard. -/
structure Left (s : Registry) (socket : Nat) : Prop where
  registered : socket ∈ s.connections
  ended : s.handlers[socket]? = some .ended
  kept : s.pending socket = false

namespace Left

theorem not_holds {i : Nat} {b : Broadcast} (h : s.Left socket)
    (hb : s.broadcasts[i]? = some b) : b.holds socket = false := by
  rw [← Bool.not_eq_true]
  intro hh
  have hp := pending_iff.2 ⟨i, b, hb, hh⟩
  rw [h.kept] at hp
  cases hp

theorem setBroadcast {i : Nat} {b : Broadcast} (h : s.Left socket)
    (hb : b.holds socket = false) : (s.setBroadcast i b).Left socket := by
  refine ⟨h.registered, h.ended, ?_⟩
  rw [← Bool.not_eq_true]
  intro hp
  obtain ⟨c, hc, hh⟩ := List.any_eq_true.1 hp
  rcases List.mem_or_eq_of_mem_set hc with hc | rfl
  · obtain ⟨j, hj⟩ := List.mem_iff_getElem?.1 hc
    rw [h.not_holds hj] at hh
    cases hh
  · rw [hb] at hh
    cases hh

theorem discardAll {sockets : List Nat} (h : s.Left socket) (hne : socket ∉ sockets) :
    (s.discardAll sockets).Left socket :=
  ⟨mem_discardAll.2 ⟨h.registered, hne⟩, h.ended, h.kept⟩

theorem setHandler {k : Nat} {new : Handler} (h : s.Left socket) (hne : socket ≠ k) :
    (s.setHandler k new).Left socket :=
  ⟨h.registered, (setHandler_ne hne).trans h.ended, h.kept⟩

/-- A handler goes on to where it waits. -/
theorem settle_handler (h : s.Left socket) (k : Nat) :
    ∃ t, realtime.Reaches s t ∧ t.Left socket ∧ t.handlers.length = s.handlers.length ∧
      (∀ j, j ≠ k → t.handlers[j]? = s.handlers[j]?) ∧
      ∀ handler, t.handlers[k]? = some handler → handler.Settled := by
  have hstay : (∀ handler, s.handlers[k]? = some handler → handler.Settled) →
      ∃ t, realtime.Reaches s t ∧ t.Left socket ∧ t.handlers.length = s.handlers.length ∧
        (∀ j, j ≠ k → t.handlers[j]? = s.handlers[j]?) ∧
        ∀ handler, t.handlers[k]? = some handler → handler.Settled :=
    fun hs => ⟨s, .refl, h, rfl, fun _ _ => rfl, hs⟩
  have hne : s.handlers[k]? ≠ some .ended → socket ≠ k := by
    rintro hended rfl
    exact hended h.ended
  cases hk : s.handlers[k]? with
  | none => exact hstay fun _ he => by cases hk.symm.trans he
  | some handler =>
      cases handler with
      | accepting => exact hstay fun _ he => by cases hk.symm.trans he; exact .inl rfl
      | receiving => exact hstay fun _ he => by cases hk.symm.trans he; exact .inr (.inl rfl)
      | ended => exact hstay fun _ he => by cases hk.symm.trans he; exact .inr (.inr rfl)
      | adding =>
          have hs : realtime.step s (.add k) = some ((s.setHandler k .receiving).addSocket k) := by
            simp [realtime, Registry.step, move, hk]
          have hleft : (s.setHandler k .receiving).Left socket :=
            h.setHandler (hne (by simp [hk]))
          refine ⟨_, System.Reaches.refl.tail hs,
            ⟨mem_addSocket.2 (.inr hleft.registered), hleft.ended, hleft.kept⟩,
            List.length_set, fun j hj => setHandler_ne hj, fun _ he => ?_⟩
          cases (setHandler_self hk).symm.trans he
          exact .inr (.inl rfl)
      | discarding =>
          have hs : realtime.step s (.discard k) =
              some ((s.setHandler k .ended).discardAll [k]) := by
            simp [realtime, Registry.step, move, hk]
          have hleft : (s.setHandler k .ended).Left socket := h.setHandler (hne (by simp [hk]))
          refine ⟨_, System.Reaches.refl.tail hs,
            hleft.discardAll (by simpa using hne (by simp [hk])),
            List.length_set, fun j hj => setHandler_ne hj, fun _ he => ?_⟩
          cases (setHandler_self hk).symm.trans he
          exact .inr (.inr rfl)

/-- A broadcast whose loop is over ends. -/
theorem settle_sweeping (h : s.Left socket) {i : Nat} {b : Broadcast}
    (hb : s.broadcasts[i]? = some b) (hp : b.phase = .sweeping) :
    ∃ t c, realtime.Reaches s t ∧ t.Left socket ∧ t.handlers = s.handlers ∧
      t.broadcasts = s.broadcasts.set i c ∧ c.Idle := by
  have hs : realtime.step s (.sweep i) =
      some ((s.discardAll b.stale).setBroadcast i { b with phase := .done }) := by
    simp [realtime, Registry.step, hb, hp]
  have hstale : socket ∉ b.stale :=
    ((Broadcast.not_holds_iff (by simp [hp])).1 (h.not_holds hb)).2
  refine ⟨_, _, System.Reaches.refl.tail hs, (h.discardAll hstale).setBroadcast ?_, rfl, rfl,
    .inr rfl⟩
  simp [Broadcast.holds]

/-- A broadcast in its loop ends, when every send it has still to do succeeds. -/
theorem settle_sending (h : s.Left socket) {i : Nat} {b : Broadcast} {rest : List Nat}
    (hb : s.broadcasts[i]? = some b) (hp : b.phase = .sending) (hr : b.rest = rest)
    (hne : rest ≠ []) :
    ∃ t c, realtime.Reaches s t ∧ t.Left socket ∧ t.handlers = s.handlers ∧
      t.broadcasts = s.broadcasts.set i c ∧ c.Idle := by
  induction rest generalizing s b with
  | nil => exact absurd rfl hne
  | cons k rest ih =>
      have hs : realtime.step s (.send i .sent) =
          some (s.setBroadcast i (b.sendTo k rest .sent)) := by
        simp [realtime, Registry.step, hb, hp, hr]
      have hreach : realtime.Reaches s (s.setBroadcast i (b.sendTo k rest .sent)) :=
        System.Reaches.refl.tail hs
      have hleft : (s.setBroadcast i (b.sendTo k rest .sent)).Left socket := by
        obtain ⟨hrest, hstale⟩ := (Broadcast.not_holds_iff (by simp [hp])).1 (h.not_holds hb)
        rw [hr, List.mem_cons, not_or] at hrest
        refine h.setBroadcast ?_
        simp [Broadcast.holds, Broadcast.sendTo, SendResult.failed, hrest.2, hstale]
      have hself : (s.setBroadcast i (b.sendTo k rest .sent)).broadcasts[i]? =
          some (b.sendTo k rest .sent) := setBroadcast_self hb
      -- what follows depends on the sockets left, and then on the stale ones
      cases hphase : (b.sendTo k rest .sent).phase with
      | starting => exact absurd hphase Broadcast.nextPhase_ne_starting
      | done => exact ⟨_, _, hreach, hleft, rfl, rfl, .inr hphase⟩
      | sweeping =>
          obtain ⟨t, c, ht, hl, hh, hc, hidle⟩ := hleft.settle_sweeping hself hphase
          exact ⟨t, c, hreach.trans ht, hl, hh, by rw [hc, Registry.setBroadcast, List.set_set],
            hidle⟩
      | sending =>
          obtain ⟨t, c, ht, hl, hh, hc, hidle⟩ :=
            ih hleft hself hphase rfl (Broadcast.nextPhase_eq_sending.1 hphase)
          exact ⟨t, c, hreach.trans ht, hl, hh, by rw [hc, Registry.setBroadcast, List.set_set],
            hidle⟩

/-- A broadcast in progress ends. -/
theorem settle_broadcast (h : s.Left socket) (hok : s.Ok) (i : Nat) :
    ∃ t, realtime.Reaches s t ∧ t.Left socket ∧ t.handlers = s.handlers ∧
      t.broadcasts.length = s.broadcasts.length ∧
      (∀ j, j ≠ i → t.broadcasts[j]? = s.broadcasts[j]?) ∧
      ∀ b, t.broadcasts[i]? = some b → b.Idle := by
  have hstay : (∀ b, s.broadcasts[i]? = some b → b.Idle) →
      ∃ t, realtime.Reaches s t ∧ t.Left socket ∧ t.handlers = s.handlers ∧
        t.broadcasts.length = s.broadcasts.length ∧
        (∀ j, j ≠ i → t.broadcasts[j]? = s.broadcasts[j]?) ∧
        ∀ b, t.broadcasts[i]? = some b → b.Idle :=
    fun hs => ⟨s, .refl, h, rfl, rfl, fun _ _ => rfl, hs⟩
  have hset : (∃ t c, realtime.Reaches s t ∧ t.Left socket ∧ t.handlers = s.handlers ∧
      t.broadcasts = s.broadcasts.set i c ∧ c.Idle) →
      ∃ t, realtime.Reaches s t ∧ t.Left socket ∧ t.handlers = s.handlers ∧
        t.broadcasts.length = s.broadcasts.length ∧
        (∀ j, j ≠ i → t.broadcasts[j]? = s.broadcasts[j]?) ∧
        ∀ b, t.broadcasts[i]? = some b → b.Idle := by
    rintro ⟨t, c, ht, hl, hh, hc, hidle⟩
    refine ⟨t, ht, hl, hh, by rw [hc, List.length_set],
      fun j hj => by rw [hc, List.getElem?_set_ne hj.symm], fun b hb => ?_⟩
    rw [hc] at hb
    have hlt := (List.getElem?_eq_some_iff.1 hb).1
    rw [List.length_set] at hlt
    rw [List.getElem?_set_self hlt] at hb
    cases hb
    exact hidle
  cases hb : s.broadcasts[i]? with
  | none => exact hstay fun _ he => by cases hb.symm.trans he
  | some b =>
      cases hp : b.phase with
      | starting => exact hstay fun _ he => by cases hb.symm.trans he; exact .inl hp
      | done => exact hstay fun _ he => by cases hb.symm.trans he; exact .inr hp
      | sweeping => exact hset (h.settle_sweeping hb hp)
      | sending =>
          exact hset (h.settle_sending hb hp rfl
            ((hok.broadcasts b (List.mem_of_getElem? hb)).sending hp))

/-- What is in progress can go on to a quiet state, in which the socket is still registered. -/
theorem reaches_quiet (h : s.Left socket) (hok : s.Ok) :
    ∃ t, realtime.Reaches s t ∧ t.Quiet ∧ t.Left socket := by
  obtain ⟨t, ht, ⟨hleft, hlength⟩, hhandlers⟩ := realtime.exists_reaches_settled
    (fun t => t.Left socket ∧ t.handlers.length = s.handlers.length)
    (fun t k => ∀ handler, t.handlers[k]? = some handler → handler.Settled)
    (fun t k ⟨hl, hlen⟩ => by
      obtain ⟨u, hu, hlu, hlenu, hother, hk⟩ := hl.settle_handler k
      refine ⟨u, hu, ⟨hlu, hlenu.trans hlen⟩, hk, fun j hj => ?_⟩
      by_cases hjk : j = k
      · exact hjk ▸ hk
      · exact fun handler hh => hj handler (hother j hjk ▸ hh))
    s.handlers.length s ⟨h, rfl⟩
  obtain ⟨u, hu, ⟨hleftu, hokt, hhandlersu, hlengthu⟩, hbroadcasts⟩ :=
    realtime.exists_reaches_settled
    (fun u => u.Left socket ∧ u.Ok ∧ u.handlers = t.handlers ∧
      u.broadcasts.length = t.broadcasts.length)
    (fun u i => ∀ b, u.broadcasts[i]? = some b → b.Idle)
    (fun u i ⟨hl, hok, hh, hlen⟩ => by
      obtain ⟨v, hv, hlv, hhv, hlenv, hother, hi⟩ := hl.settle_broadcast hok i
      refine ⟨v, hv, ⟨hlv, hok.reaches hv, hhv.trans hh, hlenv.trans hlen⟩, hi, fun j hj => ?_⟩
      by_cases hji : j = i
      · exact hji ▸ hi
      · exact fun b hb => hj b (hother j hji ▸ hb))
    t.broadcasts.length t ⟨hleft, hok.reaches ht, rfl, rfl⟩
  refine ⟨u, ht.trans hu, ⟨fun handler hh => ?_, fun b hb => ?_⟩, hleftu⟩
  · obtain ⟨k, hk⟩ := List.mem_iff_getElem?.1 hh
    rw [hhandlersu] at hk
    exact hhandlers k (hlength ▸ (List.getElem?_eq_some_iff.1 hk).1) handler hk
  · obtain ⟨i, hi⟩ := List.mem_iff_getElem?.1 hb
    exact hbroadcasts i (hlengthu ▸ (List.getElem?_eq_some_iff.1 hi).1) b hi

end Left

/-- A step that is not orderly leaves a socket behind. -/
theorem Ok.left_of_disorderly (h : s.Ok) {l : RealtimeLabel} (ho : s.orderly l = false)
    (hs : StepTo s l s') : ∃ socket, s'.Left socket := by
  cases hs with
  | @fail socket _ _ hh _ =>
      simp only [orderly, Bool.or_eq_false_iff, decide_eq_false_iff_not, not_not] at ho
      exact ⟨socket, ho.1, setHandler_self hh, ho.2⟩
  | @send i socket result b rest hb hp hr =>
      cases result with
      | sent =>
          simp only [orderly, hb, hr, Option.bind_some, List.head?_cons, Bool.or_eq_false_iff,
            decide_eq_false_iff_not, not_not, ne_eq] at ho
          obtain ⟨⟨hin, hended⟩, hothers⟩ := ho
          refine ⟨socket, hin, hended, ?_⟩
          rw [← Bool.not_eq_true]
          intro hpending
          obtain ⟨j, c, hc, hholds⟩ := pending_iff.1 hpending
          by_cases hj : j = i
          · subst hj
            cases (setBroadcast_self hb).symm.trans hc
            rw [(h.broadcasts b (List.mem_of_getElem? hb)).not_holds_sendTo hr] at hholds
            cases hholds
          · rw [setBroadcast_ne hj] at hc
            exact List.any_eq_false.1 hothers c
              (List.mem_eraseIdx_iff_getElem?.2 ⟨j, hj, hc⟩) hholds
      | osError => cases ho
      | runtimeError => cases ho
      | disconnect => cases ho
  | _ => cases ho

end Registry

/-- A step that is not orderly breaks the promise in some state that follows. -/
theorem not_exact_of_disorderly {s t : Registry} (h : realtime.Reaches .initial s)
    {l : RealtimeLabel} (ho : s.orderly l = false) (hs : realtime.step s l = some t) :
    ∃ u, realtime.Reaches t u ∧ ¬ u.Exact := by
  have hok := Registry.ok_initial.reaches h
  have hstep := Registry.step_cases hs
  obtain ⟨socket, hleft⟩ := hok.left_of_disorderly ho hstep
  obtain ⟨u, hu, hquiet, hleftu⟩ := hleft.reaches_quiet (hok.step hstep)
  refine ⟨u, hu, fun hexact => ?_⟩
  have hrunning := hexact.running hquiet socket hleftu.registered
  rw [hleftu.ended] at hrunning
  cases hrunning

namespace Sample

/-- Two sockets; a send to the first fails, and then its handler ends by an exception. -/
def sockets : List RealtimeLabel :=
  [.opened, .accepted 0, .add 0, .opened, .accepted 1, .add 1, .start (.storesChanged "POA-CENTRO"),
    .copy 0 [1, 0], .send 0 .sent, .send 0 .osError, .fail 0 .exception, .sweep 0]

/-- A socket whose handler ends by an exception while nothing is sent. -/
def leftBehind : List RealtimeLabel := [.opened, .accepted 0, .add 0, .fail 0 .exception]

end Sample

/-- The socket of the handler that is still running stays. -/
theorem registry_exact_after_failure : ∃ s : Registry, s.connections = [1] ∧ s.Exact := by
  have hrun : ((realtime.runWithin (fun s l => s.orderly l = true) .initial Sample.sockets).map
      fun s => s.connections) = some [1] := by decide +kernel
  obtain ⟨s, hs, hc⟩ := Option.map_eq_some_iff.1 hrun
  exact ⟨s, hc, registry_exact (System.runWithin_reaches hs)⟩

/-- A handler that ends by an exception leaves its socket in the registry. -/
theorem ended_handler_left_behind :
    ¬ ∀ s : Registry, realtime.Reaches .initial s → s.Exact := by
  intro h
  have hs : realtime.run .initial Sample.leftBehind = some ⟨[.ended], [0], []⟩ := rfl
  have hexact := h _ (System.run_reaches hs)
  have hquiet : Registry.Quiet ⟨[.ended], [0], []⟩ :=
    ⟨by simp [Handler.Settled], nofun⟩
  cases hexact.running hquiet 0 (by simp)

end StorePulse
