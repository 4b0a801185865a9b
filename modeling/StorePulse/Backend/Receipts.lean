import StorePulse.Backend.Atomicity

/-!
# What an answer says about the table

A client sees answers, and nothing of the table.  A call is decided in one step
of the server, and that step does to the table what the specification says
(`World.step_decided`).  So an answer that is no refusal shows that the
payload of the call is stored, and every row was committed by a call that asked
for it.
-/

namespace StorePulse

open Linearizability (Linearization Replay)

variable {cat : Catalogue} {p : EventCreate} {a : Answer} {x : Exception} {T T' : List PosEvent}

/-- The answer that is decided in a state of a request. -/
def RequestState.decided : RequestState → Option Answer
  | .running program => program.decided
  | .answered a => some a
  | .aborted => none

/-- The session of the request is closed. -/
def RequestState.ended : RequestState → Bool
  | .running _ => false
  | .answered _ => true
  | .aborted => true

/-- No request is in progress. -/
def World.Quiet (w : World) : Prop :=
  ∀ (i : Nat) r, w.requests[i]? = some r → r.state.ended = true

/-- What an accepted event does. -/
theorem Spec.of_accepted (h : Spec cat T p a T') (ha : a.outcome = .accepted) :
    ∃ store product row, WrittenFor cat p store product row ∧ refundLedger.Admits T row ∧
      T' = T ++ [row] ∧ a = .event 201 ⟨p.eventId, .accepted, row.receivedAt⟩ := by
  cases h with
  | accepted hw hadm => exact ⟨_, _, _, hw, hadm, rfl, rfl⟩
  | duplicate => cases ha
  | refused => rw [raiseHttp_outcome] at ha; cases ha

/-- Why an event was refused. -/
theorem Spec.refuses (h : Spec cat T p (raiseHttp x) T') : Refuses cat T p x := by
  generalize ha : raiseHttp x = a at h
  have hout : a.outcome = .rejected := ha ▸ raiseHttp_outcome x
  cases h with
  | accepted => cases hout
  | duplicate => cases hout
  | refused hr => exact raiseHttp_injective ha ▸ hr

/-- After an answer that is no refusal, the payload of the call is stored. -/
theorem Spec.stored (h : Spec cat T p a T') (ha : a.outcome ≠ .rejected) :
    ∃ row ∈ T', MatchesPayload cat row p := by
  cases h with
  | accepted hw _ =>
      exact ⟨_, List.mem_append_right _ (List.mem_singleton_self _), hw.matchesPayload⟩
  | duplicate he hi => exact ⟨_, he, hi⟩
  | refused => exact absurd (raiseHttp_outcome _) ha

/-- A call with a stored key is not accepted. -/
theorem Spec.not_accepted {row : PosEvent} (h : Spec cat T p a T') (hrow : row ∈ T)
    (hid : row.eventId = p.eventId) : a.outcome ≠ .accepted := by
  intro ha
  obtain ⟨_, _, row', hw, hadm, _⟩ := h.of_accepted ha
  exact hadm.fresh row hrow (hid.trans hw.eventId.symm)

/-- The table only grows in a run of the specification. -/
theorem replay_grows {cs : List (Linearizability.Call EventCreate Answer)}
    (h : Replay (Spec cat) T cs T') : T <+: T' :=
  h.mono List.prefix_refl (fun h h' => h.trans h') fun _ _ _ _ hs => hs.grows

namespace World

variable {w w' : World} {i : Nat} {l : Label} {call : Call} {state : RequestState}

/-! ## Calls and steps -/

/-- The requests after a step: those before it, and one that has arrived. -/
theorem call_of_step (hs : w.step cat l = some w') (hi : w'.requests[i]? = some ⟨call, state⟩) :
    (∃ before, w.requests[i]? = some ⟨call, before⟩) ∨
    (l = .arrive call ∧ i = w.requests.length ∧ state = .running call.program) := by
  have hset : ∀ {j : Nat} {call' : Call} {s s' : RequestState},
      w.requests[j]? = some ⟨call', s⟩ → (w.requests.set j ⟨call', s'⟩)[i]? = some ⟨call, state⟩ →
      ∃ before, w.requests[i]? = some ⟨call, before⟩ := fun hj hi =>
    (exists_state_set hj rfl).mp ⟨state, hi⟩
  cases step_cases hs with
  | tick => exact Or.inl ⟨state, hi⟩
  | lock => exact Or.inl ⟨state, hi⟩
  | arrive =>
      rcases getElem?_arrived hi with hi | ⟨rfl, he⟩
      · exact Or.inl ⟨state, hi⟩
      · cases he
        exact Or.inr ⟨rfl, rfl, rfl⟩
  | perform hr _ => exact Or.inl (hset hr hi)
  | answer hr => exact Or.inl (hset hr hi)
  | abort hr => exact Or.inl (hset hr hi)

/-- A request stays, and one that has ended stays as it is. -/
theorem step_keeps (hs : w.step cat l = some w') (hi : w.requests[i]? = some ⟨call, state⟩) :
    ∃ after, w'.requests[i]? = some ⟨call, after⟩ ∧ (state.ended = true → after = state) := by
  have hset : ∀ {j : Nat} {call' : Call} {program : Program Effects Answer} {s' : RequestState},
      w.requests[j]? = some ⟨call', .running program⟩ →
      ∃ after, (w.requests.set j ⟨call', s'⟩)[i]? = some ⟨call, after⟩ ∧
        (state.ended = true → after = state) := by
    intro j call' program s' hj
    by_cases hij : i = j
    · subst hij
      rw [hi] at hj
      cases hj
      exact ⟨s', List.getElem?_set_self (lt_of_getElem? hi), nofun⟩
    · exact ⟨state, (List.getElem?_set_ne (Ne.symm hij)).trans hi, fun _ => rfl⟩
  cases step_cases hs with
  | tick => exact ⟨state, hi, fun _ => rfl⟩
  | lock => exact ⟨state, hi, fun _ => rfl⟩
  | arrive =>
      exact ⟨state, (List.getElem?_append_left (lt_of_getElem? hi)).trans hi, fun _ => rfl⟩
  | perform hr _ => exact hset hr
  | answer hr => exact hset hr
  | abort hr => exact hset hr

/-- A call that arrives is not decided. -/
theorem undecided_arrived : (RequestState.running (Call.event p).program).decided = none :=
  Point.decided_resume (show Point.Aligned p .begin from trivial)

/-- A step decides a call as the specification says, or keeps what was decided. -/
theorem step_decided (hok : w.Ok cat) (hs : w.step cat l = some w')
    (hi : w'.requests[i]? = some ⟨.event p, state⟩) (hd : state.decided = some a) :
    (∃ before, w.requests[i]? = some ⟨.event p, before⟩ ∧ before.decided = some a) ∨
    ((∃ program, w.requests[i]? = some ⟨.event p, .running program⟩ ∧
        program.phase = .undecided) ∧
      Spec cat w.db.events.committed p a w'.db.events.committed) := by
  cases step_cases hs with
  | tick => exact Or.inl ⟨state, hi, hd⟩
  | lock => exact Or.inl ⟨state, hi, hd⟩
  | arrive =>
      rcases getElem?_arrived hi with hi | ⟨rfl, he⟩
      · exact Or.inl ⟨state, hi, hd⟩
      · cases he
        rw [undecided_arrived] at hd
        cases hd
  | @perform j call op k reply db hr hp =>
      by_cases hij : i = j
      · subst hij
        cases getElem?_set_same hr hi
        obtain ⟨pt, pt', hpt, hpt', hh, hm, hh'⟩ := hok.move hr hp
        have hafter : pt'.decision = some a := by
          rw [← Point.decided_resume hh'.aligned, ← hpt']
          exact hd
        cases hbefore : pt.decision with
        | none =>
            refine Or.inr ⟨⟨_, hr, ?_⟩, hm.spec hok.consistent hh hbefore hafter⟩
            rw [← hpt, Point.phase_resume hh.aligned]
            exact Point.phase_of_undecided hbefore
        | some b =>
            obtain ⟨he, _⟩ := hm.decided hbefore
            rw [hafter] at he
            cases he
            refine Or.inl ⟨_, hr, ?_⟩
            show (Program.call op k).decided = some a
            rw [← hpt, Point.decided_resume hh.aligned, hbefore]
      · exact Or.inl ⟨state, getElem?_set_other hij hi, hd⟩
  | @answer j call b hr =>
      by_cases hij : i = j
      · subst hij
        cases getElem?_set_same hr hi
        exact Or.inl ⟨_, hr, hd⟩
      · exact Or.inl ⟨state, getElem?_set_other hij hi, hd⟩
  | @abort j call program hr =>
      by_cases hij : i = j
      · subst hij
        cases getElem?_set_same hr hi
        cases hd
      · exact Or.inl ⟨state, getElem?_set_other hij hi, hd⟩

/-- A row that becomes visible was committed by a running call that asked for it. -/
theorem step_new_row {row : PosEvent} (hok : w.Ok cat) (hs : w.step cat l = some w')
    (hrow : row ∈ w'.db.events.committed) :
    row ∈ w.db.events.committed ∨ ∃ (i : Nat) (p : EventCreate) (program : Program Effects Answer)
      (store : Store) (product : Product),
      w.requests[i]? = some ⟨.event p, .running program⟩ ∧ WrittenFor cat p store product row ∧
        (recordOf w'.log i).commits ≠ [] := by
  cases step_cases hs with
  | tick | lock | arrive | answer | abort => exact Or.inl hrow
  | @perform i call op k reply db hr hp =>
      cases call with
      | event p =>
          obtain ⟨pt, pt', hpt, _, hh, hm, _⟩ := hok.move hr hp
          rcases hm.committed_eq with ⟨he, _⟩ | ⟨store, t, rfl, rfl⟩
          · rw [he] at hrow
            exact Or.inl hrow
          · obtain ⟨product, row', ha, _, _⟩ := hh.knows
            have hmem : row ∈ w.db.events.committed ++ w.db.events.own i := hrow
            rw [ha.own, List.mem_append, List.mem_singleton] at hmem
            rcases hmem with hmem | rfl
            · exact Or.inl hmem
            · refine Or.inr ⟨i, p, _, store, product, hr, ha.written, ?_⟩
              rw [recordOf_append, Point.entries_eq hh.aligned hpt]
              simp [Record.append, recordOf, Point.entries, Entry.commitOf]
      | heartbeat c =>
          obtain ⟨pt, pt', _, _, hh, hm, _⟩ := hok.heartbeatMove hr hp
          rcases hm.committed_eq with ⟨he, _⟩ | ⟨_, _, rfl, rfl⟩
          · rw [he] at hrow
            exact Or.inl hrow
          · have hmem : row ∈ w.db.events.committed ++ w.db.events.own i := hrow
            rw [hh.events, List.append_nil] at hmem
            exact Or.inl hmem

/-! ## Runs -/

/-- Every row was committed by a call that asked for it. -/
theorem Reachable.writer {row : PosEvent} (h : w.Reachable cat)
    (hrow : row ∈ w.db.events.committed) : ∃ (i : Nat) (p : EventCreate) (state : RequestState)
      (store : Store) (product : Product),
      w.requests[i]? = some ⟨.event p, state⟩ ∧ WrittenFor cat p store product row := by
  obtain ⟨clock, hr⟩ := h
  revert row
  refine hr.invariant (I := fun w => ∀ {row : PosEvent}, row ∈ w.db.events.committed →
    ∃ (i : Nat) (p : EventCreate) (state : RequestState) (store : Store) (product : Product),
      w.requests[i]? = some ⟨.event p, state⟩ ∧ WrittenFor cat p store product row)
    (fun hrow => by cases hrow) ?_
  intro v l v' hv ih hs row hrow
  have hold : ∃ (i : Nat) (p : EventCreate) (state : RequestState) (store : Store)
      (product : Product),
      v.requests[i]? = some ⟨.event p, state⟩ ∧ WrittenFor cat p store product row := by
    rcases step_new_row (Reachable.ok ⟨clock, hv⟩) hs hrow with
      hrow | ⟨i, p, program, store, product, hi, hw, _⟩
    · exact ih hrow
    · exact ⟨i, p, _, store, product, hi, hw⟩
  obtain ⟨i, p, state, store, product, hi, hw⟩ := hold
  obtain ⟨after, hi', _⟩ := step_keeps hs hi
  exact ⟨i, p, after, store, product, hi', hw⟩

/-- An answer in the log is a response in the history. -/
theorem respond_mem_history (h : .answered i (.event p) a ∈ w.log) :
    .respond i a ∈ w.history := List.mem_filterMap.mpr ⟨_, h, rfl⟩

/-- An answered call is in the order that explains the history. -/
theorem Reachable.call_of_answered {order : List (Linearizability.Call EventCreate Answer)}
    (h : Reachable cat w) (hl : Linearization (Spec cat) [] w.history order T)
    (ha : .answered i (.event p) a ∈ w.log) : ⟨i, p, a⟩ ∈ order := by
  obtain ⟨c, hc, rfl, rfl⟩ := hl.responded i a (respond_mem_history ha)
  have hop : c.op = p := by
    obtain ⟨s, hs⟩ := (h.listed.arrived _ _).mp
      (invoke_mem_history.mp (hl.invoked c hc))
    rw [(h.listed.answered _ _ _).mp ha] at hs
    cases hs
    rfl
  rw [← hop]
  exact hc

/-- The call of an accepted answer has committed. -/
theorem Reachable.committedOnce_of_accepted (h : w.Reachable cat)
    (ha : .answered i (.event p) a ∈ w.log) (hacc : a.outcome = .accepted) :
    (recordOf w.log i).CommittedOnce cat p a := by
  have hrec : (recordOf w.log i).Answered cat p a :=
    h.records.requests i _ ((h.listed.answered _ _ _).mp ha)
  rcases hrec with ⟨_, hc, _⟩ | ⟨hne, _⟩
  · exact hc
  · exact absurd hacc hne

/-- The row of an accepted event is committed. -/
theorem Reachable.row_of_accepted (h : w.Reachable cat)
    (ha : .answered i (.event p) a ∈ w.log) (hacc : a.outcome = .accepted) :
    ∃ store product row versions, row ∈ w.db.events.committed ∧
      WrittenFor cat p store product row ∧ .committed i [row] versions ∈ w.log ∧
      a = .event 201 ⟨p.eventId, .accepted, row.receivedAt⟩ := by
  obtain ⟨store, product, row, versions, hw, hm, hrow, he⟩ :=
    h.row_of_committedOnce (h.committedOnce_of_accepted ha hacc)
  exact ⟨store, product, row, versions, hrow, hw, hm, he⟩

/-- An answer is one the specification gives, for a table that only has grown since. -/
theorem Reachable.answer_spec (h : w.Reachable cat)
    (ha : .answered i (.event p) a ∈ w.log) :
    ∃ T T', Spec cat T p a T' ∧ T' <+: w.db.events.committed := by
  obtain ⟨order, hl⟩ := h.linearization
  obtain ⟨_, _, T, T', _, _, hs, hafter⟩ := hl.replay.at (h.call_of_answered hl ha)
  exact ⟨T, T', hs, replay_grows hafter⟩

/-- After an answer that is no refusal, the payload of the call is stored. -/
theorem Reachable.stored_of_answered (h : w.Reachable cat)
    (ha : .answered i (.event p) a ∈ w.log) (hout : a.outcome ≠ .rejected) :
    ∃ row ∈ w.db.events.committed, MatchesPayload cat row p := by
  obtain ⟨_, _, hs, hgrows⟩ := h.answer_spec ha
  obtain ⟨row, hrow, hi⟩ := hs.stored hout
  exact ⟨row, hgrows.subset hrow, hi⟩

/-- No two calls with one `event_id` are accepted. -/
theorem Reachable.accepted_unique {j : Nat} {q : EventCreate} {b : Answer} (h : w.Reachable cat)
    (hi : .answered i (.event p) a ∈ w.log) (hj : .answered j (.event q) b ∈ w.log)
    (ha : a.outcome = .accepted) (hb : b.outcome = .accepted) (hid : p.eventId = q.eventId) :
    i = j :=
  h.commit_unique (h.committedOnce_of_accepted hi ha) (h.committedOnce_of_accepted hj hb) hid

end World

end StorePulse
