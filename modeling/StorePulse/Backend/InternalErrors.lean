import StorePulse.Backend.Log
import StorePulse.Backend.RefundLimits

/-!
# Internal errors are unreachable

The `RuntimeError` branches of `_classify_existing_event` and the constraints of
`pos_events` guard against states that no interleaving reaches: a key that an
insert found taken is the key of a committed row, which stays; the store and the
product of a stored row exist; and a row that is inserted satisfies every
constraint, since its original is locked and is another event.
-/

namespace StorePulse

variable {cat : Catalogue} {db' : Db} {i : Nat} {w w' : World}

/-- The answer a program is bound to give, once only a `ROLLBACK` and a broadcast are left. -/
def Program.bound : Program Effects Answer → Option Answer
  | .ret a => some a
  | .call (.broadcast _) k => (k ()).bound
  | .call (.sql .rollback) k => (k (.ok ())).bound
  | .call _ _ => none

/-- The answer that is bound to be given at a point. -/
def Point.bound : Point → Option Answer
  | .rollback outcome => (afterRollback outcome).decision
  | pt => pt.decision

theorem Point.bound_resume {p : EventCreate} {pt : Point} (ha : pt.Aligned p) :
    (pt.resume p).bound = pt.bound := by
  cases pt with
  | rollback outcome =>
      rw [resume_rollback]
      show (resume p (afterRollback outcome)).bound = (afterRollback outcome).decision
      cases outcome with
      | error e => rfl
      | ok result =>
          rw [afterRollback]
          split <;> rfl
  | broadcast result => rfl
  | done answer => rfl
  | _ =>
      obtain ⟨k, hk⟩ := resume_effect ha rfl
      rw [hk]
      rfl

/-- The specification never answers with a `RuntimeError`. -/
theorem Spec.not_runtimeError {p : EventCreate} {T T' : List PosEvent} {a : Answer}
    (h : Spec cat T p a T') (m : String) : a ≠ .serverError (.runtimeError m) := by
  cases h with
  | accepted => exact nofun
  | duplicate => exact nofun
  | refused hr => cases hr <;> exact nofun

namespace World

/-- A decided call is answered as the specification allows. -/
theorem Explained.decided {p : EventCreate} {program : Program Effects Answer} {a : Answer}
    (h : w.Explained cat) (hr : w.requests[i]? = some ⟨.event p, .running program⟩)
    (hd : program.decided = some a) : ∃ T T', Spec cat T p a T' := by
  obtain ⟨A, hA, hsim⟩ := h
  obtain ⟨_, _, T, T', _, _, hs, _⟩ :=
    hA.linearization.replay.at (hsim.decided i p program a hr hd)
  exact ⟨T, T', hs⟩

/-- No call is bound to end with a `RuntimeError`. -/
theorem Reachable.bound_ne_runtimeError {p : EventCreate} {program : Program Effects Answer}
    (h : w.Reachable cat) (hr : w.requests[i]? = some ⟨.event p, .running program⟩) (m : String) :
    program.bound ≠ some (.serverError (.runtimeError m)) := by
  obtain ⟨pt, hpt, hh⟩ := h.ok.requests i _ hr
  rw [hpt, Point.bound_resume hh.aligned]
  cases pt with
  | rollback outcome =>
      obtain ⟨e, _, _, hj⟩ := hh.knows
      cases hj with
      | duplicate => exact nofun
      | conflict => exact nofun
  | done answer =>
      intro hb
      have hd : program.decided = some answer := by
        rw [hpt]
        exact Point.decided_resume hh.aligned
      obtain ⟨_, _, hs⟩ := h.explained.decided hr hd
      exact hs.not_runtimeError m (Option.some.inj hb)
  | broadcast result => exact nofun
  | _ => exact nofun

/-- No call has ended with a `RuntimeError`. -/
theorem Reachable.answer_ne_runtimeError {p : EventCreate} {a : Answer} (h : w.Reachable cat)
    (ha : .answered i (.event p) a ∈ w.log) (m : String) :
    a ≠ .serverError (.runtimeError m) := by
  obtain ⟨order, hl⟩ := h.linearization
  obtain ⟨c, hc, _, rfl⟩ := hl.responded i a (List.mem_filterMap.mpr ⟨_, ha, rfl⟩)
  obtain ⟨_, _, _, _, _, _, hs, _⟩ := hl.replay.at hc
  exact hs.not_runtimeError m

/-- A request about to insert has found what it refers to, and may insert it. -/
theorem Ok.inserting {call : Call} {v : EventValues}
    {k : Except SqlError (Option Instant) → Program Effects Answer} (h : w.Ok cat)
    (hr : w.requests[i]? = some ⟨call, .running (.call (.sql (.insertEvent v)) k)⟩) :
    w.db.events.own i = [] ∧ ∃ p store product original, v = p.values store product ∧
      Named cat p store product ∧ Admissible w.db i p store product original := by
  have hat := h.requests i _ hr
  cases call with
  | event p =>
      obtain ⟨pt, hpt, hh⟩ := hat
      have he := Point.effect_of_call hh.aligned hpt.symm
      cases pt with
      | insert store product original =>
          cases he
          exact ⟨(hh.quiet not_false).1, p, store, product, original, rfl, hh.knows⟩
      | _ => cases he
  | heartbeat c =>
      obtain ⟨pt, hpt, _⟩ := hat
      have he := HeartbeatPoint.effect_of_call hpt.symm
      cases pt <;> cases he

/-- An `INSERT` violates no constraint. -/
theorem Ok.insert_ne_violation {call : Call} {v : EventValues}
    {k : Except SqlError (Option Instant) → Program Effects Answer}
    {r : Except SqlError (Option Instant)} (h : w.Ok cat)
    (hr : w.requests[i]? = some ⟨call, .running (.call (.sql (.insertEvent v)) k)⟩)
    (he : w.db.exec cat i (.insertEvent v) = some (r, db')) (c : Constraint) :
    r ≠ .error (.violation c) := by
  obtain ⟨hown, p, store, product, original, rfl, hn, hadm⟩ := h.inserting hr
  rcases Db.exec_insertEvent he with ⟨rfl, _⟩ | ⟨c', _, hcheck, _⟩ | ⟨e, rfl, _⟩ |
    ⟨_, hf, ⟨e, hmem, hid⟩, hg, _⟩ | ⟨c', _, hfk, _⟩ | ⟨rfl, _⟩
  · exact nofun
  · rw [hadm.check] at hcheck
    cases hcheck
  · exact nofun
  · exact absurd hid (Point.no_duplicateKey h.consistent hown hf hmem hg)
  · rw [hadm.foreignKey hn.toLocated] at hfk
    cases hfk
  · exact nofun

/-- The row that stood in the way of an `INSERT` is committed. -/
theorem Ok.conflict_committed {call : Call} {v : EventValues}
    {k : Except SqlError (Option Instant) → Program Effects Answer} (h : w.Ok cat)
    (hr : w.requests[i]? = some ⟨call, .running (.call (.sql (.insertEvent v)) k)⟩)
    (he : w.db.exec cat i (.insertEvent v) = some (.ok none, db')) :
    ∃ e ∈ w.db.events.committed, e.eventId = v.eventId := by
  obtain ⟨hown, _⟩ := h.inserting hr
  rcases Db.exec_insertEvent he with ⟨hn, _⟩ | ⟨_, hn, _⟩ | ⟨e, _, hf, _⟩ | ⟨hn, _⟩ |
    ⟨_, hn, _⟩ | ⟨hn, _⟩
  · cases hn
  · cases hn
  · exact ⟨e, findEvent_committed hown hf⟩
  · cases hn
  · cases hn
  · cases hn

end World

/-- No call takes a `RuntimeError` branch.  When an `INSERT` returns no row, the row with its
key is visible to every later statement.  No `INSERT` violates a constraint. -/
theorem internal_errors_unreachable (h : w.Reachable cat) :
    (∀ i p m, (∀ program, w.requests[i]? = some ⟨.event p, .running program⟩ →
        program.bound ≠ some (.serverError (.runtimeError m))) ∧
      ∀ a, .answered i (.event p) a ∈ w.log → a ≠ .serverError (.runtimeError m)) ∧
    ∀ i call v k r db', w.requests[i]? =
        some ⟨call, .running (.call (.sql (.insertEvent v)) k)⟩ →
      w.db.exec cat i (.insertEvent v) = some (r, db') →
      (r = .ok none → ∃ e : PosEvent, e.eventId = v.eventId ∧
        ∀ w', (server cat).Reaches w w' → ∀ j, e ∈ w'.db.events.visible j) ∧
      ∀ c, r ≠ .error (.violation c) := by
  refine ⟨fun i p m => ⟨fun program hr => h.bound_ne_runtimeError hr m,
    fun a ha => h.answer_ne_runtimeError ha m⟩, fun i call v k r db' hr he => ⟨?_, ?_⟩⟩
  · rintro rfl
    obtain ⟨e, hmem, hid⟩ := h.ok.conflict_committed hr he
    exact ⟨e, hid, fun w' hreach j =>
      List.mem_append_left _ ((World.committed_grows hreach).subset hmem)⟩
  · exact h.ok.insert_ne_violation hr he

/-- Two copies of a SALE, up to where the second finds its key taken. -/
def Sample.conflictSteps : List Label :=
  [.arrive (.event Sample.sale), .arrive (.event Sample.sale)] ++ List.replicate 4 (.run 0) ++
  List.replicate 4 (.run 1) ++ List.replicate 3 (.run 0)

/-- What a request is about to insert, when the `INSERT` would return no row. -/
def Sample.conflicting (w : World) (i : Nat) : Option EventValues :=
  match w.requests[i]? with
  | some ⟨_, .running (.call (.sql (.insertEvent v)) _)⟩ =>
      match w.db.exec Sample.catalogue i (.insertEvent v) with
      | some (.ok none, _) => some v
      | _ => none
  | _ => none

/-- The second copy is told of a conflict, and sees the row of the first. -/
theorem internal_errors_unreachable_in_conflict :
    ∃ w v, Sample.run Sample.conflictSteps = some w ∧ Sample.conflicting w 1 = some v ∧
      ∃ e ∈ w.db.events.visible 1, e.eventId = v.eventId := by
  have hrun : ((Sample.run Sample.conflictSteps).bind fun w =>
      (Sample.conflicting w 1).map fun v => v.eventId) = some 10 := by decide +kernel
  obtain ⟨w, hw, hrun⟩ := Option.bind_eq_some_iff.mp hrun
  obtain ⟨v, hv, _⟩ := Option.map_eq_some_iff.mp hrun
  refine ⟨w, v, hw, hv, ?_⟩
  rw [Sample.conflicting] at hv
  split at hv
  · next hr =>
    split at hv
    · next he =>
      cases hv
      obtain ⟨e, hid, hvisible⟩ := ((internal_errors_unreachable (Sample.run_reachable hw)).2
        1 _ _ _ _ _ hr he).1 rfl
      exact ⟨e, hvisible w .refl 1, hid⟩
    · cases hv
  · cases hv

end StorePulse
