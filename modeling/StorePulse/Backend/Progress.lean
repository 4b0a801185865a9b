import StorePulse.Backend.Alone
import StorePulse.Foundation.Schedules
import StorePulse.Foundation.Totals

/-!
# Every request can be finished

The program of a request is finite and a wait leads to a request that runs, so
the requests in progress come to their answers under every schedule that lets
one of them run when one can.  Nobody needs to be aborted (`requests_finish`).
-/

namespace StorePulse

variable {cat : Catalogue}

/-- A request performs an effect or answers. -/
def Label.runs : Label → Bool
  | .run _ => true
  | _ => false

/-- The program of a request in progress. -/
def Request.program : Request → List (Program Effects Answer)
  | ⟨_, .running program⟩ => [program]
  | _ => []

namespace World

variable {w w' : World} {i : Nat} {call : Call}

/-- The programs in progress. -/
def pool (w : World) : List (Program Effects Answer) := w.requests.flatMap Request.program

/-- A step takes one program forward or ends it. -/
theorem pool_step (hs : w.step cat (.run i) = some w') :
    ∃ p rest, (∀ q ∈ rest, Program.Child q p) ∧ (w'.pool ++ [p]).Perm (w.pool ++ rest) := by
  cases step_cases hs with
  | @perform _ call op k reply db hr hp =>
      refine ⟨.call op k, [k reply], fun q hq => ?_, flatMap_set_perm (g := Request.program) hr⟩
      rw [List.mem_singleton.mp hq]
      exact Program.Child.call (S := Effects) reply
  | @answer _ call a hr =>
      exact ⟨.ret a, [], fun q hq => (List.not_mem_nil hq).elim,
        flatMap_set_perm (g := Request.program) hr⟩

/-- A request that waits for nobody can run. -/
theorem runs_of_not_waiting {program : Program Effects Answer}
    (hr : w.requests[i]? = some ⟨call, .running program⟩) (hfree : ∀ j, ¬ w.WaitsFor i j) :
    ∃ w', w.step cat (.run i) = some w' := by
  cases program with
  | ret a => exact ⟨_, by rw [step, runRequest, hr]⟩
  | call op k =>
      have hperforms : ∃ reply db, perform cat w.db i op = some (reply, db) := by
        cases op with
        | sql s =>
            have hgrant : w.db.locks.grantable LockMode.conflicts i (w.db.needs i s) = true :=
              LockTable.grantable_iff.mpr fun j hj => hfree j ⟨call, s, k, hr, hj⟩
            exact ⟨_, _, by rw [perform, Db.exec, if_pos hgrant]⟩
        | now => exact ⟨_, _, rfl⟩
        | broadcast m => exact ⟨_, _, rfl⟩
      obtain ⟨reply, db, hp⟩ := hperforms
      refine ⟨⟨db, w.requests.set i ⟨call, .running (k reply)⟩, w.log ++ op.entries w.db i⟩, ?_⟩
      rw [step, runRequest, hr]
      simp only [hp, Option.map_some]

/-- Somebody can run while a request is in progress. -/
theorem Ok.exists_runs {program : Program Effects Answer} (h : w.Ok cat)
    (hr : w.requests[i]? = some ⟨call, .running program⟩) :
    ∃ j w', w.step cat (.run j) = some w' := by
  by_contra hstuck
  rw [not_exists] at hstuck
  have hwaits : ∀ (j : Nat) call program, w.requests[j]? = some ⟨call, .running program⟩ →
      ∃ k, w.WaitsFor j k := by
    intro j call program hj
    by_contra hfree
    obtain ⟨w', hs⟩ : ∃ w', w.step cat (.run j) = some w' :=
      runs_of_not_waiting hj (not_exists.mp hfree)
    exact hstuck j ⟨w', hs⟩
  -- every request would wait for one that waits at a higher level
  have hlevels : ∀ n, ∃ (j : Nat) (call : Call) (program : Program Effects Answer),
      w.requests[j]? = some ⟨call, .running program⟩ ∧ n ≤ w.stmtLevel j := by
    intro n
    induction n with
    | zero => exact ⟨i, call, program, hr, Nat.zero_le _⟩
    | succ n ih =>
        obtain ⟨j, callj, programj, hj, hn⟩ := ih
        obtain ⟨k, hk⟩ := hwaits j callj programj hj
        obtain ⟨_, _, _, _, _, l, hl, _⟩ := id hk
        obtain ⟨callk, programk, hrk⟩ := h.running_of_own hl
        obtain ⟨m, hm⟩ := hwaits k callk programk hrk
        exact ⟨k, callk, programk, hrk, hn.trans_lt ((h.waitsFor_level hk).2 m hm)⟩
  obtain ⟨j, callj, programj, hj, hfour⟩ := hlevels 4
  obtain ⟨k, hk⟩ := hwaits j callj programj hj
  exact absurd (h.waitsFor_level hk).1 (not_lt.mpr hfour)

/-- A request that runs is never aborted. -/
theorem state_of_runs (hr : (server cat).ReachesWithin (fun _ l => l.runs = true) w w')
    (hi : ∃ program, w.requests[i]? = some ⟨call, .running program⟩) :
    (∃ program, w'.requests[i]? = some ⟨call, .running program⟩) ∨
      ∃ a, w'.requests[i]? = some ⟨call, .answered a⟩ := by
  refine hr.invariant (I := fun v => (∃ program, v.requests[i]? = some ⟨call, .running program⟩) ∨
    ∃ a, v.requests[i]? = some ⟨call, .answered a⟩) (Or.inl hi) fun v l v' _ hv hl hs => ?_
  have hkeeps : ∀ {j : Nat} {r : Request}, j ≠ i →
      (∃ program, (v.requests.set j r)[i]? = some ⟨call, .running program⟩) ∨
        ∃ a, (v.requests.set j r)[i]? = some ⟨call, .answered a⟩ := by
    intro j r hji
    rwa [List.getElem?_set_ne hji]
  have hcall : ∀ {call' : Call} {program : Program Effects Answer},
      v.requests[i]? = some ⟨call', .running program⟩ → call' = call := by
    intro call' program hrunning
    rcases hv with ⟨_, hv⟩ | ⟨_, hv⟩
    · exact congrArg Request.call (Option.some.inj (hrunning.symm.trans hv))
    · cases hrunning.symm.trans hv
  cases step_cases hs with
  | @perform j call' op k reply db hrunning =>
      by_cases hji : j = i
      · subst hji
        obtain rfl := hcall hrunning
        exact Or.inl ⟨_, List.getElem?_set_self (lt_of_getElem? hrunning)⟩
      · exact hkeeps hji
  | @answer j call' a hrunning =>
      by_cases hji : j = i
      · subst hji
        obtain rfl := hcall hrunning
        exact Or.inr ⟨_, List.getElem?_set_self (lt_of_getElem? hrunning)⟩
      · exact hkeeps hji
  | tick | arrive | lock | abort => cases hl

/-- Running requests leads to a state in which none can run. -/
theorem runs_out (cat : Catalogue) (w : World) :
    ∃ w', (server cat).ReachesWithin (fun _ l => l.runs = true) w w' ∧
      ∀ i, w'.step cat (.run i) = none := by
  have hwf := wellFounded_of_pool pool (fun v v' => ∃ i, v.step cat (.run i) = some v')
    fun v v' ⟨i, hs⟩ => pool_step hs
  induction w using hwf.induction with
  | h v ih =>
      by_cases hstuck : ∀ i, v.step cat (.run i) = none
      · exact ⟨v, .refl, hstuck⟩
      · obtain ⟨i, hi⟩ := not_forall.mp hstuck
        obtain ⟨v', hs⟩ := Option.ne_none_iff_exists'.mp hi
        obtain ⟨u, hu, hrest⟩ := ih v' ⟨i, hs⟩
        have hone : (server cat).ReachesWithin (fun _ l => l.runs = true) v v' :=
          System.ReachesWithin.refl.tail (S := server cat) (l := Label.run i) rfl hs
        exact ⟨u, hone.trans hu, hrest⟩

/-- When nobody can run, every request that was in progress has been answered. -/
theorem Reachable.answered_of_stuck (h : w.Reachable cat)
    (hr : (server cat).ReachesWithin (fun _ l => l.runs = true) w w')
    (hstuck : ∀ i, w'.step cat (.run i) = none) :
    w'.Quiet ∧ ∀ (i : Nat) call program, w.requests[i]? = some ⟨call, .running program⟩ →
      ∃ a, w'.requests[i]? = some ⟨call, .answered a⟩ := by
  have hok := (h.reaches hr.reaches).ok
  have hended : ∀ (i : Nat) call program, w'.requests[i]? ≠ some ⟨call, .running program⟩ := by
    intro i call program hi
    obtain ⟨j, v, hs⟩ := hok.exists_runs hi
    rw [hstuck j] at hs
    cases hs
  refine ⟨fun i r hi => ?_, fun i call program hi => ?_⟩
  · obtain ⟨call, state⟩ := r
    cases state with
    | running program => exact absurd hi (hended i call program)
    | answered a => rfl
    | aborted => rfl
  · rcases state_of_runs hr ⟨program, hi⟩ with ⟨p, hrunning⟩ | hanswered
    · exact absurd hrunning (hended i call p)
    · exact hanswered

end World

/-- The requests in progress in a reachable state `w` are finished under every schedule: no
schedule runs for ever, and when nobody can run any more each of them has been answered, and none
aborted.  Such a state is reached from wherever a schedule has come. -/
theorem requests_finish {w : World} (h : w.Reachable cat) :
    WellFounded (fun v' v : World => ∃ i, v.step cat (.run i) = some v') ∧
    ∀ v, (server cat).ReachesWithin (fun _ l => l.runs = true) w v →
      ((∀ i, v.step cat (.run i) = none) → v.Quiet ∧ ∀ (i : Nat) call program,
        w.requests[i]? = some ⟨call, .running program⟩ →
          ∃ a, v.requests[i]? = some ⟨call, .answered a⟩) ∧
      ∃ v', (server cat).ReachesWithin (fun _ l => l.runs = true) v v' ∧
        ∀ i, v'.step cat (.run i) = none :=
  ⟨wellFounded_of_pool World.pool _ fun _ _ ⟨_, hs⟩ => World.pool_step hs,
    fun v hv => ⟨h.answered_of_stuck hv, v.runs_out cat⟩⟩

/-- Of two REFUNDS of one SALE the second waits for the first, and both are answered. -/
theorem requests_finish_while_waiting : ∃ w v, Sample.run Sample.waitSteps = some w ∧
    w.WaitsFor 2 1 ∧ (server Sample.catalogue).ReachesWithin (fun _ l => l.runs = true) w v ∧
    (∃ a, v.requests[1]? = some ⟨.event (Sample.refund 11), .answered a⟩) ∧
    ∃ a, v.requests[2]? = some ⟨.event (Sample.refund 12), .answered a⟩ := by
  have hrun : Sample.run Sample.waitSteps = some _ := rfl
  obtain ⟨_, hschedules⟩ := requests_finish (Sample.run_reachable hrun)
  obtain ⟨_, v, hv, hstuck⟩ := hschedules _ .refl
  obtain ⟨hanswered, _⟩ := hschedules v hv
  refine ⟨_, v, hrun, ?_, hv, (hanswered hstuck).2 1 _ _ rfl, (hanswered hstuck).2 2 _ _ rfl⟩
  refine ⟨_, .lockEvent 10, _, rfl, by decide, (.event 10, .forUpdate), ?_,
    (.event 10, .forUpdate), ?_, rfl, rfl⟩
  · exact List.mem_singleton_self _
  · exact List.mem_singleton_self _

end StorePulse
