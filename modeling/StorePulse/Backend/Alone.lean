import StorePulse.Backend.Deadlock
import StorePulse.Backend.Receipts

/-!
# A request that runs alone

When no other request is in progress nobody has a lock, so a request is never
made to wait.  Its program is finite, so it is answered (`served_alone`).  Every
state leads to one in which no request is in progress, with the same table
(`Reachable.settles`).
-/

namespace StorePulse

variable {cat : Catalogue}

namespace World

variable {w w' : World} {i : Nat} {call : Call}

/-- Nobody but request `i` is in progress. -/
def AloneAt (w : World) (i : Nat) : Prop :=
  ∀ (j : Nat) r, j ≠ i → w.requests[j]? = some r → r.state.ended = true

/-- A request that is alone does not wait. -/
theorem AloneAt.performs {op : Op} {k : op.Reply → Program Effects Answer} (hok : w.Ok cat)
    (halone : w.AloneAt i) (hi : w.requests[i]? = some ⟨call, .running (.call op k)⟩) :
    ∃ reply db, World.perform cat w.db i op = some (reply, db) := by
  cases op with
  | sql s =>
      have hgrant : w.db.locks.grantable LockMode.conflicts i (w.db.needs i s) = true := by
        rw [LockTable.grantable_iff]
        rintro j ⟨hji, l, hl, _⟩
        obtain ⟨call', program, hj⟩ := hok.running_of_own hl
        cases halone j _ hji hj
      cases he : w.db.exec cat i s with
      | none =>
          rw [Db.exec, if_pos hgrant] at he
          cases he
      | some result => exact ⟨result.1, result.2, he⟩
  | now => exact ⟨_, _, rfl⟩
  | broadcast m => exact ⟨_, _, rfl⟩

/-- A request that runs leaves the others as they are. -/
theorem AloneAt.step (halone : w.AloneAt i) (hs : w.step cat (.run i) = some w') :
    w'.AloneAt i := by
  intro j r hji hj
  cases step_cases hs with
  | perform hr => exact halone j r hji (by rwa [List.getElem?_set_ne (Ne.symm hji)] at hj)
  | answer hr => exact halone j r hji (by rwa [List.getElem?_set_ne (Ne.symm hji)] at hj)

/-- A request that is alone is answered. -/
theorem answered_alone {program : Program Effects Answer} (h : w.Reachable cat)
    (halone : w.AloneAt i) (hi : w.requests[i]? = some ⟨call, .running program⟩) :
    ∃ n w' a, (server cat).run w (List.replicate n (.run i)) = some w' ∧
      w'.requests[i]? = some ⟨call, .answered a⟩ := by
  induction program generalizing w with
  | ret a =>
      have hs : (server cat).step w (.run i) = some ⟨w.db.rollback i,
          w.requests.set i ⟨call, .answered a⟩, w.log ++ [.answered i call a]⟩ := by
        show w.runRequest cat i = _
        rw [runRequest, hi]
      refine ⟨1, ⟨w.db.rollback i, w.requests.set i ⟨call, .answered a⟩,
        w.log ++ [.answered i call a]⟩, a, ?_, List.getElem?_set_self (lt_of_getElem? hi)⟩
      rw [List.replicate_one, System.run, hs]
      rfl
  | call op k ih =>
      obtain ⟨reply, db, hp⟩ := halone.performs h.ok hi
      have hs : (server cat).step w (.run i) = some ⟨db,
          w.requests.set i ⟨call, .running (k reply)⟩, w.log ++ op.entries w.db i⟩ := by
        show w.runRequest cat i = _
        simp [runRequest, hi, hp]
      obtain ⟨n, w', a, hrun, ha⟩ := ih reply (h.reaches (System.Reaches.refl.tail hs))
        (halone.step hs) (List.getElem?_set_self (lt_of_getElem? hi))
      refine ⟨n + 1, w', a, ?_, ha⟩
      rw [List.replicate_succ, System.run, hs]
      exact hrun

/-- A request that arrives when nobody is in progress, and runs, is answered. -/
theorem served_alone (h : w.Reachable cat) (hquiet : w.Quiet) (call : Call) :
    ∃ n w' a, (server cat).run w (.arrive call :: List.replicate n (.run w.requests.length)) =
        some w' ∧ w'.requests[w.requests.length]? = some ⟨call, .answered a⟩ := by
  have hs : (server cat).step w (.arrive call) = some { w with
      requests := w.requests ++ [⟨call, .running call.program⟩]
      log := w.log ++ [.arrived w.requests.length call] } := rfl
  refine (answered_alone (i := w.requests.length)
    (h.reaches (System.Reaches.refl.tail hs)) (fun j r hji hj => ?_)
    (List.getElem?_concat_length)).imp fun n ⟨w', a, hrun, ha⟩ => ⟨w', a, hrun, ha⟩
  rcases getElem?_arrived hj with hj | ⟨rfl, _⟩
  · exact hquiet j r hj
  · exact absurd rfl hji

/-- The requests in progress can all be lost. -/
theorem settles_below (cat : Catalogue) (w : World) (n : Nat) : ∃ w', (server cat).Reaches w w' ∧
    (w'.db.events.committed = w.db.events.committed ∧
      w'.requests.length = w.requests.length) ∧
    ∀ i, i < n → ∀ r, w'.requests[i]? = some r → r.state.ended = true := by
  refine (server cat).exists_reaches_settled
    (fun v => v.db.events.committed = w.db.events.committed ∧
      v.requests.length = w.requests.length)
    (fun v i => ∀ r, v.requests[i]? = some r → r.state.ended = true) (fun v k hv => ?_) n w
    ⟨rfl, rfl⟩
  match hr : v.requests[k]? with
  | none => exact ⟨v, System.Reaches.refl, hv, (fun r h => nomatch hr.symm.trans h), fun _ h => h⟩
  | some ⟨call, .answered a⟩ =>
      exact ⟨v, System.Reaches.refl, hv, fun r h => by cases hr.symm.trans h; rfl, fun _ h => h⟩
  | some ⟨call, .aborted⟩ =>
      exact ⟨v, System.Reaches.refl, hv, fun r h => by cases hr.symm.trans h; rfl, fun _ h => h⟩
  | some ⟨call, .running program⟩ =>
      have hs : (server cat).step v (.abort k) = some ⟨v.db.rollback k,
          v.requests.set k ⟨call, .aborted⟩, v.log ++ [.aborted k]⟩ := by
        show v.step cat (.abort k) = _
        rw [step, hr]
      have hended : ∀ r, (v.requests.set k ⟨call, .aborted⟩)[k]? = some r →
          r.state.ended = true := by
        intro r hk
        rw [List.getElem?_set_self (lt_of_getElem? hr)] at hk
        cases hk
        rfl
      refine ⟨_, System.Reaches.refl.tail hs, ⟨hv.1, by simp [hv.2]⟩, hended, fun i hi r hir => ?_⟩
      by_cases hik : k = i
      · subst hik
        exact hended r hir
      · rw [List.getElem?_set_ne hik] at hir
        exact hi r hir

/-- Every state leads to a quiet one with the same table. -/
theorem settles (cat : Catalogue) (w : World) : ∃ w', (server cat).Reaches w w' ∧ w'.Quiet ∧
    w'.db.events.committed = w.db.events.committed ∧
    w'.requests.length = w.requests.length := by
  obtain ⟨w', hr, ⟨hcommitted, hlength⟩, hended⟩ := w.settles_below cat w.requests.length
  refine ⟨w', hr, fun i r hi => hended i ?_ r hi, hcommitted, hlength⟩
  rw [← hlength]
  exact lt_of_getElem? hi

end World

end StorePulse
