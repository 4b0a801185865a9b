import Mathlib.Logic.Hydra
import StorePulse.Foundation.Program

/-!
# Schedules of finite programs

A program is a finite tree, also when an operation has infinitely many replies.
So a pool of programs in which every step takes one of them forward, or ends it,
comes to rest under every schedule (`wellFounded_of_pool`), although no number
bounds its steps.
-/

namespace StorePulse

variable {S : Signature} {σ α : Type}

namespace Program

/-- What a program is after an operation. -/
inductive Child : Program S α → Program S α → Prop
  | call {op : S.Op} {k : S.Reply op → Program S α} (reply : S.Reply op) :
      Child (k reply) (.call op k)

/-- A program does not go on for ever. -/
theorem child_wf : WellFounded (@Child S α) := by
  refine ⟨fun p => ?_⟩
  induction p with
  | ret a => exact ⟨_, fun q hq => by cases hq⟩
  | call op k ih =>
      refine ⟨_, fun q hq => ?_⟩
      cases hq with
      | call reply => exact ih reply

end Program

/-- Steps that each take one program of a pool forward, or remove it, end. -/
theorem wellFounded_of_pool (pool : σ → List (Program S α)) (next : σ → σ → Prop)
    (h : ∀ s s', next s s' → ∃ p rest, (∀ q ∈ rest, Program.Child q p) ∧
      (pool s' ++ [p]).Perm (pool s ++ rest)) :
    WellFounded fun s' s => next s s' := by
  have hwf := (@Program.child_wf S α).cutExpand
  refine Subrelation.wf ?_ (InvImage.wf (fun s => (pool s : Multiset (Program S α))) hwf)
  intro s' s hnext
  obtain ⟨p, rest, hrest, hperm⟩ := h s s' hnext
  exact ⟨rest, p, hrest, Multiset.coe_eq_coe.mpr hperm⟩

end StorePulse
