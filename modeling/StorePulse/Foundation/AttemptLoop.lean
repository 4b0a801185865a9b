import Mathlib.Data.List.Basic

/-!
# Loops of numbered attempts

A loop takes turns.  The turn with a number does something that can be observed,
and then ends the loop with a result or leaves it to the next turn.
`attemptLoop` is what a number of turns, from a given one on, does; the two rules
say what that is when the loop ends at a known turn, and when no turn ends it.
-/

namespace StorePulse

variable {α ε : Type}

/-- What at most `turns` turns do, from turn number `n` on, and the result, once there is one. -/
def attemptLoop (turn : Nat → List α × Option ε) : Nat → Nat → List α × Option ε
  | 0, _ => ([], none)
  | turns + 1, n =>
      match (turn n).2 with
      | some e => ((turn n).1, some e)
      | none =>
          let rest := attemptLoop turn turns (n + 1)
          ((turn n).1 ++ rest.1, rest.2)

variable {turn : Nat → List α × Option ε}

/-- The turn `n` ends the loop. -/
theorem attemptLoop_succ_of_some {turns n : Nat} {e : ε} (h : (turn n).2 = some e) :
    attemptLoop turn (turns + 1) n = ((turn n).1, some e) := by
  rw [attemptLoop, h]

/-- The turn `n` leaves the loop to the next one. -/
theorem attemptLoop_succ_of_none {turns n : Nat} (h : (turn n).2 = none) :
    attemptLoop turn (turns + 1) n =
      ((turn n).1 ++ (attemptLoop turn turns (n + 1)).1, (attemptLoop turn turns (n + 1)).2) := by
  rw [attemptLoop, h]

/-- A loop whose turns up to `k` go on ends at turn `k`, however many more it may take. -/
theorem attemptLoop_of_end {k : Nat} {e : ε} (hk : (turn k).2 = some e) {turns n : Nat}
    (hn : n ≤ k) (h : ∀ m, n ≤ m → m < k → (turn m).2 = none) (hturns : k < n + turns) :
    attemptLoop turn turns n =
      (((List.range' n (k - n)).flatMap fun m => (turn m).1) ++ (turn k).1, some e) := by
  induction turns generalizing n with
  | zero => omega
  | succ turns ih =>
      rcases Nat.eq_or_lt_of_le hn with rfl | hlt
      · rw [attemptLoop_succ_of_some hk]
        simp
      · have hnext := ih (n := n + 1) hlt (fun m hm hmk => h m (by omega) hmk) (by omega)
        have hrange : List.range' n (k - n) = n :: List.range' (n + 1) (k - (n + 1)) := by
          rw [← List.range'_succ]
          congr 1
          omega
        rw [attemptLoop_succ_of_none (h n (Nat.le_refl n) hlt), hnext, hrange]
        simp

/-- A loop no turn of which ends it has no result after any number of turns. -/
theorem attemptLoop_of_no_end {turns n : Nat} (h : ∀ m, n ≤ m → (turn m).2 = none) :
    attemptLoop turn turns n = ((List.range' n turns).flatMap fun m => (turn m).1, none) := by
  induction turns generalizing n with
  | zero => rfl
  | succ turns ih =>
      rw [attemptLoop_succ_of_none (h n (Nat.le_refl n)), ih fun m hm => h m (by omega),
        List.range'_succ]
      simp

end StorePulse
