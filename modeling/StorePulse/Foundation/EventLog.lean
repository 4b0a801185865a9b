import Mathlib.Data.List.Basic

/-!
# Logs that grow at the end

A log lists what happened, oldest first.  `EachAfter P` says that every entry
stands in the relation `P` to the entries before it; a log keeps it when each new
entry does.  The order of entries of one log is the order of sublists: `[e, e']`
is a sublist when `e` happened before `e'`.
-/

namespace StorePulse

open List

variable {α : Type} {P Q : List α → α → Prop} {l l' : List α} {e e' x : α}

/-- Every entry stands in the relation `P` to the entries before it. -/
def EachAfter (P : List α → α → Prop) (l : List α) : Prop := ∀ a e b, l = a ++ e :: b → P a e

theorem EachAfter.nil : EachAfter P [] := by
  intro a e b h
  simp at h

/-- A new entry that stands in the relation to all the others. -/
theorem EachAfter.snoc (h : EachAfter P l) (hx : P l x) : EachAfter P (l ++ [x]) := by
  intro a e b he
  rcases List.eq_nil_or_concat b with rfl | ⟨b', y, rfl⟩
  · obtain ⟨rfl, hxe⟩ := List.append_inj' he rfl
    cases hxe
    exact hx
  · rw [List.concat_eq_append, ← List.cons_append, ← List.append_assoc] at he
    obtain ⟨rfl, _⟩ := List.append_inj' he rfl
    exact h a e b' rfl

/-- At most one new entry. -/
theorem EachAfter.append (h : EachAfter P l) (hlen : l'.length ≤ 1) (hx : ∀ x ∈ l', P l x) :
    EachAfter P (l ++ l') := by
  cases l' with
  | nil => rwa [List.append_nil]
  | cons x xs =>
      have hxs : xs = [] :=
        List.eq_nil_of_length_eq_zero (Nat.le_zero.mp (Nat.le_of_succ_le_succ hlen))
      subst hxs
      exact h.snoc (hx x (List.mem_singleton_self x))

/-- New entries that stand in the relation to whatever is before them. -/
theorem EachAfter.append_all (h : EachAfter P l) (hx : ∀ x ∈ l', ∀ a, P a x) :
    EachAfter P (l ++ l') := by
  induction l' generalizing l with
  | nil => rwa [List.append_nil]
  | cons x xs ih =>
      rw [List.append_cons]
      exact ih (h.snoc (hx x List.mem_cons_self l)) fun y hy => hx y (List.mem_cons_of_mem x hy)

/-- Of two entries the first one, with what is between them. -/
theorem exists_of_pair_sublist (h : [e, e'] <+ l) :
    ∃ a b c, l = a ++ e :: b ++ e' :: c := by
  obtain ⟨a, r, rfl, he, hr⟩ := List.cons_sublist_iff.mp h
  obtain ⟨s, t, rfl⟩ := List.append_of_mem he
  obtain ⟨b, c, rfl⟩ := List.append_of_mem (List.singleton_sublist.mp hr)
  exact ⟨s, t ++ b, c, by simp⟩

/-- An entry in the log before `e'`, other than `e`, is before `e` or between the two. -/
theorem before_or_between {a b c : List α} (h : x ∈ a ++ e :: b) (hne : x ≠ e) :
    [x, e, e'] <+ a ++ e :: b ++ e' :: c ∨ [e, x] <+ a ++ e :: b ++ e' :: c := by
  rcases List.mem_append.mp h with h | h
  · left
    have hx : [x] <+ a := List.singleton_sublist.mpr h
    have he : [e] <+ e :: b := List.singleton_sublist.mpr List.mem_cons_self
    have he' : [e'] <+ e' :: c := List.singleton_sublist.mpr List.mem_cons_self
    exact (hx.append he).append he'
  · right
    rcases List.mem_cons.mp h with rfl | h
    · exact absurd rfl hne
    · have hx : [e, x] <+ e :: b := (List.singleton_sublist.mpr h).cons_cons e
      exact hx.trans ((List.sublist_append_right a _).trans (List.sublist_append_left _ _))

end StorePulse
