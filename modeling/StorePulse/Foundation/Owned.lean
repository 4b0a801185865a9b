/-!
# Lists whose entries have owners

Uncommitted rows, row locks and open sessions are lists of entries, each with
the transaction it belongs to.  `ownedBy` selects the entries of one owner,
`disown` drops them.  The lemmas say that giving an entry to one owner, or
dropping the entries of one owner, does not touch the others.
-/

namespace StorePulse

variable {α : Type}

/-- The entries of one owner, in order. -/
def ownedBy (xs : List (Nat × α)) (i : Nat) : List α :=
  (xs.filter fun x => x.1 == i).map Prod.snd

/-- The list without the entries of one owner. -/
def disown (xs : List (Nat × α)) (i : Nat) : List (Nat × α) :=
  xs.filter fun x => x.1 != i

variable {xs : List (Nat × α)} {i j : Nat} {a : α}

theorem mem_ownedBy : a ∈ ownedBy xs i ↔ (i, a) ∈ xs := by
  simp only [ownedBy, List.mem_map, List.mem_filter, beq_iff_eq]
  constructor
  · rintro ⟨⟨j, b⟩, ⟨hm, rfl⟩, rfl⟩
    exact hm
  · intro h
    exact ⟨(i, a), ⟨h, rfl⟩, rfl⟩

theorem ownedBy_append (xs ys : List (Nat × α)) (i : Nat) :
    ownedBy (xs ++ ys) i = ownedBy xs i ++ ownedBy ys i := by
  simp [ownedBy]

/-- Entries given to `i` are exactly the new entries of `i`. -/
@[simp] theorem ownedBy_map_self (as : List α) : ownedBy (as.map fun a => (i, a)) i = as := by
  induction as with
  | nil => rfl
  | cons a as ih =>
      simp only [ownedBy] at ih
      simp [ownedBy, ih]

/-- Entries given to `i` are no entries of anybody else. -/
theorem ownedBy_map_ne (as : List α) (h : j ≠ i) :
    ownedBy (as.map fun a => (i, a)) j = [] := by
  induction as with
  | nil => rfl
  | cons a as ih => simp [ownedBy, h.symm]

@[simp] theorem ownedBy_disown_self : ownedBy (disown xs i) i = [] := by
  simp [ownedBy, disown, List.filter_filter]

theorem ownedBy_disown_ne (h : j ≠ i) : ownedBy (disown xs i) j = ownedBy xs j := by
  simp only [ownedBy, disown, List.filter_filter]
  congr 1
  apply List.filter_congr
  rintro ⟨k, _⟩ _
  simp only [Bool.and_eq_left_iff_imp, beq_iff_eq, bne_iff_ne]
  rintro rfl
  exact h

end StorePulse
