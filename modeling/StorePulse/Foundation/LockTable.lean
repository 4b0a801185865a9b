import Mathlib.Logic.Relation
import Mathlib.Order.Basic
import StorePulse.Foundation.Owned

/-!
# Lock tables and wait-for graphs

A lock table lists the locks that are held: a holder, a resource and a mode.
Which modes conflict is a parameter.  A request for some locks is granted when
no other holder has a conflicting lock on one of the resources, and otherwise
the requester waits for the holders that stand in the way.

`Exclusive` is the point of a lock table: two holders never have conflicting
locks on one resource.  `acyclic_of_rank` is the usual way to exclude a
deadlock: when the wait-for relation climbs a rank, it has no cycle.
-/

namespace StorePulse

/-- The locks held, each with its holder. -/
structure LockTable (Resource Mode : Type) where
  /-- Holder, and the resource and mode it holds. -/
  held : List (Nat × Resource × Mode)

namespace LockTable

variable {Resource Mode : Type}

/-- The table with no lock. -/
def empty : LockTable Resource Mode := ⟨[]⟩

/-- The locks one holder has. -/
def own (t : LockTable Resource Mode) (i : Nat) : List (Resource × Mode) := ownedBy t.held i

/-- A held lock stands in the way of a needed one. -/
def Clash (conflicts : Mode → Mode → Bool) (held needed : Resource × Mode) : Prop :=
  held.1 = needed.1 ∧ conflicts held.2 needed.2 = true

instance [DecidableEq Resource] (conflicts : Mode → Mode → Bool) (a b : Resource × Mode) :
    Decidable (Clash conflicts a b) := inferInstanceAs (Decidable (_ ∧ _))

/-- `j` has a lock that `i` must wait for before it gets the locks `needs`. -/
def Blocks (conflicts : Mode → Mode → Bool) (t : LockTable Resource Mode) (i : Nat)
    (needs : List (Resource × Mode)) (j : Nat) : Prop :=
  j ≠ i ∧ ∃ l ∈ t.own j, ∃ n ∈ needs, Clash conflicts l n

/-- Nobody else stands in the way of `needs`. -/
def grantable [DecidableEq Resource] (conflicts : Mode → Mode → Bool)
    (t : LockTable Resource Mode) (i : Nat) (needs : List (Resource × Mode)) : Bool :=
  t.held.all fun l => l.1 == i || needs.all fun n => !decide (Clash conflicts l.2 n)

/-- Give the locks `needs` to `i`. -/
def acquire (t : LockTable Resource Mode) (i : Nat) (needs : List (Resource × Mode)) :
    LockTable Resource Mode := ⟨t.held ++ needs.map fun n => (i, n)⟩

/-- Take all locks from `i`. -/
def release (t : LockTable Resource Mode) (i : Nat) : LockTable Resource Mode :=
  ⟨disown t.held i⟩

variable {conflicts : Mode → Mode → Bool} {t : LockTable Resource Mode} {i j : Nat}
  {needs : List (Resource × Mode)} {l : Resource × Mode}

@[simp] theorem own_empty : (empty : LockTable Resource Mode).own i = [] := rfl

@[simp] theorem own_acquire_self : (t.acquire i needs).own i = t.own i ++ needs := by
  rw [own, acquire, ownedBy_append, ownedBy_map_self, own]

theorem own_acquire_ne (h : j ≠ i) : (t.acquire i needs).own j = t.own j := by
  rw [own, acquire, ownedBy_append, ownedBy_map_ne needs h, List.append_nil, own]

@[simp] theorem own_release_self : (t.release i).own i = [] := ownedBy_disown_self

theorem own_release_ne (h : j ≠ i) : (t.release i).own j = t.own j := ownedBy_disown_ne h

/-- Two holders never have conflicting locks on one resource. -/
def Exclusive (conflicts : Mode → Mode → Bool) (t : LockTable Resource Mode) : Prop :=
  ∀ i j, i ≠ j → ∀ l ∈ t.own i, ∀ l' ∈ t.own j, ¬ Clash conflicts l l'

theorem exclusive_empty : (empty : LockTable Resource Mode).Exclusive conflicts := by
  intro i j _ l hl
  simp at hl

/-- Releasing locks keeps the table exclusive. -/
theorem Exclusive.release (ht : t.Exclusive conflicts) : (t.release i).Exclusive conflicts := by
  have hsub : ∀ k l, l ∈ (t.release i).own k → l ∈ t.own k := by
    intro k l hl
    by_cases hk : k = i
    · subst hk
      simp at hl
    · rwa [own_release_ne hk] at hl
  intro a b hab l hl l' hl'
  exact ht a b hab l (hsub a l hl) l' (hsub b l' hl')

section Granting

variable [DecidableEq Resource]

/-- A request is granted exactly when nobody blocks it. -/
theorem grantable_iff :
    t.grantable conflicts i needs = true ↔ ∀ j, ¬ t.Blocks conflicts i needs j := by
  simp only [grantable, List.all_eq_true, Bool.or_eq_true, beq_iff_eq, Bool.not_eq_true',
    decide_eq_false_iff_not]
  constructor
  · rintro h j ⟨hne, l, hl, n, hn, hc⟩
    cases h (j, l) (mem_ownedBy.mp hl) with
    | inl he => exact hne he
    | inr hall => exact hall n hn hc
  · rintro h ⟨j, l⟩ hl
    by_cases he : j = i
    · exact Or.inl he
    · exact Or.inr fun n hn hc => h j ⟨he, l, mem_ownedBy.mpr hl, n, hn, hc⟩

/-- Granting a request keeps the table exclusive. -/
theorem Exclusive.acquire (hsymm : ∀ a b, conflicts a b = conflicts b a)
    (ht : t.Exclusive conflicts) (hg : t.grantable conflicts i needs = true) :
    (t.acquire i needs).Exclusive conflicts := by
  have hfree := grantable_iff.mp hg
  have hflip : ∀ {a b : Resource × Mode}, Clash conflicts a b → Clash conflicts b a :=
    fun ⟨hr, hm⟩ => ⟨hr.symm, hsymm _ _ ▸ hm⟩
  intro a b hab l hl l' hl' hc
  by_cases ha : a = i
  · subst ha
    rw [own_acquire_ne hab.symm] at hl'
    rw [own_acquire_self, List.mem_append] at hl
    cases hl with
    | inl hl => exact ht a b hab l hl l' hl' hc
    | inr hn => exact hfree b ⟨hab.symm, l', hl', l, hn, hflip hc⟩
  · rw [own_acquire_ne ha] at hl
    by_cases hb : b = i
    · subst hb
      rw [own_acquire_self, List.mem_append] at hl'
      cases hl' with
      | inl hl' => exact ht a b hab l hl l' hl' hc
      | inr hn => exact hfree a ⟨ha, l, hl, l', hn, hc⟩
    · rw [own_acquire_ne hb] at hl'
      exact ht a b hab l hl l' hl' hc

end Granting

end LockTable

/-- A relation that climbs a rank has no cycle. -/
theorem acyclic_of_rank {ι κ : Type} [Preorder κ] {waits : ι → ι → Prop} (rank : ι → κ)
    (h : ∀ i j, waits i j → rank i < rank j) : ∀ i, ¬ Relation.TransGen waits i i := by
  have hlt : ∀ i j, Relation.TransGen waits i j → rank i < rank j := by
    intro i j hij
    induction hij with
    | single hw => exact h _ _ hw
    | tail _ hw ih => exact ih.trans (h _ _ hw)
  exact fun i hi => lt_irrefl _ (hlt i i hi)

end StorePulse
