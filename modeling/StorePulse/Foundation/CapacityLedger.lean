import Mathlib.Algebra.Order.BigOperators.Group.List
import Mathlib.Data.List.Nodup

/-!
# Append-only ledgers with capacities

A ledger is a list of rows, oldest first, that only grows.  A row has a key,
and it may name a parent row.  Every row has some measures, and the children of
a row may together use up at most its own measure, in each of the measures.

`Admits` says when a row may be appended, `Sound` what a ledger built that way
satisfies, and `Sound.snoc` connects them.  A ledger that has refused a child
for lack of capacity refuses it for ever: what the children of a row have used
up never shrinks (`spent_le_of_grows`).
-/

namespace StorePulse

/-- How to read a row: its key, its parent, its measures, and which row may
stand under which. -/
structure Ledger (Row K ι M : Type) where
  /-- The identity of a row. -/
  key : Row → K
  /-- The key of the row this one counts against. -/
  parent : Row → Option K
  /-- The measures of a row. -/
  amount : ι → Row → M
  /-- `Under r s`: row `r` may count against row `s`. -/
  Under : Row → Row → Prop

namespace Ledger

variable {Row K ι M : Type} [DecidableEq K] [AddCommMonoid M] (L : Ledger Row K ι M)

/-- What the children of `k` have used up. -/
def spent (d : ι) (T : List Row) (k : K) : M :=
  ((T.filter fun r => decide (L.parent r = some k)).map (L.amount d)).sum

variable {L} {T T' : List Row} {row : Row} {d : ι} {k : K}

theorem spent_append : L.spent d (T ++ T') k = L.spent d T k + L.spent d T' k := by
  simp [spent, List.filter_append]

theorem spent_singleton_self (h : L.parent row = some k) : L.spent d [row] k = L.amount d row := by
  simp [spent, h]

theorem spent_singleton_ne (h : L.parent row ≠ some k) : L.spent d [row] k = 0 := by
  simp [spent, h]

/-- Nothing is used up of a row nobody names. -/
theorem spent_eq_zero (h : ∀ r ∈ T, L.parent r ≠ some k) : L.spent d T k = 0 := by
  have hnil : T.filter (fun r => decide (L.parent r = some k)) = [] := by
    rw [List.filter_eq_nil_iff]
    intro r hr
    simpa using h r hr
  rw [spent, hnil]
  rfl

section Order

variable [PartialOrder M]

variable (L) in
/-- A row may be appended: its key is new, and when it names a parent, the
parent is there and has room for it. -/
structure Admits (T : List Row) (row : Row) : Prop where
  /-- The key is new. -/
  fresh : ∀ r ∈ T, L.key r ≠ L.key row
  /-- The parent has room. -/
  room : ∀ k, L.parent row = some k →
    ∃ s ∈ T, L.key s = k ∧ L.Under row s ∧ ∀ d, L.spent d T k + L.amount d row ≤ L.amount d s

variable (L) in
/-- A ledger in which every parent is present and none is used up beyond its
measure. -/
structure Sound (T : List Row) : Prop where
  /-- Keys are unique. -/
  keys : (T.map L.key).Nodup
  /-- Parents are present. -/
  parents : ∀ r ∈ T, ∀ k, L.parent r = some k → ∃ s ∈ T, L.key s = k ∧ L.Under r s
  /-- Capacities are kept. -/
  within : ∀ s ∈ T, ∀ d, L.spent d T (L.key s) ≤ L.amount d s
  /-- Measures are not negative. -/
  nonneg : ∀ r ∈ T, ∀ d, 0 ≤ L.amount d r

theorem Sound.nil : L.Sound ([] : List Row) where
  keys := List.nodup_nil
  parents r hr := by cases hr
  within s hs := by cases hs
  nonneg r hr := by cases hr

/-- Two rows of a sound ledger with one key are the same row. -/
theorem Sound.eq_of_key (h : L.Sound T) {r r' : Row} (hr : r ∈ T) (hr' : r' ∈ T)
    (hk : L.key r = L.key r') : r = r' :=
  List.inj_on_of_nodup_map h.keys hr hr' hk

/-- The keys of the later rows of a sound ledger are unique. -/
theorem Sound.keys_right (h : L.Sound (T ++ T')) : (T'.map L.key).Nodup := by
  have hkeys := h.keys
  rw [List.map_append] at hkeys
  exact hkeys.of_append_right

/-- A later row of a sound ledger is not among the earlier ones. -/
theorem Sound.not_mem_left (h : L.Sound (T ++ T')) (hr : row ∈ T') : row ∉ T := by
  have hkeys := h.keys
  rw [List.map_append] at hkeys
  exact fun hold => List.disjoint_of_nodup_append hkeys (List.mem_map_of_mem hold)
    (List.mem_map_of_mem hr)

/-- Nothing is used up of a key that is not there. -/
theorem Sound.spent_fresh (h : L.Sound T) (hk : ∀ r ∈ T, L.key r ≠ k) : L.spent d T k = 0 := by
  apply spent_eq_zero
  intro r hr hp
  obtain ⟨s, hs, hsk, _⟩ := h.parents r hr k hp
  exact hk s hs hsk

/-- Appending an admitted row keeps the ledger sound. -/
theorem Sound.snoc (h : L.Sound T) (hadm : L.Admits T row) (hpos : ∀ d, 0 ≤ L.amount d row) :
    L.Sound (T ++ [row]) where
  keys := by
    rw [List.map_append, List.map_singleton, ← List.concat_eq_append]
    refine h.keys.concat fun hmem => ?_
    obtain ⟨r, hr, hk⟩ := List.mem_map.mp hmem
    exact hadm.fresh r hr hk
  parents := by
    intro r hr k hk
    rw [List.mem_append, List.mem_singleton] at hr
    rcases hr with hr | rfl
    · obtain ⟨s, hs, hsk, hu⟩ := h.parents r hr k hk
      exact ⟨s, List.mem_append_left _ hs, hsk, hu⟩
    · obtain ⟨s, hs, hsk, hu, _⟩ := hadm.room k hk
      exact ⟨s, List.mem_append_left _ hs, hsk, hu⟩
  within := by
    intro s hs d
    rw [spent_append]
    rw [List.mem_append, List.mem_singleton] at hs
    rcases hs with hs | rfl
    · by_cases hp : L.parent row = some (L.key s)
      · -- the new row counts against `s`, and `s` had room for it
        obtain ⟨s', hs', hk, _, hroom⟩ := hadm.room _ hp
        rw [spent_singleton_self hp, ← h.eq_of_key hs' hs hk, hk]
        exact hroom d
      · rw [spent_singleton_ne hp, add_zero]
        exact h.within s hs d
    · -- nobody can have named the new row
      have hself : L.parent s ≠ some (L.key s) := by
        intro hp
        obtain ⟨s', hs', hk, _⟩ := hadm.room _ hp
        exact hadm.fresh s' hs' hk
      rw [h.spent_fresh hadm.fresh, spent_singleton_ne hself, add_zero]
      exact hpos d
  nonneg := by
    intro r hr d
    rw [List.mem_append, List.mem_singleton] at hr
    rcases hr with hr | rfl
    · exact h.nonneg r hr d
    · exact hpos d

section Growth

variable [IsOrderedAddMonoid M]

/-- What is used up is not negative. -/
theorem spent_nonneg (h : ∀ r ∈ T, ∀ d, 0 ≤ L.amount d r) : 0 ≤ L.spent d T k := by
  apply List.sum_nonneg
  intro x hx
  obtain ⟨r, hr, rfl⟩ := List.mem_map.mp hx
  exact h r (List.mem_of_mem_filter hr) d

/-- What is used up never shrinks while the ledger grows. -/
theorem spent_le_of_grows (hp : T <+: T') (h : ∀ r ∈ T', ∀ d, 0 ≤ L.amount d r) :
    L.spent d T k ≤ L.spent d T' k := by
  obtain ⟨U, rfl⟩ := hp
  rw [spent_append]
  exact le_add_of_nonneg_right
    (spent_nonneg fun r hr d => h r (List.mem_append_right T hr) d)

/-- A row that has appeared uses up at least its own amount. -/
theorem spent_add_le_of_new {r : Row} (hp : T <+: T') (h : ∀ r ∈ T', ∀ d, 0 ≤ L.amount d r)
    (hr : r ∈ T') (hnew : r ∉ T) (hk : L.parent r = some k) :
    L.spent d T k + L.amount d r ≤ L.spent d T' k := by
  obtain ⟨U, rfl⟩ := hp
  obtain ⟨A, B, rfl⟩ := List.append_of_mem ((List.mem_append.mp hr).resolve_left hnew)
  have hnonneg : ∀ V ⊆ A ++ r :: B, 0 ≤ L.spent d V k := fun V hV =>
    spent_nonneg fun r' hr' d => h r' (List.mem_append_right T (hV hr')) d
  have hA := hnonneg A (List.subset_append_left _ _)
  have hB := hnonneg B fun x hx => List.mem_append_right _ (List.mem_cons_of_mem r hx)
  have hself : L.spent d (r :: B) k = L.amount d r + L.spent d B k := by
    rw [← List.singleton_append, spent_append, spent_singleton_self hk]
  rw [spent_append, spent_append, hself]
  refine add_le_add le_rfl ?_
  calc L.amount d r = 0 + (L.amount d r + 0) := by rw [zero_add, add_zero]
    _ ≤ L.spent d A k + (L.amount d r + L.spent d B k) := add_le_add hA (add_le_add le_rfl hB)

end Growth

end Order

end Ledger

end StorePulse
