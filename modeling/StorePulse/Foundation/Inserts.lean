import Mathlib.Data.List.Nodup

/-!
# Inserting the rows that are not there

The rows of a table have a primary key and another unique column, the key.
`INSERT ... ON CONFLICT (key) DO NOTHING` passes over a row whose key is there,
and fails when the key is free but the primary key is not.

A list of rows with keys of their own is inserted as a whole: the rows whose
keys are free are appended, in their order, unless one of their primary keys is
taken (`insertAllAbsent_eq`).  Inserting them again changes nothing.
-/

namespace StorePulse

variable {α ι κ : Type}

/-- A primary key and another unique column. -/
structure KeyedBy (id : α → ι) (key : α → κ) (rows : List α) : Prop where
  ids : (rows.map id).Nodup
  keys : (rows.map key).Nodup

variable [DecidableEq ι] [DecidableEq κ] (id : α → ι) (key : α → κ)

/-- Insert a row unless its key is there. -/
def insertAbsent (rows : List α) (row : α) : Option (List α) :=
  if key row ∈ rows.map key then some rows
  else if id row ∈ rows.map id then none
  else some (rows ++ [row])

/-- Insert rows, one after another. -/
def insertAllAbsent (rows new : List α) : Option (List α) := new.foldlM (insertAbsent id key) rows

/-- The new rows whose keys are free. -/
def absent (rows new : List α) : List α := new.filter fun row => key row ∉ rows.map key

variable {id key} {rows new : List α} {row : α}

theorem mem_absent : row ∈ absent key rows new ↔ row ∈ new ∧ key row ∉ rows.map key := by
  rw [absent, List.mem_filter, decide_eq_true_eq]

/-- A row with a key of its own makes no difference to the others. -/
theorem absent_snoc (h : key row ∉ new.map key) :
    absent key (rows ++ [row]) new = absent key rows new := by
  refine List.filter_congr fun r hr => ?_
  have hne : key r ≠ key row := fun he => h (he ▸ List.mem_map_of_mem hr)
  simp [hne]

/-- Inserting rows appends those that are absent, unless the primary key of one is taken. -/
theorem insertAllAbsent_eq (h : KeyedBy id key new) : insertAllAbsent id key rows new =
    if ∃ r ∈ absent key rows new, id r ∈ rows.map id then none
    else some (rows ++ absent key rows new) := by
  induction new generalizing rows with
  | nil => simp [insertAllAbsent, absent]
  | cons row new ih =>
      have hids := List.nodup_cons.mp (List.map_cons ▸ h.ids)
      have hkeys := List.nodup_cons.mp (List.map_cons ▸ h.keys)
      have hrest : KeyedBy id key new := ⟨hids.2, hkeys.2⟩
      rw [insertAllAbsent, List.foldlM_cons]
      by_cases hkey : key row ∈ rows.map key
      · have habsent : absent key rows (row :: new) = absent key rows new :=
          List.filter_cons_of_neg (by simpa using hkey)
        rw [insertAbsent, if_pos hkey, habsent]
        exact ih hrest
      · have habsent : absent key rows (row :: new) = row :: absent key rows new :=
          List.filter_cons_of_pos (by simpa using hkey)
        rw [insertAbsent, if_neg hkey, habsent]
        by_cases hid : id row ∈ rows.map id
        · rw [if_pos hid, if_pos ⟨row, List.mem_cons_self, hid⟩]
          rfl
        · rw [if_neg hid]
          refine (@ih (rows ++ [row]) hrest).trans ?_
          rw [absent_snoc hkeys.1, List.append_assoc, List.singleton_append]
          -- the new rows have primary keys of their own, too
          have hother : ∀ r ∈ absent key rows new,
              (id r ∈ (rows ++ [row]).map id ↔ id r ∈ rows.map id) := by
            intro r hr
            have hne : id r ≠ id row := fun he =>
              hids.1 (he ▸ List.mem_map_of_mem (mem_absent.mp hr).1)
            simp [hne]
          refine if_congr ⟨?_, ?_⟩ rfl rfl
          · rintro ⟨r, hr, hm⟩
            exact ⟨r, List.mem_cons_of_mem _ hr, (hother r hr).mp hm⟩
          · rintro ⟨r, hr, hm⟩
            rcases List.mem_cons.mp hr with rfl | hr
            · exact absurd hm hid
            · exact ⟨r, hr, (hother r hr).mpr hm⟩

omit [DecidableEq ι] in
/-- The rows keep their keys. -/
theorem KeyedBy.insertAll (h : KeyedBy id key rows) (hnew : KeyedBy id key new)
    (hfree : ¬ ∃ r ∈ absent key rows new, id r ∈ rows.map id) :
    KeyedBy id key (rows ++ absent key rows new) := by
  have hsub : (absent key rows new).Sublist new := List.filter_sublist
  constructor
  · rw [List.map_append]
    refine List.nodup_append.mpr ⟨h.ids, hnew.ids.sublist (hsub.map id), ?_⟩
    rintro k hk k' hk' rfl
    obtain ⟨r, hr, rfl⟩ := List.mem_map.mp hk'
    exact hfree ⟨r, hr, hk⟩
  · rw [List.map_append]
    refine List.nodup_append.mpr ⟨h.keys, hnew.keys.sublist (hsub.map key), ?_⟩
    rintro k hk k' hk' rfl
    obtain ⟨r, hr, rfl⟩ := List.mem_map.mp hk'
    exact (mem_absent.mp hr).2 hk

/-- Every key of the new rows is there. -/
theorem key_mem_insertAll (h : row ∈ new) :
    key row ∈ (rows ++ absent key rows new).map key := by
  rw [List.map_append, List.mem_append]
  by_cases hkey : key row ∈ rows.map key
  · exact Or.inl hkey
  · exact Or.inr (List.mem_map_of_mem (mem_absent.mpr ⟨h, hkey⟩))

end StorePulse
