import Mathlib.Data.List.Nodup

/-!
# Timers

The timers of an event loop.  Starting one gives it an id that no timer has had
before, so clearing an id never touches a timer that was started later.  A
timer that repeats stays when it fires, another one is used up.
-/

namespace StorePulse

/-- A timer that has been started. -/
structure Timer (κ : Type) where
  id : Nat
  /-- The delay in milliseconds. -/
  delay : Nat
  repeats : Bool
  callback : κ

/-- The timers that may fire. -/
structure Timers (κ : Type) where
  /-- The id of the timer that is started next. -/
  next : Nat
  pending : List (Timer κ)
  fresh : ∀ t ∈ pending, t.id < next
  distinct : (pending.map Timer.id).Nodup

namespace Timers

variable {κ : Type} {ts : Timers κ} {t t' : Timer κ} {i delay : Nat} {repeats : Bool}
  {callback : κ}

/-- No timer has been started. -/
def empty : Timers κ where
  next := 0
  pending := []
  fresh _ h := by cases h
  distinct := List.nodup_nil

/-- Start a timer; its id is `ts.next`. -/
def start (ts : Timers κ) (delay : Nat) (repeats : Bool) (callback : κ) : Timers κ where
  next := ts.next + 1
  pending := ts.pending ++ [⟨ts.next, delay, repeats, callback⟩]
  fresh t h := by
    rw [List.mem_append, List.mem_singleton] at h
    rcases h with h | rfl
    · exact Nat.lt_succ_of_lt (ts.fresh t h)
    · exact Nat.lt_succ_self _
  distinct := by
    rw [List.map_append, List.map_singleton, ← List.concat_eq_append]
    refine ts.distinct.concat fun h => ?_
    obtain ⟨t, ht, he⟩ := List.mem_map.mp h
    exact Nat.ne_of_lt (ts.fresh t ht) he

/-- Clear a timer.  An id that no pending timer has is ignored. -/
def clear (ts : Timers κ) (i : Nat) : Timers κ where
  next := ts.next
  pending := ts.pending.filter fun t => t.id != i
  fresh t h := ts.fresh t (List.mem_of_mem_filter h)
  distinct := ts.distinct.sublist (List.filter_sublist.map _)

/-- Clear a timer if there is one to clear. -/
def clear? (ts : Timers κ) : Option Nat → Timers κ
  | none => ts
  | some i => ts.clear i

/-- The pending timer with an id. -/
def find? (ts : Timers κ) (i : Nat) : Option (Timer κ) := ts.pending.find? fun t => t.id == i

/-- A timer fires. -/
def fire (ts : Timers κ) (t : Timer κ) : Timers κ := if t.repeats then ts else ts.clear t.id

@[simp] theorem mem_start : t ∈ (ts.start delay repeats callback).pending ↔
    t ∈ ts.pending ∨ t = ⟨ts.next, delay, repeats, callback⟩ := by
  simp [start]

@[simp] theorem mem_clear : t ∈ (ts.clear i).pending ↔ t ∈ ts.pending ∧ t.id ≠ i := by
  simp [clear]

@[simp] theorem mem_clear? {o : Option Nat} :
    t ∈ (ts.clear? o).pending ↔ t ∈ ts.pending ∧ o ≠ some t.id := by
  cases o with
  | none => simp [clear?]
  | some i => simp [clear?, eq_comm]

@[simp] theorem mem_fire : t' ∈ (ts.fire t).pending ↔
    t' ∈ ts.pending ∧ (t.repeats = true ∨ t'.id ≠ t.id) := by
  by_cases h : t.repeats = true <;> simp [fire, h]

/-- The timer that is found is pending and has the id. -/
theorem find?_spec (h : ts.find? i = some t) : t ∈ ts.pending ∧ t.id = i :=
  ⟨List.mem_of_find?_eq_some h, by simpa using List.find?_some h⟩

/-- A pending timer is found. -/
theorem find?_of_mem (h : t ∈ ts.pending) : ts.find? t.id = some t := by
  cases hfind : ts.find? t.id with
  | none => exact absurd (beq_self_eq_true t.id) (List.find?_eq_none.mp hfind t h)
  | some t' =>
      obtain ⟨hmem, hid⟩ := find?_spec hfind
      rw [List.inj_on_of_nodup_map ts.distinct hmem h hid]

/-- Two pending timers with one id are the same. -/
theorem eq_of_id (h : t ∈ ts.pending) (h' : t' ∈ ts.pending) (hid : t.id = t'.id) : t = t' :=
  List.inj_on_of_nodup_map ts.distinct h h' hid

/-- Timers whose ids are all the same are at most one. -/
theorem countP_le_one {p : Timer κ → Bool} {o : Option Nat}
    (h : ∀ t ∈ ts.pending, p t = true → o = some t.id) : ts.pending.countP p ≤ 1 := by
  have hnodup : ((ts.pending.filter p).map Timer.id).Nodup :=
    ts.distinct.sublist (List.filter_sublist.map _)
  rw [List.countP_eq_length_filter]
  match hl : ts.pending.filter p with
  | [] => simp
  | [_] => simp
  | a :: b :: l =>
      rw [hl] at hnodup
      have ha := List.mem_filter.mp (hl ▸ List.mem_cons_self : a ∈ ts.pending.filter p)
      have hb := List.mem_filter.mp
        (hl ▸ List.mem_cons_of_mem a List.mem_cons_self : b ∈ ts.pending.filter p)
      have he := (h a ha.1 ha.2).symm.trans (h b hb.1 hb.2)
      simp [Option.some.inj he] at hnodup

end Timers

end StorePulse
