import Mathlib.Algebra.Order.BigOperators.Group.List
import Mathlib.Algebra.Ring.Int.Defs
import Mathlib.Algebra.Order.Ring.Int

/-!
# Totals over lists

The total of a weight over a list of items, and what becomes of it when one of
several holders of items (`ws`, each with the items `g` gives) is replaced by
another.
-/

namespace StorePulse

variable {α β : Type} {f : α → Int} {g : β → List α} {ws : List β} {i : Nat} {a b : β} {x : α}

/-- The total of a weight. -/
def total (f : α → Int) (xs : List α) : Int := (xs.map f).sum

@[simp] theorem total_nil : total f [] = 0 := rfl

@[simp] theorem total_cons (x : α) (xs : List α) : total f (x :: xs) = f x + total f xs := by
  simp [total]

@[simp] theorem total_append (xs ys : List α) : total f (xs ++ ys) = total f xs + total f ys := by
  simp [total]

theorem total_nonneg {xs : List α} (h : ∀ x ∈ xs, 0 ≤ f x) : 0 ≤ total f xs := by
  refine List.sum_nonneg fun y hy => ?_
  obtain ⟨x, hx, rfl⟩ := List.mem_map.mp hy
  exact h x hx

theorem total_eq_zero {xs : List α} (h : ∀ x ∈ xs, f x = 0) : total f xs = 0 := by
  induction xs with
  | nil => rfl
  | cons x xs ih =>
      rw [total_cons, h x List.mem_cons_self, ih fun y hy => h y (List.mem_cons_of_mem x hy)]
      rfl

/-- A total of multiples. -/
theorem total_mul {f' : α → Int} {p : Int} {xs : List α} (h : ∀ x ∈ xs, f' x = p * f x) :
    total f' xs = p * total f xs := by
  induction xs with
  | nil => simp
  | cons x xs ih =>
      rw [total_cons, total_cons, h x List.mem_cons_self,
        ih fun y hy => h y (List.mem_cons_of_mem x hy), Int.mul_add]

/-- The weight of some items is a total in which the others weigh nothing. -/
theorem sum_filter_eq_total (P : α → Bool) (xs : List α) :
    ((xs.filter P).map f).sum = total (fun x => if P x then f x else 0) xs := by
  induction xs with
  | nil => rfl
  | cons x xs ih =>
      rw [total_cons, ← ih]
      cases hx : P x <;> simp [hx]

/-- Items in another order have the same total. -/
theorem total_perm {xs ys : List α} (h : xs.Perm ys) : total f xs = total f ys :=
  (h.map f).sum_eq

/-- Items with distinct keys that each have a counterpart of their key, of at least their
weight, weigh at most as much as the counterparts. -/
theorem total_le_of_keys {κ : Type} (key : α → κ) (key' : β → κ) {w : β → Int} {xs : List α}
    {ys : List β} (hxs : (xs.map key).Nodup)
    (h : ∀ x ∈ xs, ∃ y ∈ ys, key' y = key x ∧ f x ≤ w y) (hw : ∀ y ∈ ys, 0 ≤ w y) :
    total f xs ≤ total w ys := by
  induction xs generalizing ys with
  | nil => exact total_nonneg hw
  | cons x xs ih =>
      rw [List.map_cons, List.nodup_cons] at hxs
      obtain ⟨y, hy, hkey, hle⟩ := h x List.mem_cons_self
      obtain ⟨a, b, rfl⟩ := List.append_of_mem hy
      have hrest : total f xs ≤ total w (a ++ b) := by
        refine ih hxs.2 (fun x' hx' => ?_) fun z hz => hw z ?_
        · -- the counterpart of another item is not `y`
          obtain ⟨y', hy', hkey', hle'⟩ := h x' (List.mem_cons_of_mem x hx')
          refine ⟨y', ?_, hkey', hle'⟩
          rcases List.mem_append.mp hy' with hm | hm
          · exact List.mem_append_left _ hm
          · rcases List.mem_cons.mp hm with rfl | hm
            · rw [hkey] at hkey'
              exact absurd (hkey' ▸ List.mem_map_of_mem hx') hxs.1
            · exact List.mem_append_right _ hm
        · rcases List.mem_append.mp hz with hm | hm
          · exact List.mem_append_left _ hm
          · exact List.mem_append_right _ (List.mem_cons_of_mem y hm)
      rw [total_append] at hrest
      rw [total_cons, total_append, total_cons]
      omega

/-- Replacing a holder replaces its items. -/
theorem flatMap_set_perm (h : ws[i]? = some a) :
    ((ws.set i b).flatMap g ++ g a).Perm (ws.flatMap g ++ g b) := by
  induction ws generalizing i with
  | nil => simp at h
  | cons w ws ih =>
      cases i with
      | zero =>
          cases h
          simp only [List.set_cons_zero, List.flatMap_cons, List.append_assoc]
          refine List.perm_append_comm.trans ?_
          rw [List.append_assoc]
          exact List.perm_append_comm_assoc _ _ _
      | succ i =>
          simp only [List.set_cons_succ, List.flatMap_cons, List.append_assoc]
          exact (ih h).append_left (g w)

/-- Replacing an item replaces its weight. -/
theorem sum_map_set {w : β → Nat} (h : ws[i]? = some a) :
    ((ws.set i b).map w).sum + w a = (ws.map w).sum + w b := by
  induction ws generalizing i with
  | nil => simp at h
  | cons x ws ih =>
      cases i with
      | zero =>
          cases h
          simp only [List.set_cons_zero, List.map_cons, List.sum_cons]
          omega
      | succ i =>
          have hrest := ih (i := i) h
          simp only [List.set_cons_succ, List.map_cons, List.sum_cons]
          omega

/-- The items of a holder. -/
theorem mem_flatMap_of_getElem? (h : ws[i]? = some a) (hx : x ∈ g a) : x ∈ ws.flatMap g :=
  List.mem_flatMap.mpr ⟨a, List.mem_of_getElem? h, hx⟩

end StorePulse
