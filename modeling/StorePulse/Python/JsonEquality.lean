import Mathlib.Data.Finset.Card
import StorePulse.Python.Values

/-!
# Equality of JSON values

`Json.same` is equality of JSON values: a boolean equals a boolean only, numbers
are compared by their value, arrays item by item, and objects as finite maps
(`same_obj_iff`).

Python's `==` differs from it in one respect: it takes a boolean for a number.
`Json.clashes` says that a boolean of one value stands where the other value has
a number, and `same_eq` that this is all the difference.
-/

namespace StorePulse.Json

/-- The value is a number. -/
def isNumber : Json → Bool
  | .int _ => true
  | .float _ => true
  | _ => false

/-- The value is a boolean. -/
def isBool : Json → Bool
  | .bool _ => true
  | _ => false

mutual

/-- Equality of JSON values. -/
def same : Json → Json → Bool
  | .null, b => match b with | .null => true | _ => false
  | .bool c, b => match b with | .bool d => c == d | _ => false
  | .int n, b => b.isNumber && numberEq (.finite n) b
  | .float x, b => b.isNumber && numberEq x b
  | .str s, b => match b with | .str t => s == t | _ => false
  | .arr xs, b => match b with | .arr ys => sameItems xs ys | _ => false
  | .obj fs, b => match b with
      | .obj gs => fs.length == gs.length && sameFields fs gs
      | _ => false
termination_by structural a => a

/-- Lists are equal item by item. -/
def sameItems : List Json → List Json → Bool
  | [], ys => ys.isEmpty
  | x :: xs, ys => match ys with | [] => false | y :: ys => same x y && sameItems xs ys
termination_by structural xs => xs

/-- Every field on the left has an equal value under its key on the right. -/
def sameFields : List (String × Json) → List (String × Json) → Bool
  | [], _ => true
  | f :: fs, gs => sameField f gs && sameFields fs gs
termination_by structural fs => fs

/-- One field has an equal value under its key. -/
def sameField : String × Json → List (String × Json) → Bool
  | (k, v), gs => match gs.lookup k with | some w => same v w | none => false
termination_by structural f => f

end

mutual

/-- A boolean of one value stands where the other value has a number. -/
def clashes : Json → Json → Bool
  | .null, _ => false
  | .bool _, b => b.isNumber
  | .int _, b => b.isBool
  | .float _, b => b.isBool
  | .str _, _ => false
  | .arr xs, b => match b with | .arr ys => clashesItems xs ys | _ => false
  | .obj fs, b => match b with | .obj gs => clashesFields fs gs | _ => false
termination_by structural a => a

/-- `clashes` at some index. -/
def clashesItems : List Json → List Json → Bool
  | [], _ => false
  | x :: xs, ys => match ys with | [] => false | y :: ys => clashes x y || clashesItems xs ys
termination_by structural xs => xs

/-- `clashes` at some key. -/
def clashesFields : List (String × Json) → List (String × Json) → Bool
  | [], _ => false
  | f :: fs, gs => clashesField f gs || clashesFields fs gs
termination_by structural fs => fs

/-- `clashes` at one key. -/
def clashesField : String × Json → List (String × Json) → Bool
  | (k, v), gs => match gs.lookup k with | some w => clashes v w | none => false
termination_by structural f => f

end

/-! ## Python's equality -/

mutual

/-- Equal to Python, and without a clash: that is equality. -/
theorem same_eq : ∀ a b : Json, a.same b = (a.pyEq b && !a.clashes b)
  | .null, b => by cases b <;> simp [same, pyEq, clashes]
  | .bool c, b => by
      cases b with
      | bool d => cases c <;> cases d <;> decide
      | _ => simp [same, clashes, isNumber, pyEq, numberEq, number?]
  | .int n, b => by
      cases b <;> simp [same, pyEq, clashes, isNumber, isBool, numberEq, number?]
  | .float x, b => by
      cases b <;> simp [same, pyEq, clashes, isNumber, isBool, numberEq, number?]
  | .str s, b => by cases b <;> simp [same, pyEq, clashes]
  | .arr xs, b => by
      cases b with
      | arr ys => simpa [same, pyEq, clashes] using sameItems_eq xs ys
      | _ => simp [same, pyEq, clashes]
  | .obj fs, b => by
      cases b with
      | obj gs =>
          simp only [same, pyEq, clashes, sameFields_eq fs gs]
          rw [Bool.and_assoc]
      | _ => simp [same, pyEq, clashes]

theorem sameItems_eq : ∀ xs ys : List Json,
    sameItems xs ys = (pyEqItems xs ys && !clashesItems xs ys)
  | [], ys => by simp [sameItems, pyEqItems, clashesItems]
  | x :: xs, [] => by simp [sameItems, pyEqItems, clashesItems]
  | x :: xs, y :: ys => by
      simp only [sameItems, pyEqItems, clashesItems, same_eq x y, sameItems_eq xs ys,
        Bool.not_or]
      ac_rfl

theorem sameFields_eq : ∀ fs gs : List (String × Json),
    sameFields fs gs = (pyEqFields fs gs && !clashesFields fs gs)
  | [], gs => by simp [sameFields, pyEqFields, clashesFields]
  | f :: fs, gs => by
      simp only [sameFields, pyEqFields, clashesFields, sameField_eq f gs, sameFields_eq fs gs,
        Bool.not_or]
      ac_rfl

theorem sameField_eq : ∀ (f : String × Json) (gs : List (String × Json)),
    sameField f gs = (pyEqField f gs && !clashesField f gs)
  | (k, v), gs => by
      simp only [sameField, pyEqField, clashesField]
      cases gs.lookup k with
      | none => rfl
      | some w => exact same_eq v w

end

/-! ## Objects -/

variable {fs gs : List (String × Json)} {k : String} {v : Json}

theorem sameFields_iff : sameFields fs gs = true ↔ ∀ f ∈ fs, sameField f gs = true := by
  induction fs with
  | nil => simp [sameFields]
  | cons f fs ih => simp [sameFields, ih]

/-- A key that is listed has a value. -/
theorem exists_lookup (h : k ∈ gs.map Prod.fst) : ∃ w, gs.lookup k = some w := by
  induction gs with
  | nil => cases h
  | cons g gs ih =>
      rw [List.lookup_cons]
      split
      · exact ⟨_, rfl⟩
      · rename_i hne
        rw [List.map_cons, List.mem_cons] at h
        exact ih (h.resolve_left fun he => by simp [he] at hne)

/-- A value that is found is listed under its key. -/
theorem mem_of_lookup (h : gs.lookup k = some v) : (k, v) ∈ gs := by
  induction gs with
  | nil => cases h
  | cons g gs ih =>
      rw [List.lookup_cons] at h
      split at h
      · rename_i he
        cases h
        rw [beq_iff_eq] at he
        rw [he]
        exact List.mem_cons_self
      · exact List.mem_cons_of_mem g (ih h)

/-- Objects are equal when they have the same keys, with equal values. -/
theorem same_obj_iff (hf : (fs.map Prod.fst).Nodup) (hg : (gs.map Prod.fst).Nodup) :
    (obj fs).same (obj gs) = true ↔ (∀ k, k ∈ fs.map Prod.fst ↔ k ∈ gs.map Prod.fst) ∧
      ∀ k v w, fs.lookup k = some v → gs.lookup k = some w → v.same w = true := by
  simp only [same, Bool.and_eq_true, beq_iff_eq, sameFields_iff]
  constructor
  · rintro ⟨hlength, hfields⟩
    have hsub : fs.map Prod.fst ⊆ gs.map Prod.fst := by
      intro k hk
      obtain ⟨⟨k, v⟩, hmem, rfl⟩ := List.mem_map.mp hk
      have hv := hfields _ hmem
      simp only [sameField] at hv
      split at hv
      · rename_i w hw
        exact List.mem_map.mpr ⟨(k, w), mem_of_lookup hw, rfl⟩
      · cases hv
    -- as many keys, all of them on the right: the keys are the same
    have hperm : (fs.map Prod.fst).Perm (gs.map Prod.fst) :=
      (List.subperm_of_subset hf hsub).perm_of_length_le (by simp [hlength])
    refine ⟨fun k => hperm.mem_iff, fun k v w hv hw => ?_⟩
    have hvw := hfields _ (mem_of_lookup hv)
    rwa [sameField, hw] at hvw
  · rintro ⟨hkeys, hvalues⟩
    have hperm := (List.perm_ext_iff_of_nodup hf hg).mpr hkeys
    refine ⟨by simpa using hperm.length_eq, fun ⟨k, v⟩ hmem => ?_⟩
    obtain ⟨w, hw⟩ := exists_lookup ((hkeys k).mp (List.mem_map_of_mem hmem))
    rw [sameField, hw]
    exact hvalues k v w (lookup_of_mem hf hmem) hw

end StorePulse.Json

namespace StorePulse.JsonObject

/-- Optional objects are equal as JSON values. -/
def same? : Option JsonObject → Option JsonObject → Bool
  | none, none => true
  | some a, some b => (Json.obj a.fields).same (.obj b.fields)
  | _, _ => false

/-- A boolean of one object stands where the other has a number. -/
def clashes? : Option JsonObject → Option JsonObject → Bool
  | some a, some b => (Json.obj a.fields).clashes (.obj b.fields)
  | _, _ => false

theorem same?_eq (a b : Option JsonObject) : same? a b = (pyEq? a b && !clashes? a b) := by
  cases a with
  | none => cases b <;> rfl
  | some a =>
      cases b with
      | none => rfl
      | some b => exact Json.same_eq _ _

end StorePulse.JsonObject
