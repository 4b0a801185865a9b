import Mathlib.Data.Rat.Defs
import Mathlib.Data.List.Nodup

/-!
# Python values that cross a boundary

Identifiers, instants, floats and decoded JSON, as far as the programs compare
them.  An instant counts microseconds from `datetime.min` in UTC, the resolution
of `datetime` and of `timestamptz`.

`Json.pyEq` is Python's `==` on decoded JSON: an `int`, a `float` and a `bool`
are compared by their numeric value, so `True == 1`, and two objects are equal
when they have the same keys with equal values in any order.
-/

namespace StorePulse

/-- A UUID, as the number it encodes. -/
abbrev UUID := Nat

/-- Microseconds since `datetime.min`, in UTC. -/
abbrev Instant := Int

/-- Microseconds in a second. -/
def microseconds : Int := 1000000

/-- `datetime.max`: 9999-12-31T23:59:59.999999 in UTC. -/
def datetimeMax : Instant := 3652059 * 86400 * microseconds - 1

/-! ## Floats -/

/-- A Python float: a finite value, an infinity or NaN. -/
inductive PyFloat where
  | finite (value : Rat)
  | inf (negative : Bool)
  | nan
deriving DecidableEq

namespace PyFloat

/-- `a <= b`.  Every comparison with NaN is false. -/
def le : PyFloat → PyFloat → Bool
  | .nan, _ => false
  | _, .nan => false
  | .inf true, _ => true
  | _, .inf false => true
  | .inf false, _ => false
  | _, .inf true => false
  | .finite a, .finite b => decide (a ≤ b)

/-- `a < b`. -/
def lt (a b : PyFloat) : Bool := le a b && a != b

/-- `a == b`. -/
def pyEq (a b : PyFloat) : Bool := a != .nan && a == b

/-- The value is a number and not infinite. -/
def isFinite : PyFloat → Bool
  | .finite _ => true
  | _ => false

end PyFloat

/-! ## Decoded JSON -/

/-- A JSON value as Python decodes it. -/
inductive Json where
  | null
  | bool (b : Bool)
  | int (n : Int)
  | float (x : PyFloat)
  | str (s : String)
  | arr (items : List Json)
  | obj (fields : List (String × Json))

namespace Json

/-- The number a value counts as in a comparison. -/
def number? : Json → Option PyFloat
  | .bool b => some (.finite (if b then 1 else 0))
  | .int n => some (.finite n)
  | .float x => some x
  | _ => none

/-- Compare a number with a value. -/
def numberEq (x : PyFloat) (b : Json) : Bool :=
  match b.number? with
  | some y => x.pyEq y
  | none => false

mutual

/-- Python's `==` on decoded JSON. -/
def pyEq : Json → Json → Bool
  | .null, b => match b with | .null => true | _ => false
  | .bool c, b => numberEq (.finite (if c then 1 else 0)) b
  | .int n, b => numberEq (.finite n) b
  | .float x, b => numberEq x b
  | .str s, b => match b with | .str t => s == t | _ => false
  | .arr xs, b => match b with | .arr ys => pyEqItems xs ys | _ => false
  | .obj fs, b => match b with
      | .obj gs => fs.length == gs.length && pyEqFields fs gs
      | _ => false
termination_by structural a => a

/-- Lists are equal item by item. -/
def pyEqItems : List Json → List Json → Bool
  | [], ys => ys.isEmpty
  | x :: xs, ys => match ys with | [] => false | y :: ys => pyEq x y && pyEqItems xs ys
termination_by structural xs => xs

/-- Every field on the left has an equal value under its key on the right. -/
def pyEqFields : List (String × Json) → List (String × Json) → Bool
  | [], _ => true
  | f :: fs, gs => pyEqField f gs && pyEqFields fs gs
termination_by structural fs => fs

/-- One field has an equal value under its key. -/
def pyEqField : String × Json → List (String × Json) → Bool
  | (k, v), gs => match gs.lookup k with | some w => pyEq v w | none => false
termination_by structural f => f

end

mutual

/-- A test holds of a value and of every value inside it. -/
def all (test : Json → Bool) : Json → Bool
  | .arr xs => test (.arr xs) && allItems test xs
  | .obj fs => test (.obj fs) && allFields test fs
  | .null => test .null
  | .bool b => test (.bool b)
  | .int n => test (.int n)
  | .float x => test (.float x)
  | .str s => test (.str s)
termination_by structural a => a

/-- `all` on the items of an array. -/
def allItems (test : Json → Bool) : List Json → Bool
  | [] => true
  | x :: xs => all test x && allItems test xs
termination_by structural xs => xs

/-- `all` on the values of an object. -/
def allFields (test : Json → Bool) : List (String × Json) → Bool
  | [] => true
  | f :: fs => allField test f && allFields test fs
termination_by structural fs => fs

/-- `all` on the value of a field. -/
def allField (test : Json → Bool) : String × Json → Bool
  | (_, v) => all test v
termination_by structural f => f

end

end Json

/-- A string without U+0000. -/
def noNul (s : String) : Bool := s.toList.all fun c => c.toNat != 0

/-- The keys of an object are distinct, as in a Python dict. -/
def Json.distinctKeys : Json → Bool
  | .obj fs => decide (fs.map Prod.fst).Nodup
  | _ => true

/-- JSONB can hold the value itself: its text is JSON (no NaN, no infinity) and
has no U+0000. -/
def Json.fitsJsonb : Json → Bool
  | .float x => x.isFinite
  | .str s => noNul s
  | .obj fs => fs.all fun f => noNul f.1
  | _ => true

/-! ## Equality is reflexive on storable values -/

@[simp] theorem PyFloat.finite_pyEq_self (q : Rat) :
    (PyFloat.finite q).pyEq (.finite q) = true := by
  simp [PyFloat.pyEq]

theorem PyFloat.pyEq_self {x : PyFloat} (h : x.isFinite = true) : x.pyEq x = true := by
  cases x with
  | finite q => exact finite_pyEq_self q
  | inf b => cases h
  | nan => cases h

/-- The value of a key is the one listed, when keys are distinct. -/
theorem lookup_of_mem {k : String} {v : Json} :
    ∀ {fs : List (String × Json)}, (fs.map Prod.fst).Nodup → (k, v) ∈ fs → fs.lookup k = some v
  | [], _, h => by cases h
  | (k', v') :: fs, hd, h => by
      rw [List.map_cons, List.nodup_cons] at hd
      rcases List.mem_cons.mp h with he | hm
      · cases he
        simp
      · have hne : k ≠ k' := by
          rintro rfl
          exact hd.1 (List.mem_map.mpr ⟨(k, v), hm, rfl⟩)
        rw [List.lookup_cons, beq_false_of_ne hne]
        exact lookup_of_mem hd.2 hm

namespace Json

/-- What a stored value satisfies at every level. -/
def storable (a : Json) : Bool := a.distinctKeys && a.fitsJsonb

mutual

theorem all_storable : ∀ a : Json,
    a.all storable = (a.all distinctKeys && a.all fitsJsonb)
  | .null | .bool _ | .int _ | .float _ | .str _ => by simp [all, storable]
  | .arr xs => by
      rw [all, all, all, allItems_storable xs, storable]
      ac_rfl
  | .obj fs => by
      rw [all, all, all, allFields_storable fs, storable]
      ac_rfl

theorem allItems_storable : ∀ xs : List Json,
    allItems storable xs = (allItems distinctKeys xs && allItems fitsJsonb xs)
  | [] => rfl
  | x :: xs => by
      rw [allItems, allItems, allItems, all_storable x, allItems_storable xs]
      ac_rfl

theorem allFields_storable : ∀ fs : List (String × Json),
    allFields storable fs = (allFields distinctKeys fs && allFields fitsJsonb fs)
  | [] => rfl
  | f :: fs => by
      rw [allFields, allFields, allFields, allField_storable f, allFields_storable fs]
      ac_rfl

theorem allField_storable : ∀ f : String × Json,
    allField storable f = (allField distinctKeys f && allField fitsJsonb f)
  | (_, v) => by
      rw [allField, allField, allField, all_storable v]

end

mutual

theorem pyEq_self : ∀ a : Json, a.all storable = true → a.pyEq a = true
  | .null, _ => by simp [pyEq]
  | .bool b, _ => by simp [pyEq, numberEq, number?]
  | .int n, _ => by simp [pyEq, numberEq, number?]
  | .float x, h => by
      have hx : x.isFinite = true := by simpa [all, storable, distinctKeys, fitsJsonb] using h
      simp [pyEq, numberEq, number?, PyFloat.pyEq_self hx]
  | .str s, _ => by simp [pyEq]
  | .arr xs, h => by
      simp only [all, Bool.and_eq_true] at h
      simpa [pyEq] using pyEqItems_self xs h.2
  | .obj fs, h => by
      simp only [all, storable, distinctKeys, Bool.and_eq_true, decide_eq_true_eq] at h
      obtain ⟨⟨hd, _⟩, hall⟩ := h
      simpa [pyEq] using pyEqFields_self fs fs hall fun k v hm => lookup_of_mem hd hm

theorem pyEqItems_self : ∀ xs : List Json, allItems storable xs = true → pyEqItems xs xs = true
  | [], _ => by simp [pyEqItems]
  | x :: xs, h => by
      simp only [allItems, Bool.and_eq_true] at h
      simp [pyEqItems, pyEq_self x h.1, pyEqItems_self xs h.2]

theorem pyEqFields_self : ∀ fs gs : List (String × Json), allFields storable fs = true →
    (∀ k v, (k, v) ∈ fs → gs.lookup k = some v) → pyEqFields fs gs = true
  | [], _, _, _ => by simp [pyEqFields]
  | f :: fs, gs, h, hl => by
      simp only [allFields, Bool.and_eq_true] at h
      have hf := pyEqField_self f gs h.1 (hl f.1 f.2 (List.mem_cons_self ..))
      have hfs := pyEqFields_self fs gs h.2 fun k v hm => hl k v (List.mem_cons_of_mem f hm)
      simp [pyEqFields, hf, hfs]

theorem pyEqField_self : ∀ (f : String × Json) (gs : List (String × Json)),
    allField storable f = true → gs.lookup f.1 = some f.2 → pyEqField f gs = true
  | (k, v), gs, h, hl => by
      simp only [allField] at h
      simp only at hl
      simp [pyEqField, hl, pyEq_self v h]

end

end Json

/-- A decoded JSON object.  Decoding leaves one member for each key, at every level. -/
structure JsonObject where
  /-- The members. -/
  fields : List (String × Json)
  /-- Keys are distinct. -/
  distinct : (Json.obj fields).all Json.distinctKeys = true

namespace Json

variable {test : Json → Bool}

theorem allFields_eq : ∀ fs : List (String × Json),
    allFields test fs = fs.all fun f => f.2.all test
  | [] => rfl
  | (_, v) :: fs => by
      rw [allFields, allField, List.all_cons, allFields_eq fs]

/-- `d[key] = value`: a key that is there keeps its place. -/
def setItem (fs : List (String × Json)) (key : String) (value : Json) : List (String × Json) :=
  if key ∈ fs.map Prod.fst then fs.map fun f => if f.1 = key then (key, value) else f
  else fs ++ [(key, value)]

theorem setItem_keys {fs : List (String × Json)} {key : String} {value : Json}
    (h : (fs.map Prod.fst).Nodup) : ((setItem fs key value).map Prod.fst).Nodup := by
  rw [setItem]
  split
  · have hkeys : (fs.map fun f => if f.1 = key then (key, value) else f).map Prod.fst =
        fs.map Prod.fst := by
      rw [List.map_map]
      refine List.map_congr_left fun f _ => ?_
      by_cases hf : f.1 = key
      · simp [hf]
      · simp [hf]
    rw [hkeys]
    exact h
  · next hnew =>
    rw [List.map_append, List.nodup_append]
    refine ⟨h, List.nodup_singleton _, fun a ha b hb hab => hnew ?_⟩
    rw [← show b = key from List.mem_singleton.mp hb, ← hab]
    exact ha

theorem mem_setItem {fs : List (String × Json)} {key : String} {value : Json}
    {f : String × Json} (h : f ∈ setItem fs key value) : f ∈ fs ∨ f = (key, value) := by
  rw [setItem] at h
  split at h
  · obtain ⟨f', hf', rfl⟩ := List.mem_map.mp h
    split
    · exact Or.inr rfl
    · exact Or.inl hf'
  · rwa [List.mem_append, List.mem_singleton] at h

end Json

namespace JsonObject

/-- A new dict with other keys: of two members that get one key the later gives the value. -/
def mapKeys (g : String → String) (a : JsonObject) : JsonObject where
  fields := a.fields.foldl (fun fs f => Json.setItem fs (g f.1) f.2) []
  distinct := by
    have hvalues : ∀ f ∈ a.fields, f.2.all Json.distinctKeys = true := by
      have h := a.distinct
      rw [Json.all, Json.allFields_eq, Bool.and_eq_true] at h
      exact List.all_eq_true.mp h.2
    have hfold : ∀ fs gs : List (String × Json),
        (∀ f ∈ fs, f.2.all Json.distinctKeys = true) →
        (Json.obj gs).all Json.distinctKeys = true →
        (Json.obj (fs.foldl (fun hs f => Json.setItem hs (g f.1) f.2) gs)).all
          Json.distinctKeys = true := by
      intro fs
      induction fs with
      | nil => exact fun gs _ h => h
      | cons f fs ih =>
          intro gs hfs hgs
          refine ih _ (fun e he => hfs e (List.mem_cons_of_mem f he)) ?_
          simp only [Json.all, Json.distinctKeys, Json.allFields_eq, Bool.and_eq_true,
            decide_eq_true_eq, List.all_eq_true] at hgs ⊢
          refine ⟨Json.setItem_keys hgs.1, fun e he => ?_⟩
          rcases Json.mem_setItem he with he | rfl
          · exact hgs.2 e he
          · exact hfs f List.mem_cons_self
    exact hfold a.fields [] hvalues rfl

/-- Python's `==` on optional objects. -/
def pyEq? : Option JsonObject → Option JsonObject → Bool
  | none, none => true
  | some a, some b => (Json.obj a.fields).pyEq (.obj b.fields)
  | _, _ => false

/-- A JSONB column can hold the object, or there is none. -/
def fits? : Option JsonObject → Bool
  | none => true
  | some a => (Json.obj a.fields).all Json.fitsJsonb

theorem pyEq?_self : ∀ {a : Option JsonObject}, fits? a = true → pyEq? a a = true
  | none, _ => rfl
  | some a, h => by
      apply Json.pyEq_self
      rw [Json.all_storable, a.distinct]
      exact h

end JsonObject

/-- `{"a": true}` and `{"a": 1.0}` are equal to Python. -/
example : (Json.obj [("a", .bool true)]).pyEq (.obj [("a", .float (.finite 1))]) = true := by
  decide

end StorePulse
