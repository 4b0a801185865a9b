import Mathlib.Data.List.Infix

/-!
# Wildcard patterns

Patterns of SQL's `LIKE`: `%` stands for any text, `_` for any one character, and
a backslash takes the meaning of a wildcard off what follows it.  A pattern that
ends in such a backslash is an error.

`Form` says what a pattern stands for, and `matchesTokens` decides it.
-/

namespace StorePulse.Like

/-- An element of a pattern. -/
inductive Token (α : Type) where
  /-- `%`. -/
  | any
  /-- `_`. -/
  | one
  /-- An ordinary character. -/
  | exactly (a : α)

variable {α : Type} {p : List (Token α)} {s : List α} {a : α}

/-! ## What a pattern stands for -/

/-- The texts of the form of a pattern. -/
inductive Form : List (Token α) → List α → Prop where
  | nil : Form [] []
  | exactly {p : List (Token α)} {s : List α} (a : α) : Form p s → Form (.exactly a :: p) (a :: s)
  | one {p : List (Token α)} {s : List α} (a : α) : Form p s → Form (.one :: p) (a :: s)
  | any {p : List (Token α)} {s : List α} (skipped : List α) :
      Form p s → Form (.any :: p) (skipped ++ s)

theorem form_nil : Form [] s ↔ s = [] := by
  constructor
  · intro h
    cases h
    rfl
  · rintro rfl
    exact .nil

theorem form_exactly : Form (.exactly a :: p) s ↔ ∃ t, s = a :: t ∧ Form p t := by
  constructor
  · intro h
    cases h with
    | exactly _ ht => exact ⟨_, rfl, ht⟩
  · rintro ⟨t, rfl, ht⟩
    exact .exactly a ht

theorem form_one : Form (.one :: p) s ↔ ∃ a t, s = a :: t ∧ Form p t := by
  constructor
  · intro h
    cases h with
    | one a ht => exact ⟨a, _, rfl, ht⟩
  · rintro ⟨a, t, rfl, ht⟩
    exact .one a ht

theorem form_any : Form (.any :: p) s ↔ ∃ skipped t, s = skipped ++ t ∧ Form p t := by
  constructor
  · intro h
    cases h with
    | any skipped ht => exact ⟨skipped, _, rfl, ht⟩
  · rintro ⟨skipped, t, rfl, ht⟩
    exact .any skipped ht

/-- Ordinary characters stand for themselves. -/
theorem form_text (text : List α) : Form (text.map .exactly ++ p) s ↔
    ∃ t, s = text ++ t ∧ Form p t := by
  induction text generalizing s with
  | nil => simp
  | cons a text ih =>
      rw [List.map_cons, List.cons_append, form_exactly]
      constructor
      · rintro ⟨t, rfl, ht⟩
        obtain ⟨u, rfl, hu⟩ := ih.mp ht
        exact ⟨u, rfl, hu⟩
      · rintro ⟨u, rfl, hu⟩
        exact ⟨text ++ u, rfl, ih.mpr ⟨u, rfl, hu⟩⟩

/-! ## Deciding a pattern -/

section Deciding

variable [DecidableEq α]

/-- The text has the form of the pattern. -/
def matchesTokens : List (Token α) → List α → Bool
  | [], s => s.isEmpty
  | .exactly _ :: _, [] => false
  | .exactly a :: p, c :: s => a == c && matchesTokens p s
  | .one :: _, [] => false
  | .one :: p, _ :: s => matchesTokens p s
  | .any :: p, s => s.tails.any fun t => matchesTokens p t

theorem matchesTokens_iff : matchesTokens p s = true ↔ Form p s := by
  induction p generalizing s with
  | nil => rw [matchesTokens, form_nil, List.isEmpty_iff]
  | cons token p ih =>
      cases token with
      | any =>
          rw [matchesTokens, form_any, List.any_eq_true]
          constructor
          · rintro ⟨t, ht, hm⟩
            obtain ⟨skipped, rfl⟩ := (List.mem_tails t s).mp ht
            exact ⟨skipped, t, rfl, ih.mp hm⟩
          · rintro ⟨skipped, t, rfl, ht⟩
            exact ⟨t, (List.mem_tails _ _).mpr (List.suffix_append skipped t), ih.mpr ht⟩
      | one =>
          rw [form_one]
          cases s with
          | nil => simp [matchesTokens]
          | cons c s => simp [matchesTokens, ih]
      | exactly a =>
          rw [form_exactly]
          cases s with
          | nil => simp [matchesTokens]
          | cons c s =>
              rw [matchesTokens, Bool.and_eq_true, beq_iff_eq, ih]
              constructor
              · rintro ⟨rfl, ht⟩
                exact ⟨s, rfl, ht⟩
              · rintro ⟨t, he, ht⟩
                cases he
                exact ⟨rfl, ht⟩

end Deciding

/-! ## Patterns in text -/

/-- Read a pattern. -/
def parse : List Char → Option (List (Token Char))
  | [] => some []
  | ['\\'] => none
  | '\\' :: c :: cs => (parse cs).map (.exactly c :: ·)
  | '%' :: cs => (parse cs).map (.any :: ·)
  | '_' :: cs => (parse cs).map (.one :: ·)
  | c :: cs => (parse cs).map (.exactly c :: ·)

/-- The character has a meaning in a pattern. -/
def isSpecial (c : Char) : Bool := c == '%' || c == '_' || c == '\\'

theorem parse_cons {c : Char} {cs : List Char} (h : isSpecial c = false) :
    parse (c :: cs) = (parse cs).map (.exactly c :: ·) := by
  have hc : (c ≠ '%' ∧ c ≠ '_') ∧ c ≠ '\\' := by simpa [isSpecial] using h
  rw [parse.eq_def]
  split <;> simp_all

/-- Text without special characters is read as itself. -/
theorem parse_append {text cs : List Char} (h : ∀ c ∈ text, isSpecial c = false) :
    parse (text ++ cs) = (parse cs).map (text.map .exactly ++ ·) := by
  induction text with
  | nil => simp
  | cons c text ih =>
      rw [List.cons_append, parse_cons (h c List.mem_cons_self),
        ih fun d hd => h d (List.mem_cons_of_mem c hd), Option.map_map]
      rfl

example : (parse "a\\%_%".toList).map (fun p => matchesTokens p "a%bcd".toList) = some true := by
  decide

end StorePulse.Like
