import Mathlib.Data.List.Basic

/-!
# Searching with a pattern

A pattern is a sequence of items: a fixed text, a greedy run of characters of a
kind, or a group of a fixed number of them.  A matcher that backtracks tries the
ways to match in an order, the longer run first (`ways`), and a search takes the
first way at the leftmost position that has one (`search`).  `Matches` says what
a match is, without the order.
-/

namespace StorePulse.Pattern

variable {α : Type}

/-- An item of a pattern. -/
inductive Item (α : Type) where
  /-- These characters. -/
  | text (cs : List α)
  /-- `[kind]*`. -/
  | run (kind : α → Bool)
  /-- `([kind]{n})`. -/
  | group (n : Nat) (kind : α → Bool)

/-- The items match the front of a text, with these groups. -/
inductive Matches : List (Item α) → List α → List (List α) → Prop where
  | done {rest : List α} : Matches [] rest []
  | text {cs rest : List α} {items : List (Item α)} {groups : List (List α)} :
      Matches items rest groups → Matches (.text cs :: items) (cs ++ rest) groups
  | run {kind : α → Bool} {cs rest : List α} {items : List (Item α)} {groups : List (List α)} :
      (∀ c ∈ cs, kind c = true) → Matches items rest groups →
      Matches (.run kind :: items) (cs ++ rest) groups
  | group {kind : α → Bool} {cs rest : List α} {items : List (Item α)} {groups : List (List α)} :
      (∀ c ∈ cs, kind c = true) → Matches items rest groups →
      Matches (.group cs.length kind :: items) (cs ++ rest) (cs :: groups)

/-- What a run may leave, the longest run first. -/
def runRests (kind : α → Bool) : List α → List (List α)
  | [] => [[]]
  | c :: cs => if kind c then runRests kind cs ++ [c :: cs] else [c :: cs]

theorem mem_runRests {kind : α → Bool} {cs rest : List α} : rest ∈ runRests kind cs ↔
    ∃ taken, cs = taken ++ rest ∧ ∀ c ∈ taken, kind c = true := by
  induction cs with
  | nil => simp [runRests]
  | cons c cs ih =>
      rw [runRests]
      constructor
      · intro h
        split_ifs at h with hc
        · rcases List.mem_append.mp h with h | h
          · obtain ⟨taken, rfl, htaken⟩ := ih.mp h
            exact ⟨c :: taken, rfl, List.forall_mem_cons.mpr ⟨hc, htaken⟩⟩
          · exact ⟨[], (List.mem_singleton.mp h).symm, nofun⟩
        · exact ⟨[], (List.mem_singleton.mp h).symm, nofun⟩
      · rintro ⟨taken, h, htaken⟩
        cases taken with
        | nil =>
            rw [List.nil_append] at h
            subst h
            split_ifs
            · exact List.mem_append_right _ (List.mem_singleton_self _)
            · exact List.mem_singleton_self _
        | cons d taken =>
            obtain ⟨rfl, rfl⟩ := List.cons.inj h
            rw [if_pos (htaken c List.mem_cons_self)]
            exact List.mem_append_left _
              (ih.mpr ⟨taken, rfl, fun d hd => htaken d (List.mem_cons_of_mem c hd)⟩)

section Search

variable [DecidableEq α]

/-- The groups of the ways to match, in the order in which they are tried. -/
def ways : List (Item α) → List α → List (List (List α))
  | [], _ => [[]]
  | .text t :: items, cs => if t.isPrefixOf cs then ways items (cs.drop t.length) else []
  | .run kind :: items, cs => (runRests kind cs).flatMap (ways items)
  | .group n kind :: items, cs =>
      if (cs.take n).length = n ∧ (cs.take n).all kind then
        (ways items (cs.drop n)).map fun groups => cs.take n :: groups
      else []

/-- The groups of the first match. -/
def search (items : List (Item α)) : List α → Option (List (List α))
  | [] => (ways items []).head?
  | c :: cs => match (ways items (c :: cs)).head? with
      | some groups => some groups
      | none => search items cs

/-- The matcher tries exactly the matches. -/
theorem mem_ways {items : List (Item α)} {cs : List α} {groups : List (List α)} :
    groups ∈ ways items cs ↔ Matches items cs groups := by
  induction items generalizing cs groups with
  | nil =>
      rw [ways, List.mem_singleton]
      constructor
      · rintro rfl
        exact .done
      · intro h
        cases h
        rfl
  | cons item items ih =>
      cases item with
      | text t =>
          rw [ways]
          constructor
          · intro h
            split_ifs at h with ht
            · obtain ⟨rest, rfl⟩ := List.isPrefixOf_iff_prefix.mp ht
              rw [List.drop_left] at h
              exact .text (ih.mp h)
            · cases h
          · intro h
            cases h with
            | text hrest =>
                rw [if_pos (List.isPrefixOf_iff_prefix.mpr (List.prefix_append _ _)),
                  List.drop_left]
                exact ih.mpr hrest
      | run kind =>
          rw [ways, List.mem_flatMap]
          constructor
          · rintro ⟨rest, hrest, h⟩
            obtain ⟨taken, rfl, htaken⟩ := mem_runRests.mp hrest
            exact .run htaken (ih.mp h)
          · intro h
            cases h with
            | run htaken hrest => exact ⟨_, mem_runRests.mpr ⟨_, rfl, htaken⟩, ih.mpr hrest⟩
      | group n kind =>
          rw [ways]
          constructor
          · intro h
            split_ifs at h with hgroup
            · obtain ⟨hlength, hall⟩ := hgroup
              obtain ⟨more, hmore, rfl⟩ := List.mem_map.mp h
              have hmatch := Matches.group (List.all_eq_true.mp hall) (ih.mp hmore)
              rwa [hlength, List.take_append_drop] at hmatch
            · cases h
          · intro h
            cases h with
            | group hall hrest =>
                rw [List.take_left, List.drop_left,
                  if_pos ⟨rfl, List.all_eq_true.mpr hall⟩]
                exact List.mem_map_of_mem (ih.mpr hrest)

/-- What is found is a match, somewhere in the text. -/
theorem matches_of_search {items : List (Item α)} {cs : List α} {groups : List (List α)}
    (h : search items cs = some groups) :
    ∃ before rest, cs = before ++ rest ∧ Matches items rest groups := by
  induction cs with
  | nil => exact ⟨[], [], rfl, mem_ways.mp (List.mem_of_head? h)⟩
  | cons c cs ih =>
      rw [search] at h
      split at h
      case h_1 found hfound =>
        cases h
        exact ⟨[], c :: cs, rfl, mem_ways.mp (List.mem_of_head? hfound)⟩
      case h_2 =>
        obtain ⟨before, rest, rfl, hmatch⟩ := ih h
        exact ⟨c :: before, rest, rfl, hmatch⟩

/-- Positions without a match are passed over. -/
theorem search_append {items : List (Item α)} {before rest : List α}
    (h : ∀ skipped c left, before = skipped ++ c :: left →
      ∀ groups, ¬ Matches items (c :: left ++ rest) groups) :
    search items (before ++ rest) = search items rest := by
  induction before with
  | nil => rfl
  | cons c before ih =>
      have hnone : ways items (c :: (before ++ rest)) = [] :=
        List.eq_nil_iff_forall_not_mem.mpr fun groups hmem =>
          h [] c before rfl groups (mem_ways.mp hmem)
      rw [List.cons_append, search, hnone]
      refine ih fun skipped d left hbefore => ?_
      exact h (c :: skipped) d left (by rw [hbefore, List.cons_append])

/-- Where all matches have the same groups, the search finds these. -/
theorem search_eq_some {items : List (Item α)} {cs : List α} {groups : List (List α)}
    (h : Matches items cs groups) (hunique : ∀ others, Matches items cs others → others = groups) :
    search items cs = some groups := by
  have hhead : (ways items cs).head? = some groups := by
    cases hways : ways items cs with
    | nil => exact absurd (mem_ways.mpr h) (hways ▸ List.not_mem_nil)
    | cons first more =>
        have hfirst : first ∈ ways items cs := hways ▸ List.mem_cons_self
        rw [hunique first (mem_ways.mp hfirst)]
        rfl
  cases cs with
  | nil => exact hhead
  | cons c cs => rw [search, hhead]

end Search

/-! ## Texts that begin a pattern -/

/-- A text without `c` that begins before a `c` ends before it. -/
theorem prefix_of_append {t xs ys : List α} {c : α} (hc : c ∉ t) (h : t <+: xs ++ c :: ys) :
    t <+: xs := by
  obtain ⟨u, hu⟩ := h
  rcases List.append_eq_append_iff.mp hu with ⟨mid, rfl, -⟩ | ⟨mid, rfl, hmid⟩
  · exact List.prefix_append t mid
  · cases mid with
    | nil => simp
    | cons d mid =>
        obtain ⟨rfl, -⟩ := List.cons.inj hmid
        exact absurd (List.mem_append_right xs List.mem_cons_self) hc

end StorePulse.Pattern
