import Mathlib.Logic.Relation

/-!
# Labelled transition systems

A system is a step function: a label that is not enabled gives `none`.  Since
the step is a function, a run is a list of labels, and a concrete run can be
evaluated (`System.run`).

Two notions of reachability are used.  `Reaches` allows every step.
`ReachesWithin P` allows the steps whose label meets `P` in the state before
it; it states what holds of the runs that meet a condition.
-/

namespace StorePulse

/-- A labelled transition system with a computed step. -/
structure System (σ ℓ : Type) where
  /-- The state after a label, or `none` when the label is not enabled. -/
  step : σ → ℓ → Option σ

namespace System

variable {σ ℓ : Type} (S : System σ ℓ)

/-- One step whose label meets `P`. -/
def NextWithin (P : σ → ℓ → Prop) (s s' : σ) : Prop := ∃ l, P s l ∧ S.step s l = some s'

/-- Any number of steps, each meeting `P`. -/
def ReachesWithin (P : σ → ℓ → Prop) : σ → σ → Prop := Relation.ReflTransGen (S.NextWithin P)

/-- Any number of steps. -/
def Reaches : σ → σ → Prop := S.ReachesWithin fun _ _ => True

/-- The state after a list of labels. -/
def run (s : σ) : List ℓ → Option σ
  | [] => some s
  | l :: ls => (S.step s l).bind fun s' => run s' ls

variable {S} {P Q : σ → ℓ → Prop} {s s' s'' : σ}

theorem ReachesWithin.refl : S.ReachesWithin P s s := Relation.ReflTransGen.refl

theorem ReachesWithin.trans (h : S.ReachesWithin P s s') (h' : S.ReachesWithin P s' s'') :
    S.ReachesWithin P s s'' := Relation.ReflTransGen.trans h h'

theorem ReachesWithin.tail {l : ℓ} (h : S.ReachesWithin P s s') (hP : P s' l)
    (hs : S.step s' l = some s'') : S.ReachesWithin P s s'' :=
  Relation.ReflTransGen.tail h ⟨l, hP, hs⟩

theorem ReachesWithin.mono (hPQ : ∀ s l, P s l → Q s l) (h : S.ReachesWithin P s s') :
    S.ReachesWithin Q s s' :=
  Relation.ReflTransGen.mono (fun s _ ⟨l, hl, hs⟩ => ⟨l, hPQ s l hl, hs⟩) _ _ h

theorem ReachesWithin.reaches (h : S.ReachesWithin P s s') : S.Reaches s s' :=
  h.mono fun _ _ _ => trivial

theorem Reaches.refl : S.Reaches s s := ReachesWithin.refl

theorem Reaches.trans (h : S.Reaches s s') (h' : S.Reaches s' s'') : S.Reaches s s'' :=
  ReachesWithin.trans h h'

theorem Reaches.tail {l : ℓ} (h : S.Reaches s s') (hs : S.step s' l = some s'') :
    S.Reaches s s'' := ReachesWithin.tail h trivial hs

/-! ## Induction rules -/

/-- What holds at the start and is kept by every allowed step holds at the end.
The step may use that its source is reached. -/
theorem ReachesWithin.invariant {I : σ → Prop} (h : S.ReachesWithin P s s') (h0 : I s)
    (hstep : ∀ t l t', S.ReachesWithin P s t → I t → P t l → S.step t l = some t' → I t') :
    I s' := by
  induction h with
  | refl => exact h0
  | tail hr hn ih =>
      obtain ⟨l, hl, hs⟩ := hn
      exact hstep _ l _ hr ih hl hs

theorem Reaches.invariant {I : σ → Prop} (h : S.Reaches s s') (h0 : I s)
    (hstep : ∀ t l t', S.Reaches s t → I t → S.step t l = some t' → I t') : I s' :=
  ReachesWithin.invariant h h0 fun t l t' hr ht _ hs => hstep t l t' hr ht hs

/-- A preorder that contains every step contains every run. -/
theorem Reaches.mono {R : σ → σ → Prop} (hrefl : ∀ t, R t t)
    (htrans : ∀ {a b c}, R a b → R b c → R a c)
    (hstep : ∀ t l t', S.step t l = some t' → R t t') (h : S.Reaches s s') : R s s' :=
  h.invariant (I := R s) (hrefl s) fun t l t' _ ht hs => htrans ht (hstep t l t' hs)

/-- What can be settled for one index at a time, without unsettling the others, can be settled
for all indices below a bound. -/
theorem exists_reaches_settled (S : System σ ℓ) (I : σ → Prop) (settled : σ → Nat → Prop)
    (hone : ∀ s k, I s → ∃ t, S.Reaches s t ∧ I t ∧ settled t k ∧
      ∀ j, settled s j → settled t j) (n : Nat) (s : σ) (h : I s) :
    ∃ t, S.Reaches s t ∧ I t ∧ ∀ k, k < n → settled t k := by
  induction n with
  | zero => exact ⟨s, Reaches.refl, h, fun k hk => absurd hk (Nat.not_lt_zero k)⟩
  | succ n ih =>
      obtain ⟨t, ht, hIt, hsettled⟩ := ih
      obtain ⟨u, hu, hIu, hn, hkeep⟩ := hone t n hIt
      refine ⟨u, ht.trans hu, hIu, fun k hk => ?_⟩
      rcases Nat.lt_succ_iff_lt_or_eq.mp hk with hk | rfl
      · exact hkeep k (hsettled k hk)
      · exact hn

/-- When a measure that is not zero can always be brought down, it can be brought to zero. -/
theorem exists_reaches_zero {I : σ → Prop} (μ : σ → Nat)
    (hone : ∀ s, I s → μ s ≠ 0 → ∃ t, S.ReachesWithin P s t ∧ I t ∧ μ t < μ s) (h : I s) :
    ∃ t, S.ReachesWithin P s t ∧ I t ∧ μ t = 0 := by
  induction hμ : μ s using Nat.strongRecOn generalizing s with
  | ind n ih =>
      subst hμ
      by_cases hzero : μ s = 0
      · exact ⟨s, .refl, h, hzero⟩
      · obtain ⟨t, ht, hIt, hlt⟩ := hone s h hzero
        obtain ⟨u, hu, hIu, hdone⟩ := ih (μ t) hlt hIt rfl
        exact ⟨u, ht.trans hu, hIu, hdone⟩

/-! ## Evaluated runs -/

theorem run_reaches {ls : List ℓ} : ∀ {s s' : σ}, S.run s ls = some s' → S.Reaches s s' := by
  induction ls with
  | nil =>
      intro s s' h
      cases h
      exact Reaches.refl
  | cons l ls ih =>
      intro s s' h
      obtain ⟨t, ht, hr⟩ := Option.bind_eq_some_iff.mp h
      exact (Reaches.refl.tail ht).trans (ih hr)

/-- A run in which every label is checked before it is taken. -/
def runWithin (P : σ → ℓ → Prop) [∀ s l, Decidable (P s l)] (S : System σ ℓ) (s : σ) :
    List ℓ → Option σ
  | [] => some s
  | l :: ls => if P s l then (S.step s l).bind fun s' => runWithin P S s' ls else none

theorem runWithin_reaches [∀ s l, Decidable (P s l)] {ls : List ℓ} :
    ∀ {s s' : σ}, runWithin P S s ls = some s' → S.ReachesWithin P s s' := by
  induction ls with
  | nil =>
      intro s s' h
      cases h
      exact ReachesWithin.refl
  | cons l ls ih =>
      intro s s' h
      by_cases hP : P s l
      · rw [runWithin, if_pos hP] at h
        obtain ⟨t, ht, hr⟩ := Option.bind_eq_some_iff.mp h
        exact (ReachesWithin.refl.tail hP ht).trans (ih hr)
      · rw [runWithin, if_neg hP] at h
        cases h

end System

end StorePulse
