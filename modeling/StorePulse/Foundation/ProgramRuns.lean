import StorePulse.Foundation.Program

/-!
# Runs of a program

A program can be run against a state that determines the replies (`execute`), or
in an environment that may reply in several ways and may change the state by
itself between two operations (`Runs`).  A run records what was performed.
-/

namespace StorePulse

namespace Program

variable {S : Signature} {σ α β ε : Type}

/-! ## Replies that the state determines -/

/-- Run a program against a state, with nothing in between.  An operation may not be enabled. -/
def execute (exec : σ → (op : S.Op) → Option (S.Reply op × σ)) : Program S α → σ → Option (α × σ)
  | .ret a, s => some (a, s)
  | .call op k, s => (exec s op).bind fun (reply, s') => (k reply).execute exec s'

/-! ## Replies that it does not -/

/-- An operation as it was performed. -/
structure Performed (S : Signature) (σ : Type) where
  /-- The state it found. -/
  before : σ
  op : S.Op
  reply : S.Reply op
  /-- The state it left. -/
  after : σ

/-- What can happen to a program. -/
structure Environment (S : Signature) (σ : Type) where
  /-- What may happen between two operations. -/
  drifts : σ → σ → Prop
  /-- How an operation may be replied to, and what it may do. -/
  answers : σ → (op : S.Op) → S.Reply op → σ → Prop

/-- A complete run: what was performed, the value and the state at the end. -/
inductive Runs (E : Environment S σ) :
    Program S α → σ → List (Performed S σ) → α → σ → Prop where
  | ret {a : α} {s : σ} : Runs E (.ret a) s [] a s
  | call {op : S.Op} {k : S.Reply op → Program S α} {s s₁ s₂ s' : σ} {reply : S.Reply op}
      {trace : List (Performed S σ)} {a : α} : E.drifts s s₁ → E.answers s₁ op reply s₂ →
      Runs E (k reply) s₂ trace a s' → Runs E (.call op k) s (⟨s₁, op, reply, s₂⟩ :: trace) a s'

variable {E : Environment S σ} {s s' : σ} {trace : List (Performed S σ)}

theorem runs_ret {a b : α} : Runs E (.ret a) s trace b s' ↔ trace = [] ∧ b = a ∧ s' = s := by
  constructor
  · intro h
    cases h
    exact ⟨rfl, rfl, rfl⟩
  · rintro ⟨rfl, rfl, rfl⟩
    exact .ret

theorem runs_call {op : S.Op} {k : S.Reply op → Program S α} {a : α} :
    Runs E (.call op k) s trace a s' ↔ ∃ s₁ reply s₂ rest, E.drifts s s₁ ∧
      E.answers s₁ op reply s₂ ∧ Runs E (k reply) s₂ rest a s' ∧
      trace = ⟨s₁, op, reply, s₂⟩ :: rest := by
  constructor
  · intro h
    cases h with
    | call hdrift hanswer hrest => exact ⟨_, _, _, _, hdrift, hanswer, hrest, rfl⟩
  · rintro ⟨s₁, reply, s₂, rest, hdrift, hanswer, hrest, rfl⟩
    exact .call hdrift hanswer hrest

/-- A run of one program and then another. -/
theorem runs_bind {m : Program S α} {f : α → Program S β} {b : β} :
    Runs E (m.bind f) s trace b s' ↔ ∃ first a s₁ rest, Runs E m s first a s₁ ∧
      Runs E (f a) s₁ rest b s' ∧ trace = first ++ rest := by
  induction m generalizing s trace with
  | ret a =>
      constructor
      · intro h
        exact ⟨[], a, s, trace, .ret, h, rfl⟩
      · rintro ⟨first, a', s₁, rest, hm, hf, rfl⟩
        obtain ⟨rfl, rfl, rfl⟩ := runs_ret.mp hm
        exact hf
  | call op k ih =>
      constructor
      · intro h
        obtain ⟨s₁, reply, s₂, rest, hdrift, hanswer, hrest, rfl⟩ := runs_call.mp h
        obtain ⟨first, a, s₃, rest', hm, hf, rfl⟩ := (ih reply).mp hrest
        exact ⟨_, a, s₃, rest', .call hdrift hanswer hm, hf, rfl⟩
      · rintro ⟨first, a, s₁, rest, hm, hf, rfl⟩
        obtain ⟨s₂, reply, s₃, first', hdrift, hanswer, hrest, rfl⟩ := runs_call.mp hm
        exact .call hdrift hanswer ((ih reply).mpr ⟨first', a, s₁, rest, hrest, hf, rfl⟩)

/-- Every operation was replied to as the environment replies. -/
theorem Runs.answers {m : Program S α} {a : α} (h : Runs E m s trace a s') :
    ∀ p ∈ trace, E.answers p.before p.op p.reply p.after := by
  induction h with
  | ret => exact nofun
  | call _ hanswer _ ih =>
      intro p hp
      rcases List.mem_cons.mp hp with rfl | hp
      · exact hanswer
      · exact ih p hp

/-- What holds of the state, and is kept by what happens, holds whenever something is performed,
and at the end. -/
theorem Runs.invariant {m : Program S α} {a : α} {I : σ → Prop} (h : Runs E m s trace a s')
    (hdrifts : ∀ {s s'}, I s → E.drifts s s' → I s')
    (hanswers : ∀ p ∈ trace, I p.before → I p.after) (h0 : I s) :
    (∀ p ∈ trace, I p.before) ∧ I s' := by
  induction h with
  | ret => exact ⟨nofun, h0⟩
  | call hdrift hanswer _ ih =>
      have hbefore := hdrifts h0 hdrift
      obtain ⟨hrest, hend⟩ := ih (fun p hp => hanswers p (List.mem_cons_of_mem _ hp))
        (hanswers _ List.mem_cons_self hbefore)
      refine ⟨fun p hp => ?_, hend⟩
      rcases List.mem_cons.mp hp with rfl | hp
      · exact hbefore
      · exact hrest p hp

/-! ## The operations of a program -/

/-- Every operation the program may perform is allowed. -/
def Uses (allowed : S.Op → Prop) : Program S α → Prop
  | .ret _ => True
  | .call op k => allowed op ∧ ∀ reply, (k reply).Uses allowed

variable {allowed : S.Op → Prop}

theorem Uses.bind {m : Program S α} {f : α → Program S β} (hm : m.Uses allowed)
    (hf : ∀ a, (f a).Uses allowed) : (m.bind f).Uses allowed := by
  induction m with
  | ret a => exact hf a
  | call op k ih => exact ⟨hm.1, fun reply => ih reply (hm.2 reply)⟩

theorem Uses.mono {wider : S.Op → Prop} {m : Program S α} (hm : m.Uses allowed)
    (h : ∀ op, allowed op → wider op) : m.Uses wider := by
  induction m with
  | ret a => trivial
  | call op k ih => exact ⟨h op hm.1, fun reply => ih reply (hm.2 reply)⟩

/-- Only allowed operations are performed. -/
theorem Runs.uses {m : Program S α} {a : α} (h : Runs E m s trace a s') (hm : m.Uses allowed) :
    ∀ p ∈ trace, allowed p.op := by
  induction h with
  | ret => exact nofun
  | call _ _ _ ih =>
      intro p hp
      rcases List.mem_cons.mp hp with rfl | hp
      · exact hm.1
      · exact ih (hm.2 _) p hp

/-- Every value the program may end with is allowed. -/
def Yields (allowed : α → Prop) : Program S α → Prop
  | .ret a => allowed a
  | .call _ k => ∀ reply, (k reply).Yields allowed

theorem Yields.bind {m : Program S α} {f : α → Program S β} {ends : α → Prop} {allowed : β → Prop}
    (hm : m.Yields ends) (hf : ∀ a, ends a → (f a).Yields allowed) :
    (m.bind f).Yields allowed := by
  induction m with
  | ret a => exact hf a hm
  | call op k ih => exact fun reply => ih reply (hm reply)

theorem Yields.mono {ends allowed : α → Prop} {m : Program S α} (hm : m.Yields ends)
    (h : ∀ a, ends a → allowed a) : m.Yields allowed := by
  induction m with
  | ret a => exact h a hm
  | call op k ih => exact fun reply => ih reply (hm reply)

/-- A run ends with an allowed value. -/
theorem Runs.yields {m : Program S α} {a : α} {allowed : α → Prop} (h : Runs E m s trace a s')
    (hm : m.Yields allowed) : allowed a := by
  induction h with
  | ret => exact hm
  | call _ _ _ ih => exact ih (hm _)

/-! ## Programs with exceptions -/

/-- `try`, with the exception as a value. -/
def attempt (m : ExceptT ε (Program S) α) : ExceptT ε (Program S) (Except ε α) :=
  ExceptT.mk (m.run.bind fun outcome => .ret (.ok outcome))

variable {m : ExceptT ε (Program S) α} {f : α → ExceptT ε (Program S) β}

theorem Uses.exceptBind (hm : m.run.Uses allowed) (hf : ∀ a, (f a).run.Uses allowed) :
    (m >>= f).run.Uses allowed := by
  refine Uses.bind hm fun outcome => ?_
  cases outcome with
  | ok a => exact hf a
  | error e => trivial

/-- The exceptions that may leave the computation are allowed. -/
structure OnlyRaises (allowed : ε → Prop) (m : ExceptT ε (Program S) α) : Prop where
  yields : m.run.Yields fun outcome => ∀ e, outcome = .error e → allowed e

namespace OnlyRaises

variable {raised : ε → Prop}

theorem pure (a : α) : OnlyRaises raised (Pure.pure a : ExceptT ε (Program S) α) := ⟨nofun⟩

theorem throw {e : ε} (he : raised e) :
    OnlyRaises raised (MonadExcept.throw e : ExceptT ε (Program S) α) :=
  ⟨fun e' h => by cases h; exact he⟩

theorem bind (hm : OnlyRaises raised m) (hf : ∀ a, OnlyRaises raised (f a)) :
    OnlyRaises raised (m >>= f) := by
  refine ⟨Yields.bind hm.yields fun outcome houtcome => ?_⟩
  cases outcome with
  | ok a => exact (hf a).yields
  | error e => exact fun e' he => houtcome e' (by cases he; rfl)

theorem ite {c : Prop} [Decidable c] {m m' : ExceptT ε (Program S) α} (hm : OnlyRaises raised m)
    (hm' : OnlyRaises raised m') : OnlyRaises raised (if c then m else m') := by
  split
  · exact hm
  · exact hm'

theorem mono {wider : ε → Prop} (hm : OnlyRaises raised m) (h : ∀ e, raised e → wider e) :
    OnlyRaises wider m :=
  ⟨hm.yields.mono fun _ houtcome e he => h e (houtcome e he)⟩

end OnlyRaises

/-- No exception leaves the computation. -/
abbrev NeverRaises (m : ExceptT ε (Program S) α) : Prop := OnlyRaises (fun _ => False) m

/-- A computation that goes on with the value of another raises what that raises. -/
theorem runs_exceptBind {outcome : Except ε β} : Runs E (m >>= f).run s trace outcome s' ↔
    (∃ e, Runs E m.run s trace (.error e) s' ∧ outcome = .error e) ∨
    ∃ first a s₁ rest, Runs E m.run s first (.ok a) s₁ ∧ Runs E (f a).run s₁ rest outcome s' ∧
      trace = first ++ rest := by
  constructor
  · intro h
    obtain ⟨first, result, s₁, rest, hm, hf, rfl⟩ := runs_bind.mp h
    cases result with
    | ok a => exact Or.inr ⟨first, a, s₁, rest, hm, hf, rfl⟩
    | error e =>
        obtain ⟨rfl, rfl, rfl⟩ := runs_ret.mp hf
        exact Or.inl ⟨e, by rwa [List.append_nil], rfl⟩
  · rintro (⟨e, hm, rfl⟩ | ⟨first, a, s₁, rest, hm, hf, rfl⟩)
    · exact runs_bind.mpr ⟨trace, .error e, s', [], hm, .ret, (List.append_nil trace).symm⟩
    · exact runs_bind.mpr ⟨first, .ok a, s₁, rest, hm, hf, rfl⟩

theorem runs_attempt {outcome : Except ε (Except ε α)} :
    Runs E (attempt m).run s trace outcome s' ↔
      ∃ result, Runs E m.run s trace result s' ∧ outcome = .ok result := by
  constructor
  · intro h
    obtain ⟨first, result, s₁, rest, hm, hret, rfl⟩ := runs_bind.mp h
    obtain ⟨rfl, rfl, rfl⟩ := runs_ret.mp hret
    exact ⟨result, by rwa [List.append_nil], rfl⟩
  · rintro ⟨result, hm, rfl⟩
    exact runs_bind.mpr ⟨trace, result, s', [], hm, .ret, (List.append_nil trace).symm⟩

/-- What follows a `try` goes on with its result, whichever it is. -/
theorem runs_attempt_bind {f : Except ε α → ExceptT ε (Program S) β} {outcome : Except ε β} :
    Runs E (attempt m >>= f).run s trace outcome s' ↔ ∃ first result s₁ rest,
      Runs E m.run s first result s₁ ∧ Runs E (f result).run s₁ rest outcome s' ∧
      trace = first ++ rest := by
  constructor
  · intro h
    rcases runs_exceptBind.mp h with ⟨e, hm, -⟩ | ⟨first, result, s₁, rest, hm, hf, rfl⟩
    · obtain ⟨_, _, he⟩ := runs_attempt.mp hm
      cases he
    · obtain ⟨_, hm, he⟩ := runs_attempt.mp hm
      cases he
      exact ⟨first, result, s₁, rest, hm, hf, rfl⟩
  · rintro ⟨first, result, s₁, rest, hm, hf, rfl⟩
    exact runs_exceptBind.mpr
      (Or.inr ⟨first, result, s₁, rest, runs_attempt.mpr ⟨result, hm, rfl⟩, hf, rfl⟩)

/-- A run is put together from its parts. -/
theorem Runs.exceptBind {first rest : List (Performed S σ)} {a : α} {s₁ : σ} {outcome : Except ε β}
    (hm : Runs E m.run s first (.ok a) s₁) (hf : Runs E (f a).run s₁ rest outcome s') :
    Runs E (m >>= f).run s (first ++ rest) outcome s' :=
  runs_exceptBind.mpr (Or.inr ⟨first, a, s₁, rest, hm, hf, rfl⟩)

theorem Runs.exceptRaise {e : ε} (hm : Runs E m.run s trace (.error e) s') :
    Runs E (m >>= f).run s trace (.error e) s' :=
  runs_exceptBind.mpr (Or.inl ⟨e, hm, rfl⟩)

theorem Runs.attemptBind {f : Except ε α → ExceptT ε (Program S) β}
    {first rest : List (Performed S σ)} {result : Except ε α} {s₁ : σ} {outcome : Except ε β}
    (hm : Runs E m.run s first result s₁) (hf : Runs E (f result).run s₁ rest outcome s') :
    Runs E (attempt m >>= f).run s (first ++ rest) outcome s' :=
  runs_attempt_bind.mpr ⟨first, result, s₁, rest, hm, hf, rfl⟩

/-- Two continuations that agree wherever a computation ends make the same runs. -/
theorem Runs.ite_pos {c : Prop} [Decidable c] {m m' : ExceptT ε (Program S) α}
    {outcome : Except ε α} (hc : c) (hm : Runs E m.run s trace outcome s') :
    Runs E (if c then m else m').run s trace outcome s' := (if_pos hc).symm ▸ hm

theorem Runs.ite_neg {c : Prop} [Decidable c] {m m' : ExceptT ε (Program S) α}
    {outcome : Except ε α} (hc : ¬ c) (hm : Runs E m'.run s trace outcome s') :
    Runs E (if c then m else m').run s trace outcome s' := (if_neg hc).symm ▸ hm

theorem runs_exceptBind_congr {f g : α → ExceptT ε (Program S) β} {outcome : Except ε β}
    (hfg : ∀ {first a s₁ rest}, Runs E m.run s first (.ok a) s₁ →
      (Runs E (f a).run s₁ rest outcome s' ↔ Runs E (g a).run s₁ rest outcome s')) :
    Runs E (m >>= f).run s trace outcome s' ↔ Runs E (m >>= g).run s trace outcome s' := by
  refine runs_exceptBind.trans (Iff.trans ?_ runs_exceptBind.symm)
  refine or_congr_right (exists₄_congr fun first a s₁ rest => ?_)
  exact and_congr_right fun hm => and_congr_left' (hfg hm)

/-- So do two computations that make the same runs, before one continuation. -/
theorem runs_exceptBind_congr_left {m m' : ExceptT ε (Program S) α}
    {f : α → ExceptT ε (Program S) β} {outcome : Except ε β}
    (hm : ∀ {first result s₁}, Runs E m.run s first result s₁ ↔ Runs E m'.run s first result s₁) :
    Runs E (m >>= f).run s trace outcome s' ↔ Runs E (m' >>= f).run s trace outcome s' := by
  simp only [runs_exceptBind, hm]

/-! ## Order in a trace -/

/-- Whatever satisfies `p` is followed by something that satisfies `q`. -/
def LeadsTo {τ : Type} (p q : τ → Prop) (trace : List τ) : Prop :=
  ∀ before x after, trace = before ++ x :: after → p x → ∃ y ∈ after, q y

/-- Whatever satisfies `p` comes after what satisfies `P`. -/
def ComesAfter {τ : Type} (p : τ → Prop) (P : List τ → Prop) (trace : List τ) : Prop :=
  ∀ before x after, trace = before ++ x :: after → p x → P before

section Order

variable {τ : Type} {p q : τ → Prop} {P : List τ → Prop} {xs ys : List τ}

theorem leadsTo_of_none (h : ∀ x ∈ xs, ¬ p x) : LeadsTo p q xs := by
  rintro before x after rfl hx
  exact absurd hx (h x (List.mem_append_right _ List.mem_cons_self))

/-- What follows the last occurrence follows them all. -/
theorem leadsTo_append (hnone : ∀ y ∈ ys, ¬ p y) (hq : ∃ y ∈ ys, q y) : LeadsTo p q (xs ++ ys) := by
  intro before x after h hx
  obtain ⟨y, hy, hqy⟩ := hq
  rcases List.append_eq_append_iff.mp h with ⟨mid, -, rfl⟩ | ⟨mid, rfl, hafter⟩
  · exact absurd hx (hnone x (List.mem_append_right _ List.mem_cons_self))
  · cases mid with
    | nil =>
        rw [List.nil_append] at hafter
        exact absurd hx (hnone x (hafter ▸ List.mem_cons_self))
    | cons z mid =>
        obtain ⟨rfl, rfl⟩ := List.cons.inj hafter
        exact ⟨y, List.mem_append_right _ hy, hqy⟩

/-- What leads to something that does not occur does not occur. -/
theorem LeadsTo.none (h : LeadsTo p q xs) (hnone : ∀ x ∈ xs, ¬ q x) : ∀ x ∈ xs, ¬ p x := by
  intro x hx hp
  obtain ⟨before, after, rfl⟩ := List.append_of_mem hx
  obtain ⟨y, hy, hq⟩ := h before x after rfl hp
  exact hnone y (List.mem_append_right _ (List.mem_cons_of_mem _ hy)) hq

theorem comesAfter_of_none (h : ∀ x ∈ xs, ¬ p x) : ComesAfter p P xs := by
  rintro before x after rfl hx
  exact absurd hx (h x (List.mem_append_right _ List.mem_cons_self))

/-- What does not occur in the first part comes after all of it. -/
theorem comesAfter_append (hnone : ∀ x ∈ xs, ¬ p x) (hP : ∀ zs, P (xs ++ zs)) :
    ComesAfter p P (xs ++ ys) := by
  intro before x after h hx
  rcases List.append_eq_append_iff.mp h with ⟨mid, rfl, -⟩ | ⟨mid, rfl, hafter⟩
  · exact hP mid
  · cases mid with
    | nil => simpa using hP []
    | cons z mid =>
        obtain ⟨rfl, rfl⟩ := List.cons.inj hafter
        exact absurd hx (hnone x (List.mem_append_right _ List.mem_cons_self))

end Order

end Program

end StorePulse
