import StorePulse.Foundation.ProgramRuns

/-!
# Programs over more operations

The sum of two signatures has the operations of both.  A program over the first
is a program over the sum, and runs there as it does by itself (`runs_inl`): the
environment of the sum replies to its operations in the same way, and nothing new
happens between them.

What an environment may do can also be narrowed (`Runs.mono`).
-/

namespace StorePulse

/-- The operations of two signatures. -/
abbrev Signature.sum (S T : Signature) : Signature := ⟨S.Op ⊕ T.Op, Sum.elim S.Reply T.Reply⟩

namespace Program

variable {S T : Signature} {σ α β ε : Type}

/-- A program over the first signature. -/
def inl : Program S α → Program (S.sum T) α
  | .ret a => .ret a
  | .call op k => .call (S := S.sum T) (.inl op) fun reply => (k reply).inl

/-- An operation of the first signature, performed in the sum. -/
def Performed.inl (p : Performed S σ) : Performed (S.sum T) σ :=
  ⟨p.before, .inl p.op, p.reply, p.after⟩

/-- An environment of the sum.  The first signature's says what happens in between. -/
def Environment.sum (E : Environment S σ) (answers : σ → (op : T.Op) → T.Reply op → σ → Prop) :
    Environment (S.sum T) σ where
  drifts := E.drifts
  answers := fun s op => match op with
    | .inl op => E.answers s op
    | .inr op => answers s op

variable {E : Environment S σ} {answers : σ → (op : T.Op) → T.Reply op → σ → Prop} {s s' : σ}

/-- A program over the first signature runs in the sum as it does by itself. -/
theorem runs_inl {m : Program S α} {trace : List (Performed (S.sum T) σ)} {a : α} :
    Runs (E.sum answers) m.inl s trace a s' ↔
      ∃ own, Runs E m s own a s' ∧ trace = own.map Performed.inl := by
  induction m generalizing s trace with
  | ret b =>
      constructor
      · intro h
        obtain ⟨rfl, rfl, rfl⟩ := runs_ret.mp h
        exact ⟨[], .ret, rfl⟩
      · rintro ⟨own, h, rfl⟩
        obtain ⟨rfl, rfl, rfl⟩ := runs_ret.mp h
        exact .ret
  | call op k ih =>
      constructor
      · intro h
        obtain ⟨s₁, reply, s₂, rest, hdrift, hanswer, hrest, rfl⟩ := runs_call.mp h
        obtain ⟨own, hown, rfl⟩ := (ih reply).mp hrest
        exact ⟨⟨s₁, op, reply, s₂⟩ :: own, .call hdrift hanswer hown, rfl⟩
      · rintro ⟨own, h, rfl⟩
        obtain ⟨s₁, reply, s₂, rest, hdrift, hanswer, hrest, rfl⟩ := runs_call.mp h
        exact runs_call.mpr ⟨s₁, reply, s₂, rest.map Performed.inl, hdrift, hanswer,
          (ih reply).mpr ⟨rest, hrest, rfl⟩, rfl⟩

theorem uses_inl {m : Program S α} {allowed : (S.sum T).Op → Prop}
    (h : m.Uses fun op => allowed (.inl op)) : Uses allowed (m.inl : Program (S.sum T) α) := by
  induction m with
  | ret a => trivial
  | call op k ih => exact ⟨h.1, fun reply => ih reply (h.2 reply)⟩

theorem yields_inl {m : Program S α} {allowed : α → Prop} (h : m.Yields allowed) :
    Yields allowed (m.inl : Program (S.sum T) α) := by
  induction m with
  | ret a => exact h
  | call op k ih => exact fun reply => ih reply (h reply)

/-- What an environment can do, a wider one can. -/
theorem Runs.mono {E' : Environment S σ} {m : Program S α} {trace : List (Performed S σ)} {a : α}
    (h : Runs E m s trace a s') (hdrifts : ∀ {s s'}, E.drifts s s' → E'.drifts s s')
    (hanswers : ∀ {s op reply s'}, E.answers s op reply s' → E'.answers s op reply s') :
    Runs E' m s trace a s' := by
  induction h with
  | ret => exact .ret
  | call hdrift hanswer _ ih => exact .call (hdrifts hdrift) (hanswers hanswer) ih

/-- A run is one in a narrower environment, if the replies to what it performed are. -/
theorem Runs.narrow {E' : Environment S σ} {m : Program S α} {trace : List (Performed S σ)} {a : α}
    (h : Runs E m s trace a s') (hdrifts : ∀ {s s'}, E.drifts s s' → E'.drifts s s')
    (hanswers : ∀ p ∈ trace, E'.answers p.before p.op p.reply p.after) :
    Runs E' m s trace a s' := by
  induction h with
  | ret => exact .ret
  | call hdrift _ _ ih =>
      exact .call (hdrifts hdrift) (hanswers _ List.mem_cons_self)
        (ih fun p hp => hanswers p (List.mem_cons_of_mem _ hp))

end Program

end StorePulse
