import Mathlib.Data.List.Nodup
import Mathlib.Logic.Relation

/-!
# Linearizability by linearization points

A sequential specification is a relation `spec s op ret s'`: operation `op` may
answer `ret` and take the object from `s` to `s'`.  The *atomic object* runs
calls of many clients against it: a call is invoked, it takes effect in one
atomic step between its invocation and its response, and it responds.  A
concurrent system whose steps can be matched by steps of the atomic object has
only linearizable histories; that is `Config.Reachable.linearization`.

An order of calls explains a history (`Linearization`) when the specification
can run the calls one after the other in that order with the answers they got,
every call that responded is in the order, and a call that responded before
another was invoked comes first.
-/

namespace StorePulse

namespace Linearizability

variable {σ Op Ret : Type}

/-- What the clients see. -/
inductive Event (Op Ret : Type) where
  /-- Call `i` begins. -/
  | invoke (i : Nat) (op : Op)
  /-- Call `i` ends with an answer. -/
  | respond (i : Nat) (ret : Ret)

/-- The call an event is about. -/
def Event.id : Event Op Ret → Nat
  | .invoke i _ => i
  | .respond i _ => i

/-- A call that has taken effect. -/
structure Call (Op Ret : Type) where
  /-- Its identity. -/
  id : Nat
  /-- What was asked. -/
  op : Op
  /-- What is answered. -/
  ret : Ret

/-! ## Sequential runs -/

/-- The specification runs the calls one after the other, with their answers. -/
inductive Replay (spec : σ → Op → Ret → σ → Prop) : σ → List (Call Op Ret) → σ → Prop where
  | nil (s : σ) : Replay spec s [] s
  | cons {s s' s'' : σ} {c : Call Op Ret} {cs : List (Call Op Ret)} :
      spec s c.op c.ret s' → Replay spec s' cs s'' → Replay spec s (c :: cs) s''

variable {spec : σ → Op → Ret → σ → Prop} {s s' s'' init : σ} {c : Call Op Ret}
  {cs ds : List (Call Op Ret)}

theorem Replay.append (h : Replay spec s cs s') (h' : Replay spec s' ds s'') :
    Replay spec s (cs ++ ds) s'' := by
  induction h with
  | nil => exact h'
  | cons hs _ ih => exact .cons hs (ih h')

theorem Replay.snoc (h : Replay spec s cs s') (hs : spec s' c.op c.ret s'') :
    Replay spec s (cs ++ [c]) s'' := h.append (.cons hs (.nil _))

theorem Replay.of_append (h : Replay spec s (cs ++ ds) s'') :
    ∃ m, Replay spec s cs m ∧ Replay spec m ds s'' := by
  induction cs generalizing s with
  | nil => exact ⟨s, .nil s, h⟩
  | cons c cs ih =>
      cases h with
      | cons hs ht =>
          obtain ⟨m, hm, hd⟩ := ih ht
          exact ⟨m, .cons hs hm, hd⟩

/-- The state before a call of a sequential run, and the state after it. -/
theorem Replay.at (h : Replay spec s cs s'') (hc : c ∈ cs) :
    ∃ before after m m', cs = before ++ c :: after ∧ Replay spec s before m ∧
      spec m c.op c.ret m' ∧ Replay spec m' after s'' := by
  obtain ⟨before, after, rfl⟩ := List.append_of_mem hc
  obtain ⟨m, hb, ha⟩ := h.of_append
  cases ha with
  | cons hs ht => exact ⟨before, after, m, _, rfl, hb, hs, ht⟩

/-- What the start meets and every step keeps, the end meets. -/
theorem Replay.invariant {I : σ → Prop} (h : Replay spec s cs s') (h0 : I s)
    (hstep : ∀ t op ret t', I t → spec t op ret t' → I t') : I s' := by
  induction h with
  | nil => exact h0
  | cons hs _ ih => exact ih (hstep _ _ _ _ h0 hs)

/-- A preorder that contains every step contains every run. -/
theorem Replay.mono {R : σ → σ → Prop} (hrefl : ∀ t, R t t)
    (htrans : ∀ {a b c}, R a b → R b c → R a c)
    (hstep : ∀ t op ret t', spec t op ret t' → R t t') (h : Replay spec s cs s') : R s s' := by
  induction h with
  | nil => exact hrefl _
  | cons hs _ ih => exact htrans (hstep _ _ _ _ hs) ih

/-- A sequential run of one specification is one of another, when the calls of the run are
calls of the other as far as an invariant holds. -/
theorem Replay.imp {spec' : σ → Op → Ret → σ → Prop} {I : σ → Prop} (h : Replay spec s cs s')
    (h0 : I s) (hstep : ∀ c ∈ cs, ∀ t t', I t → spec t c.op c.ret t' →
      I t' ∧ spec' t c.op c.ret t') : Replay spec' s cs s' := by
  induction h with
  | nil => exact .nil _
  | cons hs _ ih =>
      obtain ⟨hI, hs'⟩ := hstep _ (List.mem_cons_self ..) _ _ h0 hs
      exact .cons hs' (ih hI fun c hc => hstep c (List.mem_cons_of_mem _ hc))

/-! ## Precedence in a list -/

section Precedence

variable {α : Type} {a b x : α} {l : List α}

/-- A pair in the order of a list grows by the pairs that end in the new element. -/
theorem pair_sublist_snoc :
    List.Sublist [a, b] (l ++ [x]) ↔ List.Sublist [a, b] l ∨ a ∈ l ∧ b = x := by
  constructor
  · intro h
    obtain ⟨l₁, l₂, he, h₁, h₂⟩ := List.sublist_append_iff.mp h
    cases l₂ with
    | nil =>
        rw [List.append_nil] at he
        exact Or.inl (he ▸ h₁)
    | cons y ys =>
        have hys : ys = [] := by
          have := h₂.length_le
          simp only [List.length_cons, List.length_nil] at this
          exact List.eq_nil_of_length_eq_zero (by omega)
        subst hys
        have hy : y = x := by simpa using h₂
        have hb : l₁ = [a] ∧ b = y := by
          have he' : [a] ++ [b] = l₁ ++ [y] := he
          have := List.append_inj' he' rfl
          exact ⟨this.1.symm, by simpa using this.2⟩
        rw [hb.1] at h₁
        exact Or.inr ⟨List.singleton_sublist.mp h₁, hb.2.trans hy⟩
  · rintro (h | ⟨ha, rfl⟩)
    · exact h.trans (List.sublist_append_left l [x])
    · exact (List.singleton_sublist.mpr ha).append (List.Sublist.refl [b])

end Precedence

/-- Of two different elements of a list one comes first. -/
theorem pair_sublist_or {α : Type} {a b : α} {l : List α} (ha : a ∈ l) (hb : b ∈ l)
    (hne : a ≠ b) : List.Sublist [a, b] l ∨ List.Sublist [b, a] l := by
  obtain ⟨l₁, l₂, rfl⟩ := List.append_of_mem ha
  rcases List.mem_append.mp hb with hb | hb
  · have h₁ := List.singleton_sublist.mpr hb
    have h₂ : List.Sublist [a] (a :: l₂) := List.singleton_sublist.mpr (List.mem_cons_self ..)
    exact Or.inr (h₁.append h₂)
  · have h₂ := List.singleton_sublist.mpr ((List.mem_cons.mp hb).resolve_left hne.symm)
    exact Or.inl ((h₂.cons_cons a).trans (List.sublist_append_right l₁ _))

/-- The states around two calls of a sequential run, in the order they are in. -/
theorem Replay.pair {d : Call Op Ret} (h : Replay spec s cs s'')
    (hp : List.Sublist [c, d] cs) : ∃ m m' n n' before between after,
      Replay spec s before m ∧ spec m c.op c.ret m' ∧ Replay spec m' between n ∧
      spec n d.op d.ret n' ∧ Replay spec n' after s'' := by
  obtain ⟨l₁, l₂, rfl, hc, hd⟩ := List.cons_sublist_iff.mp hp
  obtain ⟨a, b, rfl⟩ := List.append_of_mem hc
  obtain ⟨x, y, rfl⟩ := List.append_of_mem (List.singleton_sublist.mp hd)
  rw [List.append_assoc, List.cons_append, ← List.append_assoc] at h
  obtain ⟨m, hm, h⟩ := h.of_append
  cases h with
  | cons hc h =>
      obtain ⟨n, hn, h⟩ := h.of_append
      cases h with
      | cons hd h => exact ⟨m, _, n, _, a, _, y, hm, hc, hn, hd, h⟩

/-! ## The atomic object -/

/-- The atomic object: its state, the calls that have taken effect in the order
they did, and the history. -/
structure Config (σ Op Ret : Type) where
  /-- The state of the object. -/
  state : σ
  /-- The calls that have taken effect, oldest first. -/
  order : List (Call Op Ret)
  /-- What the clients have seen, oldest first. -/
  history : List (Event Op Ret)

namespace Config

/-- One step of the atomic object. -/
inductive Step (spec : σ → Op → Ret → σ → Prop) : Config σ Op Ret → Config σ Op Ret → Prop where
  | invoke (A : Config σ Op Ret) (i : Nat) (op : Op) :
      (∀ e ∈ A.history, e.id ≠ i) →
      Step spec A { A with history := A.history ++ [.invoke i op] }
  | linearize (A : Config σ Op Ret) (c : Call Op Ret) (s' : σ) :
      .invoke c.id c.op ∈ A.history → c.id ∉ A.order.map Call.id →
      spec A.state c.op c.ret s' →
      Step spec A { A with state := s', order := A.order ++ [c] }
  | respond (A : Config σ Op Ret) (c : Call Op Ret) :
      c ∈ A.order →
      Step spec A { A with history := A.history ++ [.respond c.id c.ret] }

/-- The object before any call. -/
def start (init : σ) : Config σ Op Ret := ⟨init, [], []⟩

/-- The configurations the atomic object can be in. -/
def Reachable (spec : σ → Op → Ret → σ → Prop) (init : σ) (A : Config σ Op Ret) : Prop :=
  Relation.ReflTransGen (Step spec) (start init) A

theorem Reachable.step {A A' : Config σ Op Ret} (h : Reachable spec init A)
    (hs : Step spec A A') : Reachable spec init A' := Relation.ReflTransGen.tail h hs

end Config

/-! ## Explained histories -/

/-- An order of calls that explains a history. -/
structure Linearization (spec : σ → Op → Ret → σ → Prop) (init : σ)
    (history : List (Event Op Ret)) (order : List (Call Op Ret)) (state : σ) : Prop where
  /-- The specification runs the calls in this order, with their answers. -/
  replay : Replay spec init order state
  /-- No call takes effect twice. -/
  once : (order.map Call.id).Nodup
  /-- A call takes effect with what was asked. -/
  invoked : ∀ c ∈ order, .invoke c.id c.op ∈ history
  /-- A call that responded took effect, with that answer. -/
  responded : ∀ i ret, .respond i ret ∈ history → ∃ c ∈ order, c.id = i ∧ c.ret = ret
  /-- A call that responded before another was invoked took effect first. -/
  realTime : ∀ i ret j op, List.Sublist [.respond i ret, .invoke j op] history →
    j ∈ order.map Call.id → List.Sublist [i, j] (order.map Call.id)

/-- An order that explains a history by one specification explains it by another, when the
calls of the order are calls of the other as far as an invariant holds. -/
theorem Linearization.imp {spec' : σ → Op → Ret → σ → Prop} {I : σ → Prop}
    {history : List (Event Op Ret)} {state : σ}
    (h : Linearization spec init history cs state) (h0 : I init)
    (hstep : ∀ c ∈ cs, ∀ t t', I t → spec t c.op c.ret t' → I t' ∧ spec' t c.op c.ret t') :
    Linearization spec' init history cs state :=
  ⟨h.replay.imp h0 hstep, h.once, h.invoked, h.responded, h.realTime⟩

/-- Every history of the atomic object is explained by the order in which the
calls took effect. -/
theorem Config.Reachable.linearization {A : Config σ Op Ret} (h : Reachable spec init A) :
    Linearization spec init A.history A.order A.state := by
  induction h with
  | refl =>
      refine ⟨.nil _, List.nodup_nil, ?_, ?_, ?_⟩
      · intro c hc
        cases hc
      · intro i ret hr
        cases hr
      · intro i ret j op hs
        cases hs
  | @tail A _ _ hstep ih =>
      cases hstep with
      | invoke i op hfresh =>
          refine ⟨ih.replay, ih.once, fun c hc => List.mem_append_left _ (ih.invoked c hc), ?_, ?_⟩
          · intro j ret hr
            rw [List.mem_append, List.mem_singleton] at hr
            rcases hr with hr | hr
            · exact ih.responded j ret hr
            · cases hr
          · intro j ret k op' hs hk
            rcases pair_sublist_snoc.mp hs with hs | ⟨_, he⟩
            · exact ih.realTime j ret k op' hs hk
            · -- a call that has just been invoked has not taken effect
              obtain ⟨c, hc, rfl⟩ := List.mem_map.mp hk
              cases he
              exact absurd rfl (hfresh _ (ih.invoked c hc))
      | linearize c s' hinv hnew hspec =>
          refine ⟨ih.replay.snoc hspec, ?_, ?_, ?_, ?_⟩
          · rw [List.map_append, List.map_singleton, ← List.concat_eq_append]
            exact ih.once.concat hnew
          · intro d hd
            rw [List.mem_append, List.mem_singleton] at hd
            rcases hd with hd | rfl
            · exact ih.invoked d hd
            · exact hinv
          · intro i ret hr
            obtain ⟨d, hd, he⟩ := ih.responded i ret hr
            exact ⟨d, List.mem_append_left _ hd, he⟩
          · intro i ret j op hs hj
            rw [List.map_append, List.map_singleton] at hj ⊢
            rw [pair_sublist_snoc]
            rw [List.mem_append, List.mem_singleton] at hj
            rcases hj with hj | rfl
            · exact Or.inl (ih.realTime i ret j op hs hj)
            · -- the earlier call has responded, so it took effect before
              obtain ⟨d, hd, hid, _⟩ := ih.responded i ret (hs.subset (by simp))
              exact Or.inr ⟨hid ▸ List.mem_map_of_mem hd, rfl⟩
      | respond c hc =>
          refine ⟨ih.replay, ih.once, fun d hd => List.mem_append_left _ (ih.invoked d hd), ?_, ?_⟩
          · intro i ret hr
            rw [List.mem_append, List.mem_singleton] at hr
            rcases hr with hr | hr
            · exact ih.responded i ret hr
            · cases hr
              exact ⟨c, hc, rfl, rfl⟩
          · intro i ret j op hs hj
            rcases pair_sublist_snoc.mp hs with hs | ⟨_, he⟩
            · exact ih.realTime i ret j op hs hj
            · cases he

end Linearizability

end StorePulse
