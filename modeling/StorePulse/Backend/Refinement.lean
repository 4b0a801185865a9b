import StorePulse.Backend.Invariant

/-!
# The server refines the specification

Each call of `create_event` takes effect in one step of the table between its
arrival and its answer.  The step is the one at which it is decided what the
call will be answered (`Program.decided`): the `COMMIT` when it is accepted, the
end of its transaction when its own stored row was found, and otherwise the
statement whose result made it give up.

`Simulates` relates a state of the server to one of the atomic object of
`Linearizability`, and every step of the server is matched by at most one step
of the atomic object (`World.Simulates.step`).
-/

namespace StorePulse

open Linearizability (Config Linearization)

variable {cat : Catalogue} {db db' : Db} {i : Nat} {p : EventCreate}

/-! ## When a call is decided -/

/-- The answer a program will give, once it sends no more statements. -/
def Program.decided : Program Effects Answer → Option Answer
  | .ret a => some a
  | .call (.broadcast _) k => (k ()).decided
  | .call _ _ => none

/-- The answer that is decided at a point. -/
def Point.decision : Point → Option Answer
  | .broadcast result => some (.event 201 result)
  | .done answer => some answer
  | _ => none

theorem Point.decided_resume {pt : Point} (ha : pt.Aligned p) :
    (pt.resume p).decided = pt.decision := by
  cases pt with
  | broadcast result => rfl
  | done answer => rfl
  | _ =>
      -- every other point starts with a statement
      obtain ⟨k, hk⟩ := resume_effect ha rfl
      rw [hk]
      rfl

/-! ## What the deciding step does -/

namespace Point

variable {pt pt' : Point} {store : Store} {product : Product}

/-- A refund that does not match its original. -/
theorem mismatch_some {original : PosEvent} {m : String}
    (h : mismatch store product original = some m) :
    original.storeId ≠ store.id ∨ original.productId ≠ product.id := by
  by_contra hn
  rw [not_or, not_not, not_not] at hn
  rw [mismatch, if_neg (not_not_intro hn.1), if_neg (not_not_intro hn.2)] at h
  cases h

/-- A refund that exceeds a limit. -/
theorem exceeded_some {original : PosEvent} {m : String} (hown : db.events.own i = [])
    (h : exceeded p original (sums db i original.eventId) = some m) :
    ∃ d : Measure, d.of original.toEventValues <
      refundLedger.spent d db.events.committed original.eventId + d.asked p := by
  rw [exceeded, sums, TxTable.visible_of_own_nil hown] at h
  split at h
  · next hq =>
    refine ⟨.quantity, ?_⟩
    rw [spent_eq_sumOfRefunds]
    exact hq
  · split at h
    · next ha =>
      refine ⟨.amountCents, ?_⟩
      rw [spent_eq_sumOfRefunds]
      exact ha
    · cases h

/-- A refund with the key of none of the refunds of its original is not stored. -/
theorem not_matchesPayload_of_matched {original : PosEvent}
    (h : Matched db i p store product original) :
    ∀ r ∈ db.events.committed, ¬ MatchesPayload cat r p := by
  intro r hr hi
  refine h.unclaimed r hr hi.eventId ?_
  have hrefunds : r.refunds = some original.eventId := hi.refunds.trans h.names
  rw [PosEvent.refunds] at hrefunds
  split at hrefunds
  · exact hrefunds
  · cases hrefunds

/-- A request is not refused the key it was granted. -/
theorem no_duplicateKey {e : PosEvent} (hc : db.Consistent cat)
    (hown : db.events.own i = []) (hf : findEvent (db.events.visible i) p.eventId = none)
    (he : e ∈ db.events.committed ++ db.events.pending.map Prod.snd)
    (hg : db.locks.grantable LockMode.conflicts i (p.values store product).locks = true) :
    e.eventId ≠ p.eventId := by
  rcases List.mem_append.mp he with he | he
  · exact findEvent_not_committed hown hf e he
  · exact hc.key_free hg hown he

/-- The deciding move does to the table what the specification says. -/
theorem Move.spec {a : Answer} (hc : db.Consistent cat) (h : pt.Holds cat db i p)
    (hm : Move cat db i p pt pt' db') (hn : pt.decision = none) (hd : pt'.decision = some a) :
    Spec cat db.events.committed p a db'.events.committed := by
  have hk := h.knows
  cases hm with
  | begin | precheckMiss | precheckHit | storeMissing | storeRead | productMissing | productRead
  | storeFound | productOfSale | productOfRefund | originalLocked | recheckHit | recheckMiss
  | limitKept | insertConflict | inserted | insertedSeen | classifiedInvisible | classified
  | storeUpdated =>
      cases hd
  | storeUnreadable hs =>
      cases hd
      exact .refused (.unfit (by simp [EventCreate.fits, hs]))
  | storeUnknown hs =>
      cases hd
      exact .refused (.unknownStore hs)
  | productUnreadable hp =>
      cases hd
      exact .refused (.unfit (by simp [EventCreate.fits, hp]))
  | productUnknown hp =>
      cases hd
      exact .refused (.unknownProduct hp)
  | originalMissing hf =>
      cases hd
      exact .refused (.originalSaleNotFound hk.2
        (findEvent_not_committed (h.quiet not_false).1 hf))
  | originalInvalid hf hinv =>
      cases hd
      obtain ⟨hmem, hid⟩ := findEvent_committed (h.quiet not_false).1 hf
      exact .refused (.invalidOriginalSale hk.2 hmem hid hinv)
  | recheckMismatch _ hmis =>
      cases hd
      exact .refused (.refundReferenceMismatch hk.2.names hk.1.toLocated hk.2.stored rfl
        (mismatch_some hmis))
  | limitExceeded hl =>
      cases hd
      obtain ⟨d, hlt⟩ := exceeded_some (h.quiet not_false).1 hl
      exact .refused (.refundLimitExceeded hk.2.names hk.2.stored rfl hlt
        (not_matchesPayload_of_matched hk.2))
  | insertUnfit hfit =>
      cases hd
      refine .refused (.unfit (Bool.not_eq_true _ |>.mp fun hp => ?_))
      rw [EventCreate.fits_values _ _ hp] at hfit
      cases hfit
  | insertChecked hcheck =>
      rw [hk.2.check] at hcheck
      cases hcheck
  | insertDuplicateKey hf he hid hg =>
      exact absurd hid (no_duplicateKey hc (h.quiet not_false).1 hf he hg)
  | insertForeignKey hfk =>
      rw [hk.2.foreignKey hk.1.toLocated] at hfk
      cases hfk
  | @committed store =>
      cases hd
      obtain ⟨product, row, ha, rfl, _⟩ := hk
      show Spec cat _ p _ (db.events.committed ++ db.events.own i)
      rw [ha.own]
      exact .accepted ha.written ha.admits
  | rolledBack =>
      obtain ⟨e, he, _, hj⟩ := hk
      cases hj with
      | duplicate hi =>
          cases hd
          exact .duplicate he hi
      | conflict hi =>
          cases hd
          exact .refused (.eventConflict he ‹_› hi)
  | broadcast => cases hn

/-- A move that does not decide keeps the table, and what is decided stays. -/
theorem Move.undecided (hm : Move cat db i p pt pt' db') (hd : pt'.decision = none) :
    pt.decision = none ∧ db'.events.committed = db.events.committed := by
  cases hm with
  | committed => cases hd
  | broadcast => cases hd
  | _ => exact ⟨rfl, rfl⟩

theorem Move.decided {a : Answer} (hm : Move cat db i p pt pt' db') (hd : pt.decision = some a) :
    pt'.decision = some a ∧ db'.events.committed = db.events.committed := by
  cases hm with
  | broadcast => exact ⟨hd, rfl⟩
  | _ => cases hd

end Point

/-! ## The history of a run -/

/-- What a client of `create_event` sees of an entry. -/
def Entry.event? : Entry → Option (Linearizability.Event EventCreate Answer)
  | .arrived i (.event p) => some (.invoke i p)
  | .answered i (.event _) a => some (.respond i a)
  | _ => none

namespace World

variable {w w' : World}

/-- The history of the calls of `create_event`. -/
def history (w : World) : List (Linearizability.Event EventCreate Answer) :=
  w.log.filterMap Entry.event?

theorem entries_event? (db : Db) (i : Nat) (op : Op) :
    (op.entries db i).filterMap Entry.event? = [] := by
  cases op with
  | sql s => cases s <;> rfl
  | now => rfl
  | broadcast m => rfl

/-- A state of the server and a configuration of the atomic object. -/
structure Simulates (w : World) (A : Config (List PosEvent) EventCreate Answer) : Prop where
  state : A.state = w.db.events.committed
  history : A.history = w.history
  /-- Requests that have not arrived have no history. -/
  arrived : ∀ e ∈ A.history, e.id < w.requests.length
  invoked : ∀ (i : Nat) p program, w.requests[i]? = some ⟨.event p, .running program⟩ →
    .invoke i p ∈ A.history
  decided : ∀ (i : Nat) p program a, w.requests[i]? = some ⟨.event p, .running program⟩ →
    program.decided = some a → ⟨i, p, a⟩ ∈ A.order
  undecided : ∀ (i : Nat) p program, w.requests[i]? = some ⟨.event p, .running program⟩ →
    program.decided = none → i ∉ A.order.map Linearizability.Call.id

theorem simulates_initial (clock : Instant) : (initial clock).Simulates (.start []) where
  state := rfl
  history := rfl
  arrived e h := by cases h
  invoked i p program h := by simp [initial] at h
  decided i p program a h := by simp [initial] at h
  undecided i p program h := by simp [initial] at h

/-- A step that leaves the table and the history alone, and decides nothing new. -/
theorem Simulates.stutter {A : Config (List PosEvent) EventCreate Answer} (h : w.Simulates A)
    (hstate : w'.db.events.committed = w.db.events.committed) (hhistory : w'.history = w.history)
    (hlength : w.requests.length ≤ w'.requests.length)
    (hrequests : ∀ (j : Nat) p program, w'.requests[j]? = some ⟨.event p, .running program⟩ →
      ∃ program', w.requests[j]? = some ⟨.event p, .running program'⟩ ∧
        program.decided = program'.decided) : w'.Simulates A where
  state := h.state.trans hstate.symm
  history := h.history.trans hhistory.symm
  arrived e he := (h.arrived e he).trans_le hlength
  invoked j p program hj := by
    obtain ⟨program', hj', _⟩ := hrequests j p program hj
    exact h.invoked j p program' hj'
  decided j p program a hj hd := by
    obtain ⟨program', hj', he⟩ := hrequests j p program hj
    exact h.decided j p program' a hj' (he ▸ hd)
  undecided j p program hj hd := by
    obtain ⟨program', hj', he⟩ := hrequests j p program hj
    exact h.undecided j p program' hj' (he ▸ hd)

/-- Another request is as it was. -/
theorem getElem?_set_other {r r' : Request} {j : Nat} (hj : j ≠ i)
    (h : (w.requests.set i r)[j]? = some r') : w.requests[j]? = some r' := by
  rwa [List.getElem?_set_ne (Ne.symm hj)] at h

/-- The request that made a step is as it was set. -/
theorem getElem?_set_same {r r₀ r' : Request} (hi : w.requests[i]? = some r₀)
    (h : (w.requests.set i r)[i]? = some r') : r' = r := by
  rw [List.getElem?_set_self (lt_of_getElem? hi)] at h
  exact (Option.some.inj h).symm

/-- A request that ends leaves the atomic object alone. -/
theorem Simulates.ended {A : Config (List PosEvent) EventCreate Answer} {r r' : Request}
    {log : List Entry} (h : w.Simulates A) (hr : w.requests[i]? = some r)
    (hended : ∀ program, r'.state ≠ .running program)
    (hlog : log.filterMap Entry.event? = w.history) :
    Simulates ⟨w.db.rollback i, w.requests.set i r', log⟩ A := by
  refine h.stutter rfl hlog (List.length_set.ge) fun j p program hj => ?_
  by_cases hji : j = i
  · subst hji
    have := getElem?_set_same hr hj
    exact absurd (congrArg Request.state this).symm (hended program)
  · exact ⟨program, getElem?_set_other hji hj, rfl⟩

theorem history_append (w : World) (db : Db) (requests : List Request) (entries : List Entry) :
    history ⟨db, requests, w.log ++ entries⟩ =
      w.history ++ entries.filterMap Entry.event? := List.filterMap_append

/-- The request at a position of a list to which one was appended. -/
theorem getElem?_arrived {requests : List Request} {r r' : Request} {j : Nat}
    (h : (requests ++ [r])[j]? = some r') :
    requests[j]? = some r' ∨ j = requests.length ∧ r' = r := by
  rw [List.getElem?_append] at h
  split at h
  · exact Or.inl h
  · next hlt =>
    obtain ⟨hlen, he⟩ := List.getElem?_eq_some_iff.mp h
    rw [List.length_singleton] at hlen
    exact Or.inr ⟨by omega, by simpa using he.symm⟩

section Matching

variable {A : Config (List PosEvent) EventCreate Answer}

/-- The answers the server can still give, and those it has given, are explained. -/
def Explained (cat : Catalogue) (w : World) : Prop :=
  ∃ A : Config (List PosEvent) EventCreate Answer, A.Reachable (Spec cat) [] ∧ w.Simulates A

/-- The arrival of a call of `create_event` is its invocation. -/
theorem Simulates.arrive_event (hA : A.Reachable (Spec cat) []) (h : w.Simulates A)
    (p : EventCreate) :
    Explained cat { w with
      requests := w.requests ++ [⟨.event p, .running (createEvent p)⟩]
      log := w.log ++ [.arrived w.requests.length (.event p)] } := by
  have hfresh : ∀ e ∈ A.history, e.id ≠ w.requests.length := fun e he => (h.arrived e he).ne
  have hdecided : (createEvent p).decided = none :=
    Point.decided_resume (show Point.Aligned p .begin from trivial)
  refine ⟨_, hA.step (.invoke A w.requests.length p hfresh), ⟨h.state, ?_, ?_, ?_, ?_, ?_⟩⟩
  · rw [history_append, ← h.history]
    rfl
  · intro e he
    rw [List.length_append, List.length_singleton]
    rcases List.mem_append.mp he with he | he
    · exact (h.arrived e he).trans (Nat.lt_succ_self _)
    · obtain rfl := List.mem_singleton.mp he
      exact Nat.lt_succ_self _
  · intro j q program hj
    rcases getElem?_arrived hj with hj | ⟨rfl, he⟩
    · exact List.mem_append_left _ (h.invoked j q program hj)
    · cases he
      exact List.mem_append_right _ (List.mem_singleton_self _)
  · intro j q program a hj hd
    rcases getElem?_arrived hj with hj | ⟨rfl, he⟩
    · exact h.decided j q program a hj hd
    · cases he
      rw [hdecided] at hd
      cases hd
  · intro j q program hj hd
    rcases getElem?_arrived hj with hj | ⟨rfl, he⟩
    · exact h.undecided j q program hj hd
    · -- a call that has taken effect was invoked before
      intro hmem
      obtain ⟨c, hc, hid⟩ := List.mem_map.mp hmem
      exact hfresh _ (hA.linearization.invoked c hc) hid

/-- The arrival of a heartbeat is nothing to the event table. -/
theorem Simulates.arrive_heartbeat (hA : A.Reachable (Spec cat) []) (h : w.Simulates A)
    (c : String) :
    Explained cat { w with
      requests := w.requests ++ [⟨.heartbeat c, .running (heartbeat c)⟩]
      log := w.log ++ [.arrived w.requests.length (.heartbeat c)] } := by
  refine ⟨A, hA, h.stutter rfl ?_ ?_ fun j p program hj => ?_⟩
  · rw [history_append]
    exact List.append_nil _
  · rw [List.length_append]
    exact Nat.le_add_right _ _
  · rcases getElem?_arrived hj with hj | ⟨_, he⟩
    · exact ⟨program, hj, rfl⟩
    · cases he

/-- An effect of a heartbeat is nothing to the event table. -/
theorem Simulates.perform_heartbeat {c : String} {op : Op}
    {k : op.Reply → Program Effects Answer} {reply : op.Reply}
    (hA : A.Reachable (Spec cat) []) (hok : w.Ok cat) (h : w.Simulates A)
    (hr : w.requests[i]? = some ⟨.heartbeat c, .running (.call op k)⟩)
    (hp : perform cat w.db i op = some (reply, db')) :
    Explained cat ⟨db', w.requests.set i ⟨.heartbeat c, .running (k reply)⟩,
      w.log ++ op.entries w.db i⟩ := by
  obtain ⟨pt, pt', _, _, hh, hm, _⟩ := hok.heartbeatMove hr hp
  have hcommitted : db'.events.committed = w.db.events.committed := by
    rcases hm.committed_eq with ⟨he, _⟩ | ⟨store, t, rfl, rfl⟩
    · exact he
    · show w.db.events.committed ++ w.db.events.own i = _
      rw [hh.events, List.append_nil]
  refine ⟨A, hA, h.stutter hcommitted ?_ List.length_set.ge fun j p program hj => ?_⟩
  · rw [history_append, entries_event?, List.append_nil]
  · by_cases hji : j = i
    · subst hji
      cases getElem?_set_same hr hj
    · exact ⟨program, getElem?_set_other hji hj, rfl⟩

/-- An effect of a call of `create_event` lets the call take effect, or is nothing to the
event table. -/
theorem Simulates.perform_event {op : Op} {k : op.Reply → Program Effects Answer}
    {reply : op.Reply} (hA : A.Reachable (Spec cat) []) (hok : w.Ok cat) (h : w.Simulates A)
    (hr : w.requests[i]? = some ⟨.event p, .running (.call op k)⟩)
    (hp : perform cat w.db i op = some (reply, db')) :
    Explained cat ⟨db', w.requests.set i ⟨.event p, .running (k reply)⟩,
      w.log ++ op.entries w.db i⟩ := by
  obtain ⟨pt, pt', hpt, hpt', hh, hm, hh'⟩ := hok.move hr hp
  have hbefore : (Program.call op k).decided = pt.decision := by
    rw [← hpt]
    exact Point.decided_resume hh.aligned
  have hafter : (k reply).decided = pt'.decision := by
    rw [hpt']
    exact Point.decided_resume hh'.aligned
  have hhistory : World.history ⟨db', w.requests.set i ⟨.event p, .running (k reply)⟩,
      w.log ++ op.entries w.db i⟩ = w.history := by
    rw [history_append, entries_event?, List.append_nil]
  have hstutter : pt'.decision = pt.decision →
      db'.events.committed = w.db.events.committed →
      Simulates ⟨db', w.requests.set i ⟨.event p, .running (k reply)⟩,
        w.log ++ op.entries w.db i⟩ A := by
    intro hd hcommitted
    refine h.stutter hcommitted hhistory List.length_set.ge fun j q program hj => ?_
    by_cases hji : j = i
    · subst hji
      cases getElem?_set_same hr hj
      exact ⟨_, hr, by rw [hafter, hbefore, hd]⟩
    · exact ⟨program, getElem?_set_other hji hj, rfl⟩
  cases hd' : pt'.decision with
  | none =>
      obtain ⟨hd, hcommitted⟩ := hm.undecided hd'
      exact ⟨A, hA, hstutter (hd'.trans hd.symm) hcommitted⟩
  | some a =>
      cases hd : pt.decision with
      | some b =>
          obtain ⟨he, hcommitted⟩ := hm.decided hd
          exact ⟨A, hA, hstutter (he.trans hd.symm) hcommitted⟩
      | none =>
          -- the call takes effect
          have hspec := hm.spec hok.consistent hh hd hd'
          rw [← h.state] at hspec
          have hnew := h.undecided i p _ hr (hbefore.trans hd)
          have hmem : ∀ {x}, x ∈ A.order → x ∈ A.order ++ [⟨i, p, a⟩] :=
            fun hx => List.mem_append_left _ hx
          refine ⟨_, hA.step (.linearize A ⟨i, p, a⟩ db'.events.committed
            (h.invoked i p _ hr) hnew hspec), ⟨rfl, h.history.trans hhistory.symm, ?_, ?_, ?_, ?_⟩⟩
          · intro e he
            rw [List.length_set]
            exact h.arrived e he
          · intro j q program hj
            by_cases hji : j = i
            · subst hji
              cases getElem?_set_same hr hj
              exact h.invoked j p _ hr
            · exact h.invoked j q program (getElem?_set_other hji hj)
          · intro j q program b hj hb
            by_cases hji : j = i
            · subst hji
              cases getElem?_set_same hr hj
              rw [hafter, hd'] at hb
              cases hb
              exact List.mem_append_right _ (List.mem_singleton_self _)
            · exact hmem (h.decided j q program b (getElem?_set_other hji hj) hb)
          · intro j q program hj hb
            by_cases hji : j = i
            · subst hji
              cases getElem?_set_same hr hj
              rw [hafter, hd'] at hb
              cases hb
            · have := h.undecided j q program (getElem?_set_other hji hj) hb
              rw [List.map_append, List.mem_append, not_or]
              exact ⟨this, by simpa using hji⟩

/-- The answer of a call of `create_event` is its response. -/
theorem Simulates.answer_event {a : Answer} (hA : A.Reachable (Spec cat) []) (h : w.Simulates A)
    (hr : w.requests[i]? = some ⟨.event p, .running (.ret a)⟩) :
    Explained cat ⟨w.db.rollback i, w.requests.set i ⟨.event p, .answered a⟩,
      w.log ++ [.answered i (.event p) a]⟩ := by
  refine ⟨_, hA.step (.respond A ⟨i, p, a⟩ (h.decided i p _ a hr rfl)), ?_⟩
  have hother : ∀ {j : Nat} {q program},
      (w.requests.set i ⟨.event p, .answered a⟩)[j]? = some ⟨.event q, .running program⟩ →
      w.requests[j]? = some ⟨.event q, .running program⟩ := by
    intro j q program hj
    by_cases hji : j = i
    · subst hji
      cases getElem?_set_same hr hj
    · exact getElem?_set_other hji hj
  refine ⟨h.state, ?_, ?_, ?_, ?_, ?_⟩
  · rw [history_append, ← h.history]
    rfl
  · intro e he
    rw [List.length_set]
    rcases List.mem_append.mp he with he | he
    · exact h.arrived e he
    · obtain rfl := List.mem_singleton.mp he
      exact lt_of_getElem? hr
  · exact fun j q program hj => List.mem_append_left _ (h.invoked j q program (hother hj))
  · exact fun j q program b hj hb => h.decided j q program b (hother hj) hb
  · exact fun j q program hj hb => h.undecided j q program (hother hj) hb

/-- Every step of the server is matched by at most one step of the atomic object. -/
theorem Simulates.step {l : Label} (hA : A.Reachable (Spec cat) []) (hok : w.Ok cat)
    (h : w.Simulates A) (hs : w.step cat l = some w') : Explained cat w' := by
  cases step_cases hs with
  | tick => exact ⟨A, hA, h.stutter rfl rfl le_rfl fun j p program hj => ⟨program, hj, rfl⟩⟩
  | lock => exact ⟨A, hA, h.stutter rfl rfl le_rfl fun j p program hj => ⟨program, hj, rfl⟩⟩
  | @arrive call =>
      cases call with
      | event p => exact h.arrive_event hA p
      | heartbeat c => exact h.arrive_heartbeat hA c
  | @perform i call op k reply db hr hp =>
      cases call with
      | event p => exact h.perform_event hA hok hr hp
      | heartbeat c => exact h.perform_heartbeat hA hok hr hp
  | @answer i call a hr =>
      cases call with
      | event p => exact h.answer_event hA hr
      | heartbeat c =>
          refine ⟨A, hA, h.ended hr (fun _ hn => by cases hn) ?_⟩
          rw [List.filterMap_append]
          exact List.append_nil _
  | @abort i call program hr =>
      refine ⟨A, hA, h.ended hr (fun _ hn => by cases hn) ?_⟩
      rw [List.filterMap_append]
      exact List.append_nil _

end Matching

/-- Every reachable state is a state of the atomic object. -/
theorem Reachable.explained (h : Reachable cat w) : Explained cat w := by
  obtain ⟨clock, hr⟩ := h
  have hinit : Explained cat (initial clock) := ⟨_, .refl, simulates_initial clock⟩
  exact hr.invariant hinit fun v _ _ hv ⟨_, hA, hsim⟩ hs =>
    hsim.step hA (Reachable.ok ⟨clock, hv⟩) hs

/-- Every history of the server is explained by an order of the calls. -/
theorem Reachable.linearization (h : Reachable cat w) :
    ∃ order, Linearization (Spec cat) [] w.history order w.db.events.committed := by
  obtain ⟨A, hA, hsim⟩ := h.explained
  refine ⟨A.order, ?_⟩
  rw [← hsim.history, ← hsim.state]
  exact hA.linearization

end World

end StorePulse
