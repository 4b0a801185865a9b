import StorePulse.Backend.Database

/-!
# What a statement does

One equation or inversion lemma for each kind of statement, so that no later
proof unfolds `Db.exec`.  The second half looks at a statement from outside:
what it keeps of the lock table, and what another transaction may notice of it
(`Db.Rely`).  The only thing a transaction may notice is that rows have been
committed, and no such row falls under a lock it holds.
-/

namespace StorePulse

variable {cat : Catalogue} {db db' : Db} {i j : Nat}

@[simp] theorem LockTable.acquire_nil {Resource Mode : Type} (t : LockTable Resource Mode)
    (i : Nat) : t.acquire i [] = t := by
  simp [LockTable.acquire]

@[simp] theorem LockTable.grantable_nil (t : LockTable Resource LockMode) (i : Nat) :
    t.grantable LockMode.conflicts i [] = true := by
  simp [LockTable.grantable]

namespace Db

/-! ## Equations -/

/-- Give locks to transaction `i`. -/
def lock (db : Db) (i : Nat) (needs : List Lock) : Db :=
  { db with locks := db.locks.acquire i needs }

@[simp] theorem lock_nil : db.lock i [] = db := by
  simp [lock]

theorem exec_of_needs_nil {s : Stmt} (h : db.needs i s = []) :
    db.exec cat i s = some (db.effect cat i s) := by
  simp [exec, h]

@[simp] theorem exec_begin : db.exec cat i .begin =
    some (.ok (), { db with sessions := db.sessions ++ [(i, db.clock)] }) :=
  exec_of_needs_nil rfl

@[simp] theorem exec_selectEvent (eventId : UUID) : db.exec cat i (.selectEvent eventId) =
    some (.ok (findEvent (db.events.visible i) eventId), db) := exec_of_needs_nil rfl

@[simp] theorem exec_selectStore (code : String) : db.exec cat i (.selectStore code) =
    some (if noNul code then .ok ((cat.storeByCode code).map (db.loadStore i))
      else .error .dataError, db) :=
  exec_of_needs_nil rfl

@[simp] theorem exec_selectProduct (sku : String) : db.exec cat i (.selectProduct sku) =
    some (if noNul sku then .ok (cat.productBySku sku) else .error .dataError, db) :=
  exec_of_needs_nil rfl

@[simp] theorem exec_getStore (id : UUID) : db.exec cat i (.getStore id) =
    some (.ok (cat.storeById id), db) := exec_of_needs_nil rfl

@[simp] theorem exec_getProduct (id : UUID) : db.exec cat i (.getProduct id) =
    some (.ok (cat.productById id), db) := exec_of_needs_nil rfl

@[simp] theorem exec_sumRefunds (original : UUID) : db.exec cat i (.sumRefunds original) =
    some (.ok (sumOfRefunds (fun e => e.quantity) (db.events.visible i) original,
      sumOfRefunds (fun e => e.amountCents) (db.events.visible i) original), db) :=
  exec_of_needs_nil rfl

@[simp] theorem exec_commit : db.exec cat i .commit = some (.ok (), db.commit i) :=
  exec_of_needs_nil rfl

@[simp] theorem exec_rollback : db.exec cat i .rollback = some (.ok (), db.rollback i) :=
  exec_of_needs_nil rfl

/-! ## Statements that wait -/

/-- A statement that is executed has been granted its locks. -/
theorem exec_granted {s : Stmt} {r : Except SqlError s.Result}
    (h : db.exec cat i s = some (r, db')) :
    db.locks.grantable LockMode.conflicts i (db.needs i s) = true ∧
      (db.lock i (db.needs i s)).effect cat i s = (r, db') := by
  rw [exec] at h
  split at h
  case isTrue hg => exact ⟨hg, by simpa [lock] using h⟩
  case isFalse => cases h

theorem exec_lockEvent {eventId : UUID} {r : Except SqlError (Option PosEvent)}
    (h : db.exec cat i (.lockEvent eventId) = some (r, db')) :
    (r = .ok none ∧ findEvent (db.events.visible i) eventId = none ∧ db' = db) ∨
    ∃ e, r = .ok (some e) ∧ findEvent (db.events.visible i) eventId = some e ∧
      db' = db.lock i [(.event eventId, .forUpdate)] := by
  obtain ⟨_, he⟩ := exec_granted h
  simp only [effect, Prod.mk.injEq] at he
  obtain ⟨rfl, rfl⟩ := he
  cases hf : findEvent (db.events.visible i) eventId with
  | none => simp [needs, hf, lock]
  | some e => simp [needs, hf, lock]

theorem exec_updateLastSeen {store : UUID} {t : Instant} {r : Except SqlError Unit}
    (h : db.exec cat i (.updateLastSeen store t) = some (r, db')) :
    r = .ok () ∧ db' = { db.lock i [(.store store, .forNoKeyUpdate)] with
      lastSeen := db.lastSeen.write i (store, t) } := by
  obtain ⟨_, he⟩ := exec_granted h
  simp only [effect, Prod.mk.injEq] at he
  exact ⟨he.1.symm, he.2.symm⟩

/-- The row an `INSERT` of transaction `i` writes. -/
def newRow (db : Db) (i : Nat) (v : EventValues) : PosEvent :=
  { v with receivedAt := db.transactionStart i }

/-- What an `INSERT` can do. -/
theorem exec_insertEvent {v : EventValues} {r : Except SqlError (Option Instant)}
    (h : db.exec cat i (.insertEvent v) = some (r, db')) :
    (r = .error .dataError ∧ v.fitsColumns = false ∧ db' = db) ∨
    (∃ c, r = .error (.violation c) ∧ v.violatedCheck = some c ∧ db' = db) ∨
    (∃ e, r = .ok none ∧ findEvent (db.events.visible i) v.eventId = some e ∧ db' = db) ∨
    (r = .error (.violation .primaryKey) ∧ findEvent (db.events.visible i) v.eventId = none ∧
      (∃ e ∈ db.events.committed ++ db.events.pending.map Prod.snd, e.eventId = v.eventId) ∧
      db.locks.grantable LockMode.conflicts i v.locks = true ∧ db' = db.lock i v.locks) ∨
    (∃ c, r = .error (.violation c) ∧
      v.violatedForeignKey cat (db.events.visible i ++ [db.newRow i v]) = some c ∧
      db' = db.lock i v.locks) ∨
    (r = .ok (some (db.transactionStart i)) ∧ v.fitsColumns = true ∧ v.violatedCheck = none ∧
      findEvent (db.events.visible i) v.eventId = none ∧
      v.violatedForeignKey cat (db.events.visible i ++ [db.newRow i v]) = none ∧
      db' = { db.lock i v.locks with events := db.events.write i (db.newRow i v) }) := by
  obtain ⟨hg, he⟩ := exec_granted h
  by_cases hfit : v.fitsColumns = true
  swap
  · rw [Bool.not_eq_true] at hfit
    simp only [needs, effect, insertEvent, hfit, Bool.false_and, Bool.false_eq_true, if_false,
      not_false_eq_true, if_true, lock_nil, Prod.mk.injEq] at he
    exact Or.inl ⟨he.1.symm, hfit, he.2.symm⟩
  cases hcheck : v.violatedCheck with
  | some c =>
      simp only [needs, effect, insertEvent, hfit, hcheck, Option.isNone_some, Bool.and_false,
        Bool.false_and, Bool.false_eq_true, if_false, not_true_eq_false, lock_nil,
        Prod.mk.injEq] at he
      exact Or.inr (Or.inl ⟨c, he.1.symm, rfl, he.2.symm⟩)
  | none =>
      cases hfind : findEvent (db.events.visible i) v.eventId with
      | some e =>
          simp only [needs, effect, insertEvent, hfit, hcheck, hfind, Option.isNone_some,
            Option.isNone_none, Option.isSome_some, Bool.and_false, Bool.false_eq_true, if_false,
            if_true, not_true_eq_false, lock_nil, Prod.mk.injEq] at he
          exact Or.inr (Or.inr (Or.inl ⟨e, he.1.symm, rfl, he.2.symm⟩))
      | none =>
          have hneeds : db.needs i (.insertEvent v) = v.locks := by
            simp [needs, hfit, hcheck, hfind]
          rw [hneeds] at hg he
          have hrow : (db.lock i v.locks).events = db.events := rfl
          simp only [effect, insertEvent, hrow, hfit, hcheck, hfind, Option.isSome_none,
            Bool.false_eq_true, if_false, not_true_eq_false] at he
          split at he
          case isTrue hany =>
            cases he
            have hany' : ∃ e ∈ db.events.committed ++ db.events.pending.map Prod.snd,
                e.eventId = v.eventId := by
              simpa only [List.any_eq_true, beq_iff_eq] using hany
            exact Or.inr (Or.inr (Or.inr (Or.inl ⟨rfl, rfl, hany', hg, rfl⟩)))
          case isFalse =>
            split at he
            case h_1 c hc =>
              cases he
              exact Or.inr (Or.inr (Or.inr (Or.inr (Or.inl ⟨c, rfl, hc, rfl⟩))))
            case h_2 hc =>
              cases he
              exact Or.inr (Or.inr (Or.inr (Or.inr (Or.inr
                ⟨rfl, hfit, rfl, rfl, hc, rfl⟩))))

/-! ## Locks -/

theorem effect_locks (s : Stmt) : (db.effect cat i s).2.locks = db.locks ∨
    (db.effect cat i s).2.locks = db.locks.release i := by
  cases s with
  | commit => exact Or.inr rfl
  | rollback => exact Or.inr rfl
  | insertEvent v =>
      left
      simp only [effect, insertEvent]
      split
      · rfl
      · split
        · rfl
        · split
          · rfl
          · split
            · rfl
            · split <;> rfl
  | _ => exact Or.inl rfl

/-- No statement breaks the exclusion of conflicting locks. -/
theorem exec_exclusive {s : Stmt} {r : Except SqlError s.Result}
    (hx : db.locks.Exclusive LockMode.conflicts) (h : db.exec cat i s = some (r, db')) :
    db'.locks.Exclusive LockMode.conflicts := by
  obtain ⟨hg, he⟩ := exec_granted h
  have hacq : (db.lock i (db.needs i s)).locks.Exclusive LockMode.conflicts :=
    hx.acquire LockMode.conflicts_symm hg
  have hlocks := @effect_locks cat (db.lock i (db.needs i s)) i s
  rw [he] at hlocks
  rcases hlocks with hl | hl
  · rw [hl]
    exact hacq
  · rw [hl]
    exact hacq.release

/-! ## What others notice -/

/-- Every uncommitted row of transaction `i` is protected: `i` holds its key, and the
event it refunds. -/
def Guarded (db : Db) (i : Nat) : Prop :=
  ∀ r ∈ db.events.own i, (.eventKey r.eventId, .forUpdate) ∈ db.locks.own i ∧
    ∀ o, r.originalEventId = some o → (.event o, .forUpdate) ∈ db.locks.own i

/-- What transaction `i` may notice of the steps of others: time passes, and rows are
committed that fall under none of its locks. -/
structure Rely (i : Nat) (db db' : Db) : Prop where
  clock : db.clock ≤ db'.clock
  session : ownedBy db'.sessions i = ownedBy db.sessions i
  events : db'.events.own i = db.events.own i
  lastSeen : db'.lastSeen.own i = db.lastSeen.own i
  locks : db'.locks.own i = db.locks.own i
  growth : ∃ new, db'.events.committed = db.events.committed ++ new ∧
    ∀ r ∈ new, (.eventKey r.eventId, .forUpdate) ∉ db.locks.own i ∧
      ∀ o, r.originalEventId = some o → (.event o, .forUpdate) ∉ db.locks.own i

/-- A step that leaves `i` and the committed events alone. -/
theorem Rely.of_committed (hclock : db.clock ≤ db'.clock)
    (hsession : ownedBy db'.sessions i = ownedBy db.sessions i)
    (hevents : db'.events.own i = db.events.own i)
    (hlastSeen : db'.lastSeen.own i = db.lastSeen.own i)
    (hlocks : db'.locks.own i = db.locks.own i)
    (hcommitted : db'.events.committed = db.events.committed) : db.Rely i db' where
  clock := hclock
  session := hsession
  events := hevents
  lastSeen := hlastSeen
  locks := hlocks
  growth := ⟨[], by rw [hcommitted, List.append_nil], fun r hr => by cases hr⟩

theorem Rely.refl (db : Db) (i : Nat) : db.Rely i db :=
  .of_committed (Int.le_refl _) rfl rfl rfl rfl rfl

theorem Rely.tick {t : Instant} (h : db.clock ≤ t) (i : Nat) :
    db.Rely i { db with clock := t } := .of_committed h rfl rfl rfl rfl rfl

theorem Rely.lock {needs : List Lock} (h : j ≠ i) : db.Rely j (db.lock i needs) :=
  .of_committed (Int.le_refl _) rfl rfl rfl (LockTable.own_acquire_ne h) rfl

theorem Rely.rollback (h : j ≠ i) : db.Rely j (db.rollback i) :=
  .of_committed (Int.le_refl _) (ownedBy_disown_ne h) (TxTable.own_rollback_ne h)
    (TxTable.own_rollback_ne h) (LockTable.own_release_ne h) rfl

theorem Rely.commit (hx : db.locks.Exclusive LockMode.conflicts) (hg : db.Guarded i)
    (h : j ≠ i) : db.Rely j (db.commit i) where
  clock := Int.le_refl _
  session := ownedBy_disown_ne h
  events := TxTable.own_commit_ne h
  lastSeen := TxTable.own_commit_ne h
  locks := LockTable.own_release_ne h
  growth := by
    refine ⟨db.events.own i, rfl, fun r hr => ?_⟩
    obtain ⟨hkey, horiginal⟩ := hg r hr
    -- a lock of `j` on the same resource would exclude the one `i` holds
    exact ⟨fun hj => hx j i h _ hj _ hkey ⟨rfl, rfl⟩,
      fun o ho hj => hx j i h _ hj _ (horiginal o ho) ⟨rfl, rfl⟩⟩

/-- What others notice of a statement. -/
theorem exec_rely {s : Stmt} {r : Except SqlError s.Result}
    (hx : db.locks.Exclusive LockMode.conflicts) (hg : db.Guarded i) (hj : j ≠ i)
    (h : db.exec cat i s = some (r, db')) : db.Rely j db' := by
  cases s with
  | begin =>
      rw [exec_begin] at h
      cases h
      refine .of_committed (Int.le_refl _) ?_ rfl rfl rfl rfl
      rw [ownedBy_append]
      simp [ownedBy, Ne.symm hj]
  | lockEvent eventId =>
      rcases exec_lockEvent h with ⟨_, _, rfl⟩ | ⟨_, _, _, rfl⟩
      · exact .refl _ j
      · exact .lock hj
  | insertEvent v =>
      rcases exec_insertEvent h with ⟨_, _, rfl⟩ | ⟨_, _, _, rfl⟩ | ⟨_, _, _, rfl⟩ |
        ⟨_, _, _, _, rfl⟩ | ⟨_, _, _, rfl⟩ | ⟨_, _, _, _, _, rfl⟩
      · exact .refl _ j
      · exact .refl _ j
      · exact .refl _ j
      · exact .lock hj
      · exact .lock hj
      · exact .of_committed (Int.le_refl _) rfl (TxTable.own_write_ne hj) rfl
          (LockTable.own_acquire_ne hj) rfl
  | updateLastSeen store t =>
      obtain ⟨_, rfl⟩ := exec_updateLastSeen h
      exact .of_committed (Int.le_refl _) rfl rfl (TxTable.own_write_ne hj)
        (LockTable.own_acquire_ne hj) rfl
  | commit =>
      rw [exec_commit] at h
      cases h
      exact .commit hx hg hj
  | rollback =>
      rw [exec_rollback] at h
      cases h
      exact .rollback hj
  | selectEvent _ | selectStore _ | selectProduct _ | getStore _ | getProduct _ | sumRefunds _ =>
      rw [exec_of_needs_nil rfl] at h
      cases h
      exact .refl _ j

/-! ## Transactions that have ended -/

/-- Transaction `i` has nothing left: no session, no uncommitted write, no lock. -/
structure Idle (db : Db) (i : Nat) : Prop where
  session : ownedBy db.sessions i = []
  events : db.events.own i = []
  lastSeen : db.lastSeen.own i = []
  locks : db.locks.own i = []

theorem idle_initial (clock : Instant) : (initial clock).Idle i := ⟨rfl, rfl, rfl, rfl⟩

theorem idle_rollback : (db.rollback i).Idle i :=
  ⟨ownedBy_disown_self, TxTable.own_rollback_self, TxTable.own_rollback_self,
    LockTable.own_release_self⟩

theorem Idle.rely (h : db.Idle i) (hr : db.Rely i db') : db'.Idle i :=
  ⟨hr.session.trans h.session, hr.events.trans h.events, hr.lastSeen.trans h.lastSeen,
    hr.locks.trans h.locks⟩

theorem Idle.guarded (h : db.Idle i) : db.Guarded i := by
  intro r hr
  rw [h.events] at hr
  cases hr

end Db

end StorePulse
