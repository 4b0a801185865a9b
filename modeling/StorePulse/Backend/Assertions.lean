import StorePulse.Backend.Moves
import StorePulse.Backend.Specification

/-!
# What a request knows

Each control point carries an assertion (`Point.Holds`): what the request has
established about the table, which rows and versions it has written, and which
locks it has.  The assertion is stable: whatever others may do (`Db.Rely`)
keeps it.  Facts about committed rows are stable because rows are never changed
or removed.  Facts of the form "no such row" are stable only while a lock covers
them: the key of the new row, or the row lock on the original.

Locks have levels.  A request holds locks below the level of the point it is at,
and possibly some of the locks its next statement takes.
-/

namespace StorePulse

variable {cat : Catalogue} {db db' : Db} {i : Nat} {p : EventCreate}

/-! ## Levels of locks -/

/-- The level of a lock, in the order in which requests take them.  Shared locks that
nobody takes an exclusive lock against are at the bottom. -/
def Lock.level : Lock → Nat
  | (.store _, .forKeyShare) => 0
  | (.product _, .forKeyShare) => 0
  | (.event _, _) => 1
  | (.eventKey _, _) => 2
  | (.store _, .forNoKeyUpdate) => 3
  | _ => 4

/-- Locks of transaction `i` are below a level, or among those it is about to take. -/
def LocksBelow (db : Db) (i : Nat) (level : Nat) (takes : List Lock) : Prop :=
  ∀ l ∈ db.locks.own i, Lock.level l < level ∨ l ∈ takes

theorem LocksBelow.mono {m n : Nat} {ls ms : List Lock} (h : LocksBelow db i m ls) (hmn : m ≤ n)
    (hls : ∀ l ∈ ls, Lock.level l < n ∨ l ∈ ms) : LocksBelow db i n ms := by
  intro l hl
  rcases h l hl with hlt | hm
  · exact Or.inl (hlt.trans_le hmn)
  · exact hls l hm

theorem LocksBelow.rely {n : Nat} {ls : List Lock} (h : LocksBelow db i n ls)
    (hr : db.Rely i db') : LocksBelow db' i n ls := by
  intro l hl
  rw [hr.locks] at hl
  exact h l hl

theorem LocksBelow.acquire {n : Nat} {ls ms : List Lock} (h : LocksBelow db i n ls)
    (hms : ∀ l ∈ ms, l ∈ ls) : LocksBelow (db.lock i ms) i n ls := by
  intro l hl
  rw [Db.lock, LockTable.own_acquire_self, List.mem_append] at hl
  rcases hl with hl | hl
  · exact h l hl
  · exact Or.inr (hms l hl)

theorem LocksBelow.of_own_nil {n : Nat} {ls : List Lock} (h : db.locks.own i = []) :
    LocksBelow db i n ls := by
  intro l hl
  rw [h] at hl
  cases hl

theorem EventValues.locks_level (v : EventValues) : ∀ l ∈ v.locks, Lock.level l < 3 := by
  intro l hl
  simp only [EventValues.locks, List.mem_append, List.mem_cons, List.not_mem_nil, or_false,
    List.mem_map] at hl
  rcases hl with (rfl | rfl | rfl) | ⟨o, _, rfl⟩
  · exact Nat.lt_succ_self 2
  · exact Nat.succ_pos 2
  · exact Nat.succ_pos 2
  · exact Nat.lt_of_sub_eq_succ rfl

namespace Point

/-- The level of the locks taken at a point. -/
def level : Point → Nat
  | .begin | .precheck | .classifyStore _ | .classifyProduct _ _ _ | .findStore
  | .findProduct _ => 0
  | .lockOriginal _ _ _ => 1
  | .recheck _ _ _ | .sumRefunds _ _ _ | .insert _ _ _ => 2
  | .updateStore _ _ => 3
  | .classifyEvent _ _ | .commit _ _ | .rollback _ | .broadcast _ | .done _ => 4

/-- The locks the statement of a point takes. -/
def takes (p : EventCreate) : Point → List Lock
  | .lockOriginal original _ _ => [(.event original, .forUpdate)]
  | .insert store product _ => (p.values store product).locks
  | .updateStore store _ => [(.store store.id, .forNoKeyUpdate)]
  | _ => []

end Point

/-! ## Facts about a payload -/

/-- The store and the product of the payload have been found. -/
structure Named (cat : Catalogue) (p : EventCreate) (store : Store) (product : Product) : Prop
    extends Located cat p store product where
  storeCode : noNul p.storeCode = true
  productSku : noNul p.productSku = true

/-- The original of a refund is locked. -/
structure Locked (db : Db) (i : Nat) (p : EventCreate) (original : PosEvent) : Prop where
  names : payloadOriginalEventId p = some original.eventId
  stored : original ∈ db.events.committed
  sale : original.eventType = .sale
  root : original.originalEventId = none
  lock : (.event original.eventId, .forUpdate) ∈ db.locks.own i

/-- The locked original fits the refund, and no refund of it has the key of this one. -/
structure Matched (db : Db) (i : Nat) (p : EventCreate) (store : Store) (product : Product)
    (original : PosEvent) : Prop extends Locked db i p original where
  store : original.storeId = store.id
  product : original.productId = product.id
  other : original.eventId ≠ p.eventId
  unclaimed : ∀ r ∈ db.events.committed, r.eventId = p.eventId →
    r.originalEventId ≠ some original.eventId

/-- The original has room for the refund. -/
def Room (T : List PosEvent) (p : EventCreate) (original : PosEvent) : Prop :=
  ∀ d : Measure, refundLedger.spent d T original.eventId + d.asked p ≤ d.of original.toEventValues

/-- The payload may be inserted, unless its key is taken. -/
def Admissible (db : Db) (i : Nat) (p : EventCreate) (store : Store) (product : Product) :
    Option PosEvent → Prop
  | none => payloadOriginalEventId p = none
  | some original =>
      Matched db i p store product original ∧ Room db.events.committed p original

/-- The row of the payload is written and may be committed. -/
structure Accepting (cat : Catalogue) (db : Db) (i : Nat) (p : EventCreate) (store : Store)
    (product : Product) (row : PosEvent) : Prop where
  written : WrittenFor cat p store product row
  admits : refundLedger.Admits db.events.committed row
  own : db.events.own i = [row]
  key : (.eventKey p.eventId, .forUpdate) ∈ db.locks.own i
  original : ∀ o, payloadOriginalEventId p = some o →
    (.event o, .forUpdate) ∈ db.locks.own i

/-- The outcome of the classification of a stored row. -/
inductive Judged (cat : Catalogue) (p : EventCreate) (e : PosEvent) :
    Except Exception EventIngestionResult → Prop
  | duplicate : MatchesPayload cat e p → Judged cat p e (.ok ⟨e.eventId, .duplicate, e.receivedAt⟩)
  | conflict : ¬ MatchesPayload cat e p → Judged cat p e (.error (.eventConflict p.eventId))

/-! ## Stability -/

/-- Committed rows stay. -/
theorem Db.Rely.mem {e : PosEvent} (hr : db.Rely i db') (h : e ∈ db.events.committed) :
    e ∈ db'.events.committed := by
  obtain ⟨new, hnew, _⟩ := hr.growth
  rw [hnew]
  exact List.mem_append_left _ h

/-- While the original is locked, nobody refunds it. -/
theorem Db.Rely.spent_eq {o : UUID} (hr : db.Rely i db')
    (hl : (.event o, .forUpdate) ∈ db.locks.own i) (d : Measure) :
    refundLedger.spent d db'.events.committed o = refundLedger.spent d db.events.committed o := by
  obtain ⟨new, hnew, hfree⟩ := hr.growth
  rw [hnew, Ledger.spent_append]
  have hzero : refundLedger.spent d new o = 0 := by
    apply Ledger.spent_eq_zero
    intro r hmem hp
    have ho : r.originalEventId = some o := by
      have hrefunds : r.refunds = some o := hp
      rw [PosEvent.refunds] at hrefunds
      split at hrefunds
      · exact hrefunds
      · cases hrefunds
    exact (hfree r hmem).2 o ho hl
  rw [hzero, add_zero]

theorem Locked.rely {original : PosEvent} (h : Locked db i p original) (hr : db.Rely i db') :
    Locked db' i p original where
  names := h.names
  stored := hr.mem h.stored
  sale := h.sale
  root := h.root
  lock := hr.locks ▸ h.lock

theorem Matched.rely {store : Store} {product : Product} {original : PosEvent}
    (h : Matched db i p store product original) (hr : db.Rely i db') :
    Matched db' i p store product original where
  toLocked := h.toLocked.rely hr
  store := h.store
  product := h.product
  other := h.other
  unclaimed := by
    obtain ⟨new, hnew, hfree⟩ := hr.growth
    intro r hmem hid ho
    rw [hnew, List.mem_append] at hmem
    rcases hmem with hmem | hmem
    · exact h.unclaimed r hmem hid ho
    · exact (hfree r hmem).2 _ ho h.lock

theorem Admissible.rely {store : Store} {product : Product} {original : Option PosEvent}
    (h : Admissible db i p store product original) (hr : db.Rely i db') :
    Admissible db' i p store product original := by
  cases original with
  | none => exact h
  | some original =>
      refine ⟨h.1.rely hr, fun d => ?_⟩
      rw [hr.spent_eq h.1.lock]
      exact h.2 d

theorem Accepting.rely {store : Store} {product : Product} {row : PosEvent}
    (h : Accepting cat db i p store product row) (hr : db.Rely i db') :
    Accepting cat db' i p store product row where
  written := h.written
  admits := by
    obtain ⟨new, hnew, hfree⟩ := hr.growth
    constructor
    · intro r hmem
      rw [hnew, List.mem_append] at hmem
      rcases hmem with hmem | hmem
      · exact h.admits.fresh r hmem
      · intro hk
        have hid : r.eventId = p.eventId := hk.trans h.written.eventId
        exact (hfree r hmem).1 (hid ▸ h.key)
    · intro o ho
      obtain ⟨s, hs, hk, hunder, hroom⟩ := h.admits.room o ho
      refine ⟨s, hr.mem hs, hk, hunder, fun d => ?_⟩
      rw [hr.spent_eq (h.original o (h.written.refunds.symm.trans ho))]
      exact hroom d
  own := hr.events.trans h.own
  key := hr.locks ▸ h.key
  original := fun o ho => hr.locks ▸ h.original o ho

/-! ## More locks of one's own -/

section Acquire

variable {needs : List Lock}

theorem mem_own_lock {l : Lock} (h : l ∈ db.locks.own i) : l ∈ (db.lock i needs).locks.own i := by
  rw [Db.lock, LockTable.own_acquire_self]
  exact List.mem_append_left _ h

theorem mem_own_lock_new {l : Lock} (h : l ∈ needs) : l ∈ (db.lock i needs).locks.own i := by
  rw [Db.lock, LockTable.own_acquire_self]
  exact List.mem_append_right _ h

theorem Locked.acquire {original : PosEvent} (h : Locked db i p original) :
    Locked (db.lock i needs) i p original := { h with lock := mem_own_lock h.lock }

theorem Admissible.acquire {store : Store} {product : Product} {original : Option PosEvent}
    (h : Admissible db i p store product original) :
    Admissible (db.lock i needs) i p store product original := by
  cases original with
  | none => exact h
  | some original => exact ⟨{ h.1 with toLocked := h.1.toLocked.acquire }, h.2⟩

theorem Accepting.acquire {store : Store} {product : Product} {row : PosEvent}
    (h : Accepting cat db i p store product row) :
    Accepting cat (db.lock i needs) i p store product row :=
  { h with
    key := mem_own_lock h.key
    original := fun o ho => mem_own_lock (h.original o ho) }

end Acquire

/-! ## The assertion at a point -/

namespace Point

/-- What a request has established, and what it has written. -/
def Knows (cat : Catalogue) (db : Db) (i : Nat) (p : EventCreate) : Point → Prop
  | .classifyStore e => e ∈ db.events.committed ∧ e.eventId = p.eventId
  | .classifyProduct e storeMatches storeId =>
      (e ∈ db.events.committed ∧ e.eventId = p.eventId) ∧
      ∃ store, cat.storeById e.storeId = some store ∧
        storeMatches = (store.code == p.storeCode) ∧ storeId = store.id
  | .findProduct store =>
      noNul p.storeCode = true ∧ cat.storeByCode p.storeCode = some store.toStore
  | .lockOriginal original store product =>
      Named cat p store product ∧ payloadOriginalEventId p = some original
  | .recheck store product original => Named cat p store product ∧ Locked db i p original
  | .sumRefunds store product original =>
      Named cat p store product ∧ Matched db i p store product original
  | .insert store product original =>
      Named cat p store product ∧ Admissible db i p store product original
  | .classifyEvent store product =>
      Named cat p store product ∧ ∃ e ∈ db.events.committed, e.eventId = p.eventId
  | .updateStore store t =>
      (∃ product row, Accepting cat db i p store product row ∧ row.receivedAt = t ∧
        db.lastSeen.own i = []) ∧ store.lastSeenAt ≠ some t
  | .commit store t =>
      ∃ product row, Accepting cat db i p store product row ∧ row.receivedAt = t ∧
        db.lastSeen.own i = store.versions t
  | .rollback outcome => ∃ e ∈ db.events.committed, e.eventId = p.eventId ∧ Judged cat p e outcome
  | .broadcast result =>
      ∃ store product row, row ∈ db.events.committed ∧ WrittenFor cat p store product row ∧
        result = ⟨p.eventId, .accepted, row.receivedAt⟩
  | .begin => db.Idle i
  | .precheck | .findStore | .done _ => True

/-- The points at which a request has uncommitted writes. -/
def Writing : Point → Prop
  | .updateStore _ _ | .commit _ _ => True
  | _ => False

/-- The assertion at a point. -/
structure Holds (cat : Catalogue) (db : Db) (i : Nat) (p : EventCreate) (pt : Point) : Prop where
  knows : pt.Knows cat db i p
  quiet : ¬ pt.Writing → db.events.own i = [] ∧ db.lastSeen.own i = []
  locks : LocksBelow db i pt.level (pt.takes p)

theorem Knows.rely {pt : Point} (h : pt.Knows cat db i p) (hr : db.Rely i db') :
    pt.Knows cat db' i p := by
  cases pt with
  | begin => exact Db.Idle.rely h hr
  | classifyStore e => exact ⟨hr.mem h.1, h.2⟩
  | classifyProduct e b id => exact ⟨⟨hr.mem h.1.1, h.1.2⟩, h.2⟩
  | recheck => exact ⟨h.1, h.2.rely hr⟩
  | sumRefunds => exact ⟨h.1, h.2.rely hr⟩
  | insert => exact ⟨h.1, h.2.rely hr⟩
  | classifyEvent =>
      obtain ⟨hn, e, he, hid⟩ := h
      exact ⟨hn, e, hr.mem he, hid⟩
  | updateStore =>
      obtain ⟨⟨product, row, ha, ht, hl⟩, hne⟩ := h
      exact ⟨⟨product, row, ha.rely hr, ht, hr.lastSeen.trans hl⟩, hne⟩
  | commit =>
      obtain ⟨product, row, ha, ht, hl⟩ := h
      exact ⟨product, row, ha.rely hr, ht, hr.lastSeen.trans hl⟩
  | rollback =>
      obtain ⟨e, he, hid, hj⟩ := h
      exact ⟨e, hr.mem he, hid, hj⟩
  | broadcast =>
      obtain ⟨store, product, row, hrow, hw⟩ := h
      exact ⟨store, product, row, hr.mem hrow, hw⟩
  | precheck | findStore | done => trivial
  | findProduct | lockOriginal => exact h

/-- The assertion is stable under what others do. -/
theorem Holds.rely {pt : Point} (h : pt.Holds cat db i p) (hr : db.Rely i db') :
    pt.Holds cat db' i p where
  knows := h.knows.rely hr
  quiet hw := ⟨hr.events.trans (h.quiet hw).1, hr.lastSeen.trans (h.quiet hw).2⟩
  locks := h.locks.rely hr

/-- The assertion is stable under getting some of the locks the next statement takes. -/
theorem Holds.acquire {pt : Point} {l : Lock} (h : pt.Holds cat db i p) (hl : l ∈ pt.takes p) :
    pt.Holds cat (db.lock i [l]) i p where
  knows := by
    have hk := h.knows
    cases pt with
    | begin => cases hl
    | recheck => exact ⟨hk.1, hk.2.acquire⟩
    | sumRefunds => cases hl
    | insert => exact ⟨hk.1, hk.2.acquire⟩
    | updateStore =>
        obtain ⟨⟨product, row, ha, ht, hs⟩, hne⟩ := hk
        exact ⟨⟨product, row, ha.acquire, ht, hs⟩, hne⟩
    | commit => cases hl
    | _ => exact hk
  quiet := h.quiet
  locks := h.locks.acquire fun l' hl' => by
    obtain rfl := List.mem_singleton.mp hl'
    exact hl

/-- The rows a request has written are protected by its locks. -/
theorem Holds.guarded {pt : Point} (h : pt.Holds cat db i p) : db.Guarded i := by
  have hacc : ∀ {store product row}, Accepting cat db i p store product row → db.Guarded i := by
    intro store product row ha r hr
    rw [ha.own, List.mem_singleton] at hr
    subst hr
    rw [ha.written.eventId]
    refine ⟨ha.key, fun o ho => ha.original o ?_⟩
    rw [← ho, ha.written.values]
    rfl
  by_cases hw : pt.Writing
  · cases pt with
    | updateStore =>
        obtain ⟨⟨_, _, ha, _⟩, _⟩ := h.knows
        exact hacc ha
    | commit =>
        obtain ⟨_, _, ha, _⟩ := h.knows
        exact hacc ha
    | _ => exact hw.elim
  · intro r hr
    rw [(h.quiet hw).1] at hr
    cases hr

/-- A loaded row is where `session.get` expects it. -/
theorem Holds.aligned {pt : Point} (h : pt.Holds cat db i p) : pt.Aligned p := by
  cases pt with
  | classifyStore e => exact h.knows.2
  | insert store product original =>
      cases original with
      | none => trivial
      | some original => exact h.knows.2.1.other
  | _ => trivial

end Point

namespace HeartbeatPoint

/-- The level of the locks taken at a point. -/
def level : HeartbeatPoint → Nat
  | .begin | .selectStore | .now _ => 0
  | .updateStore _ _ => 3
  | .commit _ _ | .broadcast _ _ | .done _ => 4

/-- The locks the statement of a point takes. -/
def takes : HeartbeatPoint → List Lock
  | .updateStore store _ => [(.store store.id, .forNoKeyUpdate)]
  | _ => []

/-- The version of `last_seen_at` a heartbeat has written. -/
def writes : HeartbeatPoint → List (UUID × Instant)
  | .commit store t => store.versions t
  | _ => []

/-- An `UPDATE` is sent for a value that differs from the loaded one. -/
def Changes : HeartbeatPoint → Prop
  | .updateStore store t => store.lastSeenAt ≠ some t
  | _ => True

/-- The assertion at a point. -/
structure Holds (db : Db) (i : Nat) (pt : HeartbeatPoint) : Prop where
  start : pt = .begin → db.Idle i
  events : db.events.own i = []
  lastSeen : db.lastSeen.own i = pt.writes
  changes : pt.Changes
  locks : LocksBelow db i pt.level pt.takes

variable {pt : HeartbeatPoint}

theorem Holds.rely (h : pt.Holds db i) (hr : db.Rely i db') : pt.Holds db' i where
  start hb := (h.start hb).rely hr
  events := hr.events.trans h.events
  lastSeen := hr.lastSeen.trans h.lastSeen
  changes := h.changes
  locks := h.locks.rely hr

theorem Holds.acquire {l : Lock} (h : pt.Holds db i) (hl : l ∈ pt.takes) :
    pt.Holds (db.lock i [l]) i where
  start hb := by subst hb; cases hl
  events := h.events
  lastSeen := h.lastSeen
  changes := h.changes
  locks := h.locks.acquire fun l' hl' => by
    obtain rfl := List.mem_singleton.mp hl'
    exact hl

theorem Holds.guarded (h : pt.Holds db i) : db.Guarded i := by
  intro r hr
  rw [h.events] at hr
  cases hr

end HeartbeatPoint

end StorePulse
