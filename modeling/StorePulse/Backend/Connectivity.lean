import Mathlib.Data.List.Induction
import StorePulse.Backend.Log
import StorePulse.Backend.RefundLimits
import StorePulse.Foundation.EventLog

/-!
# Store connectivity

Three operations assign to `stores.last_seen_at` a timestamp taken before their
commit: an event `now()`, the start of its transaction, and a heartbeat the
clock it read before its `UPDATE`.  Nothing compares it with the value it
replaces, except that a session sends no `UPDATE` when it loaded the value it
assigns (`Flushed`).  So the value is the timestamp of the `UPDATE` committed
last, and it goes back only when its writer took the timestamp before an earlier
writer of the store had committed (`World.Overlap`).
-/

namespace StorePulse

open List

variable {cat : Catalogue} {db db' : Db} {i j : Nat} {p : EventCreate} {log log' : List Entry}
  {s : UUID} {t : Instant}

/-! ## Versions in the log -/

/-- The value of the last version is one of the versions. -/
theorem mem_of_lastVersion {versions : List (UUID × Instant)}
    (h : lastVersion versions s = some t) : (s, t) ∈ versions := by
  obtain ⟨⟨s', t'⟩, hlast, rfl⟩ := Option.map_eq_some_iff.mp h
  have hm := List.mem_of_getLast? hlast
  rw [List.mem_filter, beq_iff_eq] at hm
  obtain ⟨hm, rfl⟩ := hm
  exact hm

theorem lastVersion_snoc_self {versions : List (UUID × Instant)} :
    lastVersion (versions ++ [(s, t)]) s = some t := by
  simp [lastVersion, List.filter_append]

/-- Versions of other stores do not count. -/
theorem lastVersion_append_of_ne {versions versions' : List (UUID × Instant)}
    (h : ∀ v ∈ versions', v.1 ≠ s) :
    lastVersion (versions ++ versions') s = lastVersion versions s := by
  have hnone : versions'.filter (fun v => v.1 == s) = [] := by
    rw [List.filter_eq_nil_iff]
    intro v hv
    simpa using h v hv
  rw [lastVersion, List.filter_append, hnone, List.append_nil, lastVersion]

/-- The last entry with a version of a store decides, where no entry has two versions. -/
theorem lastVersion_iff (h : ∀ e ∈ log, e.versions.length ≤ 1) :
    lastVersion (log.flatMap Entry.versions) s = some t ↔
      ∃ a e b, log = a ++ e :: b ∧ e.versions = [(s, t)] ∧
        ∀ e' ∈ b, ∀ v ∈ e'.versions, v.1 ≠ s := by
  induction log using List.reverseRecOn with
  | nil => simp [lastVersion]
  | append_singleton l x ih =>
      have hx := h x (List.mem_append_right _ (List.mem_singleton_self x))
      have hl := ih fun e he => h e (List.mem_append_left _ he)
      rw [List.flatMap_append, List.flatMap_singleton]
      by_cases hs : ∃ u, x.versions = [(s, u)]
      · obtain ⟨u, hu⟩ := hs
        rw [hu, lastVersion_snoc_self, Option.some.injEq]
        constructor
        · rintro rfl
          exact ⟨l, x, [], rfl, hu, fun _ hnil => (List.not_mem_nil hnil).elim⟩
        · rintro ⟨a, e, b, hlog, he, hafter⟩
          rcases List.eq_nil_or_concat b with rfl | ⟨b', y, rfl⟩
          · obtain ⟨_, hxe⟩ := List.append_inj' hlog rfl
            cases hxe
            rw [hu] at he
            cases he
            rfl
          · rw [List.concat_eq_append, ← List.cons_append, ← List.append_assoc] at hlog
            obtain ⟨_, hxy⟩ := List.append_inj' hlog rfl
            cases hxy
            refine absurd rfl (hafter x ?_ (s, u) (by rw [hu]; exact List.mem_singleton_self _))
            rw [List.concat_eq_append]
            exact List.mem_append_right _ (List.mem_singleton_self x)
      · have hnone : ∀ v ∈ x.versions, v.1 ≠ s := by
          rintro ⟨s', u⟩ hv rfl
          refine hs ⟨u, ?_⟩
          obtain ⟨v, hv'⟩ := List.length_eq_one_iff.mp (hx.antisymm (List.length_pos_of_mem hv))
          rw [hv', List.mem_singleton] at hv
          rw [hv', hv]
        rw [lastVersion_append_of_ne hnone, hl]
        constructor
        · rintro ⟨a, e, b, rfl, he, hafter⟩
          refine ⟨a, e, b ++ [x], by simp, he, fun e' he' => ?_⟩
          rcases List.mem_append.mp he' with he' | he'
          · exact hafter e' he'
          · rw [List.mem_singleton.mp he']
            exact hnone
        · rintro ⟨a, e, b, hlog, he, hafter⟩
          rcases List.eq_nil_or_concat b with rfl | ⟨b', y, rfl⟩
          · obtain ⟨_, hxe⟩ := List.append_inj' hlog rfl
            cases hxe
            exact absurd ⟨t, he⟩ hs
          · rw [List.concat_eq_append, ← List.cons_append, ← List.append_assoc] at hlog
            obtain ⟨rfl, _⟩ := List.append_inj' hlog rfl
            refine ⟨a, e, b', rfl, he, fun e' he' => hafter e' ?_⟩
            rw [List.concat_eq_append]
            exact List.mem_append_left _ he'

/-- Request `i` saw `t` as `last_seen_at` of the store `s` after it had begun. -/
def Saw (log : List Entry) (i : Nat) (s : UUID) (t : Instant) : Prop :=
  ∃ a b, log = a ++ b ∧ (∃ u, .began i u ∈ a) ∧ lastVersion (a.flatMap Entry.versions) s = some t

theorem Saw.append (h : Saw log i s t) (more : List Entry) : Saw (log ++ more) i s t := by
  obtain ⟨a, b, rfl, hbegan, hlast⟩ := h
  exact ⟨a, b ++ more, List.append_assoc _ _ _, hbegan, hlast⟩

/-- What was seen had been committed. -/
theorem Saw.mem (h : Saw log i s t) : (s, t) ∈ log.flatMap Entry.versions := by
  obtain ⟨a, b, rfl, -, hlast⟩ := h
  rw [List.flatMap_append]
  exact List.mem_append_left _ (mem_of_lastVersion hlast)

/-- A store that was loaded shows what its request saw. -/
def LoadedStore.LoadedIn (store : LoadedStore) (log : List Entry) (i : Nat) : Prop :=
  ∀ t, store.lastSeenAt = some t → Saw log i store.id t

/-- The versions request `i` makes when it assigns `t` to `last_seen_at` of the store `s`: one,
unless it saw that value when it loaded the store. -/
inductive Flushed (before : List Entry) (i : Nat) (s : UUID) (t : Instant) :
    List (UUID × Instant) → Prop
  | changed : Flushed before i s t [(s, t)]
  | unchanged : Saw before i s t → Flushed before i s t []

theorem Flushed.append {versions : List (UUID × Instant)} (h : Flushed log i s t versions)
    (more : List Entry) : Flushed (log ++ more) i s t versions := by
  cases h with
  | changed => exact .changed
  | unchanged hsaw => exact .unchanged (hsaw.append more)

/-- The value is among the versions, those before included. -/
theorem Flushed.mem {versions : List (UUID × Instant)} (h : Flushed log i s t versions) :
    (s, t) ∈ log.flatMap Entry.versions ++ versions := by
  cases h with
  | changed => exact List.mem_append_right _ (List.mem_singleton_self _)
  | unchanged hsaw => exact List.mem_append_left _ hsaw.mem

/-- The versions show the timestamp that is assigned. -/
theorem Flushed.time_eq {versions : List (UUID × Instant)} {u : Instant}
    (h : Flushed log i s t versions) (hu : u ∈ versions.map Prod.snd) : u = t := by
  cases h with
  | changed => exact List.mem_singleton.mp hu
  | unchanged => cases hu

theorem LoadedStore.LoadedIn.append {store : LoadedStore} (h : store.LoadedIn log i)
    (more : List Entry) : store.LoadedIn (log ++ more) i := fun t ht => (h t ht).append more

theorem LoadedStore.LoadedIn.flushed {store : LoadedStore} (h : store.LoadedIn log i)
    (t : Instant) : Flushed log i store.id t (store.versions t) := by
  by_cases ht : store.lastSeenAt = some t
  · rw [LoadedStore.versions_of_eq ht]
    exact .unchanged (h t ht)
  · rw [LoadedStore.versions_of_ne ht]
    exact .changed

/-- A transaction that has begun and written no version loads what is committed. -/
theorem Db.loadedIn_loadStore {u : Instant} (hbegan : .began i u ∈ log)
    (hown : db.lastSeen.own i = []) (hversions : db.lastSeen.committed = log.flatMap Entry.versions)
    (store : Store) : (db.loadStore i store).LoadedIn log i := by
  intro t ht
  refine ⟨log, [], (List.append_nil _).symm, ⟨u, hbegan⟩, ?_⟩
  rw [← hversions, ← TxTable.visible_of_own_nil hown]
  exact ht

/-! ## Timestamps in the log -/

/-- The timestamps taken. -/
def Entry.stamps : Entry → List Instant
  | .began _ t => [t]
  | .readClock _ t => [t]
  | _ => []

/-- The times an entry shows: the timestamps taken, and those made visible. -/
def Entry.times (e : Entry) : List Instant := e.stamps ++ e.versions.map Prod.snd

/-- The entry that shows when a call took its timestamp. -/
def Call.stamp (i : Nat) (t : Instant) : Call → Entry
  | .event _ => .began i t
  | .heartbeat _ => .readClock i t

/-- What request `i` may commit after the entries `before`: its rows, the store it sets
`last_seen_at` of, and the value. -/
inductive Dates (cat : Catalogue) (before : List Entry) (i : Nat) :
    Call → List PosEvent → UUID → Instant → Prop
  | event {p : EventCreate} {row : PosEvent} : .began i row.receivedAt ∈ before →
      Dates cat before i (.event p) [row] row.storeId row.receivedAt
  | heartbeat {c : String} {store : Store} {t : Instant} : cat.storeByCode c = some store →
      .readClock i t ∈ before → Dates cat before i (.heartbeat c) [] store.id t

/-- A commit sets `last_seen_at` of one store to a timestamp its request has taken, unless the
request saw it there. -/
def Entry.Dated (cat : Catalogue) (before : List Entry) : Entry → Prop
  | .committed i rows versions => ∃ call s t, .arrived i call ∈ before ∧
      Dates cat before i call rows s t ∧ Flushed before i s t versions
  | _ => True

theorem Dates.stamp_mem {before : List Entry} {call : Call} {rows : List PosEvent} {s : UUID}
    {t : Instant} (h : Dates cat before i call rows s t) : call.stamp i t ∈ before := by
  cases h with
  | event hb => exact hb
  | heartbeat _ hb => exact hb

/-! ## The timestamp of a request -/

/-- Where the timestamp of a request of `create_event` is. -/
def Point.Clocked (db : Db) (log : List Entry) (i : Nat) : Point → Prop
  | .begin | .rollback _ | .broadcast _ | .done _ => True
  | .updateStore _ t | .commit _ t => .began i t ∈ log
  | _ => ∃ t, ownedBy db.sessions i = [t] ∧ .began i t ∈ log

/-- The store the session has loaded, as long as it may be assigned to. -/
def Point.loaded : Point → Option LoadedStore
  | .findProduct store | .lockOriginal _ store _ | .recheck store _ _ | .sumRefunds store _ _
  | .insert store _ _ | .updateStore store _ | .commit store _ => some store
  | _ => none

/-- The timestamp of a request of `create_event`, and the store it has loaded. -/
structure Point.Timed (db : Db) (log : List Entry) (i : Nat) (pt : Point) : Prop where
  clocked : pt.Clocked db log i
  loaded : ∀ store, pt.loaded = some store → store.LoadedIn log i

/-- Where the timestamp of a heartbeat is, and the store it has loaded. -/
def HeartbeatPoint.Timed (cat : Catalogue) (c : String) (log : List Entry) (i : Nat) :
    HeartbeatPoint → Prop
  | .selectStore => ∃ t, .began i t ∈ log
  | .now store => cat.storeByCode c = some store.toStore ∧ store.LoadedIn log i
  | .updateStore store t | .commit store t =>
      (cat.storeByCode c = some store.toStore ∧ store.LoadedIn log i) ∧ .readClock i t ∈ log
  | _ => True

theorem Point.Clocked.grow {pt : Point} (h : pt.Clocked db log i)
    (hs : ownedBy db'.sessions i = ownedBy db.sessions i) (hl : log ⊆ log') :
    pt.Clocked db' log' i := by
  cases pt with
  | begin | rollback | broadcast | done => trivial
  | updateStore | commit => exact hl h
  | _ =>
      obtain ⟨t, ht, hb⟩ := h
      exact ⟨t, hs.trans ht, hl hb⟩

theorem Point.Timed.append {pt : Point} (h : pt.Timed db log i)
    (hs : ownedBy db'.sessions i = ownedBy db.sessions i) (more : List Entry) :
    pt.Timed db' (log ++ more) i where
  clocked := h.clocked.grow hs (List.subset_append_left _ _)
  loaded store hstore := (h.loaded store hstore).append more

theorem HeartbeatPoint.Timed.append {pt : HeartbeatPoint} {c : String}
    (h : pt.Timed cat c log i) (more : List Entry) : pt.Timed cat c (log ++ more) i := by
  cases pt with
  | selectStore =>
      obtain ⟨t, hb⟩ := h
      exact ⟨t, List.mem_append_left _ hb⟩
  | now => exact ⟨h.1, h.2.append more⟩
  | updateStore | commit => exact ⟨⟨h.1.1, h.1.2.append more⟩, List.mem_append_left _ h.2⟩
  | _ => exact h

/-- The session opened at the start gives the timestamp. -/
theorem Point.Move.clocked {pt pt' : Point} (hm : Point.Move cat db i p pt pt' db')
    (hh : pt.Holds cat db i p) (h : pt.Clocked db log i) :
    pt'.Clocked db' (log ++ pt.entries db i p) i := by
  have hgrow : log ⊆ log ++ pt.entries db i p := List.subset_append_left _ _
  cases hm with
  | begin =>
      have hidle : db.Idle i := hh.knows
      refine ⟨db.clock, ?_, List.mem_append_right _ (List.mem_singleton_self _)⟩
      rw [ownedBy_append, hidle.session]
      simp [ownedBy]
  | inserted | insertedSeen =>
      obtain ⟨t, ht, hb⟩ := h
      show Entry.began i (db.transactionStart i) ∈ _
      rw [Db.transactionStart, ht]
      exact hgrow hb
  | storeUpdated => exact hgrow h
  | storeMissing | storeUnreadable | storeUnknown | productMissing | productRead
  | productUnreadable | productUnknown | originalMissing | originalInvalid | recheckHit
  | recheckMismatch | limitExceeded | insertUnfit | insertChecked | insertDuplicateKey
  | insertForeignKey | classifiedInvisible | classified | committed | broadcast => trivial
  | @rolledBack outcome =>
      cases outcome with
      | error e => trivial
      | ok result =>
          rw [afterRollback]
          split <;> trivial
  | precheckMiss | precheckHit | storeRead | storeFound | productOfSale | productOfRefund
  | originalLocked | recheckMiss | limitKept | insertConflict =>
      obtain ⟨t, ht, hb⟩ := h
      exact ⟨t, ht, hgrow hb⟩

/-- The store a request goes on with is the one it has loaded, or one it loads now. -/
theorem Point.Move.loaded {pt pt' : Point} (hm : Point.Move cat db i p pt pt' db')
    (hh : pt.Holds cat db i p) (hversions : db.lastSeen.committed = log.flatMap Entry.versions)
    (h : pt.Timed db log i) {store : LoadedStore} (hstore : pt'.loaded = some store) :
    store.LoadedIn log i := by
  cases hm with
  | storeFound =>
      cases hstore
      obtain ⟨t, _, hb⟩ := h.clocked
      exact Db.loadedIn_loadStore hb (hh.quiet not_false).2 hversions _
  | productOfSale | productOfRefund | originalLocked | recheckMiss | limitKept | inserted
  | insertedSeen | storeUpdated =>
      exact h.loaded store hstore
  | @rolledBack outcome =>
      cases outcome with
      | error e => cases hstore
      | ok result =>
          rw [afterRollback] at hstore
          split at hstore <;> cases hstore
  | _ => cases hstore

theorem Point.Move.timed {pt pt' : Point} (hm : Point.Move cat db i p pt pt' db')
    (hh : pt.Holds cat db i p) (hversions : db.lastSeen.committed = log.flatMap Entry.versions)
    (h : pt.Timed db log i) : pt'.Timed db' (log ++ pt.entries db i p) i where
  clocked := hm.clocked hh h.clocked
  loaded _ hstore := (hm.loaded hh hversions h hstore).append _

theorem HeartbeatPoint.Move.timed {pt pt' : HeartbeatPoint} {c : String} {op : Op}
    {k : op.Reply → Program Effects Answer} (hm : HeartbeatPoint.Move cat db i c pt pt' db')
    (hh : pt.Holds db i) (hversions : db.lastSeen.committed = log.flatMap Entry.versions)
    (hc : pt.resume c = .call op k) (h : pt.Timed cat c log i) :
    pt'.Timed cat c (log ++ op.entries db i) i := by
  cases hm with
  | begin =>
      rw [resume_begin] at hc
      cases hc
      exact ⟨db.clock, List.mem_append_right _ (List.mem_singleton_self _)⟩
  | storeFound hs =>
      obtain ⟨t, hb⟩ := h
      exact ⟨hs, (Db.loadedIn_loadStore hb hh.lastSeen hversions _).append _⟩
  | now | nowSeen =>
      rw [resume_now] at hc
      cases hc
      exact ⟨⟨h.1, h.2.append _⟩, List.mem_append_right _ (List.mem_singleton_self _)⟩
  | storeUpdated => exact ⟨⟨h.1.1, h.1.2.append _⟩, List.mem_append_left _ h.2⟩
  | storeUnreadable | storeUnknown | committed | broadcast => trivial

/-- A running program is at a point whose timestamp is known. -/
def Call.TimedAt (cat : Catalogue) (db : Db) (log : List Entry) (i : Nat)
    (program : Program Effects Answer) : Call → Prop
  | .event p => ∃ pt : Point, program = pt.resume p ∧ pt.Holds cat db i p ∧ pt.Timed db log i
  | .heartbeat c => ∃ pt : HeartbeatPoint, program = pt.resume c ∧ pt.Holds db i ∧
      pt.Timed cat c log i

/-- The timestamp of a running request is known. -/
def Request.Timed (cat : Catalogue) (db : Db) (log : List Entry) (i : Nat) (r : Request) : Prop :=
  ∀ program, r.state = .running program → r.call.TimedAt cat db log i program

theorem Call.TimedAt.rely {call : Call} {program : Program Effects Answer}
    (h : call.TimedAt cat db log i program) (hr : db.Rely i db') (more : List Entry) :
    call.TimedAt cat db' (log ++ more) i program := by
  cases call with
  | event p =>
      obtain ⟨pt, hp, hh, ht⟩ := h
      exact ⟨pt, hp, hh.rely hr, ht.append hr.session more⟩
  | heartbeat c =>
      obtain ⟨pt, hp, hh, ht⟩ := h
      exact ⟨pt, hp, hh.rely hr, ht.append more⟩

theorem Call.TimedAt.acquire {call : Call} {s : Stmt} {l : Lock}
    {k : Except SqlError s.Result → Program Effects Answer}
    (h : call.TimedAt cat db log i (.call (.sql s) k)) (hl : l ∈ db.needs i s) :
    call.TimedAt cat (db.lock i [l]) log i (.call (.sql s) k) := by
  cases call with
  | event p =>
      obtain ⟨pt, hp, hh, ht⟩ := h
      exact ⟨pt, hp, hh.acquire (Point.mem_takes hh.aligned hp.symm hl),
        ht.clocked.grow rfl (List.Subset.refl _), ht.loaded⟩
  | heartbeat c =>
      obtain ⟨pt, hp, hh, ht⟩ := h
      exact ⟨pt, hp, hh.acquire (HeartbeatPoint.mem_takes hp.symm hl), ht⟩

theorem Point.eq_commit {pt : Point} (ha : pt.Aligned p)
    {k : Except SqlError Unit → Program Effects Answer}
    (hc : pt.resume p = .call (.sql .commit) k) : ∃ store t, pt = .commit store t := by
  have he := effect_of_call ha hc
  cases pt with
  | commit store t => exact ⟨store, t, rfl⟩
  | _ => cases he

theorem HeartbeatPoint.eq_commit {pt : HeartbeatPoint} {c : String}
    {k : Except SqlError Unit → Program Effects Answer}
    (hc : pt.resume c = .call (.sql .commit) k) : ∃ store t, pt = .commit store t := by
  have he := effect_of_call hc
  cases pt with
  | commit store t => exact ⟨store, t, rfl⟩
  | _ => cases he

/-! ## The invariant -/

theorem Db.effect_clock (s : Stmt) : (db.effect cat i s).2.clock = db.clock := by
  cases s with
  | insertEvent v =>
      simp only [effect, insertEvent]
      split
      · rfl
      · split
        · rfl
        · split
          · rfl
          · split
            · rfl
            · split <;> rfl
  | _ => rfl

/-- No effect touches the clock. -/
theorem World.perform_clock_eq {op : Op} {reply : op.Reply}
    (h : World.perform cat db i op = some (reply, db')) : db'.clock = db.clock := by
  cases op with
  | now => cases h; rfl
  | broadcast m => cases h; rfl
  | sql s =>
      obtain ⟨_, he⟩ := Db.exec_granted h
      have hclock := @Db.effect_clock cat (db.lock i (db.needs i s)) i s
      rw [he] at hclock
      exact hclock

theorem World.perform_clock {op : Op} {reply : op.Reply}
    (h : World.perform cat db i op = some (reply, db')) : db.clock ≤ db'.clock :=
  (World.perform_clock_eq h).ge

theorem Op.entries_length (op : Op) : (op.entries db i).length ≤ 1 := by
  cases op with
  | sql s => cases s <;> simp [Op.entries]
  | now => simp [Op.entries]
  | broadcast m => simp [Op.entries]

theorem Op.stamps_eq {op : Op} {e : Entry} (he : e ∈ op.entries db i) :
    ∀ t ∈ e.stamps, t = db.clock := by
  cases op with
  | sql s => cases s <;> simp_all [Op.entries, Entry.stamps]
  | now => simp_all [Op.entries, Entry.stamps]
  | broadcast m => simp_all [Op.entries, Entry.stamps]

theorem pairwise_of_length_le_one {α : Type} {R : α → α → Prop} {l : List α}
    (h : l.length ≤ 1) : l.Pairwise R := by
  cases l with
  | nil => exact List.Pairwise.nil
  | cons x xs =>
      rw [List.eq_nil_of_length_eq_zero (Nat.le_zero.mp (Nat.le_of_succ_le_succ h))]
      exact List.pairwise_singleton R x

namespace World

variable {w w' : World}

/-- Timestamps are taken in order, none is in the future, and every commit has one. -/
structure Dated (cat : Catalogue) (w : World) : Prop where
  requests : ∀ (i : Nat) (r : Request), w.requests[i]? = some r → r.Timed cat w.db w.log i
  commits : EachAfter (fun before e => e.Dated cat before) w.log
  past : ∀ e ∈ w.log, ∀ t ∈ e.times, t ≤ w.db.clock
  ordered : w.log.Pairwise fun e e' => ∀ t ∈ e.times, ∀ t' ∈ e'.stamps, t ≤ t'

/-- The entry a step adds is dated, and its timestamps are those of the clock. -/
structure Fresh (cat : Catalogue) (w : World) (entries : List Entry) : Prop where
  length : entries.length ≤ 1
  dated : ∀ e ∈ entries, e.Dated cat w.log
  past : ∀ e ∈ entries, ∀ t ∈ e.times, t ≤ w.db.clock
  stamps : ∀ e ∈ entries, ∀ t ∈ e.stamps, t = w.db.clock

/-- An entry without times. -/
theorem Fresh.of_times {e : Entry} (hd : e.Dated cat w.log) (ht : e.times = []) :
    w.Fresh cat [e] where
  length := le_rfl
  dated e' he := List.mem_singleton.mp he ▸ hd
  past e' he t hm := by
    rw [List.mem_singleton.mp he, ht] at hm
    cases hm
  stamps e' he t hm := by
    have hnil : e.stamps = [] := (List.append_eq_nil_iff.mp ht).1
    rw [List.mem_singleton.mp he, hnil] at hm
    cases hm

/-- A step that adds fresh entries. -/
theorem Dated.update {requests : List Request} {entries : List Entry} (h : w.Dated cat)
    (hf : w.Fresh cat entries) (hclock : w.db.clock ≤ db'.clock)
    (hr : ∀ (i : Nat) (r : Request), requests[i]? = some r →
      r.Timed cat db' (w.log ++ entries) i) :
    Dated cat ⟨db', requests, w.log ++ entries⟩ where
  requests := hr
  commits := h.commits.append hf.length hf.dated
  past e he t ht := by
    rcases List.mem_append.mp he with he | he
    · exact (h.past e he t ht).trans hclock
    · exact (hf.past e he t ht).trans hclock
  ordered := by
    show List.Pairwise _ (w.log ++ entries)
    rw [List.pairwise_append]
    refine ⟨h.ordered, pairwise_of_length_le_one hf.length, ?_⟩
    intro e he e' he' t ht t' ht'
    rw [hf.stamps e' he' t' ht']
    exact h.past e he t ht

/-- A step of request `i` that the others may rely on. -/
theorem Dated.set {r r' : Request} {entries : List Entry} (h : w.Dated cat)
    (hf : w.Fresh cat entries) (hclock : w.db.clock ≤ db'.clock)
    (hi : w.requests[i]? = some r) (hrely : ∀ j, j ≠ i → w.db.Rely j db')
    (hr : r'.Timed cat db' (w.log ++ entries) i) :
    Dated cat ⟨db', w.requests.set i r', w.log ++ entries⟩ := by
  refine h.update hf hclock fun j q hj => ?_
  by_cases hji : j = i
  · subst hji
    rw [getElem?_set_same hi hj]
    exact hr
  · intro program hq
    exact (h.requests j q (getElem?_set_other hji hj) program hq).rely (hrely j hji) _

/-- What an effect adds to the log is fresh. -/
theorem Dated.fresh {call : Call} {op : Op} {k : op.Reply → Program Effects Answer}
    (h : w.Dated cat) (hlisted : w.Listed)
    (hr : w.requests[i]? = some ⟨call, .running (.call op k)⟩) :
    w.Fresh cat (op.entries w.db i) := by
  have harrived : .arrived i call ∈ w.log := (hlisted.arrived i call).mpr ⟨_, hr⟩
  have hat := h.requests i _ hr _ rfl
  by_cases hop : op = .sql .commit
  · -- what is committed was dated by the point before the commit
    have hversions : ∃ s t, Dates cat w.log i call (w.db.events.own i) s t ∧
        Flushed w.log i s t (w.db.lastSeen.own i) := by
      subst hop
      cases call with
      | event p =>
          obtain ⟨pt, hpt, hh, ht⟩ := hat
          obtain ⟨store, t, rfl⟩ := Point.eq_commit hh.aligned hpt.symm
          obtain ⟨product, row, hacc, rfl, hseen⟩ := hh.knows
          have hid : row.storeId = store.id :=
            congrArg EventValues.storeId hacc.written.values
          rw [hacc.own, hseen]
          exact ⟨_, _, .event ht.clocked, hid ▸ (ht.loaded store rfl).flushed _⟩
      | heartbeat c =>
          obtain ⟨pt, hpt, hh, ht⟩ := hat
          obtain ⟨store, t, rfl⟩ := HeartbeatPoint.eq_commit hpt.symm
          rw [hh.events, hh.lastSeen]
          exact ⟨_, _, .heartbeat ht.1.1 ht.2, ht.1.2.flushed t⟩
    obtain ⟨s, t, hd, hseen⟩ := hversions
    have hpast : t ≤ w.db.clock := by
      refine h.past _ hd.stamp_mem t ?_
      cases call <;> exact List.mem_append_left _ (List.mem_singleton_self t)
    subst hop
    refine ⟨le_rfl, fun e he => ?_, fun e he t' ht' => ?_, fun e he => Op.stamps_eq he⟩
    · rw [List.mem_singleton.mp he]
      exact ⟨call, s, t, harrived, hd, hseen⟩
    · rw [List.mem_singleton.mp he] at ht'
      simp only [Entry.times, Entry.stamps, Entry.versions, List.nil_append] at ht'
      exact hseen.time_eq ht' ▸ hpast
  · have hnone : ∀ e ∈ op.entries w.db i, e.versions = [] ∧ e.Dated cat w.log := by
      cases op with
      | sql s => cases s <;> simp_all [Op.entries, Entry.versions, Entry.Dated]
      | now => simp [Op.entries, Entry.versions, Entry.Dated]
      | broadcast m => simp [Op.entries, Entry.versions, Entry.Dated]
    refine ⟨Op.entries_length op, fun e he => (hnone e he).2, fun e he t ht => ?_,
      fun e he => Op.stamps_eq he⟩
    rw [Entry.times, (hnone e he).1, List.map_nil, List.append_nil] at ht
    exact (Op.stamps_eq he t ht).le

/-- The next point of a request has its timestamp. -/
theorem Dated.at_next {call : Call} {op : Op} {k : op.Reply → Program Effects Answer}
    {reply : op.Reply} (h : w.Dated cat) (hok : w.Ok cat) (htables : w.Tables)
    (hr : w.requests[i]? = some ⟨call, .running (.call op k)⟩)
    (hp : World.perform cat w.db i op = some (reply, db')) :
    call.TimedAt cat db' (w.log ++ op.entries w.db i) i (k reply) := by
  have hat := h.requests i _ hr _ rfl
  cases call with
  | event p =>
      obtain ⟨pt, hpt, hh, ht⟩ := hat
      obtain ⟨pt', hk, hm⟩ := Point.step_cases hh.aligned hpt.symm hp
      refine ⟨pt', hk, hh.move hok.consistent hm, ?_⟩
      rw [Point.entries_eq hh.aligned hpt.symm]
      exact hm.timed hh htables.lastSeen ht
  | heartbeat c =>
      obtain ⟨pt, hpt, hh, ht⟩ := hat
      obtain ⟨pt', hk, hm⟩ := HeartbeatPoint.step_cases hpt.symm hp
      exact ⟨pt', hk, hh.move hm, hm.timed hh htables.lastSeen hpt.symm ht⟩

theorem Dated.step {l : Label} (hok : w.Ok cat) (hlisted : w.Listed) (htables : w.Tables)
    (h : w.Dated cat) (hs : w.step cat l = some w') : w'.Dated cat := by
  cases step_cases hs with
  | @tick t ht =>
      refine ⟨fun j r hj program hr => ?_, h.commits, fun e he u hu => (h.past e he u hu).trans ht,
        h.ordered⟩
      exact w.log.append_nil ▸ (h.requests j r hj program hr).rely (.tick ht j) []
  | @arrive call =>
      refine h.update (.of_times trivial rfl) le_rfl fun j r hj program hr => ?_
      rcases getElem?_arrived hj with hj | ⟨rfl, rfl⟩
      · exact (h.requests j r hj program hr).rely (.refl _ _) _
      · cases hr
        have hidle := hok.absent w.requests.length (List.getElem?_eq_none le_rfl)
        cases call with
        | event p =>
            exact ⟨.begin, Point.createEvent_eq p, ⟨hidle, fun _ => ⟨hidle.events, hidle.lastSeen⟩,
              .of_own_nil hidle.locks⟩, trivial, nofun⟩
        | heartbeat c =>
            exact ⟨.begin, HeartbeatPoint.heartbeat_eq c, ⟨fun _ => hidle, hidle.events,
              hidle.lastSeen, trivial, .of_own_nil hidle.locks⟩, trivial⟩
  | @lock i l call s k hr hl hg =>
      refine ⟨fun j r hj program hrun => ?_, h.commits, h.past, h.ordered⟩
      by_cases hji : j = i
      · subst hji
        rw [hr] at hj
        cases hj
        cases hrun
        exact (h.requests j _ hr _ rfl).acquire hl
      · exact w.log.append_nil ▸ (h.requests j r hj program hrun).rely (.lock hji) []
  | @perform i call op k reply db hr hp =>
      obtain ⟨_, hrely⟩ := hok.perform hr hp
      refine h.set (h.fresh hlisted hr) ?_ hr hrely fun program hrun => ?_
      · exact perform_clock hp
      · cases hrun
        exact h.at_next hok htables hr hp
  | answer hr =>
      exact h.set (.of_times trivial rfl) le_rfl hr (fun _ hj => .rollback hj) nofun
  | abort hr =>
      exact h.set (.of_times trivial rfl) le_rfl hr (fun _ hj => .rollback hj) nofun

theorem Reachable.dated (h : w.Reachable cat) : w.Dated cat := by
  obtain ⟨clock, hr⟩ := h
  refine hr.invariant (I := Dated cat) ⟨by simp [initial], .nil, by simp [initial], .nil⟩ ?_
  exact fun v _ _ hv ht hs =>
    Dated.step (Reachable.ok ⟨clock, hv⟩) (Reachable.listed ⟨clock, hv⟩)
      (Reachable.tables ⟨clock, hv⟩) ht hs

end World

/-! ## The versions of a store -/

/-- The values `last_seen_at` of a store has had, in the order of their commits. -/
def Db.seen (db : Db) (s : UUID) : List Instant :=
  (db.lastSeen.committed.filter fun v => v.1 == s).map Prod.snd

theorem Db.lastSeenAt_eq (s : UUID) : db.lastSeenAt s = (db.seen s).getLast? := by
  rw [Db.lastSeenAt, lastVersion, Db.seen, List.getLast?_map]

theorem Db.mem_seen {s : UUID} {t : Instant} :
    t ∈ db.seen s ↔ (s, t) ∈ db.lastSeen.committed := by
  simp only [Db.seen, List.mem_map, List.mem_filter, beq_iff_eq]
  constructor
  · rintro ⟨⟨_, _⟩, ⟨hm, rfl⟩, rfl⟩
    exact hm
  · exact fun hm => ⟨_, ⟨hm, rfl⟩, rfl⟩

/-- The last of a list in order is its maximum. -/
theorem max?_of_pairwise_le {l : List Instant} (h : l.Pairwise (· ≤ ·)) :
    l.max? = l.getLast? := by
  rcases List.eq_nil_or_concat l with rfl | ⟨a, x, rfl⟩
  · rfl
  · rw [List.concat_eq_append] at h ⊢
    rw [List.getLast?_concat, List.max?_eq_some_iff]
    refine ⟨List.mem_append_right _ (List.mem_singleton_self x), fun b hb => ?_⟩
    rcases List.mem_append.mp hb with hb | hb
    · exact (List.pairwise_append.mp h).2.2 b hb x (List.mem_singleton_self x)
    · exact (List.mem_singleton.mp hb).le

namespace World

variable {w w' : World} {s : UUID} {t u : Instant}

/-- Request `j` has set `last_seen_at` of store `s` to `t` after request `i` had set it to
`u`, and took its timestamp `t` before that. -/
def Overlap (w : World) (s : UUID) (i j : Nat) (u t : Instant) : Prop :=
  ∃ call rows rows', .arrived j call ∈ w.log ∧
    [call.stamp j t, .committed i rows [(s, u)], .committed j rows' [(s, t)]] <+ w.log

/-- A commit of the log, with where its timestamp is from. -/
theorem Reachable.commit_dated {rows : List PosEvent} {versions : List (UUID × Instant)}
    (h : w.Reachable cat) (hm : .committed i rows versions ∈ w.log) :
    ∃ call s t, .arrived i call ∈ w.log ∧ Dates cat w.log i call rows s t ∧
      Flushed w.log i s t versions := by
  obtain ⟨a, b, hab⟩ := List.append_of_mem hm
  obtain ⟨call, s, t, harrived, hd, hv⟩ := h.dated.commits a _ b hab
  have hsub : a ⊆ w.log := hab ▸ List.subset_append_left _ _
  refine ⟨call, s, t, hsub harrived, ?_, hab ▸ hv.append _⟩
  cases hd with
  | event hb => exact .event (hsub hb)
  | heartbeat hs hb => exact .heartbeat hs (hsub hb)

/-- A commit shows at most one version, that of its timestamp. -/
theorem Reachable.versions_cases {e : Entry} (h : w.Reachable cat) (he : e ∈ w.log) :
    e.versions = [] ∨ ∃ i rows s t, e = .committed i rows [(s, t)] := by
  cases e with
  | committed i rows versions =>
      obtain ⟨_, s, t, _, _, hv⟩ := h.commit_dated he
      cases hv with
      | changed => exact Or.inr ⟨i, rows, s, t, rfl⟩
      | unchanged => exact Or.inl rfl
  | _ => exact Or.inl rfl

/-- The timestamp of a commit is a value of the store, whether it was flushed or seen. -/
theorem Reachable.mem_seen_of_flushed {rows : List PosEvent} {versions : List (UUID × Instant)}
    (h : w.Reachable cat) (hm : .committed i rows versions ∈ w.log)
    (hv : Flushed w.log i s t versions) : t ∈ w.db.seen s := by
  rw [Db.mem_seen, h.tables.lastSeen]
  cases hv with
  | changed => exact List.mem_flatMap.mpr ⟨_, hm, List.mem_singleton_self _⟩
  | unchanged hsaw => exact hsaw.mem

/-- The value is that of the last commit with a version of the store. -/
theorem Reachable.lastSeenAt_iff (h : w.Reachable cat) : w.db.lastSeenAt s = some t ↔
    ∃ a i rows b, w.log = a ++ .committed i rows [(s, t)] :: b ∧
      ∀ e ∈ b, ∀ v ∈ e.versions, v.1 ≠ s := by
  have hone : ∀ e ∈ w.log, e.versions.length ≤ 1 := by
    intro e he
    rcases h.versions_cases he with hnil | ⟨i, rows, s, t, rfl⟩
    · rw [hnil]
      exact Nat.zero_le 1
    · exact le_rfl
  rw [Db.lastSeenAt, h.tables.lastSeen, lastVersion_iff hone]
  constructor
  · rintro ⟨a, e, b, hlog, he, hafter⟩
    have hmem : e ∈ w.log := hlog ▸ List.mem_append_right _ List.mem_cons_self
    rcases h.versions_cases hmem with hnil | ⟨i, rows, s', t', rfl⟩
    · rw [hnil] at he
      cases he
    · cases he
      exact ⟨a, i, rows, b, hlog, hafter⟩
  · rintro ⟨a, i, rows, b, hlog, hafter⟩
    exact ⟨a, _, b, hlog, rfl, hafter⟩

/-- Of two commits for one store, the later one has the later timestamp, or had taken it
before the earlier commit. -/
theorem Reachable.le_or_overlap {rows rows' : List PosEvent} (h : w.Reachable cat)
    (hpair : [.committed i rows [(s, u)], .committed j rows' [(s, t)]] <+ w.log) :
    u ≤ t ∨ w.Overlap s i j u t := by
  obtain ⟨a, b, c, hlog⟩ := exists_of_pair_sublist hpair
  obtain ⟨call, s', t', harrived, hd, hv⟩ := h.dated.commits _ _ c hlog
  cases hv
  have hne : call.stamp j t ≠ .committed i rows [(s, u)] := by cases call <;> nofun
  have hplace := @before_or_between _ _ (.committed j rows' [(s, t)]) _ _ _ c hd.stamp_mem hne
  rcases hplace with hbefore | hbetween
  · right
    rw [← hlog] at hbefore
    exact ⟨call, rows, rows', hlog ▸ List.mem_append_left _ harrived, hbefore⟩
  · left
    rw [← hlog] at hbetween
    refine List.pairwise_iff_forall_sublist.mp h.dated.ordered hbetween u ?_ t ?_
    · exact List.mem_singleton_self u
    · cases call <;> exact List.mem_singleton_self t

/-- The versions are in order when no two writers overlap. -/
theorem Reachable.seen_pairwise (h : w.Reachable cat) (hno : ∀ i j u t, ¬ w.Overlap s i j u t) :
    (w.db.seen s).Pairwise (· ≤ ·) := by
  have hver : (w.log.flatMap Entry.versions).Pairwise
      fun v v' => v.1 = s → v'.1 = s → v.2 ≤ v'.2 := by
    rw [List.pairwise_flatMap]
    constructor
    · intro e he
      rcases h.versions_cases he with hnil | ⟨i, rows, s, t, rfl⟩
      · rw [hnil]
        exact List.Pairwise.nil
      · exact List.pairwise_singleton _ _
    · rw [List.pairwise_iff_forall_sublist]
      intro e e' hpair
      have he : e ∈ w.log := hpair.subset List.mem_cons_self
      have he' : e' ∈ w.log := hpair.subset (List.mem_cons_of_mem _ (List.mem_singleton_self _))
      intro v hv v' hv' hs hs'
      rcases h.versions_cases he with hnil | ⟨i, rows, s₁, u, rfl⟩
      · rw [hnil] at hv
        cases hv
      rcases h.versions_cases he' with hnil | ⟨j, rows', s₂, t, rfl⟩
      · rw [hnil] at hv'
        cases hv'
      obtain rfl := List.mem_singleton.mp hv
      obtain rfl := List.mem_singleton.mp hv'
      cases hs
      cases hs'
      exact (h.le_or_overlap hpair).resolve_right (hno i j u t)
  rw [Db.seen, h.tables.lastSeen, List.pairwise_map, List.pairwise_filter]
  exact hver.imp fun hle hs hs' => hle (beq_iff_eq.mp hs) (beq_iff_eq.mp hs')

/-- Where the versions come from: accepted events of the store, and heartbeats. -/
theorem Reachable.mem_seen (h : w.Reachable cat) :
    t ∈ w.db.seen s ↔
      (∃ row ∈ w.db.events.committed, row.storeId = s ∧ row.receivedAt = t) ∨
      ∃ i c store, .arrived i (.heartbeat c) ∈ w.log ∧ cat.storeByCode c = some store ∧
        store.id = s ∧ .readClock i t ∈ w.log ∧ .committed i [] [(s, t)] ∈ w.log := by
  constructor
  · intro hm
    rw [Db.mem_seen, h.tables.lastSeen] at hm
    obtain ⟨e, he, hv⟩ := List.mem_flatMap.mp hm
    cases e with
    | committed i rows versions =>
        obtain ⟨call, _, _, harrived, hd, hflushed⟩ := h.commit_dated he
        cases hflushed with
        | unchanged => cases hv
        | changed =>
            cases List.mem_singleton.mp hv
            cases hd with
            | @event p row hb =>
                refine Or.inl ⟨row, ?_, rfl, rfl⟩
                rw [h.tables.events]
                exact List.mem_flatMap.mpr ⟨_, he, List.mem_singleton_self row⟩
            | heartbeat hs hb => exact Or.inr ⟨i, _, _, harrived, hs, rfl, hb, he⟩
    | _ => cases hv
  · rintro (⟨row, hrow, rfl, rfl⟩ | ⟨i, c, store, _, _, rfl, _, he⟩)
    · rw [h.tables.events] at hrow
      obtain ⟨e, he, hr⟩ := List.mem_flatMap.mp hrow
      cases e with
      | committed i rows versions =>
          obtain ⟨call, _, _, _, hd, hflushed⟩ := h.commit_dated he
          cases hd with
          | event hb =>
              cases List.mem_singleton.mp hr
              exact h.mem_seen_of_flushed he hflushed
          | heartbeat hs hb => cases hr
      | _ => cases hr
    · exact h.mem_seen_of_flushed he .changed

/-- A step keeps the value, or is a commit whose timestamp is the new value. -/
theorem Reachable.step_seen {l : Label} (h : w.Reachable cat) (hs : w.step cat l = some w')
    (s : UUID) :
    w'.db.seen s = w.db.seen s ∨ ∃ i rows t, w'.db.seen s = w.db.seen s ++ [t] ∧
      w'.log = w.log ++ [.committed i rows [(s, t)]] := by
  have h' := h.reaches (.tail .refl hs)
  cases step_cases hs with
  | tick | arrive | lock | answer | abort => exact Or.inl rfl
  | @perform i call op k reply db hr hp =>
      have hcommitted := (perform_committed hp).2
      by_cases hop : op = .sql .commit
      · subst hop
        simp only [Op.entries, List.flatMap_singleton, Entry.versions] at hcommitted
        obtain ⟨_, s', t, _, _, hv⟩ := h'.commit_dated
          (List.mem_append_right _ (List.mem_singleton_self _))
        generalize hown : w.db.lastSeen.own i = versions at hv hcommitted
        cases hv with
        | unchanged => exact Or.inl (by simp [Db.seen, hcommitted])
        | changed =>
            by_cases hss : s' = s
            · subst hss
              refine Or.inr ⟨i, w.db.events.own i, t, ?_, by simp [Op.entries, hown]⟩
              simp [Db.seen, hcommitted]
            · exact Or.inl (by simp [Db.seen, hcommitted, hss])
      · have hnone : (op.entries w.db i).flatMap Entry.versions = [] := by
          cases op with
          | sql s => cases s <;> simp_all [Op.entries, Entry.versions]
          | now => rfl
          | broadcast m => rfl
        rw [hnone, List.append_nil] at hcommitted
        exact Or.inl (by rw [Db.seen, Db.seen, hcommitted])

/-- The value goes back only in a commit of a writer that overlaps the one before. -/
theorem Reachable.step_lastSeenAt {l : Label} (h : w.Reachable cat)
    (hs : w.step cat l = some w') (hu : w.db.lastSeenAt s = some u) :
    ∃ t, w'.db.lastSeenAt s = some t ∧ (u ≤ t ∨ ∃ i j, w'.Overlap s i j u t) := by
  have h' := h.reaches (.tail .refl hs)
  rw [Db.lastSeenAt_eq] at hu
  rcases h.step_seen hs s with hsame | ⟨j, rows', t, hseen, hlog⟩
  · exact ⟨u, by rw [Db.lastSeenAt_eq, hsame, hu], Or.inl le_rfl⟩
  · have hmem : (s, u) ∈ w.log.flatMap Entry.versions := by
      rw [← h.tables.lastSeen]
      exact Db.mem_seen.mp (List.mem_of_getLast? hu)
    obtain ⟨e, he, hv⟩ := List.mem_flatMap.mp hmem
    refine ⟨t, by rw [Db.lastSeenAt_eq, hseen, List.getLast?_concat], ?_⟩
    rcases h.versions_cases he with hnil | ⟨i, rows, s', u', rfl⟩
    · rw [hnil] at hv
      cases hv
    · cases List.mem_singleton.mp hv
      have hpair : [.committed i rows [(s, u)], .committed j rows' [(s, t)]] <+ w'.log := by
        rw [hlog]
        exact (List.singleton_sublist.mpr he).append (List.Sublist.refl _)
      exact (h'.le_or_overlap hpair).imp_right fun ho => ⟨i, j, ho⟩

end World

/-! ## The value -/

/-- The last writer wins: (1) `last_seen_at` of a store is the timestamp of the last commit with
an `UPDATE` of the store; (2) a commit has that `UPDATE` unless its request saw its timestamp as
the value after it had begun, and then the value is one the store has had; (3) the values are
the `received_at` of the store's events and the times of its heartbeats; (4) a step takes the
value back only by a commit of a writer that took its timestamp before the commit of the value
it replaces; (5) without such writers it is the maximum. -/
theorem last_seen_of_last_commit {w : World} (h : w.Reachable cat) (s : UUID) :
    (∀ t, w.db.lastSeenAt s = some t ↔ ∃ a i rows b,
      w.log = a ++ .committed i rows [(s, t)] :: b ∧ ∀ e ∈ b, ∀ v ∈ e.versions, v.1 ≠ s) ∧
    (∀ a i rows versions b, w.log = a ++ .committed i rows versions :: b →
      ∃ call s' t, .arrived i call ∈ a ∧ Dates cat a i call rows s' t ∧
        Flushed a i s' t versions ∧ t ∈ w.db.seen s') ∧
    (∀ t, t ∈ w.db.seen s ↔
      (∃ row ∈ w.db.events.committed, row.storeId = s ∧ row.receivedAt = t) ∨
      ∃ i c store, .arrived i (.heartbeat c) ∈ w.log ∧ cat.storeByCode c = some store ∧
        store.id = s ∧ .readClock i t ∈ w.log ∧ .committed i [] [(s, t)] ∈ w.log) ∧
    (∀ l w' u, w.step cat l = some w' → w.db.lastSeenAt s = some u →
      ∃ t, w'.db.lastSeenAt s = some t ∧ (u ≤ t ∨ ∃ i j, w'.Overlap s i j u t)) ∧
    ((∀ i j u t, ¬ w.Overlap s i j u t) → w.db.lastSeenAt s = (w.db.seen s).max?) := by
  refine ⟨fun t => h.lastSeenAt_iff, ?_, fun t => h.mem_seen, ?_, ?_⟩
  · intro a i rows versions b hlog
    obtain ⟨call, s', t, harrived, hdates, hflushed⟩ := h.dated.commits a _ b hlog
    have hmem : .committed i rows versions ∈ w.log :=
      hlog ▸ List.mem_append_right _ List.mem_cons_self
    have hlater : Flushed w.log i s' t versions := hlog ▸ hflushed.append _
    exact ⟨call, s', t, harrived, hdates, hflushed, h.mem_seen_of_flushed hmem hlater⟩
  · intro l w' u hs hu
    exact h.step_lastSeenAt hs hu
  · intro hno
    rw [Db.lastSeenAt_eq, max?_of_pairwise_le (h.seen_pairwise hno)]

namespace Sample

/-- A SALE that begins at 1, and a heartbeat that runs at 5 while the SALE is on its way. -/
def overtakingSteps : List Label :=
  [.arrive (.event sale), .tick 1, .run 0, .tick 5, .arrive (.heartbeat "POA-CENTRO")] ++
  List.replicate 7 (.run 1) ++ List.replicate 5 (.run 0)

/-- The SALE commits and answers. -/
def overtakenSteps : List Label := overtakingSteps ++ List.replicate 3 (.run 0)

/-- The request has its answer. -/
def isAnswered (r : Request) : Bool :=
  match r.state with
  | .answered _ => true
  | _ => false

theorem answer_of_isAnswered {r : Request} (h : isAnswered r = true) :
    ∃ a, r.state = .answered a := by
  rw [isAnswered] at h
  split at h
  · next a ha => exact ⟨a, ha⟩
  · cases h

end Sample

/-- The SALE takes the value back from 5 to 1, and it stays there when nobody is running. -/
theorem last_seen_goes_back :
    (¬ ∀ w : World, w.Reachable Sample.catalogue → ∀ l w', w.step Sample.catalogue l = some w' →
      ∀ s u, w.db.lastSeenAt s = some u → ∃ t, w'.db.lastSeenAt s = some t ∧ u ≤ t) ∧
    ¬ ∀ w : World, w.Reachable Sample.catalogue → (∀ r ∈ w.requests, ∃ a, r.state = .answered a) →
      ∀ s, w.db.lastSeenAt s = (w.db.seen s).max? := by
  constructor
  · intro hclaim
    have hrun : ((Sample.run Sample.overtakingSteps).bind fun w =>
        (w.step Sample.catalogue (.run 0)).map fun w' =>
          (w.db.lastSeenAt 1, w'.db.lastSeenAt 1)) = some (some 5, some 1) := by decide +kernel
    obtain ⟨w, hw, hstep⟩ := Option.bind_eq_some_iff.mp hrun
    obtain ⟨w', hw', he⟩ := Option.map_eq_some_iff.mp hstep
    rw [Prod.mk.injEq] at he
    obtain ⟨t, ht, hle⟩ := hclaim w (Sample.run_reachable hw) _ w' hw' 1 5 he.1
    rw [he.2] at ht
    cases ht
    exact absurd hle (by decide)
  · intro hclaim
    have hrun : ((Sample.run Sample.overtakenSteps).map fun w =>
        (w.requests.all Sample.isAnswered, w.db.lastSeenAt 1, w.db.seen 1)) =
        some (true, some 1, [5, 1]) := by decide +kernel
    obtain ⟨w, hw, he⟩ := Option.map_eq_some_iff.mp hrun
    rw [Prod.mk.injEq, Prod.mk.injEq] at he
    obtain ⟨hanswered, hlast, hseen⟩ := he
    have hmax := hclaim w (Sample.run_reachable hw)
      (fun r hr => Sample.answer_of_isAnswered (List.all_eq_true.mp hanswered r hr)) 1
    rw [hlast, hseen] at hmax
    exact absurd hmax (by decide)

/-- In that run the value is that of the SALE, which committed after the heartbeat. -/
theorem last_seen_of_last_commit_after_overlap :
    ∃ w, Sample.run Sample.overtakenSteps = some w ∧ w.db.seen 1 = [5, 1] ∧
      ∃ a i rows b, w.log = a ++ .committed i rows [(1, 1)] :: b ∧
        ∀ e ∈ b, ∀ v ∈ e.versions, v.1 ≠ 1 := by
  have hrun : ((Sample.run Sample.overtakenSteps).map fun w => (w.db.seen 1, w.db.lastSeenAt 1)) =
      some ([5, 1], some 1) := by decide +kernel
  obtain ⟨w, hw, he⟩ := Option.map_eq_some_iff.mp hrun
  obtain ⟨hseen, hlast⟩ := Prod.mk.inj he
  exact ⟨w, hw, hseen, ((last_seen_of_last_commit (Sample.run_reachable hw) 1).1 1).mp hlast⟩

end StorePulse
