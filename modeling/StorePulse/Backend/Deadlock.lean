import StorePulse.Backend.RefundLimits

/-!
# Deadlock freedom

Requests take locks in the order of their levels: the row of the original, then
the key of the new row, then the row of the store.  The shared locks of the
foreign keys stand outside this order, but nobody ever waits for them: no
request locks a store or a product exclusively against them, and the one that
refunds an event holds its row already.

So a request that waits has only locks below the level it waits at
(`Waiting.held_lt`), and what it waits for is at that level
(`Waiting.blocking_level`): every wait leads to a request that does not wait, or
waits at a higher level.
-/

namespace StorePulse

variable {cat : Catalogue} {db : Db} {i j : Nat} {s s' : Stmt} {w : World}

/-! ## Statements that wait -/

/-- The level at which a statement waits. -/
def Stmt.level : Stmt → Nat
  | .lockEvent _ => 1
  | .insertEvent _ => 2
  | .updateLastSeen _ _ => 3
  | _ => 0

/-- The locks a statement takes, if it takes any. -/
def Stmt.takes : Stmt → List Lock
  | .lockEvent eventId => [(.event eventId, .forUpdate)]
  | .insertEvent v => v.locks
  | .updateLastSeen store _ => [(.store store, .forNoKeyUpdate)]
  | _ => []

/-- What a request has when it waits to execute a statement. -/
structure Waiting (db : Db) (i : Nat) (s : Stmt) : Prop where
  /-- Its locks are below the level of the statement, or among those it takes. -/
  below : LocksBelow db i s.level s.takes
  /-- A refund that is inserted holds its original. -/
  original : ∀ v o, s = .insertEvent v → v.originalEventId = some o →
    (.event o, .forUpdate) ∈ db.locks.own i

theorem Stmt.mem_takes {n : Lock} (h : n ∈ db.needs i s) : n ∈ s.takes := by
  cases s with
  | lockEvent eventId =>
      simp only [Db.needs] at h
      split at h
      · exact h
      · cases h
  | insertEvent v =>
      simp only [Db.needs] at h
      split at h
      · exact h
      · cases h
  | updateLastSeen store t => exact h
  | _ => cases h

/-- The assertion of a point at which a request waits. -/
theorem Point.Holds.waiting {p : EventCreate} {pt : Point} {n : Lock}
    {k : Except SqlError s.Result → Program Effects Answer} (h : pt.Holds cat db i p)
    (hc : pt.resume p = .call (.sql s) k) (hn : n ∈ db.needs i s) : Waiting db i s := by
  have hlocks := h.locks
  have he := effect_of_call h.aligned hc
  cases pt with
  | lockOriginal o store product =>
      cases he
      exact ⟨hlocks, fun v o hv => by cases hv⟩
  | insert store product original =>
      cases he
      refine ⟨hlocks, fun v o hv ho => ?_⟩
      cases hv
      have ho' : payloadOriginalEventId p = some o := ho
      cases original with
      | none => rw [show payloadOriginalEventId p = none from h.knows.2] at ho'; cases ho'
      | some original =>
          have hmatched := h.knows.2.1
          rw [hmatched.names] at ho'
          cases ho'
          exact hmatched.lock
  | updateStore store t =>
      cases he
      exact ⟨hlocks, fun v o hv => by cases hv⟩
  | broadcast result => cases he
  | done answer => cases he
  | _ => cases he; cases hn

theorem HeartbeatPoint.Holds.waiting {c : String} {pt : HeartbeatPoint} {n : Lock}
    {k : Except SqlError s.Result → Program Effects Answer} (h : pt.Holds db i)
    (hc : pt.resume c = .call (.sql s) k) (hn : n ∈ db.needs i s) : Waiting db i s := by
  have hlocks := h.locks
  have he := effect_of_call hc
  cases pt with
  | updateStore store t =>
      cases he
      exact ⟨hlocks, fun v o hv => by cases hv⟩
  | begin | selectStore | commit => cases he; cases hn
  | now | broadcast | done => cases he

/-! ## The order of the locks -/

/-- Only the exclusive lock conflicts with `FOR KEY SHARE`. -/
theorem LockMode.conflicts_forKeyShare {m : LockMode}
    (h : m.conflicts .forKeyShare = true) : m = .forUpdate := by
  cases m with
  | forUpdate => rfl
  | forKeyShare | forShare | forNoKeyUpdate => cases h

/-- Every lock of a request is below the top level. -/
theorem World.Ok.level_lt (h : w.Ok cat) {l : Lock} (hl : l ∈ w.db.locks.own j) :
    (∃ call program, w.requests[j]? = some ⟨call, .running program⟩) → Lock.level l < 4 := by
  rintro ⟨call, program, hr⟩
  have hat := h.requests j _ hr
  cases call with
  | event p =>
      obtain ⟨pt, _, hh⟩ := hat
      rcases hh.locks l hl with hlt | hm
      · exact hlt.trans_le Point.level_le
      · exact Point.takes_level l hm
  | heartbeat c =>
      obtain ⟨pt, _, hh⟩ := hat
      rcases hh.locks l hl with hlt | hm
      · exact hlt.trans_le HeartbeatPoint.level_le
      · exact HeartbeatPoint.takes_level l hm

/-- What a request waits for is at the level of its statement. -/
theorem Waiting.blocking_level {l n : Lock} (hi : Waiting db i s)
    (hx : db.locks.Exclusive LockMode.conflicts) (hji : j ≠ i) (hl : l ∈ db.locks.own j)
    (hlevel : Lock.level l < 4) (hn : n ∈ db.needs i s)
    (hc : LockTable.Clash LockMode.conflicts l n) :
    Lock.level n = s.level ∧ Lock.level l = s.level := by
  obtain ⟨resource, mode⟩ := l
  obtain ⟨hres, hmode⟩ := hc
  simp only at hres hmode
  have htakes := Stmt.mem_takes hn
  cases s with
  | lockEvent o =>
      obtain rfl := List.mem_singleton.mp htakes
      subst hres
      exact ⟨rfl, rfl⟩
  | updateLastSeen store t =>
      obtain rfl := List.mem_singleton.mp htakes
      subst hres
      cases mode with
      | forNoKeyUpdate => exact ⟨rfl, rfl⟩
      | forKeyShare => cases hmode
      | forShare | forUpdate => exact absurd hlevel (Nat.lt_irrefl 4)
  | insertEvent v =>
      simp only [Stmt.takes, EventValues.locks, List.mem_append, List.mem_cons, List.not_mem_nil,
        or_false, List.mem_map, Option.mem_toList] at htakes
      rcases htakes with (rfl | rfl | rfl) | ⟨o, ho, rfl⟩
      · subst hres
        exact ⟨rfl, rfl⟩
      · -- nobody has `FOR UPDATE` on a store
        obtain rfl := LockMode.conflicts_forKeyShare hmode
        subst hres
        exact absurd hlevel (Nat.lt_irrefl 4)
      · -- nor on a product
        obtain rfl := LockMode.conflicts_forKeyShare hmode
        subst hres
        exact absurd hlevel (Nat.lt_irrefl 4)
      · -- the request holds its original itself
        subst hres
        exact absurd ⟨rfl, by cases mode <;> rfl⟩
          (hx j i hji _ hl _ (hi.original v o rfl ho))
  | _ => cases htakes

/-- Of the locks a statement takes, only one is at its level. -/
theorem Stmt.takes_top {l n : Lock} (hl : l ∈ s.takes) (hn : n ∈ s.takes)
    (hlevel : s.level ≤ Lock.level l) (hnlevel : Lock.level n = s.level) : l = n := by
  cases s with
  | lockEvent o =>
      rw [List.mem_singleton.mp hl, List.mem_singleton.mp hn]
  | updateLastSeen store t =>
      rw [List.mem_singleton.mp hl, List.mem_singleton.mp hn]
  | insertEvent v =>
      have hkey : ∀ {m : Lock}, m ∈ v.locks → 2 ≤ Lock.level m →
          m = (.eventKey v.eventId, .forUpdate) := by
        intro m hm hle
        simp only [EventValues.locks, List.mem_append, List.mem_cons, List.not_mem_nil,
          or_false, List.mem_map] at hm
        rcases hm with (rfl | rfl | rfl) | ⟨o, _, rfl⟩
        · rfl
        · exact absurd hle (Nat.not_succ_le_zero 1)
        · exact absurd hle (Nat.not_succ_le_zero 1)
        · exact absurd hle (by simp [Lock.level])
      rw [hkey hl hlevel, hkey hn hnlevel.ge]
  | _ => cases hl

/-- A request that waits holds only locks below the level it waits at. -/
theorem Waiting.held_lt {l m n : Lock} (hj : Waiting db j s)
    (hx : db.locks.Exclusive LockMode.conflicts) (hij : i ≠ j) (hm : m ∈ db.locks.own i)
    (hmlevel : Lock.level m < 4) (hn : n ∈ db.needs j s)
    (hc : LockTable.Clash LockMode.conflicts m n) (hl : l ∈ db.locks.own j) :
    Lock.level l < s.level := by
  by_contra hle
  rw [not_lt] at hle
  rcases hj.below l hl with hlt | htakes
  · exact absurd hlt (not_lt.mpr hle)
  · -- it would hold the lock it waits for
    obtain ⟨hnlevel, _⟩ := hj.blocking_level hx hij hm hmlevel hn hc
    obtain rfl := Stmt.takes_top htakes (Stmt.mem_takes hn) hle hnlevel
    exact hx i j hij m hm l hl hc

/-! ## The wait-for graph -/

namespace World

/-- The level of the statement a request is about to execute. -/
def stmtLevel (w : World) (i : Nat) : Nat :=
  match w.requests[i]? with
  | some ⟨_, .running (.call (.sql s) _)⟩ => s.level
  | _ => 0

theorem stmtLevel_eq {call : Call} {k : Except SqlError s.Result → Program Effects Answer}
    (h : w.requests[i]? = some ⟨call, .running (.call (.sql s) k)⟩) : w.stmtLevel i = s.level := by
  rw [stmtLevel, h]

theorem Ok.waiting {call : Call} {n : Lock}
    {k : Except SqlError s.Result → Program Effects Answer} (h : w.Ok cat)
    (hr : w.requests[i]? = some ⟨call, .running (.call (.sql s) k)⟩) (hn : n ∈ w.db.needs i s) :
    Waiting w.db i s := by
  have hat := h.requests i _ hr
  cases call with
  | event p =>
      obtain ⟨pt, hpt, hh⟩ := hat
      exact hh.waiting hpt.symm hn
  | heartbeat c =>
      obtain ⟨pt, hpt, hh⟩ := hat
      exact hh.waiting hpt.symm hn

/-- A request that holds a lock is running. -/
theorem Ok.running_of_own (h : w.Ok cat) {l : Lock} (hl : l ∈ w.db.locks.own j) :
    ∃ call program, w.requests[j]? = some ⟨call, .running program⟩ := by
  have hidle : ¬ w.db.Idle j := by
    intro hi
    rw [hi.locks] at hl
    cases hl
  match hr : w.requests[j]? with
  | none => exact absurd (h.absent j hr) hidle
  | some ⟨call, .running program⟩ => exact ⟨call, program, rfl⟩
  | some ⟨call, .answered a⟩ => exact absurd (h.requests j _ hr) hidle
  | some ⟨call, .aborted⟩ => exact absurd (h.requests j _ hr) hidle

/-- A wait leads to a request that does not wait, or that waits at a higher level. -/
theorem Ok.waitsFor_level (h : w.Ok cat) (hw : w.WaitsFor i j) :
    w.stmtLevel i < 4 ∧ ∀ k, w.WaitsFor j k → w.stmtLevel i < w.stmtLevel j := by
  obtain ⟨call, s, k, hr, hji, l, hl, n, hn, hc⟩ := hw
  have hx := h.consistent.exclusive
  have hlevel := h.level_lt hl (h.running_of_own hl)
  obtain ⟨_, hlevel'⟩ := (h.waiting hr hn).blocking_level hx hji hl hlevel hn hc
  rw [stmtLevel_eq hr, ← hlevel']
  refine ⟨hlevel, ?_⟩
  rintro m ⟨call', s', k', hr', hmj, l', hl', n', hn', hc'⟩
  rw [stmtLevel_eq hr']
  exact (h.waiting hr' hn').held_lt hx hmj hl' (h.level_lt hl' (h.running_of_own hl')) hn' hc' hl

open Classical in
/-- The level a request waits at, or the top when it does not wait. -/
noncomputable def waitRank (w : World) (i : Nat) : Nat :=
  if ∃ j, w.WaitsFor i j then w.stmtLevel i else 4

end World

/-- No reachable state contains a cycle of requests each waiting for a lock of the next. -/
theorem no_deadlock (h : w.Reachable cat) (i : Nat) : ¬ Relation.TransGen w.WaitsFor i i := by
  refine acyclic_of_rank w.waitRank (fun i j hij => ?_) i
  obtain ⟨hlt, hnext⟩ := h.ok.waitsFor_level hij
  rw [World.waitRank, if_pos ⟨j, hij⟩, World.waitRank]
  split
  · next hj =>
    obtain ⟨k, hk⟩ := hj
    exact hnext k hk
  · exact hlt

/-- Two REFUNDS of one SALE, up to where the second waits for the first. -/
def Sample.waitSteps : List Label :=
  Sample.saleSteps ++ [.arrive (.event (Sample.refund 11)), .arrive (.event (Sample.refund 12))] ++
  List.replicate 5 (.run 1) ++ List.replicate 4 (.run 2)

/-- The second REFUND waits for the first, and there is no cycle. -/
theorem no_deadlock_while_waiting :
    ∃ w, Sample.run Sample.waitSteps = some w ∧ w.WaitsFor 2 1 ∧
      ¬ Relation.TransGen w.WaitsFor 2 2 := by
  have hrun : Sample.run Sample.waitSteps = some _ := rfl
  refine ⟨_, hrun, ?_, no_deadlock (Sample.run_reachable hrun) 2⟩
  refine ⟨_, .lockEvent 10, _, rfl, by decide, (.event 10, .forUpdate), ?_,
    (.event 10, .forUpdate), ?_, rfl, rfl⟩
  · exact List.mem_singleton_self _
  · exact List.mem_singleton_self _

end StorePulse
