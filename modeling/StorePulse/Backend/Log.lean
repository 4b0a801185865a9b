import StorePulse.Backend.Refinement

/-!
# What the log records

The log says which requests committed what and which messages they sent.  The
committed tables are exactly what the commits in the log have made visible, so a
request without a commit has contributed nothing.  For a call of `create_event`
the record depends only on how far it has come: nothing while it is undecided,
one commit of one row once it is accepted, and one message after that.
-/

namespace StorePulse

variable {cat : Catalogue} {db db' : Db} {i j : Nat} {p : EventCreate}

/-! ## Records -/

/-- The events an entry made visible. -/
def Entry.rows : Entry → List PosEvent
  | .committed _ rows _ => rows
  | _ => []

/-- The versions of `last_seen_at` an entry made visible. -/
def Entry.versions : Entry → List (UUID × Instant)
  | .committed _ _ versions => versions
  | _ => []

/-- A commit of request `i`. -/
def Entry.commitOf (i : Nat) : Entry → Option (List PosEvent × List (UUID × Instant))
  | .committed j rows versions => if j = i then some (rows, versions) else none
  | _ => none

/-- A message of request `i`. -/
def Entry.messageOf (i : Nat) : Entry → Option Message
  | .broadcast j message => if j = i then some message else none
  | _ => none

/-- What a request has committed and broadcast. -/
structure Record where
  commits : List (List PosEvent × List (UUID × Instant))
  messages : List Message

/-- The record of request `i` in some entries. -/
def recordOf (log : List Entry) (i : Nat) : Record :=
  ⟨log.filterMap (Entry.commitOf i), log.filterMap (Entry.messageOf i)⟩

/-- The record of a request that has neither committed nor broadcast. -/
def Record.empty : Record := ⟨[], []⟩

/-- One record after another. -/
def Record.append (r r' : Record) : Record := ⟨r.commits ++ r'.commits, r.messages ++ r'.messages⟩

@[simp] theorem Record.append_empty (r : Record) : r.append .empty = r := by
  simp [append, empty]

@[simp] theorem Record.empty_append (r : Record) : Record.empty.append r = r := rfl

theorem recordOf_append (log log' : List Entry) (i : Nat) :
    recordOf (log ++ log') i = (recordOf log i).append (recordOf log' i) := by
  simp [recordOf, Record.append]

/-- An effect of one request is in the record of no other. -/
theorem recordOf_entries_ne (op : Op) (h : j ≠ i) :
    recordOf (op.entries db i) j = .empty := by
  cases op with
  | sql s => cases s <;> simp [Op.entries, recordOf, Entry.commitOf, Entry.messageOf,
      Record.empty, Ne.symm h]
  | now => rfl
  | broadcast m => simp [Op.entries, recordOf, Entry.commitOf, Entry.messageOf, Record.empty,
      Ne.symm h]

/-! ## How far a call has come -/

/-- How far a program has come. -/
inductive Phase where
  /-- The answer is not decided. -/
  | undecided
  /-- A message is about to be broadcast before the answer. -/
  | announcing (answer : Option Answer)
  /-- Only the answer is left. -/
  | ended (answer : Answer)

/-- The phase of a program. -/
def Program.phase : Program Effects Answer → Phase
  | .ret a => .ended a
  | .call (.broadcast _) k => .announcing (k ()).decided
  | .call _ _ => .undecided

namespace Point

/-- The phase of a point. -/
def phase : Point → Phase
  | .broadcast result => .announcing (some (.event 201 result))
  | .done a => .ended a
  | _ => .undecided

/-- What the effect of a point adds to the log. -/
def entries (db : Db) (i : Nat) (p : EventCreate) : Point → List Entry
  | .begin => [.began i db.clock]
  | .commit _ _ => [.committed i (db.events.own i) (db.lastSeen.own i)]
  | .broadcast _ => [.broadcast i (.eventsChanged p.storeCode)]
  | _ => []

variable {pt pt' : Point}

theorem phase_resume (ha : pt.Aligned p) : (pt.resume p).phase = pt.phase := by
  cases pt with
  | broadcast result => rfl
  | done answer => rfl
  | _ =>
      obtain ⟨k, hk⟩ := resume_effect ha rfl
      rw [hk]
      rfl

/-- Where nothing is decided nothing is announced. -/
theorem phase_of_undecided (h : pt.decision = none) : pt.phase = .undecided := by
  cases pt with
  | broadcast | done => cases h
  | _ => rfl

theorem entries_eq (ha : pt.Aligned p) {op : Op} {k : op.Reply → Program Effects Answer}
    (hc : pt.resume p = .call op k) : op.entries db i = pt.entries db i p := by
  have he := effect_of_call ha hc
  cases pt with
  | done answer => cases he
  | _ => cases he; rfl

end Point

/-- The one commit of an accepted call: its row, and `received_at` for its store, unless that is
the value the store was loaded with. -/
def Record.CommittedOnce (cat : Catalogue) (p : EventCreate) (r : Record) (a : Answer) : Prop :=
  ∃ (store : LoadedStore) (product : Product) (row : PosEvent),
    WrittenFor cat p store product row ∧ r.commits = [([row], store.versions row.receivedAt)] ∧
    a = .event 201 ⟨p.eventId, .accepted, row.receivedAt⟩

/-- The record of a call of `create_event` that has answered, or is about to. -/
def Record.Answered (cat : Catalogue) (p : EventCreate) (r : Record) (a : Answer) : Prop :=
  (a.outcome = .accepted ∧ r.CommittedOnce cat p a ∧
    r.messages = [.eventsChanged p.storeCode]) ∨
  (a.outcome ≠ .accepted ∧ r = .empty)

/-- The record of a call of `create_event` in a phase. -/
def Record.InPhase (cat : Catalogue) (p : EventCreate) (r : Record) : Phase → Prop
  | .undecided => r = .empty
  | .announcing answer => (∃ a, answer = some a ∧ r.CommittedOnce cat p a) ∧ r.messages = []
  | .ended a => r.Answered cat p a

/-- The record of a call of `create_event` that may have ended anywhere. -/
def Record.Partial (cat : Catalogue) (p : EventCreate) (r : Record) : Prop :=
  r = .empty ∨ ((∃ a, r.CommittedOnce cat p a) ∧
    (r.messages = [] ∨ r.messages = [.eventsChanged p.storeCode]))

theorem Record.InPhase.partial {r : Record} {phase : Phase} (h : r.InPhase cat p phase) :
    r.Partial cat p := by
  cases phase with
  | undecided => exact Or.inl h
  | announcing answer =>
      obtain ⟨⟨a, _, hc⟩, hm⟩ := h
      exact Or.inr ⟨⟨a, hc⟩, Or.inl hm⟩
  | ended a =>
      rcases h with ⟨_, hc, hm⟩ | ⟨_, he⟩
      · exact Or.inr ⟨⟨a, hc⟩, Or.inr hm⟩
      · exact Or.inl he

namespace Point

variable {pt pt' : Point}

/-- A move records what belongs to the phase it leads to. -/
theorem Move.record {r : Record} (h : pt.Holds cat db i p)
    (hm : Move cat db i p pt pt' db') (hr : r.InPhase cat p pt.phase) :
    (r.append (recordOf (pt.entries db i p) i)).InPhase cat p pt'.phase := by
  have hk := h.knows
  cases hm with
  | begin | precheckMiss | precheckHit | storeMissing | storeRead | productMissing | productRead
  | storeFound | productOfSale | productOfRefund | originalLocked | recheckHit | recheckMiss
  | limitKept | insertConflict | inserted | insertedSeen | classifiedInvisible | classified
  | storeUpdated =>
      exact (Record.append_empty r).trans hr
  | storeUnreadable | storeUnknown | productUnreadable | productUnknown | originalMissing
  | originalInvalid | recheckMismatch | limitExceeded | insertUnfit | insertChecked
  | insertDuplicateKey | insertForeignKey =>
      refine Or.inr ⟨?_, (Record.append_empty r).trans hr⟩
      rw [raiseHttp_outcome]
      exact nofun
  | @committed store =>
      obtain ⟨product, row, ha, rfl, hseen⟩ := hk
      rw [show r = .empty from hr, Record.empty_append]
      refine ⟨⟨_, rfl, store, product, row, ha.written, ?_, rfl⟩, ?_⟩
      · simp [recordOf, entries, Entry.commitOf, ha.own, hseen]
      · simp [recordOf, entries, Entry.messageOf]
  | rolledBack =>
      obtain ⟨e, _, _, hj⟩ := hk
      rw [show r = .empty from hr]
      cases hj with
      | duplicate hi => exact Or.inr ⟨nofun, rfl⟩
      | conflict hi => exact Or.inr ⟨nofun, rfl⟩
  | @broadcast result =>
      obtain ⟨⟨a, ha, hc⟩, hmsg⟩ := hr
      cases ha
      obtain ⟨store, product, row, hw, hcommits, he⟩ := hc
      refine Or.inl ⟨by rw [he]; rfl, ⟨store, product, row, hw, ?_, he⟩, ?_⟩
      · rw [Record.append, hcommits]
        rfl
      · rw [Record.append, hmsg]
        simp [recordOf, entries, Entry.messageOf]

end Point

/-- The record of a heartbeat: no event, and no news about events. -/
structure Record.OfHeartbeat (r : Record) : Prop where
  commits : ∀ c ∈ r.commits, c.1 = []
  messages : ∀ m ∈ r.messages, ∃ c, m = .storesChanged c

/-- The record a request has. -/
def Request.Recorded (cat : Catalogue) (record : Record) (r : Request) : Prop :=
  match r.call with
  | .event p =>
      match r.state with
      | .running program => record.InPhase cat p program.phase
      | .answered a => record.Answered cat p a
      | .aborted => record.Partial cat p
  | .heartbeat _ => record.OfHeartbeat

theorem Record.ofHeartbeat_empty : Record.empty.OfHeartbeat :=
  ⟨nofun, nofun⟩

/-- An effect of a heartbeat is recorded as one. -/
theorem HeartbeatPoint.Holds.record {r : Record} {pt : HeartbeatPoint} {c : String} {op : Op}
    {k : op.Reply → Program Effects Answer} (h : pt.Holds db i) (hc : pt.resume c = .call op k)
    (hr : r.OfHeartbeat) : (r.append (recordOf (op.entries db i) i)).OfHeartbeat := by
  have hnone : recordOf (op.entries db i) i = .empty →
      (r.append (recordOf (op.entries db i) i)).OfHeartbeat := by
    intro he
    rw [he, Record.append_empty]
    exact hr
  cases pt with
  | begin => rw [resume_begin] at hc; cases hc; exact hnone rfl
  | selectStore => rw [resume_selectStore] at hc; cases hc; exact hnone rfl
  | now store => rw [resume_now] at hc; cases hc; exact hnone rfl
  | updateStore store t => rw [resume_updateStore] at hc; cases hc; exact hnone rfl
  | commit store t =>
      rw [resume_commit] at hc
      cases hc
      refine ⟨fun x hx => ?_, fun m hm => ?_⟩
      · rcases List.mem_append.mp hx with hx | hx
        · exact hr.commits x hx
        · simp only [recordOf, Op.entries, Entry.commitOf, List.filterMap_cons, if_pos,
            List.filterMap_nil, List.mem_singleton] at hx
          rw [hx]
          exact h.events
      · rcases List.mem_append.mp hm with hm | hm
        · exact hr.messages m hm
        · cases hm
  | broadcast store t =>
      rw [resume_broadcast] at hc
      cases hc
      refine ⟨fun x hx => ?_, fun m hm => ?_⟩
      · rcases List.mem_append.mp hx with hx | hx
        · exact hr.commits x hx
        · cases hx
      · rcases List.mem_append.mp hm with hm | hm
        · exact hr.messages m hm
        · simp only [recordOf, Op.entries, Entry.messageOf, List.filterMap_cons, if_pos,
            List.filterMap_nil, List.mem_singleton] at hm
          exact ⟨_, hm⟩
  | done a => cases hc

/-! ## The committed tables -/

/-- What a statement adds to the committed tables. -/
theorem Db.exec_committed {s : Stmt} {r : Except SqlError s.Result}
    (h : db.exec cat i s = some (r, db')) :
    db'.events.committed =
        db.events.committed ++ ((Op.sql s).entries db i).flatMap Entry.rows ∧
      db'.lastSeen.committed =
        db.lastSeen.committed ++ ((Op.sql s).entries db i).flatMap Entry.versions := by
  cases s with
  | commit =>
      rw [exec_commit] at h
      cases h
      simp [Op.entries, Entry.rows, Entry.versions, Db.commit]
  | rollback =>
      rw [exec_rollback] at h
      cases h
      simp [Op.entries, Db.rollback]
  | lockEvent eventId =>
      rcases exec_lockEvent h with ⟨_, _, rfl⟩ | ⟨_, _, _, rfl⟩ <;> simp [Op.entries, Db.lock]
  | insertEvent v =>
      rcases exec_insertEvent h with ⟨_, _, rfl⟩ | ⟨_, _, _, rfl⟩ | ⟨_, _, _, rfl⟩ |
        ⟨_, _, _, _, rfl⟩ | ⟨_, _, _, rfl⟩ | ⟨_, _, _, _, _, rfl⟩ <;> simp [Op.entries, Db.lock]
  | updateLastSeen store t =>
      obtain ⟨_, rfl⟩ := exec_updateLastSeen h
      simp [Op.entries, Db.lock]
  | begin =>
      rw [exec_begin] at h
      cases h
      simp [Op.entries, Entry.rows, Entry.versions]
  | selectEvent _ | selectStore _ | selectProduct _ | getStore _ | getProduct _ | sumRefunds _ =>
      rw [exec_of_needs_nil rfl] at h
      cases h
      simp [Op.entries]

namespace World

variable {w w' : World}

theorem perform_committed {op : Op} {reply : op.Reply}
    (h : World.perform cat db i op = some (reply, db')) :
    db'.events.committed = db.events.committed ++ (op.entries db i).flatMap Entry.rows ∧
      db'.lastSeen.committed =
        db.lastSeen.committed ++ (op.entries db i).flatMap Entry.versions := by
  cases op with
  | sql s => exact Db.exec_committed h
  | now => cases h; simp [Op.entries, Entry.rows, Entry.versions]
  | broadcast m => cases h; simp [Op.entries, Entry.rows, Entry.versions]

/-- The committed tables are what the commits of the log made visible. -/
structure Tables (w : World) : Prop where
  events : w.db.events.committed = w.log.flatMap Entry.rows
  lastSeen : w.db.lastSeen.committed = w.log.flatMap Entry.versions

theorem Tables.step {l : Label} (h : w.Tables) (hs : w.step cat l = some w') : w'.Tables := by
  have hsame : ∀ {e : Entry} {db : Db} {requests : List Request}, e.rows = [] → e.versions = [] →
      db.events.committed = w.db.events.committed →
      db.lastSeen.committed = w.db.lastSeen.committed →
      Tables ⟨db, requests, w.log ++ [e]⟩ := by
    intro e db requests hrows hversions hevents hlast
    constructor
    · show db.events.committed = (w.log ++ [e]).flatMap Entry.rows
      simp [List.flatMap_append, hrows, hevents, h.events]
    · show db.lastSeen.committed = (w.log ++ [e]).flatMap Entry.versions
      simp [List.flatMap_append, hversions, hlast, h.lastSeen]
  cases step_cases hs with
  | tick => exact ⟨h.events, h.lastSeen⟩
  | arrive => exact hsame rfl rfl rfl rfl
  | lock => exact ⟨h.events, h.lastSeen⟩
  | perform hr hp =>
      obtain ⟨hevents, hlast⟩ := perform_committed hp
      constructor
      · rw [hevents, h.events, List.flatMap_append]
      · rw [hlast, h.lastSeen, List.flatMap_append]
  | answer => exact hsame rfl rfl rfl rfl
  | abort => exact hsame rfl rfl rfl rfl

theorem Reachable.tables (h : Reachable cat w) : w.Tables := by
  obtain ⟨clock, hr⟩ := h
  exact hr.invariant ⟨rfl, rfl⟩ fun _ _ _ _ ht hs => ht.step hs

/-! ## Arrivals and answers -/

/-- The log and the requests agree on who arrived and who was answered. -/
structure Listed (w : World) : Prop where
  arrived : ∀ i call, .arrived i call ∈ w.log ↔ ∃ state, w.requests[i]? = some ⟨call, state⟩
  answered : ∀ i call a, .answered i call a ∈ w.log ↔
    w.requests[i]? = some ⟨call, .answered a⟩

/-- An invocation in the history is an arrival in the log. -/
theorem invoke_mem_history :
    .invoke i p ∈ w.history ↔ .arrived i (.event p) ∈ w.log := by
  rw [history, List.mem_filterMap]
  constructor
  · rintro ⟨entry, hm, he⟩
    cases entry with
    | arrived j call =>
        cases call with
        | event q => cases he; exact hm
        | heartbeat c => cases he
    | answered j call b => cases call <;> cases he
    | began | readClock | committed | broadcast | aborted => cases he
  · exact fun hm => ⟨_, hm, rfl⟩

theorem not_mem_entries_arrived {op : Op} {call : Call} :
    Entry.arrived j call ∉ op.entries db i := by
  cases op with
  | sql s => cases s <;> simp [Op.entries]
  | now => simp [Op.entries]
  | broadcast m => simp [Op.entries]

theorem not_mem_entries_answered {op : Op} {call : Call} {a : Answer} :
    Entry.answered j call a ∉ op.entries db i := by
  cases op with
  | sql s => cases s <;> simp [Op.entries]
  | now => simp [Op.entries]
  | broadcast m => simp [Op.entries]

/-- The calls of the requests are not changed by setting a state. -/
theorem exists_state_set {call call' : Call} {state : RequestState} {r : Request}
    (hr : w.requests[i]? = some r) (hcall : r.call = call) :
    (∃ s, (w.requests.set i ⟨call, state⟩)[j]? = some ⟨call', s⟩) ↔
      ∃ s, w.requests[j]? = some ⟨call', s⟩ := by
  by_cases hj : j = i
  · subst hj
    rw [List.getElem?_set_self (lt_of_getElem? hr), hr]
    obtain ⟨c, s⟩ := r
    simp only at hcall
    subst hcall
    simp
  · rw [List.getElem?_set_ne (Ne.symm hj)]

theorem Listed.step {l : Label} (h : w.Listed) (hs : w.step cat l = some w') : w'.Listed := by
  cases step_cases hs with
  | tick => exact ⟨h.arrived, h.answered⟩
  | lock => exact ⟨h.arrived, h.answered⟩
  | @arrive call =>
      refine ⟨fun j call' => ?_, fun j call' a => ?_⟩
      · rw [List.mem_append, h.arrived, List.mem_singleton]
        constructor
        · rintro (⟨s, hs⟩ | he)
          · exact ⟨s, (List.getElem?_append_left (lt_of_getElem? hs)).trans hs⟩
          · cases he
            exact ⟨_, List.getElem?_concat_length⟩
        · rintro ⟨s, hs⟩
          rcases getElem?_arrived hs with hs | ⟨rfl, he⟩
          · exact Or.inl ⟨s, hs⟩
          · cases he
            exact Or.inr rfl
      · rw [List.mem_append, h.answered, List.mem_singleton]
        constructor
        · rintro (hs | he)
          · exact (List.getElem?_append_left (lt_of_getElem? hs)).trans hs
          · cases he
        · intro hs
          rcases getElem?_arrived hs with hs | ⟨rfl, he⟩
          · exact Or.inl hs
          · cases he
  | @perform i call op k reply db hr hp =>
      refine ⟨fun j call' => ?_, fun j call' a => ?_⟩
      · rw [List.mem_append, h.arrived, exists_state_set hr rfl]
        exact or_iff_left not_mem_entries_arrived
      · rw [List.mem_append, h.answered, or_iff_left not_mem_entries_answered]
        by_cases hj : j = i
        · subst hj
          rw [List.getElem?_set_self (lt_of_getElem? hr), hr]
          simp
        · rw [List.getElem?_set_ne (Ne.symm hj)]
  | @answer i call a hr =>
      refine ⟨fun j call' => ?_, fun j call' b => ?_⟩
      · rw [List.mem_append, h.arrived, exists_state_set hr rfl]
        exact or_iff_left (by simp)
      · rw [List.mem_append, h.answered, List.mem_singleton]
        by_cases hj : j = i
        · subst hj
          rw [List.getElem?_set_self (lt_of_getElem? hr), hr]
          simp [eq_comm]
        · rw [List.getElem?_set_ne (Ne.symm hj)]
          exact or_iff_left (fun he => hj (by cases he; rfl))
  | @abort i call program hr =>
      refine ⟨fun j call' => ?_, fun j call' b => ?_⟩
      · rw [List.mem_append, h.arrived, exists_state_set hr rfl]
        exact or_iff_left (by simp)
      · rw [List.mem_append, h.answered, or_iff_left (by simp)]
        by_cases hj : j = i
        · subst hj
          rw [List.getElem?_set_self (lt_of_getElem? hr), hr]
          simp
        · rw [List.getElem?_set_ne (Ne.symm hj)]

theorem Reachable.listed (h : Reachable cat w) : w.Listed := by
  obtain ⟨clock, hr⟩ := h
  exact hr.invariant (I := Listed) ⟨by simp [initial], by simp [initial]⟩
    fun _ _ _ _ ht hs => ht.step hs

/-! ## The records of the requests -/

/-- Every request has the record of how far it has come. -/
structure Records (cat : Catalogue) (w : World) : Prop where
  requests : ∀ (i : Nat) (r : Request), w.requests[i]? = some r →
    r.Recorded cat (recordOf w.log i)
  absent : ∀ i : Nat, w.requests[i]? = none → recordOf w.log i = .empty

/-- A step of request `i` that is in no other record. -/
theorem Records.set {r r' : Request} {db : Db} {entries : List Entry} (h : w.Records cat)
    (hi : w.requests[i]? = some r) (hne : ∀ j, j ≠ i → recordOf entries j = .empty)
    (hr : r'.Recorded cat ((recordOf w.log i).append (recordOf entries i))) :
    Records cat ⟨db, w.requests.set i r', w.log ++ entries⟩ where
  requests j q hj := by
    rw [recordOf_append]
    by_cases hji : j = i
    · subst hji
      rw [getElem?_set_same hi hj]
      exact hr
    · rw [hne j hji, Record.append_empty]
      exact h.requests j q (getElem?_set_other hji hj)
  absent j hj := by
    have hji : j ≠ i := by
      rintro rfl
      rw [List.getElem?_set_self (lt_of_getElem? hi)] at hj
      cases hj
    rw [List.getElem?_set_ne (Ne.symm hji)] at hj
    rw [recordOf_append, hne j hji, Record.append_empty]
    exact h.absent j hj

theorem Records.step {l : Label} (hok : w.Ok cat) (h : w.Records cat)
    (hs : w.step cat l = some w') : w'.Records cat := by
  cases step_cases hs with
  | tick => exact ⟨h.requests, h.absent⟩
  | lock => exact ⟨h.requests, h.absent⟩
  | @arrive call =>
      have hnew : ∀ j, recordOf [.arrived w.requests.length call] j = .empty := fun _ => rfl
      refine ⟨fun j r hj => ?_, fun j hj => ?_⟩
      · rw [recordOf_append, hnew, Record.append_empty]
        rcases getElem?_arrived hj with hj | ⟨rfl, rfl⟩
        · exact h.requests j r hj
        · have hempty := h.absent w.requests.length (List.getElem?_eq_none le_rfl)
          cases call with
          | event p =>
              show Record.InPhase cat p _ (createEvent p).phase
              rw [show (createEvent p).phase = .undecided from
                Point.phase_resume (show Point.Aligned p .begin from trivial)]
              exact hempty
          | heartbeat c => exact hempty ▸ Record.ofHeartbeat_empty
      · rw [recordOf_append, hnew, Record.append_empty]
        refine h.absent j (List.getElem?_eq_none ?_)
        have hlen := List.getElem?_eq_none_iff.mp hj
        rw [List.length_append] at hlen
        exact (Nat.le_add_right _ _).trans hlen
  | @perform i call op k reply db hr hp =>
      refine h.set hr (fun j hj => recordOf_entries_ne op hj) ?_
      have hrec := h.requests i _ hr
      cases call with
      | event p =>
          obtain ⟨pt, pt', hpt, hpt', hh, hm, hh'⟩ := hok.move hr hp
          show Record.InPhase cat p _ (k reply).phase
          rw [hpt', Point.phase_resume hh'.aligned, Point.entries_eq hh.aligned hpt]
          refine hm.record hh ?_
          rw [← Point.phase_resume hh.aligned, hpt]
          exact hrec
      | heartbeat c =>
          obtain ⟨pt, _, hpt, _, hh, _, _⟩ := hok.heartbeatMove hr hp
          exact hh.record hpt hrec
  | @answer i call a hr =>
      refine h.set hr (fun j _ => rfl) ?_
      have hrec := h.requests i _ hr
      cases call with
      | event p => exact (Record.append_empty _).symm ▸ hrec
      | heartbeat c => exact (Record.append_empty _).symm ▸ hrec
  | @abort i call program hr =>
      refine h.set hr (fun j _ => rfl) ?_
      have hrec := h.requests i _ hr
      cases call with
      | event p => exact (Record.append_empty _).symm ▸ Record.InPhase.partial hrec
      | heartbeat c => exact (Record.append_empty _).symm ▸ hrec

theorem Reachable.records (h : Reachable cat w) : w.Records cat := by
  obtain ⟨clock, hr⟩ := h
  refine hr.invariant (I := Records cat) ⟨by simp [initial], fun i _ => rfl⟩ ?_
  exact fun v _ _ hv ht hs => ht.step (Reachable.ok ⟨clock, hv⟩) hs

/-! ## Growth -/

/-- The log only grows. -/
theorem log_grows (h : (server cat).Reaches w w') : w.log <+: w'.log := by
  have htrans : ∀ {u v v' : World}, u.log <+: v.log → v.log <+: v'.log → u.log <+: v'.log :=
    fun h h' => h.trans h'
  refine h.mono (R := fun v v' => v.log <+: v'.log) (fun v => List.prefix_refl _) htrans
    fun v l v' hs => ?_
  cases step_cases hs with
  | tick => exact List.prefix_refl _
  | lock => exact List.prefix_refl _
  | arrive => exact List.prefix_append _ _
  | perform => exact List.prefix_append _ _
  | answer => exact List.prefix_append _ _
  | abort => exact List.prefix_append _ _

/-- The committed events only grow. -/
theorem committed_grows (h : (server cat).Reaches w w') :
    w.db.events.committed <+: w'.db.events.committed := by
  have htrans : ∀ {u v v' : World}, u.db.events.committed <+: v.db.events.committed →
      v.db.events.committed <+: v'.db.events.committed →
      u.db.events.committed <+: v'.db.events.committed := fun h h' => h.trans h'
  refine h.mono (R := fun v v' => v.db.events.committed <+: v'.db.events.committed)
    (fun v => List.prefix_refl _) htrans fun v l v' hs => ?_
  cases step_cases hs with
  | perform hr hp =>
      rw [(perform_committed hp).1]
      exact List.prefix_append _ _
  | tick | lock | arrive | answer | abort => exact List.prefix_refl _

theorem Reachable.reaches (h : Reachable cat w) (hr : (server cat).Reaches w w') :
    Reachable cat w' := by
  obtain ⟨clock, hc⟩ := h
  exact ⟨clock, hc.trans hr⟩

end World

end StorePulse
