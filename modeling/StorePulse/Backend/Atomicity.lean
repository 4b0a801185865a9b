import Mathlib.Data.List.Flatten
import StorePulse.Backend.Connectivity

/-!
# All or nothing

A call of `create_event` changes the committed tables in one step, in which its
row and the new `last_seen_at` of its store become visible together, or not at
all.  Where the session loaded the store with that very value it has nothing to
write to it, and the value stays what others have made of it (`Overtaken`).  It
broadcasts at most once, and only after that step; no two calls with one
`event_id` broadcast.  This holds wherever a call ends: with an answer, or
because it is cancelled or loses its connection between any two effects.
-/

namespace StorePulse

variable {cat : Catalogue} {i j : Nat} {p q : EventCreate} {w w' : World}

/-! ## Commits in the log -/

theorem mem_commits {log : List Entry} {rows : List PosEvent}
    {versions : List (UUID × Instant)} :
    (rows, versions) ∈ (recordOf log i).commits ↔ .committed i rows versions ∈ log := by
  simp only [recordOf, List.mem_filterMap]
  constructor
  · rintro ⟨entry, hm, he⟩
    cases entry with
    | committed k rows' versions' =>
        simp only [Entry.commitOf] at he
        split at he
        · next hk =>
          cases he
          exact hk ▸ hm
        · cases he
    | _ => cases he
  · exact fun hm => ⟨_, hm, by simp [Entry.commitOf]⟩

theorem mem_messages {log : List Entry} {m : Message} :
    m ∈ (recordOf log i).messages ↔ .broadcast i m ∈ log := by
  simp only [recordOf, List.mem_filterMap]
  constructor
  · rintro ⟨entry, hm, he⟩
    cases entry with
    | broadcast k m' =>
        simp only [Entry.messageOf] at he
        split at he
        · next hk =>
          cases he
          exact hk ▸ hm
        · cases he
    | _ => cases he
  · exact fun hm => ⟨_, hm, by simp [Entry.messageOf]⟩

/-- Two entries of a list whose contributions have different keys contribute different
keys. -/
theorem key_ne_of_flatMap_nodup {α β κ : Type} {l : List α} {f : α → List β} {key : β → κ}
    (h : ((l.flatMap f).map key).Nodup) {x y : α} {a b : β} (hx : x ∈ l) (hy : y ∈ l)
    (hne : x ≠ y) (ha : a ∈ f x) (hb : b ∈ f y) : key a ≠ key b := by
  have hpair : ∀ {x y : α} {a b : β}, List.Sublist [x, y] l → a ∈ f x → b ∈ f y →
      key a ≠ key b := by
    intro x y a b hs ha hb
    have hsub := (hs.flatMap f).map key
    simp only [List.flatMap_cons, List.flatMap_nil, List.append_nil, List.map_append] at hsub
    have hnodup := h.sublist hsub
    rw [List.nodup_append] at hnodup
    exact hnodup.2.2 _ (List.mem_map_of_mem ha) _ (List.mem_map_of_mem hb)
  rcases Linearizability.pair_sublist_or hx hy hne with hs | hs
  · exact hpair hs ha hb
  · exact (hpair hs hb ha).symm

namespace World

/-- The row of a request that has committed is in the table. -/
theorem Reachable.row_of_committedOnce {a : Answer} (h : w.Reachable cat)
    (hc : (recordOf w.log i).CommittedOnce cat p a) :
    ∃ store product row versions, WrittenFor cat p store product row ∧
      .committed i [row] versions ∈ w.log ∧ row ∈ w.db.events.committed ∧
      a = .event 201 ⟨p.eventId, .accepted, row.receivedAt⟩ := by
  obtain ⟨store, product, row, hw, hcommits, he⟩ := hc
  have hmem : .committed i [row] (store.versions row.receivedAt) ∈ w.log :=
    mem_commits.mp (by rw [hcommits]; exact List.mem_singleton_self _)
  refine ⟨store, product, row, _, hw, hmem, ?_, he⟩
  rw [h.tables.events]
  exact List.mem_flatMap.mpr ⟨_, hmem, List.mem_singleton_self row⟩

/-- No two requests commit a row with one `event_id`. -/
theorem Reachable.commit_unique {a b : Answer} (h : w.Reachable cat)
    (hi : (recordOf w.log i).CommittedOnce cat p a)
    (hj : (recordOf w.log j).CommittedOnce cat q b) (hid : p.eventId = q.eventId) : i = j := by
  obtain ⟨_, _, row, _, hw, hm, _⟩ := h.row_of_committedOnce hi
  obtain ⟨_, _, row', _, hw', hm', _⟩ := h.row_of_committedOnce hj
  by_contra hne
  have hkeys : ((w.log.flatMap Entry.rows).map fun e => e.eventId).Nodup := by
    rw [← h.tables.events]
    exact h.ok.consistent.wellFormed.sound.keys
  refine key_ne_of_flatMap_nodup hkeys hm hm' (fun he => hne (by cases he; rfl))
    (List.mem_singleton_self row) (List.mem_singleton_self row') ?_
  exact hw.eventId.trans (hid.trans hw'.eventId.symm)

/-- A call has the record of a call that may have ended anywhere. -/
theorem Reachable.partial {state : RequestState} (h : w.Reachable cat)
    (hr : w.requests[i]? = some ⟨.event p, state⟩) : (recordOf w.log i).Partial cat p := by
  have hrec := h.records.requests i _ hr
  cases state with
  | running program => exact Record.InPhase.partial hrec
  | answered a => exact Record.InPhase.partial (show Record.InPhase cat p _ (.ended a) from hrec)
  | aborted => exact hrec

/-- A call that has broadcast has committed. -/
theorem Reachable.committedOnce_of_message {state : RequestState} {m : Message}
    (h : w.Reachable cat) (hr : w.requests[i]? = some ⟨.event p, state⟩)
    (hm : m ∈ (recordOf w.log i).messages) :
    m = .eventsChanged p.storeCode ∧ ∃ a, (recordOf w.log i).CommittedOnce cat p a := by
  rcases h.partial hr with he | ⟨hc, hmsg | hmsg⟩
  · rw [he] at hm
    cases hm
  · rw [hmsg] at hm
    cases hm
  · rw [hmsg, List.mem_singleton] at hm
    exact ⟨hm, hc⟩

/-- Only a call of `create_event` that has committed sends news about events. -/
theorem Reachable.event_of_broadcast {c : String} (h : w.Reachable cat)
    (hb : .broadcast i (.eventsChanged c) ∈ w.log) :
    ∃ p state, w.requests[i]? = some ⟨.event p, state⟩ ∧ c = p.storeCode ∧
      ∃ a, (recordOf w.log i).CommittedOnce cat p a := by
  have hm := mem_messages.mpr hb
  match hr : w.requests[i]? with
  | none =>
      rw [h.records.absent i hr] at hm
      cases hm
  | some ⟨.heartbeat code, state⟩ =>
      have hrec : (recordOf w.log i).OfHeartbeat := h.records.requests i _ hr
      obtain ⟨_, he⟩ := hrec.messages _ hm
      cases he
  | some ⟨.event p, state⟩ =>
      obtain ⟨he, hc⟩ := h.committedOnce_of_message hr hm
      cases he
      exact ⟨p, state, rfl, rfl, hc⟩

/-- A broadcast is nothing to the database. -/
theorem db_of_broadcast {l : Label} {m : Message} (hs : w.step cat l = some w')
    (hnew : .broadcast i m ∈ w'.log) (hold : .broadcast i m ∉ w.log) : w'.db = w.db := by
  cases step_cases hs with
  | tick => exact absurd hnew hold
  | lock => exact absurd hnew hold
  | arrive => exact absurd (by simpa using hnew) hold
  | answer => exact absurd (by simpa using hnew) hold
  | abort => exact absurd (by simpa using hnew) hold
  | @perform k call op k' reply db hr hp =>
      rcases List.mem_append.mp hnew with hnew | hnew
      · exact absurd hnew hold
      · cases op with
        | sql s => cases s <;> simp [Op.entries] at hnew
        | now => simp [Op.entries] at hnew
        | broadcast m' =>
            cases hp
            rfl

/-- A step of a call is its commit, or keeps the committed tables. -/
theorem Reachable.step_tables {state : RequestState} {l : Label} (h : w.Reachable cat)
    (hr : w.requests[i]? = some ⟨.event p, state⟩) (hl : l.request = some i)
    (hs : w.step cat l = some w') :
    (w'.db.events.committed = w.db.events.committed ∧
      w'.db.lastSeen.committed = w.db.lastSeen.committed) ∨
    ∃ store product row versions, WrittenFor cat p store product row ∧
      w'.db.events.committed = w.db.events.committed ++ [row] ∧
      w'.db.lastSeen.committed = w.db.lastSeen.committed ++ versions ∧
      Flushed w.log i row.storeId row.receivedAt versions ∧
      (recordOf w.log i).commits = [] := by
  cases step_cases hs with
  | tick | arrive | lock | answer | abort => exact Or.inl ⟨rfl, rfl⟩
  | @perform k call op k' reply db hr' hp =>
      cases hl
      rw [hr'] at hr
      cases hr
      obtain ⟨pt, hpt, hh, ht⟩ := h.dated.requests i _ hr' _ rfl
      obtain ⟨pt', _, hm⟩ := Point.step_cases hh.aligned hpt.symm hp
      rcases hm.committed_eq with hsame | ⟨store, t, rfl, rfl⟩
      · exact Or.inl hsame
      · obtain ⟨product, row, hacc, rfl, hseen⟩ := hh.knows
        have hid : row.storeId = store.id := congrArg EventValues.storeId hacc.written.values
        have hrec := h.records.requests i _ hr'
        have hphase : (Program.call op k').phase = .undecided := by
          rw [hpt]
          exact Point.phase_resume hh.aligned
        have hempty : recordOf w.log i = .empty := by
          have hin : Record.InPhase cat p (recordOf w.log i) (Program.call op k').phase := hrec
          rwa [hphase] at hin
        refine Or.inr ⟨store, product, row, _, hacc.written, ?_, ?_,
          hid ▸ (ht.loaded store rfl).flushed _, by rw [hempty]; rfl⟩
        · show w.db.events.committed ++ w.db.events.own i = _
          rw [hacc.own]
        · show w.db.lastSeen.committed ++ w.db.lastSeen.own i = _
          rw [hseen]

/-- A request that has ended has nothing left. -/
theorem Reachable.idle_of_ended {call : Call} {state : RequestState} (h : w.Reachable cat)
    (hr : w.requests[i]? = some ⟨call, state⟩) (hended : ∀ program, state ≠ .running program) :
    w.db.Idle i := by
  have hok := h.ok.requests i _ hr
  cases state with
  | running program => exact absurd rfl (hended program)
  | answered a => exact hok
  | aborted => exact hok

end World

/-! ## Values that are overtaken -/

/-- Request `i` saw `t` as `last_seen_at` of the store `s` after it had begun, and another value
has been committed since. -/
def Overtaken (log : List Entry) (i : Nat) (s : UUID) (t : Instant) : Prop :=
  ∃ a b, log = a ++ b ∧ (∃ u, .began i u ∈ a) ∧
    lastVersion (a.flatMap Entry.versions) s = some t ∧
    ∃ j rows u, u ≠ t ∧ .committed j rows [(s, u)] ∈ b

/-- Versions with the value there is keep it. -/
theorem lastVersion_append_of_eq {versions versions' : List (UUID × Instant)} {s : UUID}
    {t : Instant} (h : lastVersion versions s = some t)
    (hsame : ∀ v ∈ versions', v.1 = s → v.2 = t) :
    lastVersion (versions ++ versions') s = some t := by
  induction versions' using List.reverseRecOn with
  | nil => rwa [List.append_nil]
  | append_singleton l v ih =>
      have hl := ih fun v' hv' => hsame v' (List.mem_append_left _ hv')
      rw [← List.append_assoc]
      by_cases hv : v.1 = s
      · obtain ⟨s', t'⟩ := v
        cases hv
        obtain rfl := hsame (s', t') (List.mem_append_right _ (List.mem_singleton_self _)) rfl
        exact lastVersion_snoc_self
      · rw [lastVersion_append_of_ne fun v' hv' => List.mem_singleton.mp hv' ▸ hv]
        exact hl

/-- What a request saw is the value still, or it is overtaken. -/
theorem World.Reachable.lastSeenAt_or_overtaken {s : UUID} {t : Instant} (h : w.Reachable cat)
    (hsaw : Saw w.log i s t) : w.db.lastSeenAt s = some t ∨ Overtaken w.log i s t := by
  obtain ⟨a, b, hlog, hbegan, hlast⟩ := hsaw
  by_cases hsame : ∀ v ∈ b.flatMap Entry.versions, v.1 = s → v.2 = t
  · left
    rw [Db.lastSeenAt, h.tables.lastSeen, hlog, List.flatMap_append]
    exact lastVersion_append_of_eq hlast hsame
  · right
    push Not at hsame
    obtain ⟨⟨s', u⟩, hv, rfl, hne⟩ := hsame
    obtain ⟨e, he, hv⟩ := List.mem_flatMap.mp hv
    refine ⟨a, b, hlog, hbegan, hlast, ?_⟩
    rcases h.versions_cases (hlog ▸ List.mem_append_right a he) with hnil | ⟨j, rows, s, t', rfl⟩
    · rw [hnil] at hv
      cases hv
    · cases List.mem_singleton.mp hv
      exact ⟨j, rows, u, hne, he⟩

/-- All or nothing, and truthful invalidation: (1) a step of a call keeps the committed
tables, or it is the one step that adds its row and sets `last_seen_at` of its store to
`received_at`, unless it saw that value when it loaded the store: then it leaves
`last_seen_at` alone, and the value differs only where another commit overtook; (2) a call
that has ended has no lock and no uncommitted write, and without a commit of its own
everything in the tables comes from others; (3) an answer tells whether the call has
committed, and only an accepted call has broadcast; (4) a call that broadcasts has its row
committed before, broadcasts once, and is the only one with its `event_id`. -/
theorem ingestion_atomic (h : w.Reachable cat) :
    (∀ i p state l w', w.requests[i]? = some ⟨.event p, state⟩ → l.request = some i →
      w.step cat l = some w' →
      (w'.db.events.committed = w.db.events.committed ∧
        w'.db.lastSeen.committed = w.db.lastSeen.committed) ∨
      ∃ store product row, WrittenFor cat p store product row ∧
        w'.db.events.committed = w.db.events.committed ++ [row] ∧
        (recordOf w.log i).commits = [] ∧
        ((w'.db.lastSeen.committed = w.db.lastSeen.committed ++ [(row.storeId, row.receivedAt)] ∧
          w'.db.lastSeenAt row.storeId = some row.receivedAt) ∨
        (w'.db.lastSeen.committed = w.db.lastSeen.committed ∧
          Saw w.log i row.storeId row.receivedAt ∧
          (w'.db.lastSeenAt row.storeId = some row.receivedAt ∨
            Overtaken w.log i row.storeId row.receivedAt)))) ∧
    (∀ i p state, w.requests[i]? = some ⟨.event p, state⟩ →
      (∀ program, state ≠ .running program) →
      w.db.Idle i ∧ ((recordOf w.log i).commits = [] →
        (∀ row ∈ w.db.events.committed, ∃ j rows versions, j ≠ i ∧
          .committed j rows versions ∈ w.log ∧ row ∈ rows) ∧
        ∀ v ∈ w.db.lastSeen.committed, ∃ j rows versions, j ≠ i ∧
          .committed j rows versions ∈ w.log ∧ v ∈ versions)) ∧
    (∀ i p a, .answered i (.event p) a ∈ w.log →
      (a.outcome = .accepted → (recordOf w.log i).CommittedOnce cat p a ∧
        (recordOf w.log i).messages = [.eventsChanged p.storeCode]) ∧
      (a.outcome ≠ .accepted → (recordOf w.log i).commits = [] ∧
        (recordOf w.log i).messages = [])) ∧
    (∀ i l w' c, w.step cat l = some w' → .broadcast i (.eventsChanged c) ∈ w'.log →
      .broadcast i (.eventsChanged c) ∉ w.log →
      ∃ p state store product row, w'.requests[i]? = some ⟨.event p, state⟩ ∧ c = p.storeCode ∧
        WrittenFor cat p store product row ∧ ∀ j, row ∈ w.db.events.visible j) ∧
    ∀ i j p q s s', w.requests[i]? = some ⟨.event p, s⟩ → w.requests[j]? = some ⟨.event q, s'⟩ →
      (recordOf w.log i).messages.length ≤ 1 ∧
      ((recordOf w.log i).messages ≠ [] → (recordOf w.log j).messages ≠ [] →
        p.eventId = q.eventId → i = j) := by
  refine ⟨?_, ?_, ?_, ?_, ?_⟩
  · intro i p state l w' hr hl hs
    rcases h.step_tables hr hl hs with hsame | ⟨store, product, row, _, hw, he, hv, hflushed, hc⟩
    · exact Or.inl hsame
    · refine Or.inr ⟨store, product, row, hw, he, hc, ?_⟩
      cases hflushed with
      | changed =>
          refine Or.inl ⟨hv, ?_⟩
          rw [Db.lastSeenAt, hv]
          exact lastVersion_snoc_self
      | unchanged hsaw =>
          rw [List.append_nil] at hv
          refine Or.inr ⟨hv, hsaw, ?_⟩
          rw [Db.lastSeenAt, hv]
          exact h.lastSeenAt_or_overtaken hsaw
  · intro i p state hr hended
    refine ⟨h.idle_of_ended hr hended, fun hnone => ?_⟩
    have hother : ∀ {k rows versions}, .committed k rows versions ∈ w.log → k ≠ i := by
      rintro k rows versions hm rfl
      have := mem_commits.mpr hm
      rw [hnone] at this
      cases this
    constructor
    · intro row hrow
      rw [h.tables.events, List.mem_flatMap] at hrow
      obtain ⟨entry, hm, hrow⟩ := hrow
      cases entry with
      | committed k rows versions => exact ⟨k, rows, versions, hother hm, hm, hrow⟩
      | _ => cases hrow
    · intro v hv
      rw [h.tables.lastSeen, List.mem_flatMap] at hv
      obtain ⟨entry, hm, hv⟩ := hv
      cases entry with
      | committed k rows versions => exact ⟨k, rows, versions, hother hm, hm, hv⟩
      | _ => cases hv
  · intro i p a ha
    have hrec : (recordOf w.log i).Answered cat p a :=
      h.records.requests i _ ((h.listed.answered _ _ _).mp ha)
    rcases hrec with ⟨hacc, hc, hm⟩ | ⟨hacc, he⟩
    · exact ⟨fun _ => ⟨hc, hm⟩, fun hn => absurd hacc hn⟩
    · exact ⟨fun hn => absurd hn hacc, fun _ => by rw [he]; exact ⟨rfl, rfl⟩⟩
  · intro i l w' c hs hnew hold
    have h' := h.reaches (.tail .refl hs)
    obtain ⟨p, state, hr, hc, a, hcommitted⟩ := h'.event_of_broadcast hnew
    obtain ⟨store, product, row, _, hw, _, hrow, _⟩ := h'.row_of_committedOnce hcommitted
    refine ⟨p, state, store, product, row, hr, hc, hw, fun j => List.mem_append_left _ ?_⟩
    rw [← World.db_of_broadcast hs hnew hold]
    exact hrow
  · intro i j p q s s' hi hj
    constructor
    · rcases h.partial hi with he | ⟨_, hm | hm⟩
      · rw [he]
        exact Nat.zero_le 1
      · rw [hm]
        exact Nat.zero_le 1
      · rw [hm]
        exact le_rfl
    · intro hmi hmj hid
      obtain ⟨m, hm⟩ := List.exists_mem_of_ne_nil _ hmi
      obtain ⟨m', hm'⟩ := List.exists_mem_of_ne_nil _ hmj
      obtain ⟨_, a, ha⟩ := h.committedOnce_of_message hi hm
      obtain ⟨_, b, hb⟩ := h.committedOnce_of_message hj hm'
      exact h.commit_unique ha hb hid

namespace Sample

/-- Two SALES begin at 5.  The second one commits, the first one loads the store, and then there
is a heartbeat at 6. -/
def sameStartSteps : List Label :=
  [.tick 5, .arrive (.event sale), .run 0,
    .arrive (.event (.sale { base 13 4 (by decide) with }))] ++
  List.replicate 9 (.run 1) ++ List.replicate 2 (.run 0) ++
  [.tick 6, .arrive (.heartbeat "POA-CENTRO")] ++ List.replicate 7 (.run 2) ++
  List.replicate 2 (.run 0)

end Sample

/-- The first SALE commits its row of time 5, and leaves `last_seen_at` at 6. -/
theorem commit_without_last_seen : ¬ ∀ w : World, w.Reachable Sample.catalogue →
    ∀ i p state l w', w.requests[i]? = some ⟨.event p, state⟩ → l.request = some i →
      w.step Sample.catalogue l = some w' →
      (w'.db.events.committed = w.db.events.committed ∧
        w'.db.lastSeen.committed = w.db.lastSeen.committed) ∨
      ∃ row, w'.db.events.committed = w.db.events.committed ++ [row] ∧
        w'.db.lastSeenAt row.storeId = some row.receivedAt := by
  intro hclaim
  have hrun : ((Sample.run Sample.sameStartSteps).bind fun w =>
      (w.step Sample.catalogue (.run 0)).map fun w' =>
        (w.requests[0]?.map Request.call, w.db.events.committed.map fun row => row.eventId,
          w'.db.events.committed.map fun row => (row.eventId, row.storeId, row.receivedAt),
          w'.db.lastSeenAt 1)) =
      some (some (.event Sample.sale), [13], [(13, 1, 5), (10, 1, 5)], some 6) := rfl
  obtain ⟨w, hw, hstep⟩ := Option.bind_eq_some_iff.mp hrun
  obtain ⟨w', hw', he⟩ := Option.map_eq_some_iff.mp hstep
  simp only [Prod.mk.injEq] at he
  obtain ⟨hcall, hbefore, hafter, hseen⟩ := he
  obtain ⟨⟨call, state⟩, hreq, rfl⟩ := Option.map_eq_some_iff.mp hcall
  rcases hclaim w (Sample.run_reachable hw) 0 _ state (.run 0) w' hreq rfl hw' with
    ⟨hsame, _⟩ | ⟨row, happend, hlast⟩
  · rw [hsame] at hafter
    have hlength := congrArg List.length hafter
    rw [List.length_map] at hlength
    have hlength' := congrArg List.length hbefore
    rw [List.length_map, hlength] at hlength'
    cases hlength'
  · rw [happend, List.map_append, List.map_singleton] at hafter
    have hsplit : w.db.events.committed.map (fun r => (r.eventId, r.storeId, r.receivedAt)) ++
        [(row.eventId, row.storeId, row.receivedAt)] = [(13, 1, 5)] ++ [(10, 1, 5)] := hafter
    obtain ⟨_, hrow⟩ := List.append_inj' hsplit rfl
    simp only [List.cons.injEq, Prod.mk.injEq] at hrow
    rw [hrow.1.2.1, hrow.1.2.2, hseen] at hlast
    cases hlast

/-- A REFUND whose connection is lost after its `INSERT`. -/
def Sample.abortSteps : List Label :=
  Sample.saleSteps ++ [.arrive (.event (Sample.refund 11))] ++ List.replicate 8 (.run 1) ++
  [.abort 1]

/-- The REFUND that lost its connection has left nothing, and only the SALE was announced. -/
theorem ingestion_atomic_after_abort :
    ∃ w, Sample.run Sample.abortSteps = some w ∧ w.db.Idle 1 ∧
      (∀ row ∈ w.db.events.committed, ∃ j rows versions, j ≠ 1 ∧
        .committed j rows versions ∈ w.log ∧ row ∈ rows) := by
  have hrun : ((Sample.run Sample.abortSteps).map fun w => (w.requests[1]?,
      (recordOf w.log 1).commits)) =
      some (some ⟨.event (Sample.refund 11), .aborted⟩, []) := rfl
  obtain ⟨w, hw, he⟩ := Option.map_eq_some_iff.mp hrun
  rw [Prod.mk.injEq] at he
  obtain ⟨hidle, hothers⟩ :=
    (ingestion_atomic (Sample.run_reachable hw)).2.1 1 _ _ he.1 nofun
  exact ⟨w, hw, hidle, (hothers he.2).1⟩

end StorePulse
