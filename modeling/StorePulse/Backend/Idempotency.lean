import StorePulse.Backend.Finality

/-!
# Idempotency over whole runs

Once a call has committed the row of its payload, every copy of the payload that
arrives is decided on a table with that row in it, and so it is a duplicate of
the row (`Reachable.copy_of_committed`).  A copy that was decided before the
commit was not refused for a reason that is final, since the row came after it.
-/

namespace StorePulse

variable {cat : Catalogue} {p : EventCreate} {a : Answer} {x : Exception}

namespace World

variable {w w' : World} {i j : Nat} {row : PosEvent} {versions : List (UUID × Instant)}

/-- The row a call has committed is that of its payload. -/
theorem Reachable.row_of_commit (h : w.Reachable cat) (harrived : .arrived i (.event p) ∈ w.log)
    (hcommitted : .committed i [row] versions ∈ w.log) : row ∈ w.db.events.committed ∧
      ∃ store product, WrittenFor cat p store product row := by
  obtain ⟨state, hi⟩ := (h.listed.arrived _ _).mp harrived
  have hmem := mem_commits.mpr hcommitted
  rcases h.partial hi with he | ⟨⟨a, store, product, row', hw, hcommits, _⟩, _⟩
  · rw [he] at hmem
    cases hmem
  · rw [hcommits, List.mem_singleton] at hmem
    cases hmem
    refine ⟨?_, store, product, hw⟩
    rw [h.tables.events]
    exact List.mem_flatMap.mpr ⟨_, hcommitted, List.mem_singleton_self _⟩

/-- A copy that arrives once the row is committed is decided as a duplicate of it. -/
theorem Reachable.copy_of_committed {store : Store} {product : Product} (h : w.Reachable cat)
    (hrow : row ∈ w.db.events.committed) (hw : WrittenFor cat p store product row)
    (hr : (server cat).Reaches w w') (hj : w.requests.length ≤ j) {state : RequestState}
    (hreq : w'.requests[j]? = some ⟨.event p, state⟩) (hd : state.decided = some a) :
    a = .event 200 ⟨p.eventId, .duplicate, row.receivedAt⟩ := by
  revert state
  refine hr.invariant (I := fun v => ∀ {state : RequestState},
    v.requests[j]? = some ⟨.event p, state⟩ → state.decided = some a →
      a = .event 200 ⟨p.eventId, .duplicate, row.receivedAt⟩)
    (fun hreq _ => absurd (lt_of_getElem? hreq) (not_lt.mpr hj)) ?_
  intro v l v' hv ih hs state hreq hd
  have hok := (h.reaches hv).ok
  rcases step_decided hok hs hreq hd with ⟨before, hbefore, hd'⟩ | ⟨_, hspec⟩
  · exact ih hbefore hd'
  · exact (hok.consistent.wellFormed.spec_of_matchesPayload ((committed_grows hv).subset hrow)
      hw.matchesPayload hw.fits hspec).1

/-- A copy is never refused for a reason that is final. -/
theorem Reachable.not_refused_of_committed {store : Store} {product : Product}
    (h : w.Reachable cat) (hrow : row ∈ w.db.events.committed)
    (hw : WrittenFor cat p store product row) (hx : x.isFinal = true) :
    .answered j (.event p) (raiseHttp x) ∉ w.log := by
  intro ha
  obtain ⟨T, T', hspec, hgrows⟩ := h.answer_spec ha
  exact hspec.refuses.final h.ok.consistent.wellFormed (hspec.grows.trans hgrows) hx hrow
    hw.matchesPayload

/-- A request with the key of a committed row changes no table. -/
theorem Ok.keeps_tables {e : PosEvent} {l : Label} (h : w.Ok cat)
    (he : e ∈ w.db.events.committed) (hid : e.eventId = p.eventId)
    (hj : ∃ state, w.requests[j]? = some ⟨.event p, state⟩) (hl : l.request = some j)
    (hs : w.step cat l = some w') :
    w'.db.events.committed = w.db.events.committed ∧
      w'.db.lastSeen.committed = w.db.lastSeen.committed := by
  obtain ⟨state, hj⟩ := hj
  cases step_cases hs with
  | tick | lock | arrive | answer | abort => exact ⟨rfl, rfl⟩
  | @perform i call op k reply db hr hp =>
      cases hl
      rw [hr] at hj
      cases hj
      obtain ⟨pt, pt', _, _, hh, hm, _⟩ := h.move hr hp
      rcases hm.committed_eq with hsame | ⟨store, t, rfl, rfl⟩
      · exact hsame
      · obtain ⟨_, row, hacc, _⟩ := hh.knows
        exact absurd (hid.trans hacc.written.eventId.symm) (hacc.admits.fresh e he)

end World

/-- Idempotency: (a) an `event_id` is accepted once and has one row, which stays as it is;
(b) an accepted payload has a call that committed its row with that time of reception, and once
a call has committed the row of its payload, answered or not, every later copy is a duplicate
with the same time of reception and changes no table; (c) then no copy of the payload, whenever
it ran, is refused for its limit or for a conflict. -/
theorem ingestion_idempotent {w : World} (h : w.Reachable cat) :
    ((∀ i j p q a b, .answered i (.event p) a ∈ w.log → .answered j (.event q) b ∈ w.log →
        a.outcome = .accepted → b.outcome = .accepted → p.eventId = q.eventId → i = j) ∧
      (w.db.events.committed.map fun e => e.eventId).Nodup ∧
      ∀ w', (server cat).Reaches w w' → w.db.events.committed <+: w'.db.events.committed) ∧
    (∀ i p a, .answered i (.event p) a ∈ w.log → a.outcome = .accepted →
      .arrived i (.event p) ∈ w.log ∧ ∃ row versions, .committed i [row] versions ∈ w.log ∧
        a = .event 201 ⟨p.eventId, .accepted, row.receivedAt⟩) ∧
    (∀ i p row versions, .arrived i (.event p) ∈ w.log → .committed i [row] versions ∈ w.log →
      ∀ w', (server cat).Reaches w w' → ∀ j, w.requests.length ≤ j →
        (∀ a, .answered j (.event p) a ∈ w'.log →
          a = .event 200 ⟨p.eventId, .duplicate, row.receivedAt⟩) ∧
        ∀ l w'', (∃ state, w'.requests[j]? = some ⟨.event p, state⟩) → l.request = some j →
          w'.step cat l = some w'' →
          w''.db.events.committed = w'.db.events.committed ∧
            w''.db.lastSeen.committed = w'.db.lastSeen.committed) ∧
    ∀ i j p row versions b, .arrived i (.event p) ∈ w.log →
      .committed i [row] versions ∈ w.log → .answered j (.event p) b ∈ w.log →
      (∀ e, b ≠ raiseHttp (.eventConflict e)) ∧ ∀ m, b ≠ raiseHttp (.refundLimitExceeded m) := by
  refine ⟨⟨?_, h.ok.consistent.wellFormed.sound.keys, fun w' hr => World.committed_grows hr⟩,
    ?_, ?_, ?_⟩
  · intro i j p q a b hi hj ha hb hid
    exact h.accepted_unique hi hj ha hb hid
  · intro i p a ha hacc
    obtain ⟨_, _, row, versions, _, _, hcommitted, he⟩ := h.row_of_accepted ha hacc
    exact ⟨(h.listed.arrived _ _).mpr ⟨_, (h.listed.answered _ _ _).mp ha⟩, row, versions,
      hcommitted, he⟩
  · intro i p row versions harrived hcommitted w' hr j hj
    obtain ⟨hrow, store, product, hw⟩ := h.row_of_commit harrived hcommitted
    have h' := h.reaches hr
    constructor
    · intro a ha
      exact h.copy_of_committed hrow hw hr hj ((h'.listed.answered _ _ _).mp ha) rfl
    · intro l w'' hcall hreq hstep
      exact h'.ok.keeps_tables ((World.committed_grows hr).subset hrow) hw.eventId hcall hreq
        hstep
  · intro i j p row versions b harrived hcommitted hb
    obtain ⟨hrow, store, product, hw⟩ := h.row_of_commit harrived hcommitted
    constructor
    · rintro e rfl
      exact h.not_refused_of_committed hrow hw rfl hb
    · rintro m rfl
      exact h.not_refused_of_committed hrow hw rfl hb

/-- A REFUND whose connection is lost after its commit. -/
def Sample.cutOffSteps : List Label :=
  Sample.saleSteps ++ [.tick 1, .arrive (.event (Sample.refund 11))] ++
  List.replicate 10 (.run 1) ++ [.abort 1]

/-- The REFUND is sent again. -/
def Sample.resentSteps : List Label :=
  .arrive (.event (Sample.refund 11)) :: List.replicate 6 (.run 2)

/-- The copy of a REFUND that was cut off after its commit is a duplicate of its row. -/
theorem ingestion_idempotent_after_cut_off :
    ∃ w w' a, Sample.run Sample.cutOffSteps = some w ∧
      w.requests[1]? = some ⟨.event (Sample.refund 11), .aborted⟩ ∧
      (server Sample.catalogue).run w Sample.resentSteps = some w' ∧
      .answered 2 (.event (Sample.refund 11)) a ∈ w'.log ∧
      a = .event 200 ⟨11, .duplicate, 1⟩ := by
  have hrun : ((Sample.run Sample.cutOffSteps).bind fun w =>
      ((server Sample.catalogue).run w Sample.resentSteps).map fun w' =>
        (w.requests[1]?, (recordOf w.log 1).commits.map fun c => c.1.map PosEvent.receivedAt,
          w.requests.length, w'.requests[2]?)) =
      some (some ⟨.event (Sample.refund 11), .aborted⟩, [[1]], 2,
        some ⟨.event (Sample.refund 11), .answered (.event 200 ⟨11, .duplicate, 1⟩)⟩) := rfl
  obtain ⟨w, hw, hrun⟩ := Option.bind_eq_some_iff.mp hrun
  obtain ⟨w', hw', he⟩ := Option.map_eq_some_iff.mp hrun
  simp only [Prod.mk.injEq] at he
  obtain ⟨hcut, hcommits, hlength, hanswer⟩ := he
  have h := Sample.run_reachable hw
  have hr := System.run_reaches hw'
  have hb := ((h.reaches hr).listed.answered _ _ _).mpr hanswer
  obtain ⟨⟨rows, versions⟩, hrecord, hrows⟩ := List.map_eq_singleton_iff.mp hcommits
  obtain ⟨row, rfl, hreceived⟩ := List.map_eq_singleton_iff.mp hrows
  have hcommitted : .committed 1 [row] versions ∈ w.log :=
    mem_commits.mp (by rw [hrecord]; exact List.mem_singleton_self _)
  have harrived := (h.listed.arrived 1 _).mpr ⟨_, hcut⟩
  have hcopy := ((ingestion_idempotent h).2.2.1 1 _ row versions harrived hcommitted w' hr 2
    hlength.le).1 _ hb
  exact ⟨w, w', _, hw, hcut, hw', hb, hcopy.trans (by rw [hreceived]; rfl)⟩

end StorePulse
