import Mathlib.Algebra.BigOperators.Group.List.Basic
import StorePulse.Harness.SmokeRuns

/-!
# What a smoke test that passes has shown

`runSmoke_evidence` puts the evidence of a run that returns in order: the stores as
they were, the start of the simulators, their traffic, the replay of an event that
is stored once, and at the end no event of the run and every store as it was.

`smokeMain_exit` is about `main`: where every command can be started and replies it
ends with an exit code, that of `parse_args` when it refuses the arguments, and else
zero exactly when `run_smoke` returned.  The loop never needs more turns than the
timeout has seconds.
-/

namespace StorePulse

open Program

variable {reprs : Reprs} {run : VerificationRun} {casts : Casts} {printers : Printers}
  {h h' : DockerHost} {trace : List SmokeStep}

/-! ## The stores -/

/-- Every store of `t` is in `t'`, with the same connectivity. -/
def StoresRestored (t t' : Tables) : Prop :=
  ∀ s ∈ t.stores, (∃ s' ∈ t'.stores, s'.id = s.id) ∧
    ∀ s' ∈ t'.stores, s'.id = s.id → s'.lastSeenAt = s.lastSeenAt ∧ s'.updatedAt = s.updatedAt

/-- A query that counts no store that differs from what was printed finds all of them restored. -/
theorem storesRestored_of_mismatches {t t' : Tables} {items : List SnapshotItem} {raw : String}
    (hprints : PrintsStores printers t raw) (hread : readSnapshot raw = some items)
    (hcasts : ∀ s ∈ t.stores, s.ReadsBack casts printers)
    (hzero : t'.snapshotMismatches casts items = .ok 0) : StoresRestored t t' := by
  obtain ⟨stores, hperm, hstores⟩ := hprints
  rw [hread] at hstores
  cases hstores
  have hrows := snapshotRows_items fun s hs => hcasts s (hperm.mem_iff.mp hs)
  rw [Tables.snapshotMismatches, hrows] at hzero
  have hsum : ((stores.map StoreRow.snapshotRow).map t'.mismatchesOf).sum = 0 :=
    Except.ok.inj hzero
  intro s hs
  have hmem : s.snapshotRow ∈ stores.map StoreRow.snapshotRow :=
    List.mem_map_of_mem (hperm.mem_iff.mpr hs)
  have hnone : t'.mismatchesOf s.snapshotRow = 0 :=
    List.sum_eq_zero_iff.mp hsum _ (List.mem_map_of_mem hmem)
  rw [Tables.mismatchesOf] at hnone
  split at hnone
  case h_1 => cases hnone
  case h_2 hjoined =>
    have hmem : ∀ s' ∈ t'.stores, s'.id = s.id →
        s' ∈ t'.stores.filter fun s' => s'.id == s.snapshotRow.id := fun s' hs' hid =>
      List.mem_filter.mpr ⟨hs', beq_iff_eq.mpr hid⟩
    refine ⟨?_, fun s' hs' hid => ?_⟩
    · obtain ⟨s', hs'⟩ := List.exists_mem_of_ne_nil _ hjoined
      obtain ⟨hs', hid⟩ := List.mem_filter.mp hs'
      exact ⟨s', hs', beq_iff_eq.mp hid⟩
    · have hsame := List.countP_eq_zero.mp hnone s' (hmem s' hs' hid)
      simpa [StoreRow.snapshotRow] using hsame

theorem prints_of_findsSnapshot {p : SmokeStep} (hp : findsSnapshot printers run p) :
    ∃ raw, PrintsStores printers p.before.tables raw ∧ readSnapshot raw = some run.snapshot := by
  unfold findsSnapshot at hp
  split at hp
  case h_1 => exact ⟨_, hp.2.2⟩
  case h_2 => exact hp.elim

theorem mismatches_of_findsNoMismatch {p : HarnessStep} (hp : findsNoMismatch casts run p) :
    p.before.tables.snapshotMismatches casts run.snapshot = .ok 0 := by
  unfold findsNoMismatch at hp
  split at hp
  case h_1 => exact hp.2.2.2
  case h_2 => exact hp.elim

/-! ## The evidence of a run -/

/-- What the steps of a run that passes have shown. -/
structure SmokeEvidence (casts : Casts) (printers : Printers) (run : VerificationRun)
    (eventId : String) (snapshot start traffic replay count : SmokeStep)
    (rows stores : HarnessStep) : Prop where
  /-- The stores were read. -/
  found : findsSnapshot printers run snapshot
  /-- The simulators were started. -/
  started : startsSimulators run start
  /-- Their traffic satisfied the contract. -/
  observed : showsTraffic run traffic
  /-- A replay was logged. -/
  replayed : showsReplay eventId replay
  /-- The event was stored once. -/
  stored : countsOneRow casts run eventId count
  /-- At the end no event of the run is left. -/
  removed : findsNoRow run rows
  /-- And no store differs from the snapshot. -/
  restored : (∀ s ∈ snapshot.before.tables.stores, s.ReadsBack casts printers) →
    StoresRestored snapshot.before.tables stores.before.tables

/-- A run that returns, where every command can be started and replies, has seen its evidence, in
this order, and leaves no simulator running. -/
theorem runSmoke_evidence {timeoutSeconds turns restartTurns : Nat}
    (hr : SmokeRuns casts printers (runSmoke reprs timeoutSeconds turns restartTurns) h trace
      (.ok ()) h') :
    ∃ run eventId snapshot start traffic replay count rows stores,
      [snapshot, start, traffic, replay, count, Performed.inl rows, Performed.inl stores].Sublist
        trace ∧
      SmokeEvidence casts printers run eventId snapshot start traffic replay count rows stores ∧
      h'.Idle simulatorServices := by
  generalize hout : Except.ok () = outcome at hr
  cases smokeRun_of_runs hr with
  | unprepared hprepare => cases hout
  | @finalized t₀ t₁ t₂ t₄ own h₁ h₂ h₃ h₄ h₅ run smoke cleanup hprepare hobserve hdiagnose
      hfinalize hreport =>
      cases smoke with
      | error e => cases hout
      | ok _ =>
        cases cleanup with
        | error e => cases hout
        | ok _ =>
          have hguarded := guardedRun_of_runs hfinalize
          obtain ⟨-, snapshot, hmem, hfound⟩ := prepared_of_runs hprepare
          obtain ⟨id, start, traffic, replay, count, hsub, hstart, htraffic, hreplay, hcount⟩ :=
            evidence_of_traffic hobserve
          obtain ⟨up, probe, sims, rows, stores, hsub', -, -, -, hrows, hstores⟩ :=
            hguarded.verified rfl
          have hlast : [rows, stores].Sublist own :=
            (((List.Sublist.refl _).cons sims).cons probe |>.cons up).trans hsub'
          refine ⟨run, id, snapshot, start, traffic, replay, count, rows, stores, ?_,
            ⟨hfound, hstart, htraffic, hreplay, hcount, hrows, fun hcasts => ?_⟩,
            idle_of_reading hreport (reads_reportSmoke _ _) (hguarded.idle rfl)⟩
          · have hown := (hlast.map Performed.inl).trans (List.sublist_append_left _ t₄)
            exact (List.singleton_sublist.mpr hmem).append
              (hsub.append (hown.trans (List.sublist_append_right t₂ _)))
          · obtain ⟨raw, hprints, hread⟩ := prints_of_findsSnapshot hfound
            exact storesRestored_of_mismatches hprints hread hcasts
              (mismatches_of_findsNoMismatch hstores)

/-- A run over five stores, which are restored. -/
theorem runSmoke_evidence_five_stores :
    ∃ (trace : List SmokeStep) (h' : DockerHost),
      SmokeRuns fiveCasts fivePrinters (runSmoke fiveReprs 35 35 60)
        (fiveHost ⟨"4f1c", by decide, by decide⟩) trace (.ok ()) h' ∧
      (∃ run eventId snapshot start traffic replay count rows stores,
        SmokeEvidence fiveCasts fivePrinters run eventId snapshot start traffic replay count rows
          stores) ∧
      h'.Idle simulatorServices := by
  obtain ⟨trace, h', hr⟩ := runSmoke_passes_fiveStores ⟨"4f1c", by decide, by decide⟩
  obtain ⟨run, id, snapshot, start, traffic, replay, count, rows, stores, -, hshown, hidle⟩ :=
    runSmoke_evidence hr
  exact ⟨trace, h', hr, ⟨run, id, snapshot, start, traffic, replay, count, rows, stores, hshown⟩,
    hidle⟩

/-! ## The turns of the loop -/

theorem clock_le_of_answers {p : SmokeStep}
    (ha : (smokeEnvironment casts printers).answers p.before p.op p.reply p.after) :
    p.before.clock ≤ p.after.clock := by
  obtain ⟨before, op, reply, after⟩ := p
  have hsame : after = before → before.clock ≤ after.clock := fun he => le_of_eq (he ▸ rfl)
  cases op with
  | inl op =>
      obtain ⟨hanswer, -⟩ := ha
      cases op with
      | compose command => exact hanswer.2
      | monotonic => exact hsame hanswer.2
      | sleep milliseconds => exact le_trans (Nat.le_add_right _ _) hanswer.2.2
      | print line => exact hsame hanswer
  | inr op =>
      cases op with
      | uuid4Hex => exact hsame ha.2.2
      | printError line => exact hsame ha
      | startSimulators settings => exact ha.2.1
      | printenv name => exact ha.2.2
      | simulatorLogs => exact ha.2.2
      | diagnosticPs => exact ha.2.2
      | diagnosticLogs => exact ha.2.2

/-- The clock does not go back in a run. -/
theorem clock_le_of_runs {α : Type} {m : Smoke α} {result : Except HarnessException α}
    (hr : SmokeRuns casts printers m h trace result h') : h.clock ≤ h'.clock := by
  have hanswers := hr.answers
  exact (hr.invariant (I := fun s => h.clock ≤ s.clock)
    (fun hs hdrift => le_trans hs hdrift.clock)
    (fun p hp hs => le_trans hs (clock_le_of_answers (hanswers p hp))) le_rfl).2

/-- Turns that would begin after the deadline do not matter. -/
theorem observeLoop_turns {deadline turns : Nat} (more : Nat) {metrics : TrafficMetrics}
    {eventId : Option String}
    {result : Except HarnessException (Bool × TrafficMetrics × Option String)}
    (hdeadline : deadline ≤ h.clock + 1000 * turns) :
    SmokeRuns casts printers (observeLoop reprs run deadline (turns + more) metrics eventId) h trace
        result h' ↔
      SmokeRuns casts printers (observeLoop reprs run deadline turns metrics eventId) h trace result
        h' := by
  induction turns generalizing h trace metrics eventId with
  | zero =>
      rw [observeLoop.eq_def, observeLoop.eq_def _ _ _ 0]
      refine runs_exceptBind_congr fun {_ now h₁ _} hnow => ?_
      -- the clock has reached the deadline, so neither loop takes a turn
      obtain ⟨h₂, reply, hdrift, ⟨⟨rfl, rfl⟩, -⟩, -, he⟩ := runs_embed_effect hnow
      cases he
      have hpast : ¬ h₁.clock < deadline := by
        have := hdrift.clock
        omega
      rw [if_neg hpast, if_neg hpast]
  | succ turns ih =>
      rw [Nat.add_right_comm, observeLoop.eq_def, observeLoop.eq_def _ _ _ (turns + 1)]
      refine runs_exceptBind_congr fun {_ now h₁ _} hnow => ?_
      by_cases hpast : now < deadline
      swap
      · rw [if_neg hpast, if_neg hpast]
      rw [if_pos hpast, if_pos hpast]
      refine runs_exceptBind_congr fun {_ _ h₂ _} hsleep => ?_
      refine runs_exceptBind_congr fun {_ _ h₃ _} hpsql => ?_
      refine runs_exceptBind_congr fun {_ _ h₄ _} hparse => ?_
      refine runs_exceptBind_congr fun {_ _ h₅ _} hlogs => ?_
      refine runs_exceptBind_congr fun {_ rows h₆ _} hrows => ?_
      split
      · exact Iff.rfl
      refine ih ?_
      obtain ⟨h₇, _, hdrift, ⟨⟨-, -, hslept⟩, -⟩, -, -⟩ := runs_embed_effect hsleep
      have := clock_le_of_runs hnow
      have := hdrift.clock
      have := clock_le_of_runs hpsql
      have := clock_le_of_runs hparse
      have := clock_le_of_runs hlogs
      have := clock_le_of_runs hrows
      omega

/-- The test takes no more turns than its timeout has seconds. -/
theorem observeTraffic_turns {timeoutSeconds turns : Nat} (hturns : timeoutSeconds ≤ turns)
    {smoke : Except HarnessException Unit} :
    SmokeRuns casts printers (observeTraffic reprs run timeoutSeconds turns) h trace smoke h' ↔
      SmokeRuns casts printers (observeTraffic reprs run timeoutSeconds timeoutSeconds) h trace
        smoke h' := by
  obtain ⟨more, rfl⟩ := Nat.exists_eq_add_of_le hturns
  refine runs_exceptBind_congr fun {_ result h₁ _} _ => ?_
  refine runs_exceptBind_congr fun {_ _ h₂ _} _ => ?_
  refine runs_exceptBind_congr fun {_ start h₃ _} hstart => ?_
  obtain ⟨h₄, _, -, ⟨⟨rfl, rfl⟩, -⟩, -, he⟩ := runs_embed_effect hstart
  cases he
  exact runs_exceptBind_congr_left (observeLoop_turns more (by omega))

/-- Nor does `run_smoke`. -/
theorem runSmoke_turns {timeoutSeconds turns restartTurns : Nat} (hturns : timeoutSeconds ≤ turns)
    {outcome : Except HarnessException Unit} :
    SmokeRuns casts printers (runSmoke reprs timeoutSeconds turns restartTurns) h trace outcome h' ↔
      SmokeRuns casts printers (runSmoke reprs timeoutSeconds timeoutSeconds restartTurns) h trace
        outcome h' := by
  refine runs_exceptBind_congr fun {_ run h₁ _} _ => ?_
  refine runs_attempt_bind.trans (Iff.trans ?_ runs_attempt_bind.symm)
  simp only [observeTraffic_turns hturns]

/-! ## The exit code -/

/-- A `VerificationError`. -/
def HarnessException.IsVerification (e : HarnessException) : Prop :=
  ∃ message, e = .verificationError message

theorem onlyRaises_checkResult (op : SmokeOp) (result : CommandResult) :
    OnlyRaises HarnessException.IsVerification (checkResult op result) :=
  .ite (.throw ⟨_, rfl⟩) (.pure _)

theorem onlyRaises_smokeEffect (op : SmokeOp) :
    OnlyRaises HarnessException.IsVerification (smokeEffect op) :=
  (neverRaises_smokeEffect op).mono fun _ => False.elim

theorem onlyRaises_readContainerEnv (name : String) :
    OnlyRaises HarnessException.IsVerification (readContainerEnv name) :=
  .bind (onlyRaises_smokeEffect _) fun _ => .bind (onlyRaises_checkResult _ _) fun _ =>
    .ite (.throw ⟨_, rfl⟩) (.pure _)

theorem onlyRaises_psql (sql : BuiltSql) (dbUser dbName : String) (scalar : Bool) :
    OnlyRaises HarnessException.IsVerification (embed (psql sql dbUser dbName scalar)) := by
  have hcompose : OnlyRaises HarnessException.IsVerification
      (compose (.psql sql dbUser dbName scalar)) :=
    .bind ⟨fun _ => nofun⟩ fun _ => .ite (.throw ⟨_, rfl⟩) (.pure _)
  have hpsql : OnlyRaises HarnessException.IsVerification (psql sql dbUser dbName scalar) :=
    .bind hcompose fun _ => .pure _
  exact ⟨yields_inl hpsql.yields⟩

theorem isVerification_of_parseSnapshot {raw : String} {e : HarnessException}
    (he : parseSnapshot reprs raw = .error e) : e.IsVerification := by
  have hentries : ∀ entries : List Json, entries.mapM (snapshotEntry reprs) = .error e →
      e.IsVerification := by
    intro entries hmap
    induction entries with
    | nil => cases hmap
    | cons entry entries ih =>
        rw [List.mapM_cons, snapshotEntry] at hmap
        split at hmap
        case h_1 =>
          cases hrest : entries.mapM (snapshotEntry reprs) with
          | error e' =>
              rw [hrest] at hmap
              cases hmap
              exact ih hrest
          | ok rest =>
              rw [hrest] at hmap
              cases hmap
        case h_2 =>
          cases hmap
          exact ⟨_, rfl⟩
  rw [parseSnapshot] at he
  split at he
  case h_1 =>
    cases he
    exact ⟨_, rfl⟩
  case h_2 => exact hentries _ he
  case h_3 =>
    cases he
    exact ⟨_, rfl⟩

theorem onlyRaises_prepareRun :
    OnlyRaises HarnessException.IsVerification (prepareRun reprs) := by
  rw [prepareRun]
  refine .bind (onlyRaises_smokeEffect _) fun _ => .bind (onlyRaises_readContainerEnv _) fun _ =>
    .bind (onlyRaises_readContainerEnv _) fun _ => .bind ?_ fun _ => .pure _
  rw [snapshotStoreState]
  exact .bind (onlyRaises_psql _ _ _ _) fun _ => ⟨fun _ => isVerification_of_parseSnapshot⟩

/-- `run_smoke` raises nothing but `VerificationError`. -/
theorem isVerification_of_runSmoke {timeoutSeconds turns restartTurns : Nat} {e : HarnessException}
    (hr : SmokeRuns casts printers (runSmoke reprs timeoutSeconds turns restartTurns) h trace
      (.error e) h') : e.IsVerification := by
  generalize hout : Except.error e = outcome at hr
  cases smokeRun_of_runs hr with
  | unprepared hprepare =>
      cases hout
      exact hprepare.yields onlyRaises_prepareRun.yields e rfl
  | @finalized _ _ _ _ _ _ _ _ _ _ _ smoke cleanup =>
      cases smoke with
      | error _ =>
          cases hout
          exact ⟨_, rfl⟩
      | ok _ =>
          cases cleanup with
          | error _ =>
              cases hout
              exact ⟨_, rfl⟩
          | ok _ => cases hout

/-- What `main` owes for its exit code. -/
inductive MainExit (casts : Casts) (printers : Printers) (reprs : Reprs) (parsed : ParsedArgs)
    (restartTurns : Nat) (h : DockerHost) (trace : List SmokeStep) (h' : DockerHost) :
    Except HarnessException Int → Prop where
  /-- The arguments ended it before anything was done. -/
  | refused {code : Int} : parseArgs parsed = .error code → trace = [] → h' = h →
      MainExit casts printers reprs parsed restartTurns h trace h' (.ok code)
  /-- `run_smoke` returned. -/
  | passed {timeoutSeconds : Nat} : parseArgs parsed = .ok timeoutSeconds →
      SmokeRuns casts printers (runSmoke reprs timeoutSeconds timeoutSeconds restartTurns) h trace
        (.ok ()) h' →
      MainExit casts printers reprs parsed restartTurns h trace h' (.ok 0)
  /-- `run_smoke` raised, and the last thing done was to print its message. -/
  | failed {timeoutSeconds : Nat} {message : String} {before : List SmokeStep} {p : SmokeStep}
      {h₁ : DockerHost} : parseArgs parsed = .ok timeoutSeconds →
      SmokeRuns casts printers (runSmoke reprs timeoutSeconds timeoutSeconds restartTurns) h before
        (.error (.verificationError message)) h₁ →
      trace = before ++ [p] →
      p.op = .inr (.printError ("Simulator verification failed:\n" ++ message)) →
      MainExit casts printers reprs parsed restartTurns h trace h' (.ok 1)

/-- Where every command can be started and replies, `main` ends with an exit code: with that of
`parse_args` when it refuses the arguments, else with 0 when `run_smoke` returned, and otherwise
with 1, after the message of its error.  The loop of `run_smoke` never takes more turns than the
timeout has seconds. -/
theorem smokeMain_exit {parsed : ParsedArgs} {turns restartTurns : Nat}
    {result : Except HarnessException Int}
    (hturns : ∀ timeoutSeconds, parseArgs parsed = .ok timeoutSeconds → timeoutSeconds ≤ turns)
    (hr : SmokeRuns casts printers (smokeMain reprs parsed turns restartTurns) h trace result h') :
    MainExit casts printers reprs parsed restartTurns h trace h' result := by
  rw [smokeMain] at hr
  split at hr
  case h_1 code hparsed =>
    obtain ⟨rfl, rfl, rfl⟩ := runs_smokePure.mp hr
    exact .refused hparsed rfl rfl
  case h_2 timeoutSeconds hparsed =>
    obtain ⟨first, smoke, h₁, rest, hsmoke, hcode, rfl⟩ := runs_attempt_bind.mp hr
    have hsame := (runSmoke_turns (hturns _ hparsed)).mp hsmoke
    cases smoke with
    | ok _ =>
        obtain ⟨rfl, rfl, rfl⟩ := runs_smokePure.mp hcode
        rw [List.append_nil]
        exact .passed hparsed hsame
    | error e =>
        obtain ⟨message, rfl⟩ := isVerification_of_runSmoke hsmoke
        rcases runs_exceptBind.mp hcode with ⟨e, hprint, -⟩ | ⟨t, _, h₂, rest', hprint, hpure, rfl⟩
        · exact (hprint.yields (neverRaises_smokeEffect _).yields e rfl).elim
        obtain ⟨rfl, rfl, rfl⟩ := runs_smokePure.mp hpure
        obtain ⟨h₃, reply, -, -, rfl, -⟩ := runs_smokeEffect hprint
        exact .failed hparsed hsame (by rw [List.append_nil]) rfl

/-- The exit code of a run over five stores. -/
theorem smokeMain_exit_five_stores :
    ∃ (trace : List SmokeStep) (h' : DockerHost),
      SmokeRuns fiveCasts fivePrinters (smokeMain fiveReprs (.timeout 35) 100 60)
        (fiveHost ⟨"4f1c", by decide, by decide⟩) trace (.ok 0) h' ∧
      MainExit fiveCasts fivePrinters fiveReprs (.timeout 35) 60
        (fiveHost ⟨"4f1c", by decide, by decide⟩) trace h' (.ok 0) := by
  obtain ⟨trace, h', hr⟩ := runSmoke_passes_fiveStores ⟨"4f1c", by decide, by decide⟩
  have hmain : SmokeRuns fiveCasts fivePrinters (smokeMain fiveReprs (.timeout 35) 100 60) _
      (trace ++ []) (.ok 0) h' := Runs.attemptBind ((runSmoke_turns (by decide)).mpr hr) .ret
  rw [List.append_nil] at hmain
  exact ⟨trace, h', hmain, smokeMain_exit (fun timeoutSeconds hparsed => by
    cases hparsed
    decide) hmain⟩

end StorePulse
