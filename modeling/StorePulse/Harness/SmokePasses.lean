import StorePulse.Harness.Isolation
import StorePulse.Harness.SmokeHost

/-!
# A smoke test that passes

The runs in which every command succeeds, phase by phase.  They end with the whole
test: when the simulators' traffic comes, `run_smoke` can return.
-/

namespace StorePulse

open Program

variable {reprs : Reprs} {run : VerificationRun} {casts : Casts} {printers : Printers}
  {h h' : DockerHost} {own : List HarnessStep} {turns : Nat}

/-! ## Phases of the finalizing -/

theorem HarnessRuns.psql_ok {sql : BuiltSql} {dbUser dbName : String} {scalar : Bool}
    {result : CommandResult}
    (ha : HarnessAnswers casts h (.compose (.psql sql dbUser dbName scalar)) result h')
    (hcode : result.returncode = 0) :
    HarnessRuns casts (psql sql dbUser dbName scalar) h
      [⟨h, .compose (.psql sql dbUser dbName scalar), result, h'⟩]
      (.ok (pyStrip result.stdout)) h' :=
  (compose_ok ha hcode).exceptBind .ret

theorem HarnessRuns.print (line : String) :
    HarnessRuns casts (StorePulse.effect (.print line)) h [⟨h, .print line, (), h⟩] (.ok ()) h :=
  .effect rfl

theorem HarnessRuns.countSql_ok {sql : BuiltSql} {result : CommandResult} {n : Int}
    (ha : HarnessAnswers casts h (.compose (.psql sql run.dbUser run.dbName true)) result h')
    (hcode : result.returncode = 0) (hn : pyInt (pyStrip result.stdout) = some n) :
    HarnessRuns casts (countSql reprs run sql) h
      [⟨h, .compose (.psql sql run.dbUser run.dbName true), result, h'⟩] (.ok n) h' := by
  refine (psql_ok ha hcode).exceptBind (?_ : Runs _ _ _ [] _ _)
  rw [harnessInt, hn]
  exact .ret

theorem HarnessRuns.verifyNoRunRows_ok {result : CommandResult}
    (ha : HarnessAnswers casts h
      (.compose (.psql (.remaining run.runTag) run.dbUser run.dbName true)) result h')
    (hcode : result.returncode = 0) (hn : pyInt (pyStrip result.stdout) = some 0) :
    HarnessRuns casts (verifyNoRunRows reprs run) h
      [⟨h, .compose (.psql (.remaining run.runTag) run.dbUser run.dbName true), result, h'⟩]
      (.ok ()) h' := (countSql_ok ha hcode hn).exceptBind .ret

theorem HarnessRuns.verifySnapshot_ok {result : CommandResult} (ending : String)
    (ha : HarnessAnswers casts h
      (.compose (.psql (.snapshotMismatch run.snapshot) run.dbUser run.dbName true)) result h')
    (hcode : result.returncode = 0) (hn : pyInt (pyStrip result.stdout) = some 0) :
    HarnessRuns casts (verifySnapshot reprs run ending) h
      [⟨h, .compose (.psql (.snapshotMismatch run.snapshot) run.dbUser run.dbName true), result,
        h'⟩]
      (.ok ()) h' := (countSql_ok ha hcode hn).exceptBind .ret

/-- A run of `finalize_verification_run` in which every phase returns. -/
theorem HarnessRuns.finalize_ok {t₁ t₂ t₃ t₄ t₅ : List HarnessStep} {h₁ h₂ h₃ h₄ : DockerHost}
    (hsims : HarnessRuns casts stopSimulators h t₁ (.ok ()) h₁)
    (hstop : HarnessRuns casts stopBackend h₁ t₂ (.ok ()) h₂)
    (hclean : HarnessRuns casts (cleanUpBehindBarrier reprs run) h₂ t₃ (.ok ()) h₃)
    (hstart : HarnessRuns casts (startAndAnnounce turns) h₃ t₄ (.ok ()) h₄)
    (hverify : HarnessRuns casts (verifyAfterRestart reprs run) h₄ t₅ (.ok ()) h') :
    HarnessRuns casts (finalizeVerificationRun reprs run turns) h (t₁ ++ (t₂ ++ t₃ ++ (t₄ ++ t₅)))
      (.ok ()) h' := by
  have hcleaned :
      HarnessRuns casts (stopAndCleanUp reprs run) h₁ (t₂ ++ t₃) (.ok (true, [])) h₃ := by
    refine hstop.attemptBind ?_
    rw [← List.append_nil t₃]
    exact hclean.attemptBind .ret
  have hrestarted : HarnessRuns casts (restartBackend turns) h₃ t₄ (.ok []) h₄ := by
    rw [← List.append_nil t₄]
    exact hstart.attemptBind .ret
  have hverified : HarnessRuns casts (verifyFinally reprs run) h₄ t₅ (.ok []) h' := by
    rw [← List.append_nil t₅]
    exact hverify.attemptBind .ret
  have hreported :
      HarnessRuns casts (verifyAndReport reprs run true ([] ++ [])) h₄ t₅ (.ok ()) h' := by
    rw [← List.append_nil t₅]
    exact hverified.exceptBind .ret
  exact hsims.attemptBind (hcleaned.exceptBind (hrestarted.exceptBind hreported))

/-! ## Commands of the smoke test -/

theorem SmokeRuns.effect {op : SmokeOp} {reply : op.Reply} (ha : SmokeAnswers h op reply h') :
    SmokeRuns casts printers (smokeEffect op) h [⟨h, .inr op, reply, h'⟩] (.ok reply) h' :=
  .call (.refl h) ha .ret

theorem SmokeRuns.checkResult {op : SmokeOp} {result : CommandResult}
    (hcode : result.returncode = 0) :
    SmokeRuns casts printers (checkResult op result) h [] (.ok result) h := by
  rw [StorePulse.checkResult, if_neg (not_not.mpr hcode)]
  exact .ret

/-- A function of `Compose` in the smoke test, when it asks none of the queries. -/
theorem SmokeRuns.embed {α : Type} {m : Harness α} {result : Except HarnessException α}
    (hr : HarnessRuns casts m h own result h')
    (hqueries : ∀ p ∈ own, QueriedAnswers casts printers p.before p.op p.reply p.after) :
    SmokeRuns casts printers (embed m) h (own.map Performed.inl) result h' :=
  runs_embed.mpr ⟨own, hr.narrow (fun hd => hd) hqueries, rfl⟩

theorem SmokeRuns.embedEffect {op : HarnessOp} {reply : op.Reply} {h₁ : DockerHost}
    (hdrift : h.Drifts h₁) (ha : QueriedAnswers casts printers h₁ op reply h') :
    SmokeRuns casts printers (StorePulse.embed (StorePulse.effect op)) h [⟨h₁, .inl op, reply, h'⟩]
      (.ok reply) h' := .call hdrift ha .ret

theorem SmokeRuns.printLines (lines : List String) :
    ∃ trace, SmokeRuns casts printers (printLines lines) h trace (.ok ()) h := by
  induction lines with
  | nil => exact ⟨[], .ret⟩
  | cons line lines ih =>
      obtain ⟨trace, hlines⟩ := ih
      have hprint : QueriedAnswers casts printers h (.print line) () h := ⟨rfl, trivial⟩
      exact ⟨_, (SmokeRuns.embedEffect (.refl h) hprint).exceptBind hlines⟩

theorem SmokeRuns.readContainerEnv {name value : String} {result : CommandResult}
    (ha : SmokeAnswers h (.printenv name) result h') (hcode : result.returncode = 0)
    (hvalue : pyStrip result.stdout = value) (hne : value.isEmpty = false) :
    SmokeRuns casts printers (readContainerEnv name) h [⟨h, .inr (.printenv name), result, h'⟩]
      (.ok value) h' := by
  subst hvalue
  refine (SmokeRuns.effect ha).exceptBind ((SmokeRuns.checkResult hcode).exceptBind
    (?_ : Runs _ _ _ [] _ _))
  rw [hne, if_neg Bool.false_ne_true]
  exact .ret

theorem parseSnapshot_of_read {raw : String} {items : List SnapshotItem}
    (h : readSnapshot raw = some items) (hne : items ≠ []) :
    parseSnapshot reprs raw = .ok items := by
  have hentries : ∀ {entries : List Json} {items : List SnapshotItem},
      entries.mapM SnapshotItem.ofValue = some items →
        entries.mapM (snapshotEntry reprs) = .ok items := by
    intro entries
    induction entries with
    | nil =>
        rintro items h
        cases h
        rfl
    | cons entry entries ih =>
        intro items h
        obtain ⟨item, rest, hitem, hrest, rfl⟩ : ∃ item rest,
            SnapshotItem.ofValue entry = some item ∧
            entries.mapM SnapshotItem.ofValue = some rest ∧ items = item :: rest := by
          rw [List.mapM_cons] at h
          obtain ⟨item, hitem, h⟩ := Option.bind_eq_some_iff.mp h
          obtain ⟨rest, hrest, h⟩ := Option.bind_eq_some_iff.mp h
          cases h
          exact ⟨item, rest, hitem, hrest, rfl⟩
        rw [List.mapM_cons, snapshotEntry, hitem, ih hrest]
        rfl
  rw [readSnapshot] at h
  rw [parseSnapshot]
  split at h
  case h_1 entries hloads =>
    rw [hloads]
    cases entries with
    | nil =>
        cases h
        exact absurd rfl hne
    | cons entry entries => exact hentries h
  case h_2 => cases h

/-! ## A host that obeys -/

/-- A host on which each of the services runs in one container. -/
def DockerHost.hosting (id : ContainerId) (services : List String) (t : Tables) (clock : Nat) :
    DockerHost :=
  ⟨fun s => if s ∈ services then [id] else [], t, clock⟩

variable {id : ContainerId} {services services' : List String} {t t' t'' : Tables} {clock : Nat}

theorem hosting_idle (h : ∀ s ∈ services', s ∉ services) :
    services'.flatMap (DockerHost.hosting id services t clock).running = [] :=
  List.flatMap_eq_nil_iff.mpr fun s hs => if_neg (h s hs)

theorem hosting_fewer (h : services' ⊆ services) :
    (DockerHost.hosting id services t clock).Fewer (.hosting id services' t clock) := by
  intro s
  by_cases hs : s ∈ services'
  · simp [DockerHost.hosting, hs, h hs]
  · simp [DockerHost.hosting, hs]

/-- Stopping a service and nothing else. -/
theorem hosting_stop {profile : Option String} {left : List String} (label : String)
    (hsub : left ⊆ services) (hgone : ∀ s ∈ services', s ∉ left)
    (hkept : ∀ s ∈ services, s ∉ services' → s ∈ left) :
    HarnessRuns casts (stopServices services' label profile) (.hosting id services t clock)
      [⟨.hosting id services t clock, .compose (.stop profile services'), ⟨"", "", 0⟩,
          .hosting id left t clock⟩,
        ⟨.hosting id left t clock, .compose (.ps profile services'), ⟨psOutput [], "", 0⟩,
          .hosting id left t clock⟩]
      (.ok ()) (.hosting id left t clock) := by
  refine .stopServices_stopped ⟨⟨hosting_fewer hsub, rfl, fun s hs => ?_⟩, le_rfl⟩
    ⟨⟨rfl, rfl, fun _ => ?_⟩, le_rfl⟩ rfl rfl (serviceIds_psOutput [])
  · by_cases hup : s ∈ services
    · simp [DockerHost.hosting, hup, hkept s hup hs]
    · have hdown : s ∉ left := fun hl => hup (hsub hl)
      simp [DockerHost.hosting, hup, hdown]
  · rw [hosting_idle hgone]

/-! ## The whole test -/

/-- What lets the test pass: the stores `t` are read, the simulators' traffic turns them into
`t'`, a replay of an event of theirs is logged, and the cleanup takes the traffic away again. -/
structure PassingTraffic (casts : Casts) (printers : Printers) (tag : RunTag)
    (run : VerificationRun) (t t' t'' : Tables) (printed counted logged once : CommandResult)
    (eventId : String) : Prop where
  digits : tag.digits.toList.length = 12
  runTag : run.runTag = tag.text
  dbUser : pyStrip run.dbUser = run.dbUser ∧ run.dbUser.isEmpty = false
  dbName : pyStrip run.dbName = run.dbName ∧ run.dbName.isEmpty = false
  prints : printed.returncode = 0 ∧ PrintsStores printers t (pyStrip printed.stdout)
  reads : readSnapshot (pyStrip printed.stdout) = some run.snapshot ∧ run.snapshot ≠ []
  traffic : counted.returncode = 0 ∧ ∃ m, t'.metrics run.runTag = .ok m ∧
    m.satisfiesContract = true ∧ DenotesMetrics counted m
  replay : logged.returncode = 0 ∧ extractDuplicateEventId logged.stdout = some eventId
  stored : once.returncode = 0 ∧ t'.duplicateCount casts run.runTag eventId = .ok 1 ∧
    Denotes once 1
  cleans : t'.transact casts (cleanupStatements run.runTag run.snapshot) = (.ok (), t'')
  removed : t''.remaining (sourcePattern run.runTag) = .ok 0
  restored : t''.snapshotMismatches casts run.snapshot = .ok 0

theorem denotes_zero : Denotes ⟨"0\n", "", 0⟩ 0 := by
  rw [Denotes]
  decide +kernel

/-- The operation is none of the queries of the smoke test. -/
def HarnessOp.asksNothing : HarnessOp → Bool
  | .compose (.psql .snapshot _ _ _) => false
  | .compose (.psql (.metrics _) _ _ _) => false
  | .compose (.psql (.duplicateCount _ _) _ _ _) => false
  | _ => true

theorem queriedAnswers_of_asksNothing {op : HarnessOp} {reply : op.Reply}
    (ha : HarnessAnswers casts h op reply h') (hop : op.asksNothing = true) :
    QueriedAnswers casts printers h op reply h' := by
  refine ⟨ha, ?_⟩
  cases op with
  | compose command =>
      cases command with
      | psql sql dbUser dbName scalar =>
          cases sql with
          | snapshot => cases hop
          | metrics runTag => cases hop
          | duplicateCount runTag eventId => cases hop
          | _ => trivial
      | _ => trivial
  | _ => trivial

namespace PassingTraffic

variable {tag : RunTag} {printed counted logged once : CommandResult} {eventId : String}
  (hp : PassingTraffic casts printers tag run t t' t'' printed counted logged once eventId)
include hp

theorem counts_no_row :
    HarnessRuns casts (verifyNoRunRows reprs run) (.hosting id services t'' clock)
      [⟨.hosting id services t'' clock,
        .compose (.psql (.remaining run.runTag) run.dbUser run.dbName true), ⟨"0\n", "", 0⟩,
        .hosting id services t'' clock⟩] (.ok ()) (.hosting id services t'' clock) :=
  .verifyNoRunRows_ok ⟨⟨rfl, rfl, fun _ => ⟨0, hp.removed, denotes_zero⟩⟩, le_rfl⟩ rfl denotes_zero

theorem counts_no_mismatch (ending : String) :
    HarnessRuns casts (verifySnapshot reprs run ending) (.hosting id services t'' clock)
      [⟨.hosting id services t'' clock,
        .compose (.psql (.snapshotMismatch run.snapshot) run.dbUser run.dbName true),
        ⟨"0\n", "", 0⟩, .hosting id services t'' clock⟩]
      (.ok ()) (.hosting id services t'' clock) :=
  .verifySnapshot_ok ending ⟨⟨rfl, rfl, fun _ => ⟨0, hp.restored, denotes_zero⟩⟩, le_rfl⟩ rfl
    denotes_zero

/-- The finalizing. -/
theorem finalizes (id : ContainerId) (clock restartTurns : Nat) :
    ∃ own, HarnessRuns casts (finalizeVerificationRun reprs run (restartTurns + 1))
        (.hosting id (backendService :: simulatorServices) t' clock) own (.ok ())
        (.hosting id [backendService] t'' (clock + 500)) ∧
      own.all (fun p => p.op.asksNothing) = true := by
  have hsims : HarnessRuns casts stopSimulators
      (.hosting id (backendService :: simulatorServices) t' clock) _ (.ok ())
      (.hosting id [backendService] t' clock) :=
    hosting_stop "simulator producers" (by simp) (by decide) (by decide)
  have hstop : HarnessRuns casts stopBackend (.hosting id [backendService] t' clock) _ (.ok ())
      (.hosting id [] t' clock) :=
    hosting_stop "backend write barrier" (by simp) (by simp) (by simp)
  have htransact : HarnessAnswers casts (.hosting id [] t' clock)
      (.compose (.psql (.cleanupTransaction run.runTag run.snapshot) run.dbUser run.dbName false))
      (⟨"", "", 0⟩ : CommandResult) (.hosting id [] t'' clock) := by
    refine ⟨⟨rfl, ?_⟩, le_rfl⟩
    simp [SqlAnswers, DockerHost.hosting, hp.cleans]
  have hcleanup : HarnessRuns casts (cleanupVerificationData reprs run) (.hosting id [] t' clock) _
      (.ok ()) (.hosting id [] t'' clock) :=
    (HarnessRuns.psql_ok htransact rfl).exceptBind
      (hp.counts_no_row.exceptBind (hp.counts_no_mismatch "."))
  have hclean : HarnessRuns casts (cleanUpBehindBarrier reprs run) (.hosting id [] t' clock) _
      (.ok ()) (.hosting id [] t'' clock) :=
    (HarnessRuns.print _).exceptBind (hcleanup.exceptBind (HarnessRuns.print _))
  have hup : HarnessAnswers casts (.hosting id [] t'' clock) (.compose .up)
      (⟨"", "", 0⟩ : CommandResult) (.hosting id [backendService] t'' clock) :=
    ⟨⟨rfl, fun s hs => by simp [DockerHost.hosting, hs]⟩, le_rfl⟩
  have hprobe : HarnessAnswers casts (.hosting id [backendService] t'' clock) (.compose .probe)
      (⟨"", "", 0⟩ : CommandResult) (.hosting id [backendService] t'' clock) :=
    ⟨⟨rfl, rfl⟩, le_rfl⟩
  have hnow : HarnessAnswers casts (.hosting id [backendService] t'' clock) .monotonic clock
      (.hosting id [backendService] t'' clock) := ⟨rfl, rfl⟩
  have hloop : HarnessRuns casts (probeLoop (clock + 30000) (restartTurns + 1) none)
      (.hosting id [backendService] t'' clock) _ (.ok (true, some ⟨"", "", 0⟩))
      (.hosting id [backendService] t'' clock) :=
    (HarnessRuns.effect hnow).exceptBind (.ite_pos (Nat.lt_add_of_pos_right (by decide))
      ((HarnessRuns.effect hprobe).exceptBind (.ite_pos rfl .ret)))
  have hwait : HarnessRuns casts (waitForBackendReady (restartTurns + 1))
      (.hosting id [backendService] t'' clock) _ (.ok ())
      (.hosting id [backendService] t'' clock) :=
    (HarnessRuns.effect hnow).exceptBind (hloop.exceptBind .ret)
  have hstart : HarnessRuns casts (startAndAnnounce (restartTurns + 1)) (.hosting id [] t'' clock) _
      (.ok ()) (.hosting id [backendService] t'' clock) :=
    ((HarnessRuns.compose_ok hup rfl).exceptBind hwait).exceptBind (HarnessRuns.print _)
  have hps : HarnessAnswers casts (.hosting id [backendService] t'' clock)
      (.compose (.ps (some "demo") simulatorServices)) (⟨psOutput [], "", 0⟩ : CommandResult)
      (.hosting id [backendService] t'' clock) := by
    refine ⟨⟨rfl, rfl, fun _ => ?_⟩, le_rfl⟩
    rw [hosting_idle (by decide)]
  have hsleep : HarnessAnswers casts (.hosting id [backendService] t'' clock) (.sleep 500) ()
      (.hosting id [backendService] t'' (clock + 500)) := ⟨rfl, rfl, le_rfl⟩
  have hverify : HarnessRuns casts (verifyAfterRestart reprs run)
      (.hosting id [backendService] t'' clock) _ (.ok ())
      (.hosting id [backendService] t'' (clock + 500)) :=
    ((HarnessRuns.compose_ok hps rfl).exceptBind .ret).exceptBind
      (.ite_neg (not_not.mpr (serviceIds_psOutput []))
        ((HarnessRuns.effect hsleep).exceptBind (hp.counts_no_row.exceptBind
          ((hp.counts_no_mismatch _).exceptBind
            ((HarnessRuns.print _).exceptBind (HarnessRuns.print _))))))
  exact ⟨_, HarnessRuns.finalize_ok hsims hstop hclean hstart hverify, rfl⟩

/-- The preparation. -/
theorem prepares (reprs : Reprs) (id : ContainerId) (clock : Nat) :
    ∃ trace, SmokeRuns casts printers (prepareRun reprs) (.hosting id [backendService] t clock)
      trace (.ok run) (.hosting id [backendService] t clock) := by
  have hdigits : SmokeAnswers (.hosting id [backendService] t clock) .uuid4Hex tag.digits
      (.hosting id [backendService] t clock) := ⟨hp.digits, tag.hex, rfl⟩
  have hread : ∀ (name : String) {value : String}, pyStrip value = value ∧ value.isEmpty = false →
      SmokeRuns casts printers (readContainerEnv name) (.hosting id [backendService] t clock)
        [⟨.hosting id [backendService] t clock, .inr (.printenv name), ⟨value, "", 0⟩,
          .hosting id [backendService] t clock⟩] (.ok value)
        (.hosting id [backendService] t clock) := fun name {value} hvalue => by
    have hprinted : SmokeAnswers (.hosting id [backendService] t clock) (.printenv name)
        (⟨value, "", 0⟩ : CommandResult) (.hosting id [backendService] t clock) :=
      ⟨rfl, rfl, le_rfl⟩
    exact SmokeRuns.readContainerEnv hprinted rfl hvalue.1 hvalue.2
  have hstores : QueriedAnswers casts printers (.hosting id [backendService] t clock)
      (.compose (.psql .snapshot run.dbUser run.dbName true)) printed
      (.hosting id [backendService] t clock) :=
    ⟨⟨⟨rfl, trivial⟩, le_rfl⟩, rfl, fun _ => hp.prints.2⟩
  have hpsql := SmokeRuns.embed (HarnessRuns.psql_ok hstores.1 hp.prints.1)
    (List.forall_mem_singleton.mpr hstores)
  have hsnapshot : SmokeRuns casts printers (snapshotStoreState reprs run.dbUser run.dbName)
      (.hosting id [backendService] t clock) _ (.ok run.snapshot)
      (.hosting id [backendService] t clock) :=
    hpsql.exceptBind (runs_computed.mpr
      ⟨rfl, (parseSnapshot_of_read hp.reads.1 hp.reads.2).symm, rfl⟩)
  have hrun : (⟨"verify-" ++ tag.digits, run.snapshot, run.dbUser, run.dbName⟩ : VerificationRun) =
      run := by rw [← RunTag.text, ← hp.runTag]
  have hend : SmokeRuns casts printers
      (pure ⟨"verify-" ++ tag.digits, run.snapshot, run.dbUser, run.dbName⟩)
      (.hosting id [backendService] t clock) [] (.ok run) (.hosting id [backendService] t clock) :=
    runs_smokePure.mpr ⟨rfl, by rw [hrun], rfl⟩
  exact ⟨_, (SmokeRuns.effect hdigits).exceptBind ((hread _ hp.dbUser).exceptBind
    ((hread _ hp.dbName).exceptBind (hsnapshot.exceptBind hend)))⟩

/-- One turn of the loop. -/
theorem observes_loop (reprs : Reprs) (id : ContainerId) (clock timeoutSeconds turns : Nat) :
    ∃ trace m, SmokeRuns casts printers (observeLoop reprs run (clock + 1000 * (timeoutSeconds + 1))
        (turns + 1) ⟨0, 0, 0, 0⟩ none)
      (.hosting id (backendService :: simulatorServices) t clock) trace
      (.ok (true, m, some eventId))
      (.hosting id (backendService :: simulatorServices) t' (clock + 1000)) := by
  let before := DockerHost.hosting id (backendService :: simulatorServices) t clock
  let busy := DockerHost.hosting id (backendService :: simulatorServices) t' clock
  let after := DockerHost.hosting id (backendService :: simulatorServices) t' (clock + 1000)
  obtain ⟨hcounted, m, hm, hcontract, hdenotes⟩ := hp.traffic
  obtain ⟨hlogged, hreplay⟩ := hp.replay
  obtain ⟨honce, hone, hdenotesOne⟩ := hp.stored
  have hnow : QueriedAnswers casts printers before .monotonic clock before := ⟨⟨rfl, rfl⟩, trivial⟩
  -- the traffic comes while the test sleeps
  have hslept : QueriedAnswers casts printers busy (.sleep 1000) () after :=
    ⟨⟨rfl, rfl, le_rfl⟩, trivial⟩
  have hdrift : before.Drifts busy := ⟨fun _ => .refl _, le_rfl⟩
  have hmetrics : QueriedAnswers casts printers after
      (.compose (.psql (.metrics run.runTag) run.dbUser run.dbName true)) counted after :=
    ⟨⟨⟨rfl, trivial⟩, le_rfl⟩, rfl, fun _ => ⟨m, hm, hdenotes⟩⟩
  have hparsed : SmokeRuns casts printers
      (ExceptT.mk (pure (parseMetrics reprs (pyStrip counted.stdout)))) after [] (.ok m) after :=
    runs_computed.mpr ⟨rfl, (parseMetrics_of_denotes hdenotes).symm, rfl⟩
  have hlogs : SmokeAnswers after .simulatorLogs logged after := ⟨rfl, rfl, le_rfl⟩
  have hlogs : SmokeRuns casts printers simulatorLogs after _ (.ok logged.stdout) after :=
    (SmokeRuns.effect hlogs).exceptBind ((SmokeRuns.checkResult hlogged).exceptBind .ret)
  have hcount : QueriedAnswers casts printers after
      (.compose (.psql (.duplicateCount run.runTag eventId) run.dbUser run.dbName true)) once
      after := ⟨⟨⟨rfl, trivial⟩, le_rfl⟩, rfl, fun _ => ⟨1, hone, hdenotesOne⟩⟩
  have hrows : SmokeRuns casts printers
      (duplicateRows reprs run m (extractDuplicateEventId logged.stdout)) after
      [⟨after, .inl (.compose (.psql (.duplicateCount run.runTag eventId) run.dbUser run.dbName
        true)), once, after⟩] (.ok (some 1)) after := by
    rw [hreplay]
    exact .ite_pos hcontract ((SmokeRuns.embed (HarnessRuns.countSql_ok hcount.1 honce hdenotesOne)
      (List.forall_mem_singleton.mpr hcount)).exceptBind .ret)
  obtain ⟨_, hprinted⟩ : ∃ trace, SmokeRuns casts printers
      (printLines (evidenceLines run.runTag m 1)) after trace (.ok ()) after :=
    SmokeRuns.printLines _
  have hend : SmokeRuns casts printers (pure (true, m, extractDuplicateEventId logged.stdout)) after
      [] (.ok (true, m, some eventId)) after := by
    rw [hreplay]
    exact .ret
  have hbefore : clock < clock + 1000 * (timeoutSeconds + 1) := by omega
  exact ⟨_, m, (SmokeRuns.embedEffect (.refl before) hnow).exceptBind (.ite_pos hbefore
    ((SmokeRuns.embedEffect hdrift hslept).exceptBind ((SmokeRuns.embed
      (HarnessRuns.psql_ok hmetrics.1 hcounted)
      (List.forall_mem_singleton.mpr hmetrics)).exceptBind (hparsed.exceptBind
        (hlogs.exceptBind (hrows.exceptBind (.ite_pos rfl (hprinted.exceptBind hend))))))))⟩

/-- The traffic. -/
theorem observes (reprs : Reprs) (id : ContainerId) (clock timeoutSeconds turns : Nat) :
    ∃ trace, SmokeRuns casts printers
      (observeTraffic reprs run (timeoutSeconds + 1) (turns + 1))
      (.hosting id [backendService] t clock) trace (.ok ())
      (.hosting id (backendService :: simulatorServices) t' (clock + 1000)) := by
  have hstart : SmokeAnswers (.hosting id [backendService] t clock)
      (.startSimulators (makeSmokeEnv run.runTag)) (⟨"", "", 0⟩ : CommandResult)
      (.hosting id (backendService :: simulatorServices) t clock) :=
    ⟨rfl, le_rfl, fun s hs => by simp [DockerHost.hosting, hs]⟩
  have hnow : QueriedAnswers casts printers
      (.hosting id (backendService :: simulatorServices) t clock) .monotonic clock
      (.hosting id (backendService :: simulatorServices) t clock) := ⟨⟨rfl, rfl⟩, trivial⟩
  obtain ⟨_, _, hloop⟩ := hp.observes_loop reprs id clock timeoutSeconds turns
  exact ⟨_, (SmokeRuns.effect hstart).exceptBind ((SmokeRuns.checkResult rfl).exceptBind
    ((SmokeRuns.embedEffect (.refl _) hnow).exceptBind (hloop.exceptBind .ret)))⟩

/-- The test passes, and the simulators are left stopped. -/
theorem passes (reprs : Reprs) (id : ContainerId) (clock timeoutSeconds turns restartTurns : Nat) :
    ∃ trace, SmokeRuns casts printers
      (runSmoke reprs (timeoutSeconds + 1) (turns + 1) (restartTurns + 1))
      (.hosting id [backendService] t clock) trace (.ok ())
      (.hosting id [backendService] t'' (clock + 1500)) := by
  obtain ⟨_, hprepare⟩ := hp.prepares reprs id clock
  obtain ⟨_, hobserve⟩ := hp.observes reprs id clock timeoutSeconds turns
  obtain ⟨own, hfinalize, hqueries⟩ := hp.finalizes id (clock + 1000) restartTurns
  have hanswers := hfinalize.answers
  have hembedded : SmokeRuns casts printers
      (embed (finalizeVerificationRun reprs run (restartTurns + 1))) _ _ (.ok ()) _ :=
    SmokeRuns.embed hfinalize fun p hmem =>
      queriedAnswers_of_asksNothing (hanswers p hmem) (List.all_eq_true.mp hqueries p hmem)
  exact ⟨_, hprepare.exceptBind (hobserve.attemptBind (Runs.exceptBind (a := ()) .ret
    (hembedded.attemptBind .ret)))⟩

end PassingTraffic

/-! ## Five stores -/

/-- Five stores. -/
def fiveStores : Tables :=
  ⟨[1, 2, 3, 4, 5].map fun id =>
      ⟨id, "Store", "CODE", "Europe/Madrid", 250000, "", "", true, none, 0, 63924508800000000⟩,
    [⟨9, "SKU", "Product", none, 0⟩], []⟩

/-- An event of a simulator, five seconds later. -/
def busyEvent (id storeId : UUID) (eventType : EventType) (original : Option UUID)
    (occurredAt : Instant) : PosEvent :=
  { eventId := id, storeId := storeId, productId := 9, eventType := eventType, quantity := 1,
    amountCents := 100, occurredAt := occurredAt, originalEventId := original,
    sourceInstance := "simulator-x:verify-0123456789ab:h", metadataJson := none, note := none,
    receivedAt := 63924508805000000 }

/-- The stores with the traffic of all simulators, one event of it late. -/
def busyStores : Tables :=
  { fiveStores with
    events := [busyEvent 11 1 .sale none 63924508805000000,
      busyEvent 12 2 .sale none 63924508805000000, busyEvent 13 3 .sale none 63924508805000000,
      busyEvent 14 4 .sale none 63924508805000000, busyEvent 15 5 .sale none 63924508800000000,
      busyEvent 21 1 .refund (some 11) 63924508805000000] }

/-- The casts of the one instant there is, and of UUIDs. -/
def fiveCasts : Casts :=
  ⟨pyUuid, fun s => if s = "2026-09-09T00:00:00+00:00" then some 63924508800000000 else none⟩

/-- How it is printed. -/
def fivePrinters : Printers := ⟨uuidText, fun _ => "2026-09-09T00:00:00+00:00"⟩

/-- The run over them. -/
def fiveRun : VerificationRun :=
  ⟨"verify-0123456789ab", fiveStores.stores.map (StoreRow.item fivePrinters), "storepulse",
    "storepulse"⟩

/-- The casts read what is printed. -/
theorem readsBack_fiveStores : ∀ s ∈ fiveStores.stores, s.ReadsBack fiveCasts fivePrinters := by
  intro s hs
  have hsmall : ∀ s ∈ fiveStores.stores, s.id < 16 ^ 32 ∧ s.lastSeenAt = none ∧
      s.updatedAt = 63924508800000000 := by
    simp [fiveStores]
  obtain ⟨hid, hseen, hupdated⟩ := hsmall s hs
  refine ⟨?_, fun t ht => ?_, ?_⟩
  · rw [show fiveCasts.uuid = pyUuid from rfl, show fivePrinters.uuid = uuidText from rfl,
      pyUuid_uuidText hid]
  · rw [hseen] at ht
    cases ht
  · simp [fiveCasts, fivePrinters, hupdated]

theorem consistent_busyStores : busyStores.Consistent where
  eventIds := by decide
  storeForeignKey := by simp [busyStores, busyEvent, fiveStores]
  productForeignKey := by simp [busyStores, busyEvent, fiveStores]
  originalForeignKey := by simp [busyStores, busyEvent]
  saleOriginal := by simp [busyStores, busyEvent]
  refundOriginal := by simp [busyStores, busyEvent]

/-- Their traffic lets the test pass. -/
theorem passingTraffic_fiveStores :
    ∃ tag t' printed counted logged once, PassingTraffic fiveCasts fivePrinters tag fiveRun
      fiveStores busyStores t' printed counted logged once (uuidText 12) := by
  let tag : RunTag := ⟨"0123456789ab", by decide⟩
  have htag : fiveRun.runTag = tag.text := by decide +kernel
  have hrows : snapshotRows fiveCasts fiveRun.snapshot =
      .ok (fiveStores.stores.map StoreRow.snapshotRow) := snapshotRows_items readsBack_fiveStores
  have hids : ((fiveStores.stores.map StoreRow.snapshotRow).map SnapshotRow.id).Nodup := by decide
  have hinside : ¬ RefundedFromOutside tag busyStores := by
    have htaken : tag.takes "simulator-x:verify-0123456789ab:h" = true := by decide +kernel
    simp [RefundedFromOutside, busyStores, busyEvent, inRun, htaken]
  have hread : readSnapshot (pyStrip (snapshotJson fiveRun.snapshot)) = some fiveRun.snapshot := by
    rw [pyStrip_snapshotJson, readSnapshot_snapshotJson]
  have hone : Denotes ⟨"1\n", "", 0⟩ 1 := by
    rw [Denotes]
    decide +kernel
  have hcleaned := (transact_cleanup consistent_busyStores hrows).resolve_left
    fun hout => hinside hout.1
  have hfound : ∀ row ∈ fiveStores.stores.map StoreRow.snapshotRow,
      ∃ s ∈ busyStores.stores, s.id = row.id := by
    intro row hrow
    obtain ⟨s, hs, rfl⟩ := List.mem_map.mp hrow
    exact ⟨s, hs, rfl⟩
  refine ⟨tag, cleanedTables tag (fiveStores.stores.map StoreRow.snapshotRow) busyStores,
    ⟨snapshotJson fiveRun.snapshot, "", 0⟩, ⟨"5|5|1|1\n", "", 0⟩,
    ⟨logText [.replay "simulator-x-1  | " "CODE" 2 12], "", 0⟩, ⟨"1\n", "", 0⟩, ?_⟩
  exact
    { digits := by decide
      runTag := htag
      dbUser := ⟨by decide +kernel, by decide +kernel⟩
      dbName := ⟨by decide +kernel, by decide +kernel⟩
      prints := ⟨rfl, fiveStores.stores, .refl _, hread⟩
      reads := ⟨hread, fun he => by cases he⟩
      traffic := ⟨rfl, ⟨5, 5, 1, 1⟩, by decide +kernel, by decide, "5", "5", "1", "1",
        by decide +kernel, by decide +kernel, by decide +kernel, by decide +kernel,
        by decide +kernel⟩
      replay := ⟨rfl, by decide +kernel⟩
      stored := ⟨rfl, by decide +kernel, hone⟩
      cleans := htag ▸ hcleaned.2
      removed := htag ▸ remaining_cleanedTables
      restored := (snapshotMismatches_cleanedTables hids hrows).mpr hfound }

/-- How `repr` would print. -/
def fiveReprs : Reprs :=
  ⟨fun s => "'" ++ s ++ "'", fun v => String.ofList (jsonDumps (fun _ => []) v)⟩

/-- A host on which the backend serves the five stores. -/
def fiveHost (id : ContainerId) : DockerHost := .hosting id [backendService] fiveStores 0

theorem runSmoke_passes_fiveStores (id : ContainerId) : ∃ trace h',
    SmokeRuns fiveCasts fivePrinters (runSmoke fiveReprs 35 35 60) (fiveHost id) trace (.ok ())
      h' := by
  obtain ⟨tag, t', printed, counted, logged, once, hp⟩ := passingTraffic_fiveStores
  obtain ⟨trace, hpasses⟩ := hp.passes fiveReprs id 0 34 34 59
  exact ⟨trace, _, hpasses⟩

end StorePulse
