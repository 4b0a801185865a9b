import StorePulse.Harness.CommandRuns

/-!
# Runs of `finalize_verification_run`

The function stops the simulators, stops the backend, cleans up, starts the backend
and queries the final state.  A run is the runs of these phases, up to the phase
whose failure ends it.  The errors of the later phases are collected, and raised at
the end.
-/

namespace StorePulse

open Program

variable {reprs : Reprs} {casts : Casts} {h h' : DockerHost} {trace : List HarnessStep}
  {outcome : Except HarnessException Unit}

/-! ## The list of errors -/

/-- The errors that a `try` adds to the list. -/
def errorsOf (title : String) : Except HarnessException Unit → List String
  | .error exc => [title ++ exc.text]
  | .ok () => []

theorem errorsOf_eq_nil {title : String} {result : Except HarnessException Unit} :
    errorsOf title result = [] ↔ result = .ok () := by
  cases result <;> simp [errorsOf]

theorem isRestartFailure_cleanup (result : Except HarnessException Unit) :
    (errorsOf "verification data cleanup failed: " result).any isRestartFailure = false := by
  cases result with
  | ok _ => rfl
  | error exc =>
      simp only [errorsOf, List.any_cons, List.any_nil, Bool.or_false, isRestartFailure,
        String.toList_append]
      rfl

theorem isRestartFailure_restart (exc : HarnessException) :
    (errorsOf "backend restart failed: " (.error exc)).any isRestartFailure = true := by
  simp only [errorsOf, List.any_cons, List.any_nil, Bool.or_false, isRestartFailure,
    String.toList_append]
  rfl

/-- A `try` whose exception goes into the list of errors. -/
theorem runs_errorsOf {m : Harness Unit} {f : Except HarnessException Unit → Harness (List String)}
    {title : String} {outcome : Except HarnessException (List String)}
    (hf : ∀ result, f result = pure (errorsOf title result))
    (hr : HarnessRuns casts (attempt m >>= f) h trace outcome h') :
    ∃ result, HarnessRuns casts m h trace result h' ∧ outcome = .ok (errorsOf title result) := by
  obtain ⟨first, result, h₁, rest, hm, hpure, rfl⟩ := runs_attempt_bind.mp hr
  rw [hf] at hpure
  obtain ⟨rfl, rfl, rfl⟩ := runs_pure.mp hpure
  exact ⟨result, by rwa [List.append_nil], rfl⟩

theorem runs_restartBackend {turns : Nat} {outcome : Except HarnessException (List String)}
    (hr : HarnessRuns casts (restartBackend turns) h trace outcome h') :
    ∃ result, HarnessRuns casts (startAndAnnounce turns) h trace result h' ∧
      outcome = .ok (errorsOf "backend restart failed: " result) :=
  runs_errorsOf (fun result => by cases result <;> rfl) hr

theorem runs_verifyFinally {run : VerificationRun}
    {outcome : Except HarnessException (List String)}
    (hr : HarnessRuns casts (verifyFinally reprs run) h trace outcome h') :
    ∃ result, HarnessRuns casts (verifyAfterRestart reprs run) h trace result h' ∧
      outcome = .ok (errorsOf "post-restart verification failed: " result) :=
  runs_errorsOf (fun result => by cases result <;> rfl) hr

/-- The second `try` sets `backend_stopped` exactly when `stop_backend` returns. -/
theorem runs_stopAndCleanUp {run : VerificationRun}
    {outcome : Except HarnessException (Bool × List String)}
    (hr : HarnessRuns casts (stopAndCleanUp reprs run) h trace outcome h') :
    (∃ e, HarnessRuns casts stopBackend h trace (.error e) h' ∧
      outcome = .ok (false, errorsOf "verification data cleanup failed: " (.error e))) ∨
    ∃ t₂ t₃ h₂ cleaned, HarnessRuns casts stopBackend h t₂ (.ok ()) h₂ ∧
      HarnessRuns casts (cleanUpBehindBarrier reprs run) h₂ t₃ cleaned h' ∧ trace = t₂ ++ t₃ ∧
      outcome = .ok (true, errorsOf "verification data cleanup failed: " cleaned) := by
  obtain ⟨t₂, stopped, h₂, rest, hstop, hgo, rfl⟩ := runs_attempt_bind.mp hr
  cases stopped with
  | error e =>
      obtain ⟨rfl, rfl, rfl⟩ := runs_pure.mp hgo
      rw [List.append_nil]
      exact Or.inl ⟨e, hstop, rfl⟩
  | ok _ =>
      obtain ⟨t₃, cleaned, h₃, rest, hclean, hpure, rfl⟩ := runs_attempt_bind.mp hgo
      refine Or.inr ⟨t₂, t₃, h₂, cleaned, hstop, ?_⟩
      cases cleaned with
      | error e =>
          obtain ⟨rfl, rfl, rfl⟩ := runs_pure.mp hpure
          exact ⟨hclean, by rw [List.append_nil], rfl⟩
      | ok _ =>
          obtain ⟨rfl, rfl, rfl⟩ := runs_pure.mp hpure
          exact ⟨hclean, by rw [List.append_nil], rfl⟩

theorem runs_reportErrors {errors : List String}
    (hr : HarnessRuns casts (reportErrors errors) h trace outcome h') :
    trace = [] ∧ (outcome = .ok () ↔ errors = []) ∧ h' = h := by
  rw [reportErrors] at hr
  by_cases hnone : errors = []
  · rw [if_neg (not_not.mpr hnone)] at hr
    obtain ⟨rfl, rfl, rfl⟩ := runs_pure.mp hr
    exact ⟨rfl, iff_of_true rfl hnone, rfl⟩
  · rw [if_pos hnone] at hr
    obtain ⟨rfl, rfl, rfl⟩ := runs_throw.mp hr
    exact ⟨rfl, iff_of_false nofun hnone, rfl⟩

/-- Without a backend that has been restarted, the errors so far are raised. -/
theorem runs_verifyAndReport_skip {run : VerificationRun} {backendStopped : Bool}
    {errors : List String} (hskip : (backendStopped && !errors.any isRestartFailure) = false)
    (hr : HarnessRuns casts (verifyAndReport reprs run backendStopped errors) h trace outcome h') :
    trace = [] ∧ (outcome = .ok () ↔ errors = []) ∧ h' = h := by
  rw [verifyAndReport, hskip, if_neg Bool.false_ne_true] at hr
  rcases runs_exceptBind.mp hr with ⟨e, hm, -⟩ | ⟨first, none, h₁, rest, hm, hend, rfl⟩
  · cases (runs_pure.mp hm).2.1
  obtain ⟨rfl, he, rfl⟩ := runs_pure.mp hm
  cases he
  simpa using runs_reportErrors hend

/-- With one, the last `try` decides whether there are more. -/
theorem runs_verifyAndReport {run : VerificationRun} {errors : List String}
    (hrestarted : errors.any isRestartFailure = false)
    (hr : HarnessRuns casts (verifyAndReport reprs run true errors) h trace outcome h') :
    ∃ verified, HarnessRuns casts (verifyAfterRestart reprs run) h trace verified h' ∧
      (outcome = .ok () ↔ errors = [] ∧ verified = .ok ()) := by
  rw [verifyAndReport, hrestarted, Bool.not_false, Bool.and_true, if_pos rfl] at hr
  rcases runs_exceptBind.mp hr with ⟨e, hm, -⟩ | ⟨first, more, h₁, rest, hm, hend, rfl⟩
  · obtain ⟨_, _, he⟩ := runs_verifyFinally hm
    cases he
  obtain ⟨verified, hverify, he⟩ := runs_verifyFinally hm
  cases he
  obtain ⟨rfl, houtcome, rfl⟩ := runs_reportErrors hend
  rw [List.append_eq_nil_iff, errorsOf_eq_nil] at houtcome
  exact ⟨verified, by rwa [List.append_nil], houtcome⟩

/-! ## The phases -/

/-- The phases of a run of `finalize_verification_run`, by the last of them. -/
inductive FinalizeRun (casts : Casts) (reprs : Reprs) (run : VerificationRun) (turns : Nat)
    (h : DockerHost) :
    List HarnessStep → Except HarnessException Unit → DockerHost → Prop where
  /-- The simulators could not be stopped. -/
  | simulatorsLeft {t₁ : List HarnessStep} {h₁ : DockerHost} {e : HarnessException}
      {outcome : Except HarnessException Unit} :
      HarnessRuns casts stopSimulators h t₁ (.error e) h₁ → outcome ≠ .ok () →
      FinalizeRun casts reprs run turns h t₁ outcome h₁
  /-- `stop_backend` raised. -/
  | backendLeft {t₁ t₂ : List HarnessStep} {h₁ h₂ : DockerHost} {e : HarnessException}
      {outcome : Except HarnessException Unit} :
      HarnessRuns casts stopSimulators h t₁ (.ok ()) h₁ →
      HarnessRuns casts stopBackend h₁ t₂ (.error e) h₂ → outcome ≠ .ok () →
      FinalizeRun casts reprs run turns h (t₁ ++ t₂) outcome h₂
  /-- The backend did not start again. -/
  | restartFailed {t₁ t₂ t₃ t₄ : List HarnessStep} {h₁ h₂ h₃ h₄ : DockerHost}
      {cleaned outcome : Except HarnessException Unit} {e : HarnessException} :
      HarnessRuns casts stopSimulators h t₁ (.ok ()) h₁ →
      HarnessRuns casts stopBackend h₁ t₂ (.ok ()) h₂ →
      HarnessRuns casts (cleanUpBehindBarrier reprs run) h₂ t₃ cleaned h₃ →
      HarnessRuns casts (startAndAnnounce turns) h₃ t₄ (.error e) h₄ → outcome ≠ .ok () →
      FinalizeRun casts reprs run turns h (t₁ ++ t₂ ++ (t₃ ++ t₄)) outcome h₄
  /-- It did, and the final state was queried. -/
  | restarted {t₁ t₂ t₃ t₄ t₅ : List HarnessStep} {h₁ h₂ h₃ h₄ h₅ : DockerHost}
      {cleaned verified outcome : Except HarnessException Unit} :
      HarnessRuns casts stopSimulators h t₁ (.ok ()) h₁ →
      HarnessRuns casts stopBackend h₁ t₂ (.ok ()) h₂ →
      HarnessRuns casts (cleanUpBehindBarrier reprs run) h₂ t₃ cleaned h₃ →
      HarnessRuns casts (startAndAnnounce turns) h₃ t₄ (.ok ()) h₄ →
      HarnessRuns casts (verifyAfterRestart reprs run) h₄ t₅ verified h₅ →
      (outcome = .ok () ↔ cleaned = .ok () ∧ verified = .ok ()) →
      FinalizeRun casts reprs run turns h (t₁ ++ t₂ ++ (t₃ ++ (t₄ ++ t₅))) outcome h₅

/-- `finalize_verification_run`. -/
theorem finalizeRun_of_runs {run : VerificationRun} {turns : Nat}
    (hr : HarnessRuns casts (finalizeVerificationRun reprs run turns) h trace outcome h') :
    FinalizeRun casts reprs run turns h trace outcome h' := by
  obtain ⟨t₁, simulators, h₁, rest, hsims, hgo, rfl⟩ := runs_attempt_bind.mp hr
  cases simulators with
  | error e =>
      obtain ⟨rfl, rfl, rfl⟩ := runs_throw.mp hgo
      rw [List.append_nil]
      exact .simulatorsLeft hsims nofun
  | ok _ =>
      rcases runs_exceptBind.mp hgo with ⟨e, hm, -⟩ | ⟨first, stopping, h₃, rest, hm, hmore, rfl⟩
      · rcases runs_stopAndCleanUp hm with ⟨_, _, he⟩ | ⟨_, _, _, _, _, _, _, he⟩
        · cases he
        · cases he
      rcases runs_stopAndCleanUp hm with
        ⟨e, hstop, he⟩ | ⟨t₂, t₃, h₂, cleaned, hstop, hclean, rfl, he⟩
      · -- `backend_stopped` is not set
        cases he
        change HarnessRuns casts
          (verifyAndReport reprs run false (errorsOf _ (.error e) ++ [])) _ _ _ _ at hmore
        obtain ⟨rfl, houtcome, rfl⟩ := runs_verifyAndReport_skip rfl hmore
        rw [List.append_nil]
        exact .backendLeft hsims hstop (mt houtcome.mp (by simp [errorsOf]))
      cases he
      rcases runs_exceptBind.mp hmore with ⟨e, hm, -⟩ | ⟨t₄, errors, h₄, rest, hm, hend, rfl⟩
      · obtain ⟨_, _, he⟩ := runs_restartBackend hm
        cases he
      obtain ⟨started, hstart, he⟩ := runs_restartBackend hm
      cases he
      cases started with
      | error e =>
          obtain ⟨rfl, houtcome, rfl⟩ :=
            runs_verifyAndReport_skip (by simp [isRestartFailure_restart]) hend
          rw [List.append_nil, List.append_assoc, ← List.append_assoc t₁]
          exact .restartFailed hsims hstop hclean hstart (mt houtcome.mp (by simp [errorsOf]))
      | ok _ =>
          have hrestarted : (errorsOf "verification data cleanup failed: " cleaned ++
              errorsOf "backend restart failed: " (.ok ())).any isRestartFailure = false := by
            rw [List.any_append, isRestartFailure_cleanup]
            rfl
          obtain ⟨verified, hverify, houtcome⟩ := runs_verifyAndReport hrestarted hend
          rw [List.append_eq_nil_iff, errorsOf_eq_nil, errorsOf_eq_nil, eq_self, and_true]
            at houtcome
          rw [List.append_assoc, ← List.append_assoc t₁]
          exact .restarted hsims hstop hclean hstart hverify houtcome

/-! ## Runs that end in an error -/

variable {run : VerificationRun} {turns : Nat} {t₁ t₂ t₃ t₄ : List HarnessStep}
  {h₁ h₂ h₃ : DockerHost}

theorem HarnessRuns.errorsReported {errors : List String} (herrors : errors ≠ []) :
    HarnessRuns casts (reportErrors errors) h []
      (.error (.verificationError ("\n".intercalate errors))) h := by
  rw [reportErrors, if_pos herrors]
  exact .ret

/-- A run in which `stop_backend` raises. -/
theorem HarnessRuns.finalize_backendLeft {e : HarnessException}
    (hsims : HarnessRuns casts stopSimulators h t₁ (.ok ()) h₁)
    (hstop : HarnessRuns casts stopBackend h₁ t₂ (.error e) h') :
    HarnessRuns casts (finalizeVerificationRun reprs run turns) h (t₁ ++ t₂)
      (.error (.verificationError
        ("\n".intercalate ["verification data cleanup failed: " ++ e.text]))) h' := by
  have hstopped : HarnessRuns casts (stopAndCleanUp reprs run) h₁ t₂
      (.ok (false, ["verification data cleanup failed: " ++ e.text])) h' := by
    rw [← List.append_nil t₂]
    exact hstop.attemptBind .ret
  rw [← List.append_nil t₂]
  refine hsims.attemptBind (hstopped.exceptBind ?_)
  -- `backend_stopped` is not set
  change HarnessRuns casts (reportErrors (["verification data cleanup failed: " ++ e.text] ++ []))
    _ _ _ _
  exact .errorsReported (by simp)

/-- A run in which the cleanup fails, and then the restart. -/
theorem HarnessRuns.finalize_restartFailed {e e' : HarnessException}
    (hsims : HarnessRuns casts stopSimulators h t₁ (.ok ()) h₁)
    (hstop : HarnessRuns casts stopBackend h₁ t₂ (.ok ()) h₂)
    (hclean : HarnessRuns casts (cleanUpBehindBarrier reprs run) h₂ t₃ (.error e) h₃)
    (hstart : HarnessRuns casts (startAndAnnounce turns) h₃ t₄ (.error e') h') :
    HarnessRuns casts (finalizeVerificationRun reprs run turns) h (t₁ ++ (t₂ ++ t₃ ++ t₄))
      (.error (.verificationError ("\n".intercalate
        ["verification data cleanup failed: " ++ e.text, "backend restart failed: " ++ e'.text])))
      h' := by
  have hcleaned : HarnessRuns casts (stopAndCleanUp reprs run) h₁ (t₂ ++ t₃)
      (.ok (true, errorsOf "verification data cleanup failed: " (.error e))) h₃ := by
    refine hstop.attemptBind ?_
    rw [← List.append_nil t₃]
    exact hclean.attemptBind .ret
  have hrestarted : HarnessRuns casts (restartBackend turns) h₃ t₄
      (.ok (errorsOf "backend restart failed: " (.error e'))) h' := by
    rw [← List.append_nil t₄]
    exact hstart.attemptBind .ret
  have hskip : (true && !(errorsOf "verification data cleanup failed: " (.error e) ++
      errorsOf "backend restart failed: " (.error e')).any isRestartFailure) = false := by
    simp [isRestartFailure_restart]
  rw [← List.append_nil t₄]
  refine hsims.attemptBind (hcleaned.exceptBind (hrestarted.exceptBind ?_))
  change HarnessRuns casts (verifyAndReport reprs run true _) _ _ _ _
  rw [verifyAndReport, hskip, if_neg Bool.false_ne_true]
  change HarnessRuns casts
    (reportErrors (errorsOf "verification data cleanup failed: " (.error e) ++
      errorsOf "backend restart failed: " (.error e') ++ [])) _ _ _ _
  exact .errorsReported (by simp [errorsOf])

end StorePulse
