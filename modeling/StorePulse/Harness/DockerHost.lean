import StorePulse.Harness.Cleanup
import StorePulse.Harness.Compose

/-!
# What the commands of the harness do

The state a run of the harness meets: the containers that run, the tables, and
the monotonic clock.  A command may fail, with or without having had its effect,
and a `stop` or `kill` may stop some containers and not others, whatever it
reports.  A query that succeeds reports the truth.

Between two commands time passes, any container may stop by itself, and the
tables may become anything.  No container starts but through `up`.
-/

namespace StorePulse

/-! ## The state -/

/-- The id of a container, as `ps -q` prints it. -/
structure ContainerId where
  text : String
  nonempty : text ≠ ""
  /-- It is made of letters and digits. -/
  plain : text.toList.all Char.isAlphanum = true

/-- The host of the containers. -/
structure DockerHost where
  /-- The running containers of a service. -/
  running : String → List ContainerId
  tables : Tables
  clock : Nat

namespace DockerHost

/-- No container of the services is running. -/
def Idle (services : List String) (h : DockerHost) : Prop := ∀ s ∈ services, h.running s = []

/-- Containers may have stopped, and none has started. -/
def Fewer (h h' : DockerHost) : Prop := ∀ s, (h'.running s).Sublist (h.running s)

/-- What may happen between two operations. -/
structure Drifts (h h' : DockerHost) : Prop where
  fewer : h.Fewer h'
  clock : h.clock ≤ h'.clock

/-- Nothing need happen. -/
theorem Drifts.refl (h : DockerHost) : h.Drifts h := ⟨fun _ => .refl _, le_rfl⟩

end DockerHost

/-! ## Commands -/

/-- What `ps -q` prints. -/
def psOutput (ids : List ContainerId) : String :=
  String.ofList (ids.flatMap fun id => id.text.toList ++ ['\n'])

/-- The output of a query denotes a number. -/
def Denotes (result : CommandResult) (n : Nat) : Prop := pyInt (pyStrip result.stdout) = some n

/-- What `psql` may do and report. -/
def SqlAnswers (casts : Casts) (t : Tables) : BuiltSql → CommandResult → Tables → Prop
  | .cleanupTransaction runTag items, result, t' =>
      let (outcome, t₁) := t.transact casts (cleanupStatements runTag items)
      if result.returncode = 0 then outcome = .ok () ∧ t' = t₁ else t' = t ∨ t' = t₁
  | .remaining runTag, result, t' => t' = t ∧
      (result.returncode = 0 → ∃ n, t.remaining (sourcePattern runTag) = .ok n ∧ Denotes result n)
  | .snapshotMismatch items, result, t' => t' = t ∧
      (result.returncode = 0 → ∃ n, t.snapshotMismatches casts items = .ok n ∧ Denotes result n)
  -- the other texts are not sent by the functions of `Compose`
  | _, _, _ => True

/-- What a command may do and report. -/
def ComposeCommand.Answers (casts : Casts) (h : DockerHost) :
    ComposeCommand → CommandResult → DockerHost → Prop
  | .ps _ services, result, h' => h'.running = h.running ∧ h'.tables = h.tables ∧
      (result.returncode = 0 → result.stdout = psOutput (services.flatMap h.running))
  | .stop _ services, _, h' | .kill _ services, _, h' => h.Fewer h' ∧ h'.tables = h.tables ∧
      ∀ s, s ∉ services → h'.running s = h.running s
  | .psql sql _ _ _, result, h' =>
      h'.running = h.running ∧ SqlAnswers casts h.tables sql result h'.tables
  | .probe, _, h' | .logs, _, h' => h'.running = h.running ∧ h'.tables = h.tables
  | .up, _, h' => h'.tables = h.tables ∧ ∀ s, s ≠ backendService → h'.running s = h.running s

/-- What an operation may do, and the reply to it. -/
def HarnessAnswers (casts : Casts) (h : DockerHost) :
    (op : HarnessOp) → op.Reply → DockerHost → Prop
  | .compose command, result, h' => command.Answers casts h result h' ∧ h.clock ≤ h'.clock
  | .monotonic, now, h' => now = h.clock ∧ h' = h
  | .sleep milliseconds, _, h' =>
      h'.running = h.running ∧ h'.tables = h.tables ∧ h.clock + milliseconds ≤ h'.clock
  | .print _, _, h' => h' = h

/-- The environment of the harness. -/
def dockerEnvironment (casts : Casts) : Program.Environment HarnessEffects DockerHost where
  drifts := DockerHost.Drifts
  answers := HarnessAnswers casts

/-- A command of the harness as it was run. -/
abbrev HarnessStep := Program.Performed HarnessEffects DockerHost

/-- A complete run of a function of the harness. -/
abbrev HarnessRuns {α : Type} (casts : Casts) (m : Harness α) (h : DockerHost)
    (trace : List HarnessStep) (outcome : Except HarnessException α) (h' : DockerHost) : Prop :=
  Program.Runs (dockerEnvironment casts) m.run h trace outcome h'

/-! ## The output of `ps` -/

theorem alphanum_bounds {c : Char} (h : c.isAlphanum = true) : 48 ≤ c.toNat ∧ c.toNat ≤ 122 := by
  change ((decide (65 ≤ c.val ∧ c.val ≤ 90) || (97 ≤ c.val && c.val ≤ 122)) ||
    (48 ≤ c.val && c.val ≤ 57)) = true at h
  simp only [Bool.or_eq_true, Bool.and_eq_true, decide_eq_true_eq, UInt32.le_iff_toNat_le] at h
  change ((65 ≤ c.toNat ∧ c.toNat ≤ 90) ∨ (97 ≤ c.toNat ∧ c.toNat ≤ 122)) ∨
    (48 ≤ c.toNat ∧ c.toNat ≤ 57) at h
  omega

theorem isSpace_of_alphanum {c : Char} (h : c.isAlphanum = true) : isSpace c = false := by
  obtain ⟨h₁, h₂⟩ := alphanum_bounds h
  simp [isSpace, isWhitespace]
  omega

theorem isLineBreak_of_alphanum {c : Char} (h : c.isAlphanum = true) : isLineBreak c = false := by
  obtain ⟨h₁, h₂⟩ := alphanum_bounds h
  simp [isLineBreak]
  omega

/-- A line without a break is read as one line. -/
theorem splitLinesFrom_line {text : List Char} (h : ∀ c ∈ text, isLineBreak c = false)
    (line rest : List Char) :
    splitLinesFrom line (text ++ '\n' :: rest) = (line ++ text) :: splitLinesFrom [] rest := by
  induction text generalizing line with
  | nil => simp [splitLinesFrom, show isLineBreak '\n' = true by decide]
  | cons c text ih =>
      have hc := h c List.mem_cons_self
      have hreturn : c ≠ '\r' := by
        rintro rfl
        exact absurd hc (by decide)
      have hstep : splitLinesFrom line (c :: (text ++ '\n' :: rest)) =
          splitLinesFrom (line ++ [c]) (text ++ '\n' :: rest) := by
        rw [splitLinesFrom.eq_def]
        split
        case h_1 he => cases he
        case h_2 he => exact absurd (List.cons.inj he).1 hreturn
        case h_3 d ds _ he =>
          obtain ⟨rfl, rfl⟩ := List.cons.inj he
          rw [hc, if_neg Bool.false_ne_true]
      rw [List.cons_append, hstep, ih fun d hd => h d (List.mem_cons_of_mem c hd)]
      simp

/-- An id has no white space to strip. -/
theorem pyStrip_containerId (id : ContainerId) : pyStrip id.text = id.text := by
  have hplain : ∀ c ∈ id.text.toList, isSpace c = false := fun c hc =>
    isSpace_of_alphanum (List.all_eq_true.mp id.plain c hc)
  have hkeep : ∀ cs : List Char, (∀ c ∈ cs, isSpace c = false) → cs.dropWhile isSpace = cs := by
    intro cs hcs
    cases cs with
    | nil => rfl
    | cons c cs => rw [List.dropWhile_cons_of_neg (by simp [hcs c List.mem_cons_self])]
  rw [pyStrip, stripBy, hkeep _ hplain, hkeep _ fun c hc => hplain c (List.mem_reverse.mp hc),
    List.reverse_reverse, String.ofList_toList]

/-- The harness reads the ids that `ps` prints. -/
theorem serviceIds_psOutput (ids : List ContainerId) :
    serviceIds (psOutput ids) = ids.map ContainerId.text := by
  have hlines : splitLines (psOutput ids) = ids.map ContainerId.text := by
    rw [splitLines, psOutput, String.toList_ofList]
    induction ids with
    | nil => rfl
    | cons id ids ih =>
        have hplain : ∀ c ∈ id.text.toList, isLineBreak c = false := fun c hc =>
          isLineBreak_of_alphanum (List.all_eq_true.mp id.plain c hc)
        rw [List.flatMap_cons, List.append_assoc, List.singleton_append,
          splitLinesFrom_line hplain, List.map_cons, ih, List.nil_append, String.ofList_toList]
        rfl
  have hid : ∀ id : ContainerId, (if (pyStrip id.text).isEmpty then none else
      some (pyStrip id.text)) = some id.text := by
    intro id
    rw [pyStrip_containerId, if_neg (by simp [id.nonempty])]
  rw [serviceIds, hlines, List.filterMap_map, ← List.filterMap_eq_map]
  exact congrArg (fun f => ids.filterMap f) (funext hid)

end StorePulse
