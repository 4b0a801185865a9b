import Mathlib.Algebra.Order.BigOperators.Group.List
import Mathlib.Algebra.Order.Group.Nat
import StorePulse.Harness.Cleanup

/-!
# What a cleanup removes

The pattern of a run takes the source instances of the simulators the run
started, and the cleanup transaction removes exactly the events it takes.  The
transaction fails only when an event of another source refunds a sale of the
run, and then nothing is changed.
-/

namespace StorePulse

/-! ## Run tags and source instances -/

/-- A hexadecimal digit. -/
def isHexDigit (c : Char) : Bool :=
  c.isDigit || ('a' ≤ c && c ≤ 'f') || ('A' ≤ c && c ≤ 'F')

/-- A run tag as `run_smoke` makes it. -/
structure RunTag where
  digits : String
  hex : digits.toList.all isHexDigit = true

/-- The text of a run tag. -/
def RunTag.text (runTag : RunTag) : String := "verify-" ++ runTag.digits

/-- The source instance has the form of the pattern of the run. -/
def RunTag.takes (runTag : RunTag) (sourceInstance : String) : Bool :=
  like sourceInstance (sourcePattern runTag.text) == some true

/-- The event is one of the run. -/
def inRun (runTag : RunTag) (e : PosEvent) : Bool := runTag.takes e.sourceInstance

theorem plain_of_isHexDigit {c : Char} (h : isHexDigit c = true) :
    Like.isSpecial c = false ∧ c ≠ ':' := by
  have hspecial : ∀ d : Char, isHexDigit d = false → c ≠ d := by
    rintro d hd rfl
    rw [hd] at h
    cases h
  refine ⟨?_, hspecial ':' (by decide)⟩
  simp [Like.isSpecial, hspecial '%' (by decide), hspecial '_' (by decide),
    hspecial '\\' (by decide)]

/-- No character of a run tag has a meaning in a pattern or in a source instance. -/
theorem RunTag.plain {runTag : RunTag} {c : Char} (h : c ∈ runTag.text.toList) :
    Like.isSpecial c = false ∧ c ≠ ':' := by
  rw [RunTag.text, String.toList_append, List.mem_append] at h
  rcases h with h | h
  · have hall : ∀ c ∈ "verify-".toList, Like.isSpecial c = false ∧ c ≠ ':' := by
      simp [Like.isSpecial]
    exact hall c h
  · exact plain_of_isHexDigit (List.all_eq_true.mp runTag.hex c h)

/-- The tokens of the pattern of a run. -/
def runTokens (runTag : RunTag) : List (Like.Token Char) :=
  "simulator-".toList.map .exactly ++ .any ::
    ((":" ++ runTag.text ++ ":").toList.map .exactly ++ [.any])

theorem parse_sourcePattern (runTag : RunTag) :
    Like.parse (sourcePattern runTag.text).toList = some (runTokens runTag) := by
  have hhead : ∀ c ∈ "simulator-".toList, Like.isSpecial c = false := by simp [Like.isSpecial]
  have htag : ∀ c ∈ (":" ++ runTag.text ++ ":").toList, Like.isSpecial c = false := by
    intro c hc
    simp only [String.toList_append, List.mem_append] at hc
    rcases hc with (hc | hc) | hc
    · have hall : ∀ c ∈ ":".toList, Like.isSpecial c = false := by simp [Like.isSpecial]
      exact hall c hc
    · exact (RunTag.plain hc).1
    · have hall : ∀ c ∈ ":".toList, Like.isSpecial c = false := by simp [Like.isSpecial]
      exact hall c hc
  have hsplit : (sourcePattern runTag.text).toList =
      "simulator-".toList ++ '%' :: ((":" ++ runTag.text ++ ":").toList ++ ['%']) := by
    simp [sourcePattern]
  rw [hsplit, Like.parse_append hhead, Like.parse, Like.parse_append htag]
  rfl

theorem RunTag.takes_eq (runTag : RunTag) (source : String) :
    runTag.takes source = Like.matchesTokens (runTokens runTag) source.toList := by
  rw [takes, like, parse_sourcePattern]
  simp

/-- The pattern takes what has the run tag between colons somewhere after `simulator-`. -/
theorem RunTag.takes_iff {runTag : RunTag} {source : String} : runTag.takes source = true ↔
    ∃ a b : List Char, source.toList =
      "simulator-".toList ++ (a ++ ':' :: (runTag.text.toList ++ ':' :: b)) := by
  have hcolons : (":" ++ runTag.text ++ ":").toList = ':' :: (runTag.text.toList ++ [':']) := by
    simp
  rw [takes_eq, Like.matchesTokens_iff]
  unfold runTokens
  rw [hcolons]
  refine (Like.form_text _).trans ?_
  constructor
  · rintro ⟨t, hs, ht⟩
    obtain ⟨a, u, rfl, hu⟩ := Like.form_any.mp ht
    obtain ⟨b, rfl, -⟩ := (Like.form_text _).mp hu
    exact ⟨a, b, by rw [hs]; simp only [List.cons_append, List.append_assoc, List.nil_append]⟩
  · rintro ⟨a, b, hs⟩
    refine ⟨a ++ (':' :: (runTag.text.toList ++ [':']) ++ b), ?_, ?_⟩
    · rw [hs]
      simp only [List.cons_append, List.append_assoc, List.nil_append]
    · refine .any _ ((Like.form_text _).mpr ⟨b, rfl, ?_⟩)
      have hany : Like.Form [.any] (b ++ []) := .any b .nil
      rwa [List.append_nil] at hany

/-- The source instance of a simulator: its label, the run tag and the host. -/
theorem effective_instanceLabel (c : SimulatorConfig) (hostname : String) :
    (c.effective hostname).instanceLabel.toList =
      c.instanceLabel.toList ++ ':' :: (c.runTag.toList ++ ':' :: hostname.toList) := by
  simp [SimulatorConfig.effective]

/-- A simulator whose label begins with `simulator-` is taken when it runs under the tag. -/
theorem RunTag.takes_effective {runTag : RunTag} {c : SimulatorConfig} {hostname : String}
    (hlabel : "simulator-".toList <+: c.instanceLabel.toList) (htag : c.runTag = runTag.text) :
    runTag.takes (c.effective hostname).instanceLabel = true := by
  obtain ⟨a, ha⟩ := hlabel
  refine takes_iff.mpr ⟨a, hostname.toList, ?_⟩
  rw [effective_instanceLabel, ← ha, htag, List.append_assoc]

/-- Where the label, the tag and the host have no colon, it is taken only then. -/
theorem RunTag.takes_effective_iff {runTag : RunTag} {c : SimulatorConfig} {hostname : String}
    (hlabel : ':' ∉ c.instanceLabel.toList) (htag : ':' ∉ c.runTag.toList)
    (hhost : ':' ∉ hostname.toList) : runTag.takes (c.effective hostname).instanceLabel = true ↔
      "simulator-".toList <+: c.instanceLabel.toList ∧ c.runTag = runTag.text := by
  constructor
  · intro h
    obtain ⟨a, b, hs⟩ := takes_iff.mp h
    rw [effective_instanceLabel, ← List.append_assoc] at hs
    have hrun : ':' ∉ runTag.text.toList := fun hc => (plain hc).2 rfl
    have hcolon : ':' ∉ "simulator-".toList := by decide
    -- both sides have two colons, so none is left for `a`
    have hcount := congrArg (List.count ':') hs
    simp only [List.count_append, List.count_cons_self, List.count_eq_zero.mpr hlabel,
      List.count_eq_zero.mpr htag, List.count_eq_zero.mpr hhost, List.count_eq_zero.mpr hrun,
      List.count_eq_zero.mpr hcolon] at hcount
    have ha : ':' ∉ "simulator-".toList ++ a := by
      rw [List.mem_append, not_or]
      exact ⟨hcolon, List.count_eq_zero.mp (by omega)⟩
    obtain ⟨hl, hrest⟩ := Sql.append_cons_unique hlabel ha hs
    obtain ⟨ht, -⟩ := Sql.append_cons_unique htag hrun hrest
    exact ⟨⟨a, hl.symm⟩, String.toList_inj.mp ht⟩
  · rintro ⟨hl, ht⟩
    exact takes_effective hl ht

/-! ## The transaction -/

/-- An event of another source refunds a sale of the run. -/
def RefundedFromOutside (runTag : RunTag) (t : Tables) : Prop :=
  ∃ e ∈ t.events, inRun runTag e = false ∧ e.eventType = .refund ∧
    ∃ s ∈ t.events, inRun runTag s = true ∧ s.eventType = .sale ∧
      e.originalEventId = some s.eventId

/-- What a cleanup is for: the events of the run are gone, the stores of the snapshot are as they
were then, and everything else is as it was. -/
structure Cleaned (runTag : RunTag) (rows : List SnapshotRow) (t t' : Tables) : Prop where
  events : t'.events = t.events.filter fun e => !inRun runTag e
  products : t'.products = t.products
  stores : List.Forall₂ (fun s s' =>
    (∀ row ∈ rows, row.id = s.id →
      s' = { s with lastSeenAt := row.lastSeenAt, updatedAt := row.updatedAt }) ∧
    ((∀ row ∈ rows, row.id ≠ s.id) → s' = s)) t.stores t'.stores

variable {runTag : RunTag} {rows : List SnapshotRow} {t t' : Tables} {casts : Casts}
  {snapshot : List SnapshotItem}

/-- A deletion of the run's events of one type. -/
theorem deleteEvents_eq (t : Tables) (runTag : RunTag) (eventType : EventType) :
    t.deleteEvents (sourcePattern runTag.text) eventType =
      if refers (t.events.filter fun e => !(inRun runTag e && e.eventType == eventType))
          (t.events.filter fun e => inRun runTag e && e.eventType == eventType) then
        .error (.violation .originalForeignKey)
      else .ok { t with
        events := t.events.filter fun e => !(inRun runTag e && e.eventType == eventType) } := by
  have hdoomed : doomed (runTokens runTag) eventType =
      fun e => inRun runTag e && e.eventType == eventType := by
    funext e
    rw [doomed, inRun, RunTag.takes_eq]
  rw [Tables.deleteEvents, parse_sourcePattern]
  simp only [hdoomed]

theorem refers_iff {kept gone : List PosEvent} : refers kept gone = true ↔
    ∃ e ∈ kept, ∃ d ∈ gone, e.originalEventId = some d.eventId := by
  simp [refers]

/-- Nothing has a refund as its original, so the refunds of the run can go. -/
theorem delete_refunds (h : t.Consistent) : t.deleteEvents (sourcePattern runTag.text) .refund =
    .ok { t with
      events := t.events.filter fun e => !(inRun runTag e && e.eventType == .refund) } := by
  rw [deleteEvents_eq, if_neg]
  rw [refers_iff]
  rintro ⟨e, he, d, hd, ho⟩
  have hem := (List.mem_filter.mp he).1
  obtain ⟨hdm, hdoomed⟩ := List.mem_filter.mp hd
  have hdtype : d.eventType = .refund := by simpa using (Bool.and_eq_true_iff.mp hdoomed).2
  cases htype : e.eventType with
  | sale =>
      rw [h.saleOriginal e hem htype] at ho
      cases ho
  | refund =>
      obtain ⟨s, hs, hsale, hso⟩ := h.refundOriginal e hem htype
      -- the key tells the sale the refund names from `d`
      have hkey : s.eventId = d.eventId := Option.some.inj (hso.symm.trans ho)
      have hsame : s = d := List.inj_on_of_nodup_map h.eventIds hs hdm hkey
      rw [hsame, hdtype] at hsale
      cases hsale

/-- The events the second deletion leaves, and those it deletes. -/
theorem filter_run (events : List PosEvent) :
    ((events.filter fun e => !(inRun runTag e && e.eventType == .refund)).filter
        fun e => !(inRun runTag e && e.eventType == .sale)) =
      events.filter (fun e => !inRun runTag e) ∧
    ((events.filter fun e => !(inRun runTag e && e.eventType == .refund)).filter
        fun e => inRun runTag e && e.eventType == .sale) =
      events.filter fun e => inRun runTag e && e.eventType == .sale := by
  rw [List.filter_filter, List.filter_filter]
  constructor
  · refine List.filter_congr fun e _ => ?_
    cases e.eventType <;> cases inRun runTag e <;> rfl
  · refine List.filter_congr fun e _ => ?_
    cases e.eventType <;> cases inRun runTag e <;> rfl

/-- The sales of the run can go unless an event that stays has one of them as its original. -/
theorem delete_sales (h : t.Consistent) :
    refers (t.events.filter fun e => !inRun runTag e)
      (t.events.filter fun e => inRun runTag e && e.eventType == .sale) = true ↔
    RefundedFromOutside runTag t := by
  rw [refers_iff]
  constructor
  · rintro ⟨e, he, d, hd, ho⟩
    obtain ⟨hem, hout⟩ := List.mem_filter.mp he
    obtain ⟨hdm, hdoomed⟩ := List.mem_filter.mp hd
    obtain ⟨hin, hsale⟩ := Bool.and_eq_true_iff.mp hdoomed
    refine ⟨e, hem, by simpa using hout, ?_, d, hdm, hin, by simpa using hsale, ho⟩
    cases htype : e.eventType with
    | refund => rfl
    | sale =>
        rw [h.saleOriginal e hem htype] at ho
        cases ho
  · rintro ⟨e, he, hout, _, d, hd, hin, hsale, ho⟩
    exact ⟨e, List.mem_filter.mpr ⟨he, by simp [hout]⟩, d,
      List.mem_filter.mpr ⟨hd, by simp [hin, hsale]⟩, ho⟩

/-- The tables after a cleanup that is not rolled back. -/
def cleanedTables (runTag : RunTag) (rows : List SnapshotRow) (t : Tables) : Tables where
  stores := t.stores.map (SnapshotRow.restore rows)
  products := t.products
  events := t.events.filter fun e => !inRun runTag e

/-- The transaction as a whole. -/
theorem transact_cleanup (h : t.Consistent) (hrows : snapshotRows casts snapshot = .ok rows) :
    (RefundedFromOutside runTag t ∧
      t.transact casts (cleanupStatements runTag.text snapshot) =
        (.error (.violation .originalForeignKey), t)) ∨
    (¬ RefundedFromOutside runTag t ∧
      t.transact casts (cleanupStatements runTag.text snapshot) =
        (.ok (), cleanedTables runTag rows t)) := by
  have hsales := @filter_run runTag t.events
  by_cases hout : RefundedFromOutside runTag t
  · refine Or.inl ⟨hout, ?_⟩
    have hfold : (cleanupStatements runTag.text snapshot).foldlM (Tables.exec casts) t =
        .error (.violation .originalForeignKey) := by
      simp only [cleanupStatements, List.foldlM_cons, Tables.exec, delete_refunds h,
        deleteEvents_eq, hsales.1, hsales.2, bind, Except.bind]
      rw [if_pos ((delete_sales h).mpr hout)]
    rw [Tables.transact, hfold]
  · refine Or.inr ⟨hout, ?_⟩
    have hfold : (cleanupStatements runTag.text snapshot).foldlM (Tables.exec casts) t =
        .ok (cleanedTables runTag rows t) := by
      simp only [cleanupStatements, List.foldlM_cons, List.foldlM_nil, Tables.exec,
        delete_refunds h, deleteEvents_eq, hsales.1, hsales.2, bind, Except.bind]
      rw [if_neg (by rwa [delete_sales h])]
      simp only [Tables.restoreStores, hrows, bind, Except.bind]
      rfl
    rw [Tables.transact, hfold]

/-- The id of a store is not restored. -/
@[simp] theorem restore_id (rows : List SnapshotRow) (s : StoreRow) :
    (SnapshotRow.restore rows s).id = s.id := by
  rw [SnapshotRow.restore]
  split <;> rfl

/-- A store of the snapshot gets the two columns of its row. -/
theorem restore_of_mem (hids : (rows.map SnapshotRow.id).Nodup) {row : SnapshotRow}
    (hrow : row ∈ rows) {s : StoreRow} (h : row.id = s.id) : SnapshotRow.restore rows s =
      { s with lastSeenAt := row.lastSeenAt, updatedAt := row.updatedAt } := by
  have hfind : (rows.find? fun r => r.id == s.id) = some row := by
    rw [← h]
    exact find?_of_nodup_map hids hrow
  rw [SnapshotRow.restore, hfind]

/-- A store that is not in the snapshot stays as it is. -/
theorem restore_of_notMem {s : StoreRow} (h : ∀ row ∈ rows, row.id ≠ s.id) :
    SnapshotRow.restore rows s = s := by
  have hfind : (rows.find? fun r => r.id == s.id) = none := by
    rw [List.find?_eq_none]
    intro row hrow
    simpa using h row hrow
  rw [SnapshotRow.restore, hfind]

theorem cleaned_cleanedTables (hids : (rows.map SnapshotRow.id).Nodup) :
    Cleaned runTag rows t (cleanedTables runTag rows t) where
  events := rfl
  products := rfl
  stores := by
    rw [cleanedTables, List.forall₂_map_right_iff, List.forall₂_same]
    exact fun s _ => ⟨fun row hrow h => restore_of_mem hids hrow h, restore_of_notMem⟩

/-- What an event that stays has as its original stays too, and is a sale. -/
theorem original_of_cleanedTables (h : t.Consistent) (hout : ¬ RefundedFromOutside runTag t)
    {e : PosEvent} (he : e ∈ (cleanedTables runTag rows t).events) {o : UUID}
    (ho : e.originalEventId = some o) : ∃ s ∈ (cleanedTables runTag rows t).events,
      s.eventType = .sale ∧ e.originalEventId = some s.eventId := by
  obtain ⟨hem, hkept⟩ := List.mem_filter.mp he
  cases htype : e.eventType with
  | sale =>
      rw [h.saleOriginal e hem htype] at ho
      cases ho
  | refund =>
      obtain ⟨s, hs, hsale, hso⟩ := h.refundOriginal e hem htype
      refine ⟨s, List.mem_filter.mpr ⟨hs, ?_⟩, hsale, hso⟩
      rw [Bool.not_eq_true']
      by_contra hin
      exact hout ⟨e, hem, by simpa using hkept, htype, s, hs, by simpa using hin, hsale, hso⟩

/-- A cleanup that is not rolled back keeps the keys. -/
theorem consistent_cleanedTables (h : t.Consistent) (hout : ¬ RefundedFromOutside runTag t) :
    (cleanedTables runTag rows t).Consistent where
  eventIds := h.eventIds.sublist (List.filter_sublist.map _)
  storeForeignKey := by
    intro e he
    obtain ⟨s, hs, hid⟩ := h.storeForeignKey e (List.mem_filter.mp he).1
    exact ⟨_, List.mem_map_of_mem hs, (restore_id rows s).trans hid⟩
  productForeignKey := fun e he => h.productForeignKey e (List.mem_filter.mp he).1
  originalForeignKey := by
    intro e he o ho
    obtain ⟨s, hs, _, hso⟩ := original_of_cleanedTables h hout he ho
    exact ⟨s, hs, Option.some.inj (hso.symm.trans ho)⟩
  saleOriginal := fun e he => h.saleOriginal e (List.mem_filter.mp he).1
  refundOriginal := by
    intro e he htype
    obtain ⟨s, _, _, ho⟩ := h.refundOriginal e (List.mem_filter.mp he).1 htype
    exact original_of_cleanedTables h hout he ho

/-! ## The queries afterwards -/

/-- No event of the run is counted. -/
theorem remaining_cleanedTables :
    (cleanedTables runTag rows t).remaining (sourcePattern runTag.text) = .ok 0 := by
  rw [Tables.remaining, parse_sourcePattern]
  refine congrArg Except.ok (List.countP_eq_zero.mpr fun e he => ?_)
  have hout := (List.mem_filter.mp he).2
  rw [inRun, RunTag.takes_eq, Bool.not_eq_true'] at hout
  simp [hout]

/-- A row of the snapshot is counted exactly when its store is gone. -/
theorem mismatchesOf_cleanedTables (hids : (rows.map SnapshotRow.id).Nodup) {row : SnapshotRow}
    (hrow : row ∈ rows) : (cleanedTables runTag rows t).mismatchesOf row = 0 ↔
      ∃ s ∈ t.stores, s.id = row.id := by
  have hjoined : ∀ s' ∈ ((cleanedTables runTag rows t).stores.filter fun s => s.id == row.id),
      ∃ s ∈ t.stores, s.id = row.id ∧ s'.lastSeenAt = row.lastSeenAt ∧
        s'.updatedAt = row.updatedAt := by
    intro s' hs'
    obtain ⟨hm, hid⟩ := List.mem_filter.mp hs'
    obtain ⟨s, hs, rfl⟩ := List.mem_map.mp hm
    rw [restore_id, beq_iff_eq] at hid
    rw [restore_of_mem hids hrow hid.symm]
    exact ⟨s, hs, hid, rfl, rfl⟩
  rw [Tables.mismatchesOf]
  split
  case h_1 hnone =>
    refine iff_of_false Nat.one_ne_zero ?_
    rintro ⟨s, hs, hid⟩
    have hmem : SnapshotRow.restore rows s ∈
        ((cleanedTables runTag rows t).stores.filter fun s => s.id == row.id) :=
      List.mem_filter.mpr ⟨List.mem_map_of_mem hs, by simp [hid]⟩
    rw [hnone] at hmem
    cases hmem
  case h_2 hne =>
    refine iff_of_true (List.countP_eq_zero.mpr fun s' hs' => ?_) ?_
    · obtain ⟨_, _, _, hseen, hupdated⟩ := hjoined s' hs'
      simp [hseen, hupdated]
    · obtain ⟨s', hs'⟩ := List.exists_mem_of_ne_nil _ hne
      obtain ⟨s, hs, hid, -⟩ := hjoined s' hs'
      exact ⟨s, hs, hid⟩

theorem snapshotMismatches_cleanedTables (hids : (rows.map SnapshotRow.id).Nodup)
    (hrows : snapshotRows casts snapshot = .ok rows) :
    (cleanedTables runTag rows t).snapshotMismatches casts snapshot = .ok 0 ↔
      ∀ row ∈ rows, ∃ s ∈ t.stores, s.id = row.id := by
  rw [Tables.snapshotMismatches, hrows]
  show Except.ok _ = Except.ok _ ↔ _
  rw [Except.ok.injEq, List.sum_eq_zero_iff]
  constructor
  · intro h row hrow
    exact (mismatchesOf_cleanedTables hids hrow).mp (h _ (List.mem_map_of_mem hrow))
  · intro h n hn
    obtain ⟨row, hrow, rfl⟩ := List.mem_map.mp hn
    exact (mismatchesOf_cleanedTables hids hrow).mpr (h row hrow)

/-- The cleanup transaction is rolled back exactly when an event of another source refunds a
sale of the run.  Otherwise it deletes the events of the run and restores the stores, and the
two queries confirm it.  The events of the run are those of the simulators that run under its
tag. -/
theorem cleanup_removes_the_run :
    (∀ (casts : Casts) (runTag : RunTag) (snapshot : List SnapshotItem) (rows : List SnapshotRow)
      (t : Tables), t.Consistent → snapshotRows casts snapshot = .ok rows →
      (rows.map SnapshotRow.id).Nodup →
      ∃ outcome t', t.transact casts (cleanupStatements runTag.text snapshot) = (outcome, t') ∧
        ((∃ error, outcome = .error error) ↔ RefundedFromOutside runTag t) ∧
        ((∃ error, outcome = .error error) → t' = t) ∧
        (outcome = .ok () → Cleaned runTag rows t t' ∧
          t'.remaining (sourcePattern runTag.text) = .ok 0 ∧
          (t'.snapshotMismatches casts snapshot = .ok 0 ↔
            ∀ row ∈ rows, ∃ s ∈ t.stores, s.id = row.id))) ∧
    (∀ (runTag : RunTag) (c : SimulatorConfig) (hostname : String),
      ("simulator-".toList <+: c.instanceLabel.toList → c.runTag = runTag.text →
        runTag.takes (c.effective hostname).instanceLabel = true) ∧
      (':' ∉ c.instanceLabel.toList → ':' ∉ c.runTag.toList → ':' ∉ hostname.toList →
        (runTag.takes (c.effective hostname).instanceLabel = true ↔
          "simulator-".toList <+: c.instanceLabel.toList ∧ c.runTag = runTag.text))) := by
  refine ⟨fun casts runTag snapshot rows t ht hrows hids => ?_, fun runTag c hostname =>
    ⟨RunTag.takes_effective, RunTag.takes_effective_iff⟩⟩
  rcases transact_cleanup ht hrows with ⟨hout, htransact⟩ | ⟨hout, htransact⟩
  · refine ⟨_, _, htransact, iff_of_true ⟨_, rfl⟩ hout, fun _ => rfl, nofun⟩
  · refine ⟨_, _, htransact, iff_of_false nofun hout, nofun, fun _ => ?_⟩
    exact ⟨cleaned_cleanedTables hids, remaining_cleanedTables,
      snapshotMismatches_cleanedTables hids hrows⟩

/-- A run of two events, beside a sale of a simulator that runs on. -/
theorem cleanup_removes_the_run_of_two :
    let casts : Casts :=
      { uuid := fun s => if s = "00000000-0000-0000-0000-000000000001" then some 1 else none
        timestamptz := fun s =>
          if s = "2026-09-09T00:00:00+00:00" then some 63924508800000000 else none }
    let runTag : RunTag := ⟨"0a1b", by decide⟩
    let snapshot : List SnapshotItem :=
      [⟨"00000000-0000-0000-0000-000000000001", "MAD-MADRID", none, "2026-09-09T00:00:00+00:00"⟩]
    let store : StoreRow :=
      ⟨1, "Madrid", "MAD-MADRID", "Europe/Madrid", 0, "A", "a@example.com", true, some 7, 1, 8⟩
    let event (id : UUID) (eventType : EventType) (original : Option UUID) (source : String) :
        PosEvent :=
      { eventId := id, storeId := 1, productId := 5, eventType := eventType, quantity := 1,
        amountCents := 100, occurredAt := 6, originalEventId := original, sourceInstance := source,
        metadataJson := none, note := none, receivedAt := 7 }
    let tables : Tables :=
      ⟨[store], [⟨5, "SKU", "Product", none, 1⟩],
        [event 10 .sale none "simulator-madrid:verify-0a1b:h",
          event 11 .refund (some 10) "simulator-madrid:verify-0a1b:h",
          event 12 .sale none "simulator-madrid:demo:h"]⟩
    (∃ t', tables.transact casts (cleanupStatements runTag.text snapshot) = (.ok (), t') ∧
      t'.events.map (fun e => e.eventId) = [12] ∧
      t'.stores = [{ store with lastSeenAt := none, updatedAt := 63924508800000000 }] ∧
      t'.snapshotMismatches casts snapshot = .ok 0) ∧
    ∀ c : SimulatorConfig, c.instanceLabel = "simulator-madrid" → c.runTag = "demo" →
      runTag.takes (c.effective "h").instanceLabel = false := by
  intro casts runTag snapshot store event tables
  obtain ⟨hcleanup, hlabel⟩ := cleanup_removes_the_run
  have hconsistent : tables.Consistent :=
    { eventIds := by decide
      storeForeignKey := by simp [tables, event, store]
      productForeignKey := by simp [tables, event]
      originalForeignKey := by simp [tables, event]
      saleOriginal := by simp [tables, event]
      refundOriginal := by simp [tables, event] }
  have htaken : runTag.takes "simulator-madrid:verify-0a1b:h" = true := by decide +kernel
  have hother : runTag.takes "simulator-madrid:demo:h" = false := by decide +kernel
  have hinside : ¬ RefundedFromOutside runTag tables := by
    simp [RefundedFromOutside, tables, event, inRun, htaken, hother]
  obtain ⟨outcome, t', htransact, herror, -, hok⟩ := hcleanup casts runTag snapshot
    [⟨1, none, 63924508800000000⟩] tables hconsistent (by decide +kernel) (by decide)
  cases outcome with
  | error e => exact absurd (herror.mp ⟨e, rfl⟩) hinside
  | ok u =>
      obtain ⟨hcleaned, -, hmismatches⟩ := hok rfl
      refine ⟨⟨t', htransact, ?_, ?_, ?_⟩, fun c hl ht => ?_⟩
      · rw [hcleaned.events]
        simp [tables, event, inRun, htaken, hother]
      · obtain ⟨s', rest, ⟨hrestored, -⟩, hrest, he⟩ :=
          List.forall₂_cons_left_iff.mp hcleaned.stores
        rw [he, List.forall₂_nil_left_iff.mp hrest, hrestored _ List.mem_cons_self rfl]
      · exact hmismatches.mpr (by simp [tables, store])
      · have hiff := (hlabel runTag c "h").2 (by rw [hl]; decide) (by rw [ht]; decide) (by decide)
        rw [Bool.eq_false_iff, Ne, hiff, ht]
        exact fun h => absurd h.2 (by decide)

end StorePulse
