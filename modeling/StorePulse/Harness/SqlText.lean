import StorePulse.Backend.Models
import StorePulse.Foundation.SqlLiterals

/-!
# The SQL of the smoke harness

`scripts/verify_simulator_smoke.py` puts its statements together as text.  Three
kinds of value go into them, each through `sql_literal`: patterns made of the run
tag, event ids, and the store snapshot as JSON.  The builders are here as the
source has them, after the `.strip()` that takes the first and the last newline
off each.

`BuiltSql` lists what the harness can build, and `BuiltSql.parts` says how each
text is meant to be read.  `sqlLiteral_delimits` says that it is read so.
-/

namespace StorePulse

/-! ## Literals -/

/-- `s.replace(old, new)`, for one character. -/
def pyReplaceChar (old : Char) (new s : String) : String :=
  String.ofList (s.toList.flatMap fun c => if c = old then new.toList else [c])

/-- `sql_literal`. -/
def sqlLiteral (value : String) : String := "'" ++ pyReplaceChar '\'' "''" value ++ "'"

/-- `source_pattern`. -/
def sourcePattern (runTag : String) : String := "simulator-%:" ++ runTag ++ ":%"

/-! ## The snapshot as JSON -/

/-- An item of the snapshot, with the texts `build_snapshot_sql` gives. -/
structure SnapshotItem where
  id : String
  code : String
  lastSeenAt : Option String
  updatedAt : String

/-- A digit of `json.dumps`. -/
def hexDigit (n : Nat) : Char := "0123456789abcdef".toList.getD (n % 16) '0'

/-- `'\\u{0:04x}'.format(n)`. -/
def jsonUnicode (n : Nat) : List Char :=
  ['\\', 'u', hexDigit (n / 4096), hexDigit (n / 256), hexDigit (n / 16), hexDigit n]

/-- The characters with an escape of their own (`ESCAPE_DCT`). -/
def escapeDict : List (Char × Char) :=
  [('\\', '\\'), ('"', '"'), ('\x08', 'b'), ('\x0c', 'f'), ('\n', 'n'), ('\r', 'r'), ('\t', 't')]

/-- A character in a JSON string with `ensure_ascii`: beyond U+FFFF a surrogate pair. -/
def jsonEscape (c : Char) : List Char :=
  match escapeDict.find? fun entry => entry.1 == c with
  | some entry => ['\\', entry.2]
  | none =>
      if 32 ≤ c.toNat ∧ c.toNat ≤ 126 then [c]
      else if c.toNat < 0x10000 then jsonUnicode c.toNat
      else jsonUnicode (0xD800 + (c.toNat - 0x10000) / 1024) ++
        jsonUnicode (0xDC00 + (c.toNat - 0x10000) % 1024)

/-- A JSON string. -/
def jsonString (s : String) : List Char := '"' :: (s.toList.flatMap jsonEscape ++ ['"'])

/-- A JSON string, or `null`. -/
def jsonString? : Option String → List Char
  | none => "null".toList
  | some s => jsonString s

/-- An item of the snapshot in JSON. -/
def SnapshotItem.json (item : SnapshotItem) : List Char :=
  "\x7b\"id\":".toList ++ jsonString item.id ++ ",\"code\":".toList ++ jsonString item.code ++
  ",\"last_seen_at\":".toList ++ jsonString? item.lastSeenAt ++
  ",\"updated_at\":".toList ++ jsonString item.updatedAt ++ "\x7d".toList

/-- `json.dumps(snapshot, separators=(",", ":"), ensure_ascii=True)`. -/
def snapshotJson (snapshot : List SnapshotItem) : String :=
  String.ofList ('[' :: (List.intercalate [','] (snapshot.map SnapshotItem.json) ++ [']']))

/-! ## Builders -/

/-- `build_snapshot_sql`. -/
def buildSnapshotSql : String :=
  "SELECT COALESCE(\n  json_agg(\n    json_build_object(\n      'id', id::text,\n" ++
  "      'code', code,\n      'last_seen_at', last_seen_at,\n      'updated_at', updated_at\n" ++
  "    )\n    ORDER BY code\n  ),\n  '[]'::json\n)::text\nFROM stores;"

/-- `build_restore_sql`. -/
def buildRestoreSql (snapshot : List SnapshotItem) : String :=
  "WITH snapshot AS (\n  SELECT *\n  FROM json_to_recordset(" ++
  sqlLiteral (snapshotJson snapshot) ++ "::json)\n" ++
  "    AS x(id uuid, code text, last_seen_at timestamptz, updated_at timestamptz)\n)\n" ++
  "UPDATE stores AS s\nSET last_seen_at = snapshot.last_seen_at,\n" ++
  "    updated_at = snapshot.updated_at\nFROM snapshot\nWHERE s.id = snapshot.id;"

/-- `build_snapshot_mismatch_sql`. -/
def buildSnapshotMismatchSql (snapshot : List SnapshotItem) : String :=
  "WITH snapshot AS (\n  SELECT *\n  FROM json_to_recordset(" ++
  sqlLiteral (snapshotJson snapshot) ++ "::json)\n" ++
  "    AS x(id uuid, code text, last_seen_at timestamptz, updated_at timestamptz)\n)\n" ++
  "SELECT count(*)\nFROM snapshot\nLEFT JOIN stores AS s ON s.id = snapshot.id\n" ++
  "WHERE s.id IS NULL\n   OR s.last_seen_at IS DISTINCT FROM snapshot.last_seen_at\n" ++
  "   OR s.updated_at IS DISTINCT FROM snapshot.updated_at;"

/-- `build_metrics_sql`. -/
def buildMetricsSql (runTag : String) : String :=
  "SELECT\n  count(DISTINCT store_id),\n  count(*) FILTER (WHERE event_type = 'SALE'),\n" ++
  "  count(*) FILTER (WHERE event_type = 'REFUND'),\n" ++
  "  count(*) FILTER (WHERE occurred_at < received_at - interval '1 second')\n" ++
  "FROM pos_events\nWHERE source_instance LIKE " ++ sqlLiteral (sourcePattern runTag) ++ ";"

/-- `build_duplicate_count_sql`. -/
def buildDuplicateCountSql (runTag eventId : String) : String :=
  "SELECT count(*)\nFROM pos_events\nWHERE event_id = " ++ sqlLiteral eventId ++
  "::uuid\n  AND source_instance LIKE " ++ sqlLiteral (sourcePattern runTag) ++ ";"

/-- The text of `build_delete_sql`. -/
def deleteSql (runTag eventType : String) : String :=
  "DELETE FROM pos_events\nWHERE source_instance LIKE " ++ sqlLiteral (sourcePattern runTag) ++
  "\n  AND event_type = " ++ sqlLiteral eventType ++ ";"

/-- `build_delete_sql`, which raises `ValueError` for any other type of event. -/
def buildDeleteSql (runTag eventType : String) : Except String String :=
  if eventType ∉ ["SALE", "REFUND"] then
    .error ("Unsupported event type for cleanup: " ++ eventType)
  else .ok (deleteSql runTag eventType)

/-- `build_cleanup_transaction_sql`. -/
def buildCleanupTransactionSql (runTag : String) (snapshot : List SnapshotItem) :
    Except String String := do
  let refundDelete ← buildDeleteSql runTag "REFUND"
  let saleDelete ← buildDeleteSql runTag "SALE"
  return "\n".intercalate
    ["BEGIN;", refundDelete, saleDelete, buildRestoreSql snapshot, "COMMIT;"]

/-- `build_remaining_sql`. -/
def buildRemainingSql (runTag : String) : String :=
  "SELECT count(*) FROM pos_events WHERE source_instance LIKE " ++
  sqlLiteral (sourcePattern runTag) ++ ";"

/-- The text of `event_type`. -/
def EventType.text : EventType → String
  | .sale => "SALE"
  | .refund => "REFUND"

theorem buildDeleteSql_eq (runTag : String) (eventType : EventType) :
    buildDeleteSql runTag eventType.text = .ok (deleteSql runTag eventType.text) := by
  cases eventType <;> rfl

theorem buildCleanupTransactionSql_eq (runTag : String) (snapshot : List SnapshotItem) :
    buildCleanupTransactionSql runTag snapshot = .ok ("\n".intercalate
      ["BEGIN;", deleteSql runTag "REFUND", deleteSql runTag "SALE", buildRestoreSql snapshot,
        "COMMIT;"]) := rfl

/-! ## What a text is made of -/

/-- A text the harness builds. -/
inductive BuiltSql where
  | snapshot
  | restore (snapshot : List SnapshotItem)
  | snapshotMismatch (snapshot : List SnapshotItem)
  | metrics (runTag : String)
  | duplicateCount (runTag eventId : String)
  | delete (runTag : String) (eventType : EventType)
  | cleanupTransaction (runTag : String) (snapshot : List SnapshotItem)
  | remaining (runTag : String)

namespace BuiltSql

/-- The builder's text. -/
def text : BuiltSql → Except String String
  | .snapshot => .ok buildSnapshotSql
  | .restore items => .ok (buildRestoreSql items)
  | .snapshotMismatch items => .ok (buildSnapshotMismatchSql items)
  | .metrics runTag => .ok (buildMetricsSql runTag)
  | .duplicateCount runTag eventId => .ok (buildDuplicateCountSql runTag eventId)
  | .delete runTag eventType => buildDeleteSql runTag eventType.text
  | .cleanupTransaction runTag items => buildCleanupTransactionSql runTag items
  | .remaining runTag => .ok (buildRemainingSql runTag)

/-- The code before the JSON of a snapshot. -/
def recordsetCode : String := "WITH snapshot AS (\n  SELECT *\n  FROM json_to_recordset("

/-- The code after it in a restore. -/
def restoreCode : String :=
  "::json)\n" ++
  "    AS x(id uuid, code text, last_seen_at timestamptz, updated_at timestamptz)\n)\n" ++
  "UPDATE stores AS s\nSET last_seen_at = snapshot.last_seen_at,\n" ++
  "    updated_at = snapshot.updated_at\nFROM snapshot\nWHERE s.id = snapshot.id;"

/-- The code after it in a comparison. -/
def mismatchCode : String :=
  "::json)\n" ++
  "    AS x(id uuid, code text, last_seen_at timestamptz, updated_at timestamptz)\n)\n" ++
  "SELECT count(*)\nFROM snapshot\nLEFT JOIN stores AS s ON s.id = snapshot.id\n" ++
  "WHERE s.id IS NULL\n   OR s.last_seen_at IS DISTINCT FROM snapshot.last_seen_at\n" ++
  "   OR s.updated_at IS DISTINCT FROM snapshot.updated_at;"

/-- The code before the pattern of a deletion. -/
def deleteCode : String := "DELETE FROM pos_events\nWHERE source_instance LIKE "

/-- The first code of a text, and its literals, each with the code after it. -/
def parts : BuiltSql → String × List (String × String)
  | .snapshot =>
      ("SELECT COALESCE(\n  json_agg(\n    json_build_object(\n      ",
        [("id", ", id::text,\n      "), ("code", ", code,\n      "),
          ("last_seen_at", ", last_seen_at,\n      "),
          ("updated_at", ", updated_at\n    )\n    ORDER BY code\n  ),\n  "),
          ("[]", "::json\n)::text\nFROM stores;")])
  | .restore items => (recordsetCode, [(snapshotJson items, restoreCode)])
  | .snapshotMismatch items => (recordsetCode, [(snapshotJson items, mismatchCode)])
  | .metrics runTag =>
      ("SELECT\n  count(DISTINCT store_id),\n  count(*) FILTER (WHERE event_type = ",
        [("SALE", "),\n  count(*) FILTER (WHERE event_type = "),
          ("REFUND", "),\n  count(*) FILTER (WHERE occurred_at < received_at - interval "),
          ("1 second", ")\nFROM pos_events\nWHERE source_instance LIKE "),
          (sourcePattern runTag, ";")])
  | .duplicateCount runTag eventId =>
      ("SELECT count(*)\nFROM pos_events\nWHERE event_id = ",
        [(eventId, "::uuid\n  AND source_instance LIKE "), (sourcePattern runTag, ";")])
  | .delete runTag eventType =>
      (deleteCode, [(sourcePattern runTag, "\n  AND event_type = "), (eventType.text, ";")])
  | .cleanupTransaction runTag items =>
      ("BEGIN;" ++ "\n" ++ deleteCode,
        [(sourcePattern runTag, "\n  AND event_type = "), ("REFUND", ";" ++ "\n" ++ deleteCode),
          (sourcePattern runTag, "\n  AND event_type = "), ("SALE", ";" ++ "\n" ++ recordsetCode),
          (snapshotJson items, restoreCode ++ "\n" ++ "COMMIT;")])
  | .remaining runTag =>
      ("SELECT count(*) FROM pos_events WHERE source_instance LIKE ",
        [(sourcePattern runTag, ";")])

/-- The run tag and the event id in a text can be passed to `psql`. -/
def nulFree : BuiltSql → Bool
  | .metrics runTag | .delete runTag _ | .cleanupTransaction runTag _ | .remaining runTag =>
      noNul runTag
  | .duplicateCount runTag eventId => noNul runTag && noNul eventId
  | .snapshot | .restore _ | .snapshotMismatch _ => true

end BuiltSql

/-- Some code and some values, put together as the builders do it. -/
def assembleText (code : String) : List (String × String) → String
  | [] => code
  | (value, next) :: tail => code ++ (sqlLiteral value ++ assembleText next tail)

theorem buildSnapshotSql_eq : buildSnapshotSql =
    assembleText BuiltSql.snapshot.parts.1 BuiltSql.snapshot.parts.2 := by
  decide +kernel

/-- The part of the metrics that does not depend on the run. -/
theorem metricsCode_eq :
    "SELECT\n  count(DISTINCT store_id),\n  count(*) FILTER (WHERE event_type = 'SALE'),\n" ++
    "  count(*) FILTER (WHERE event_type = 'REFUND'),\n" ++
    "  count(*) FILTER (WHERE occurred_at < received_at - interval '1 second')\n" ++
    "FROM pos_events\nWHERE source_instance LIKE " =
    assembleText "SELECT\n  count(DISTINCT store_id),\n  count(*) FILTER (WHERE event_type = "
      [("SALE", "),\n  count(*) FILTER (WHERE event_type = "),
        ("REFUND", "),\n  count(*) FILTER (WHERE occurred_at < received_at - interval "),
        ("1 second", ")\nFROM pos_events\nWHERE source_instance LIKE ")] := by
  decide +kernel

/-- Every text is its parts, put together. -/
theorem BuiltSql.text_eq (b : BuiltSql) : b.text = .ok (assembleText b.parts.1 b.parts.2) := by
  cases b with
  | snapshot => exact congrArg Except.ok buildSnapshotSql_eq
  | restore items =>
      simp only [text, parts, assembleText]
      unfold buildRestoreSql recordsetCode restoreCode
      simp only [String.append_assoc]
  | snapshotMismatch items =>
      simp only [text, parts, assembleText]
      unfold buildSnapshotMismatchSql recordsetCode mismatchCode
      simp only [String.append_assoc]
  | metrics runTag =>
      simp only [text, parts, assembleText]
      unfold buildMetricsSql
      rw [metricsCode_eq]
      simp only [assembleText, String.append_assoc]
  | duplicateCount runTag eventId =>
      simp only [text, parts, assembleText]
      unfold buildDuplicateCountSql
      simp only [String.append_assoc]
  | delete runTag eventType =>
      simp only [text, buildDeleteSql_eq, parts, assembleText]
      unfold deleteSql deleteCode
      simp only [String.append_assoc]
  | cleanupTransaction runTag items =>
      simp only [text, buildCleanupTransactionSql_eq, parts, assembleText,
        String.intercalate_cons_cons, String.intercalate_singleton]
      unfold deleteSql buildRestoreSql deleteCode recordsetCode restoreCode
      simp only [String.append_assoc]
  | remaining runTag =>
      simp only [text, parts, assembleText]
      unfold buildRemainingSql
      simp only [String.append_assoc]

/-! ## No value ends its literal early -/

theorem sqlLiteral_toList (value : String) :
    (sqlLiteral value).toList = Sql.encode value.toList := by
  have hdouble : ∀ cs : List Char,
      (cs.flatMap fun c => if c = Sql.quote then "''".toList else [c]) = Sql.double cs := by
    intro cs
    induction cs with
    | nil => rfl
    | cons c cs ih =>
        rw [List.flatMap_cons, ih, Sql.double]
        by_cases hc : c = Sql.quote
        · rw [if_pos hc, if_pos hc]
          rfl
        · rw [if_neg hc, if_neg hc]
          rfl
  rw [sqlLiteral, String.toList_append, String.toList_append, pyReplaceChar, String.toList_ofList,
    show '\'' = Sql.quote from rfl, hdouble]
  simp [Sql.encode, Sql.quote]

theorem noNul_iff {s : String} : noNul s = true ↔ '\x00' ∉ s.toList := by
  rw [noNul, List.all_eq_true]
  constructor
  · intro h hm
    exact absurd (h _ hm) (by decide)
  · intro h c hc
    rw [bne_iff_ne]
    intro hzero
    have hnul : c = '\x00' := by
      rw [← Char.ofNat_toNat c, hzero]
    exact h (hnul ▸ hc)

theorem assembleText_toList (code : String) (tail : List (String × String)) :
    (assembleText code tail).toList =
      Sql.assemble code.toList (tail.map fun part => (part.1.toList, part.2.toList)) := by
  induction tail generalizing code with
  | nil => rfl
  | cons part tail ih =>
      rw [assembleText, String.toList_append, String.toList_append, sqlLiteral_toList, ih]
      rfl

/-- JSON with `ensure_ascii` has no control characters. -/
theorem nul_notMem_jsonEscape (c : Char) : '\x00' ∉ jsonEscape c := by
  have hdigit : ∀ n, '\x00' ≠ hexDigit n := by
    intro n
    have hall : ∀ i : Fin 16, '\x00' ≠ "0123456789abcdef".toList.getD i '0' := by decide
    exact hall ⟨n % 16, Nat.mod_lt n (by decide)⟩
  have hunicode : ∀ n, '\x00' ∉ jsonUnicode n := by
    intro n
    simp [jsonUnicode, hdigit]
  rw [jsonEscape]
  split
  case h_1 entry hentry =>
    have hdict : ∀ e ∈ escapeDict, '\x00' ∉ ['\\', e.2] := by decide
    exact hdict entry (List.mem_of_find?_eq_some hentry)
  case h_2 =>
    split_ifs with hprintable
    · rw [List.mem_singleton]
      rintro rfl
      exact absurd hprintable.1 (by decide)
    · exact hunicode _
    · rw [List.mem_append, not_or]
      exact ⟨hunicode _, hunicode _⟩

theorem nul_notMem_jsonString (s : String) : '\x00' ∉ jsonString s := by
  simp [jsonString, nul_notMem_jsonEscape]

theorem nul_notMem_json (item : SnapshotItem) : '\x00' ∉ item.json := by
  have hseen : '\x00' ∉ jsonString? item.lastSeenAt := by
    cases item.lastSeenAt with
    | none => decide
    | some s => exact nul_notMem_jsonString s
  unfold SnapshotItem.json
  simp only [List.mem_append, not_or]
  exact ⟨⟨⟨⟨⟨⟨⟨⟨by decide, nul_notMem_jsonString _⟩, by decide⟩, nul_notMem_jsonString _⟩,
    by decide⟩, hseen⟩, by decide⟩, nul_notMem_jsonString _⟩, by decide⟩

theorem nul_notMem_snapshotJson (snapshot : List SnapshotItem) :
    '\x00' ∉ (snapshotJson snapshot).toList := by
  have hitems : '\x00' ∉ List.intercalate [','] (snapshot.map SnapshotItem.json) := by
    induction snapshot with
    | nil => exact List.not_mem_nil
    | cons item items ih =>
        cases items with
        | nil => simpa using nul_notMem_json item
        | cons next items =>
            rw [List.map_cons, List.map_cons, List.intercalate_cons_cons, ← List.map_cons]
            simp only [List.mem_append, not_or]
            exact ⟨⟨nul_notMem_json item, by decide⟩, ih⟩
  simp [snapshotJson, hitems]

theorem nul_notMem_sourcePattern {runTag : String} (h : noNul runTag = true) :
    '\x00' ∉ (sourcePattern runTag).toList := by
  rw [noNul_iff] at h
  simp [sourcePattern, h]

namespace BuiltSql

/-- The first code of a text, as characters. -/
def code (b : BuiltSql) : List Char := b.parts.1.toList

/-- The literals of a text and the code after each, as characters. -/
def literals (b : BuiltSql) : List (List Char × List Char) :=
  b.parts.2.map fun part => (part.1.toList, part.2.toList)

/-- The code of every text is such that no value can run into it. -/
theorem codesFit (b : BuiltSql) : Sql.codesFit b.code (b.literals.map Prod.snd) = true := by
  -- the values do not occur in the code, so every case is a closed statement about characters
  cases b <;>
    simp only [code, literals, parts, recordsetCode, restoreCode, mismatchCode, deleteCode,
      List.map_cons, List.map_nil, String.toList_append, String.reduceToList] <;>
    decide +kernel

/-- No value holds the character U+0000. -/
theorem nul_notMem_literals {b : BuiltSql} (h : b.nulFree = true) :
    ∀ part ∈ b.literals, '\x00' ∉ part.1 := by
  cases b with
  | snapshot => decide
  | restore items | snapshotMismatch items =>
      simpa [literals, parts] using nul_notMem_snapshotJson items
  | metrics runTag => 
      simpa [literals, parts] using nul_notMem_sourcePattern h
  | duplicateCount runTag eventId =>
      obtain ⟨htag, hevent⟩ := Bool.and_eq_true_iff.mp h
      simpa [literals, parts] using ⟨noNul_iff.mp hevent, nul_notMem_sourcePattern htag⟩
  | delete runTag eventType =>
      have htype : '\x00' ∉ eventType.text.toList := by cases eventType <;> decide
      simpa [literals, parts] using ⟨nul_notMem_sourcePattern h, htype⟩
  | cleanupTransaction runTag items =>
      simpa [literals, parts] using ⟨nul_notMem_sourcePattern h, nul_notMem_snapshotJson items⟩
  | remaining runTag => simpa [literals, parts] using nul_notMem_sourcePattern h

/-- Every text is read as its parts, and in no other way. -/
theorem lexes {b : BuiltSql} {s : String} (comments : Bool) (hs : b.text = .ok s)
    (h : b.nulFree = true) (code : List Char) (literals : List (List Char × List Char)) :
    Sql.Lexes comments s.toList code literals ↔ code = b.code ∧ literals = b.literals := by
  rw [text_eq] at hs
  cases hs
  rw [assembleText_toList]
  have hlexes : Sql.Lexes comments (Sql.assemble b.code b.literals) b.code b.literals :=
    Sql.lexes_assemble b.codesFit (nul_notMem_literals h)
  constructor
  · intro hother
    exact hother.unique hlexes
  · rintro ⟨rfl, rfl⟩
    exact hlexes

end BuiltSql

/-- A literal holds exactly the value it was made from.  Whatever follows it, unless that is
text that continues a literal, is left, so the values in a text of the harness do not touch
what the text says around them. -/
theorem sqlLiteral_delimits :
    (∀ (comments : Bool) (s r : String), noNul s = true → ¬ Sql.Continues comments r.toList →
      Sql.readLiteral comments (sqlLiteral s ++ r).toList = some (s.toList, r.toList)) ∧
    (∀ s t : String, sqlLiteral s = sqlLiteral t → s = t) ∧
    ∀ (comments : Bool) (b : BuiltSql) (text : String), b.text = .ok text → b.nulFree = true →
      ∀ code literals, Sql.Lexes comments text.toList code literals ↔
        code = b.code ∧ literals = b.literals := by
  refine ⟨fun comments s r hs hr => ?_, fun s t h => ?_, fun comments b text ht hb => ?_⟩
  · rw [String.toList_append, sqlLiteral_toList]
    exact Sql.readLiteral_encode (noNul_iff.mp hs) hr
  · have hencode := congrArg String.toList h
    rw [sqlLiteral_toList, sqlLiteral_toList] at hencode
    exact String.toList_inj.mp (Sql.encode_injective hencode)
  · exact BuiltSql.lexes comments ht hb

/-- A tag that tries to end its literal is read as a tag. -/
theorem sqlLiteral_delimits_injection :
    Sql.readLiteral true (sqlLiteral "x'; DROP TABLE stores; --" ++ "::uuid").toList =
        some ("x'; DROP TABLE stores; --".toList, "::uuid".toList) ∧
      sqlLiteral "'" ≠ sqlLiteral "''" ∧
      ∀ code literals, Sql.Lexes true (buildRemainingSql "x' OR '1").toList code literals ↔
        code = (BuiltSql.remaining "x' OR '1").code ∧
          literals = (BuiltSql.remaining "x' OR '1").literals := by
  obtain ⟨hread, hinjective, hlexes⟩ := sqlLiteral_delimits
  refine ⟨hread true _ "::uuid" (by decide) ?_, ?_, ?_⟩
  · have hends : ¬ Sql.Continues true ("::uuid".toList ++ []) :=
      Sql.not_continues_of_interrupts (by decide)
    rwa [List.append_nil] at hends
  · exact fun h => absurd (hinjective _ _ h) (by decide)
  · exact hlexes true (.remaining "x' OR '1") _ rfl (by decide)

end StorePulse
