import StorePulse.Harness.Isolation
import StorePulse.Harness.JsonText

/-!
# The snapshot from the stores and back to them

The harness asks for the connectivity of the stores as JSON, reads it with
`json.loads`, and writes it with `json.dumps` into the statements that put it back.
There PostgreSQL reads the SQL literal and then the JSON in it.  What comes out
is what was asked for (`snapshot_restores_stores`).

How PostgreSQL prints a `uuid` and a `timestamptz` is a parameter, as the casts
are.
-/

namespace StorePulse

deriving instance DecidableEq for SnapshotItem

/-! ## The snapshot as a value -/

/-- An item of the snapshot, as `json.loads` gives it. -/
def SnapshotItem.value (item : SnapshotItem) : Json :=
  .obj [("id", .str item.id), ("code", .str item.code),
    ("last_seen_at", match item.lastSeenAt with
      | none => .null
      | some text => .str text),
    ("updated_at", .str item.updatedAt)]

/-- A snapshot, as `json.loads` gives it. -/
def snapshotValue (items : List SnapshotItem) : Json := .arr (items.map SnapshotItem.value)

/-- The text of a value. -/
def Json.text? : Json → Option String
  | .str s => some s
  | _ => none

/-- The text of a value that may be `null`. -/
def Json.nullableText? : Json → Option (Option String)
  | .null => some none
  | .str s => some (some s)
  | _ => none

/-- An entry with the members of an item, as `json_to_recordset` reads it. -/
def SnapshotItem.ofValue : Json → Option SnapshotItem
  | .obj fields => do
      let id ← (fields.lookup "id").bind Json.text?
      let code ← (fields.lookup "code").bind Json.text?
      let lastSeenAt ← (fields.lookup "last_seen_at").bind Json.nullableText?
      let updatedAt ← (fields.lookup "updated_at").bind Json.text?
      return ⟨id, code, lastSeenAt, updatedAt⟩
  | _ => none

/-- The items in the text of a snapshot. -/
def readSnapshot (raw : String) : Option (List SnapshotItem) :=
  match jsonLoads raw with
  | some (.arr entries) => entries.mapM SnapshotItem.ofValue
  | _ => none

theorem SnapshotItem.ofValue_value (item : SnapshotItem) : ofValue item.value = some item := by
  obtain ⟨id, code, lastSeenAt, updatedAt⟩ := item
  cases lastSeenAt with
  | none => rfl
  | some text => rfl

theorem mapM_ofValue (items : List SnapshotItem) :
    (items.map SnapshotItem.value).mapM SnapshotItem.ofValue = some items := by
  induction items with
  | nil => rfl
  | cons item items ih =>
      rw [List.map_cons, List.mapM_cons, SnapshotItem.ofValue_value, ih]
      rfl

/-! ## Its text -/

theorem SnapshotItem.textual_value (item : SnapshotItem) :
    item.value.all Json.textual = true := by
  obtain ⟨id, code, lastSeenAt, updatedAt⟩ := item
  cases lastSeenAt with
  | none => rfl
  | some text => rfl

theorem textual_snapshotValue (items : List SnapshotItem) :
    (snapshotValue items).all Json.textual = true := by
  have hitems : Json.allItems Json.textual (items.map SnapshotItem.value) = true := by
    induction items with
    | nil => rfl
    | cons item items ih =>
        rw [List.map_cons, Json.allItems, item.textual_value, ih]
        rfl
  rw [snapshotValue, Json.all, hitems]
  rfl

variable (floatText : PyFloat → List Char)

theorem SnapshotItem.json_eq (item : SnapshotItem) :
    item.json = jsonDumps floatText item.value := by
  have hid : jsonString "id" = "\"id\"".toList := by decide
  have hcode : jsonString "code" = "\"code\"".toList := by decide
  have hseen : jsonString "last_seen_at" = "\"last_seen_at\"".toList := by decide
  have hupdated : jsonString "updated_at" = "\"updated_at\"".toList := by decide
  have hnullable : jsonString? item.lastSeenAt = jsonDumps floatText
      (match item.lastSeenAt with | none => .null | some text => .str text) := by
    cases item.lastSeenAt with
    | none => rfl
    | some text => rw [jsonDumps, jsonString?]
  unfold SnapshotItem.json value
  simp only [hnullable, dumpsFields, dumpsField, hid, hcode, hseen, hupdated, jsonDumps,
    List.isEmpty_cons, List.isEmpty_nil, Bool.false_eq_true, if_true, if_false, String.reduceToList,
    List.cons_append, List.nil_append, List.append_assoc, List.append_nil]

/-- The text in the statements is `json.dumps` of the snapshot. -/
theorem snapshotJson_eq (items : List SnapshotItem) :
    snapshotJson items = String.ofList (jsonDumps floatText (snapshotValue items)) := by
  have hitems : List.intercalate [','] (items.map SnapshotItem.json) =
      dumpsItems floatText (items.map SnapshotItem.value) := by
    induction items with
    | nil => rfl
    | cons item items ih =>
        cases items with
        | nil => simp [dumpsItems, SnapshotItem.json_eq floatText item]
        | cons next items =>
            rw [List.map_cons, List.map_cons, List.intercalate_cons_cons, ← List.map_cons, ih,
              SnapshotItem.json_eq floatText item]
            simp [dumpsItems]
  rw [snapshotJson, hitems]
  rfl

/-- The text in the statements is read as the snapshot. -/
theorem readSnapshot_snapshotJson (items : List SnapshotItem) :
    readSnapshot (snapshotJson items) = some items := by
  rw [readSnapshot, snapshotJson_eq fun _ => [], loads_dumps (textual_snapshotValue items)]
  exact mapM_ofValue items

/-- Nothing of it is stripped. -/
theorem pyStrip_snapshotJson (items : List SnapshotItem) :
    pyStrip (snapshotJson items) = snapshotJson items := by
  have hopen : isSpace '[' = false := by decide
  have hclose : isSpace ']' = false := by decide
  rw [pyStrip, snapshotJson, String.toList_ofList, stripBy,
    List.dropWhile_cons_of_neg (by rw [hopen]; decide), List.reverse_cons, List.reverse_append,
    List.reverse_singleton, List.singleton_append, List.cons_append,
    List.dropWhile_cons_of_neg (by rw [hclose]; decide)]
  simp

/-! ## Its way through a statement -/

/-- The arguments of `json_to_recordset` in a text that has been scanned. -/
def recordsetArguments (code : List Char) : List (List Char × List Char) → List String
  | [] => []
  | (value, next) :: tail =>
      if "json_to_recordset(".toList.isSuffixOf code then
        String.ofList value :: recordsetArguments next tail
      else recordsetArguments next tail

/-- The snapshot in a text of the harness. -/
def BuiltSql.snapshot? : BuiltSql → Option (List SnapshotItem)
  | .restore items | .snapshotMismatch items | .cleanupTransaction _ items => some items
  | _ => none

theorem recordsetArguments_snapshot {b : BuiltSql} {items : List SnapshotItem}
    (h : b.snapshot? = some items) :
    recordsetArguments b.code b.literals = [snapshotJson items] := by
  have hrecordset :
      ("json_to_recordset(".toList.isSuffixOf BuiltSql.recordsetCode.toList) = true := by
    decide +kernel
  cases b with
  | restore items' | snapshotMismatch items' =>
      cases h
      simp only [BuiltSql.code, BuiltSql.literals, BuiltSql.parts, List.map_cons, List.map_nil,
        recordsetArguments, hrecordset, if_true, String.ofList_toList]
  | cleanupTransaction runTag items' =>
      cases h
      have hrefunds : ("json_to_recordset(".toList.isSuffixOf
          ("BEGIN;" ++ "\n" ++ BuiltSql.deleteCode).toList) = false := by decide +kernel
      have htype : ("json_to_recordset(".toList.isSuffixOf
          "\n  AND event_type = ".toList) = false := by decide +kernel
      have hsales : ("json_to_recordset(".toList.isSuffixOf
          (";" ++ "\n" ++ BuiltSql.deleteCode).toList) = false := by decide +kernel
      have hrestore : ("json_to_recordset(".toList.isSuffixOf
          (";" ++ "\n" ++ BuiltSql.recordsetCode).toList) = true := by decide +kernel
      simp only [BuiltSql.code, BuiltSql.literals, BuiltSql.parts, List.map_cons, List.map_nil,
        recordsetArguments, hrefunds, htype, hsales, hrestore, if_true, Bool.false_eq_true,
        if_false, String.ofList_toList]
  | _ => cases h

/-! ## Its way back to the stores -/

/-- How PostgreSQL prints the values in a snapshot. -/
structure Printers where
  /-- `id::text`. -/
  uuid : UUID → String
  /-- A `timestamptz` in JSON. -/
  timestamptz : Instant → String

/-- The item of a store, as `build_snapshot_sql` selects it. -/
def StoreRow.item (printers : Printers) (s : StoreRow) : SnapshotItem :=
  ⟨printers.uuid s.id, s.code, s.lastSeenAt.map printers.timestamptz,
    printers.timestamptz s.updatedAt⟩

/-- The casts read what is printed for a store. -/
structure StoreRow.ReadsBack (casts : Casts) (printers : Printers) (s : StoreRow) : Prop where
  id : casts.uuid (printers.uuid s.id) = some s.id
  lastSeenAt : ∀ t, s.lastSeenAt = some t → casts.timestamptz (printers.timestamptz t) = some t
  updatedAt : casts.timestamptz (printers.timestamptz s.updatedAt) = some s.updatedAt

/-- The row of a store in a snapshot. -/
def StoreRow.snapshotRow (s : StoreRow) : SnapshotRow := ⟨s.id, s.lastSeenAt, s.updatedAt⟩

/-- A text is the answer to the query of `build_snapshot_sql`. -/
def PrintsStores (printers : Printers) (t : Tables) (raw : String) : Prop :=
  ∃ stores : List StoreRow, stores.Perm t.stores ∧
    readSnapshot raw = some (stores.map (StoreRow.item printers))

/-- A store with the connectivity it has among some others, if it is one of them. -/
def StoreRow.reconnect (stores : List StoreRow) (s : StoreRow) : StoreRow :=
  match stores.find? fun old => old.id == s.id with
  | none => s
  | some old => { s with lastSeenAt := old.lastSeenAt, updatedAt := old.updatedAt }

variable {casts : Casts} {printers : Printers}

theorem StoreRow.ReadsBack.row {s : StoreRow} (h : s.ReadsBack casts printers) :
    (s.item printers).row casts = some s.snapshotRow := by
  obtain ⟨hid, hseen, hupdated⟩ := h
  rw [SnapshotItem.row, item, hid]
  cases hlast : s.lastSeenAt with
  | none => simp [hupdated, snapshotRow, hlast]
  | some t => simp [hseen t hlast, hupdated, snapshotRow, hlast]

theorem snapshotRows_items {stores : List StoreRow}
    (h : ∀ s ∈ stores, s.ReadsBack casts printers) :
    snapshotRows casts (stores.map (StoreRow.item printers)) =
      .ok (stores.map StoreRow.snapshotRow) := by
  have hrows : (stores.map (StoreRow.item printers)).mapM (SnapshotItem.row casts) =
      some (stores.map StoreRow.snapshotRow) := by
    induction stores with
    | nil => rfl
    | cons s stores ih =>
        rw [List.map_cons, List.mapM_cons, (h s List.mem_cons_self).row,
          ih fun s' hs => h s' (List.mem_cons_of_mem s hs)]
        rfl
  rw [snapshotRows, hrows]

theorem restore_snapshotRows {stores stores' : List StoreRow} (hperm : stores'.Perm stores)
    (hids : (stores.map StoreRow.id).Nodup) (s : StoreRow) :
    SnapshotRow.restore (stores'.map StoreRow.snapshotRow) s = s.reconnect stores := by
  have hrows : ((stores'.map StoreRow.snapshotRow).map SnapshotRow.id).Nodup := by
    rw [List.map_map]
    exact ((hperm.map StoreRow.id).nodup_iff).mpr hids
  rw [StoreRow.reconnect]
  cases hfind : stores.find? fun old => old.id == s.id with
  | none =>
      refine restore_of_notMem fun row hrow => ?_
      obtain ⟨old, hold, rfl⟩ := List.mem_map.mp hrow
      have hother := List.find?_eq_none.mp hfind old (hperm.mem_iff.mp hold)
      rwa [beq_iff_eq] at hother
  | some old =>
      have hold := hperm.mem_iff.mpr (List.mem_of_find?_eq_some hfind)
      have hid : old.id = s.id := by simpa using List.find?_some hfind
      exact restore_of_mem hrows (List.mem_map_of_mem hold) hid

/-- What the database prints for a snapshot goes through `json.loads`, `json.dumps`, the SQL
literal and `json_to_recordset` unchanged, and restoring it gives every store the connectivity it
had. -/
theorem snapshot_restores_stores {t : Tables} {raw : String}
    (hids : (t.stores.map StoreRow.id).Nodup)
    (hcasts : ∀ s ∈ t.stores, s.ReadsBack casts printers) (hraw : PrintsStores printers t raw) :
    ∃ items, readSnapshot raw = some items ∧
      (∀ (comments : Bool) (b : BuiltSql) (text : String) (code : List Char)
        (literals : List (List Char × List Char)), b.snapshot? = some items → b.nulFree = true →
        b.text = .ok text → Sql.Lexes comments text.toList code literals →
        (recordsetArguments code literals).map readSnapshot = [some items]) ∧
      ∀ t' : Tables, t'.restoreStores casts items =
        .ok { t' with stores := t'.stores.map (StoreRow.reconnect t.stores) } := by
  obtain ⟨stores, hperm, hread⟩ := hraw
  refine ⟨stores.map (StoreRow.item printers), hread, ?_, fun t' => ?_⟩
  · intro comments b text code literals hb hnul htext hlex
    obtain ⟨rfl, rfl⟩ := (BuiltSql.lexes comments htext hnul code literals).mp hlex
    rw [recordsetArguments_snapshot hb, List.map_singleton, readSnapshot_snapshotJson]
  · have hrows := snapshotRows_items fun s hs => hcasts s (hperm.mem_iff.mp hs)
    have hstores : t'.stores.map (SnapshotRow.restore (stores.map StoreRow.snapshotRow)) =
        t'.stores.map (StoreRow.reconnect t.stores) :=
      List.map_congr_left fun s _ => restore_snapshotRows hperm hids s
    rw [Tables.restoreStores, hrows]
    exact congrArg (fun stores => Except.ok { t' with stores := stores }) hstores

/-- The text for one store, with an accent in its code. -/
theorem snapshot_restores_malaga :
    let malaga : StoreRow := ⟨0xa1b2c3d4e5f640718293a4b5c6d7e8f9, "Málaga", "MÁL-1",
      "Europe/Madrid", 250000, "", "", true, none, 0, 63956131200000000⟩
    let uuid : String := "a1b2c3d4-e5f6-4071-8293-a4b5c6d7e8f9"
    let noon : String := "2027-09-08T12:00:00+00:00"
    let raw : String := "[\x7b\"id\" : \"a1b2c3d4-e5f6-4071-8293-a4b5c6d7e8f9\", " ++
      "\"code\" : \"MÁL-1\", \"last_seen_at\" : null, " ++
      "\"updated_at\" : \"2027-09-08T12:00:00+00:00\"\x7d]"
    let casts : Casts := ⟨fun s => if s = uuid then some malaga.id else none,
      fun s => if s = noon then some malaga.updatedAt else none⟩
    let seen : StoreRow := { malaga with lastSeenAt := some 63956131205000000 }
    ∃ items, readSnapshot raw = some items ∧
      Tables.restoreStores casts ⟨[seen], [], []⟩ items = .ok ⟨[malaga], [], []⟩ := by
  intro malaga uuid noon raw casts seen
  let printers : Printers := ⟨fun _ => uuid, fun _ => noon⟩
  have hraw : PrintsStores printers ⟨[malaga], [], []⟩ raw :=
    ⟨[malaga], .refl _, by decide +kernel⟩
  have hcasts : ∀ s ∈ [malaga], s.ReadsBack casts printers := by
    intro s hs
    rw [List.mem_singleton.mp hs]
    exact ⟨rfl, nofun, rfl⟩
  have hids : (Tables.mk [malaga] [] []).stores.map StoreRow.id |>.Nodup := List.nodup_singleton _
  obtain ⟨items, hread, -, hrestore⟩ := snapshot_restores_stores hids hcasts hraw
  exact ⟨items, hread, hrestore ⟨[seen], [], []⟩⟩

end StorePulse
