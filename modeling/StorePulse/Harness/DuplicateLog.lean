import StorePulse.Foundation.Patterns
import StorePulse.Harness.Isolation
import StorePulse.Harness.JsonText

/-!
# The duplicate in the log of the simulators

A simulator logs every delivery, and `extract_duplicate_event_id` looks in the log
for a replay that was answered `duplicate`.  It searches with `DUPLICATE_RE` and
keeps what `UUID` takes.

The log is text from five containers.  Where no line has the words of a replay
but those of replays, the first replay is found, and its id is read back
(`duplicate_extracted_from_log`).
-/

namespace StorePulse

/-! ## The text of a UUID -/

/-- `'%0*x' % (width, n)`, for a number that fits. -/
def hexDigits : Nat → Nat → List Char
  | 0, _ => []
  | width + 1, n => hexDigits width (n / 16) ++ [hexDigit n]

/-- `str(uuid)`: `hex[:8]-hex[8:12]-hex[12:16]-hex[16:20]-hex[20:]`. -/
def uuidText (id : UUID) : String :=
  let hex := hexDigits 32 id
  String.ofList (hex.take 8 ++ '-' :: ((hex.drop 8).take 4 ++ '-' :: ((hex.drop 12).take 4 ++
    '-' :: ((hex.drop 16).take 4 ++ '-' :: hex.drop 20))))

/-- `UUID(text)`, for a text of hexadecimal digits and hyphens. -/
def pyUuid (text : String) : Option UUID :=
  let hex := text.toList.filter (· != '-')
  if hex.length = 32 then
    (hex.mapM hexValue).map fun digits => digits.foldl (fun n d => 16 * n + d) 0
  else none

theorem length_hexDigits (width n : Nat) : (hexDigits width n).length = width := by
  induction width generalizing n with
  | zero => rfl
  | succ width ih => simp [hexDigits, ih]

theorem isHexDigit_hexDigit (n : Nat) : isHexDigit (hexDigit n) = true := by
  have hall : ∀ i : Fin 16, isHexDigit ("0123456789abcdef".toList.getD i '0') = true := by decide
  exact hall ⟨n % 16, Nat.mod_lt n (by decide)⟩

theorem isHexDigit_of_mem {width n : Nat} {c : Char} (h : c ∈ hexDigits width n) :
    isHexDigit c = true := by
  induction width generalizing n with
  | zero => cases h
  | succ width ih =>
      rw [hexDigits, List.mem_append, List.mem_singleton] at h
      rcases h with h | rfl
      · exact ih h
      · exact isHexDigit_hexDigit n

/-- The digits of a number are read as the number. -/
theorem mapM_hexValue_hexDigits {width n : Nat} (h : n < 16 ^ width) :
    ((hexDigits width n).mapM hexValue).map (fun digits => digits.foldl (fun n d => 16 * n + d) 0) =
      some n := by
  induction width generalizing n with
  | zero =>
      rw [Nat.pow_zero, Nat.lt_one_iff] at h
      subst h
      rfl
  | succ width ih =>
      have hsmall : n / 16 < 16 ^ width := by
        rw [Nat.pow_succ] at h
        omega
      obtain ⟨digits, hdigits, hvalue⟩ := Option.map_eq_some_iff.mp (ih hsmall)
      have hn : 16 * (n / 16) + n % 16 = n := Nat.div_add_mod n 16
      simp [hexDigits, List.mapM_append, hdigits, hexValue_hexDigit, List.foldl_append, hvalue, hn]

/-- A character of a UUID's text. -/
def isUuidChar (c : Char) : Bool := isHexDigit c || c == '-'

theorem uuidText_groups (id : UUID) : ∃ a b c d e : List Char,
    (uuidText id).toList = a ++ '-' :: (b ++ '-' :: (c ++ '-' :: (d ++ '-' :: e))) ∧
      a ++ (b ++ (c ++ (d ++ e))) = hexDigits 32 id := by
  refine ⟨_, _, _, _, _, String.toList_ofList, ?_⟩
  have hgroup : ∀ (i : Nat) (hex : List Char),
      (hex.drop i).take 4 ++ hex.drop (i + 4) = hex.drop i := by
    intro i hex
    rw [← List.drop_drop, List.take_append_drop]
  rw [hgroup 16, hgroup 12, hgroup 8, List.take_append_drop]

theorem length_uuidText (id : UUID) : (uuidText id).toList.length = 36 := by
  obtain ⟨a, b, c, d, e, htext, hhex⟩ := uuidText_groups id
  have hlength := congrArg List.length hhex
  simp only [length_hexDigits, List.length_append] at hlength
  rw [htext]
  simp only [List.length_append, List.length_cons]
  omega

theorem isUuidChar_uuidText (id : UUID) : ∀ c ∈ (uuidText id).toList, isUuidChar c = true := by
  obtain ⟨a, b, c, d, e, htext, hhex⟩ := uuidText_groups id
  intro x hx
  have hmem : x ∈ a ++ (b ++ (c ++ (d ++ e))) ∨ x = '-' := by
    rw [htext] at hx
    simp only [List.mem_append, List.mem_cons] at hx ⊢
    clear htext hhex
    tauto
  rcases hmem with h | rfl
  · rw [hhex] at h
    rw [isUuidChar, isHexDigit_of_mem h, Bool.true_or]
  · rfl

/-- The text of a UUID is read back. -/
theorem pyUuid_uuidText {id : UUID} (h : id < 16 ^ 32) : pyUuid (uuidText id) = some id := by
  obtain ⟨a, b, c, d, e, htext, hhex⟩ := uuidText_groups id
  have hfilter : (uuidText id).toList.filter (· != '-') = hexDigits 32 id := by
    have hkept : (a ++ (b ++ (c ++ (d ++ e)))).filter (· != '-') =
        a ++ (b ++ (c ++ (d ++ e))) := by
      refine List.filter_eq_self.mpr fun x hx => bne_iff_ne.mpr ?_
      rintro rfl
      rw [hhex] at hx
      exact absurd (isHexDigit_of_mem hx) (by decide)
    rw [htext, ← hhex, ← hkept]
    simp
  rw [pyUuid, hfilter, if_pos (length_hexDigits 32 id)]
  exact mapM_hexValue_hexDigits h

/-! ## The search -/

/-- What `DUPLICATE_RE` begins with. -/
def duplicateMarker : List Char := "kind=DUPLICATE status=duplicate".toList

/-- `[^\r\n]`. -/
def isLineChar (c : Char) : Bool := c != '\r' && c != '\n'

/-- `DUPLICATE_RE`. -/
def duplicatePattern : List (Pattern.Item Char) :=
  [.text duplicateMarker, .run isLineChar, .text "event_id=".toList, .group 36 isUuidChar]

/-- `extract_duplicate_event_id`. -/
def extractDuplicateEventId (logText : String) : Option String :=
  match Pattern.search duplicatePattern logText.toList with
  | some [eventId] =>
      if (pyUuid (String.ofList eventId)).isSome then some (String.ofList eventId) else none
  | _ => none

/-- What a match of the pattern is. -/
theorem matches_duplicatePattern {cs : List Char} {groups : List (List Char)} :
    Pattern.Matches duplicatePattern cs groups ↔ ∃ between eventId rest,
      cs = duplicateMarker ++ (between ++ ("event_id=".toList ++ (eventId ++ rest))) ∧
        (∀ c ∈ between, isLineChar c = true) ∧ (∀ c ∈ eventId, isUuidChar c = true) ∧
        eventId.length = 36 ∧ groups = [eventId] := by
  constructor
  · intro h
    cases h with
    | text h =>
      cases h with
      | run hbetween h =>
        cases h with
        | text h =>
          generalize hn : 36 = n at h
          cases h with
          | group hgroup h =>
            cases h
            exact ⟨_, _, _, rfl, hbetween, hgroup, rfl, rfl⟩
  · rintro ⟨between, eventId, rest, rfl, hbetween, hgroup, hlength, rfl⟩
    rw [duplicatePattern, ← hlength]
    exact .text (.run hbetween (.text (.group hgroup .done)))

/-! ## The log -/

/-- The message of `_delivery_worker` for an event that was delivered. -/
def deliveredMessage (storeCode kind status : String) (attempts : Nat) (eventId : UUID) : String :=
  "event delivered store=" ++ storeCode ++ " kind=" ++ kind ++ " status=" ++ status ++
  " attempts=" ++ toString attempts ++ " event_id=" ++ uuidText eventId

/-- A line of the log. -/
inductive LogLine where
  /-- A replay that was answered `duplicate`, after what the logger and `docker compose` put
  before a message. -/
  | replay (header storeCode : String) (attempts : Nat) (eventId : UUID)
  /-- Any other line. -/
  | other (text : String)

namespace LogLine

/-- The text of a line. -/
def text : LogLine → String
  | .replay header storeCode attempts eventId =>
      header ++ deliveredMessage storeCode "DUPLICATE" "duplicate" attempts eventId
  | .other text => text

/-- The id of the event that was replayed. -/
def replayed : LogLine → Option UUID
  | .replay _ _ _ eventId => some eventId
  | .other _ => none

/-- The words of a replay occur in a line of a replay only, and there once. -/
def Plain : LogLine → Prop
  | .replay header storeCode _ eventId => eventId < 16 ^ 32 ∧
      ¬ duplicateMarker <:+: (header ++ "event delivered store=" ++ storeCode ++ " ").toList
  | .other text => ¬ duplicateMarker <:+: text.toList

end LogLine

/-- The text of a log. -/
def logText (lines : List LogLine) : String :=
  String.ofList (lines.flatMap fun line => line.text.toList ++ ['\n'])

/-! ## What is found -/

theorem duplicateMarker_eq : duplicateMarker = 'k' :: "ind=DUPLICATE status=duplicate".toList := by
  decide

/-- A line without the words of a replay is passed over. -/
theorem search_other {text : List Char} (h : ¬ duplicateMarker <:+: text) (rest : List Char) :
    Pattern.search duplicatePattern (text ++ '\n' :: rest) =
      Pattern.search duplicatePattern rest := by
  rw [← List.singleton_append, ← List.append_assoc]
  refine Pattern.search_append fun skipped c left htext groups hmatch => h ?_
  obtain ⟨between, eventId, more, hmore, -⟩ := matches_duplicatePattern.mp hmatch
  -- what is left of the line ends with the line break
  obtain ⟨left', hleft, rfl⟩ : ∃ left', c :: left = left' ++ ['\n'] ∧ text = skipped ++ left' := by
    rcases List.append_eq_append_iff.mp htext with ⟨mid, rfl, hmid⟩ | ⟨mid, rfl, hmid⟩
    · cases mid with
      | nil => exact ⟨[], hmid.symm, by rw [List.append_nil, List.append_nil]⟩
      | cons d mid => simp at hmid
    · exact ⟨mid, hmid, rfl⟩
  rw [hleft, List.append_assoc, List.singleton_append] at hmore
  have hprefix : duplicateMarker <+: left' :=
    Pattern.prefix_of_append (by decide) ⟨_, hmore.symm⟩
  exact hprefix.isInfix.trans (List.suffix_append skipped left').isInfix

/-- Nor is what stands before them. -/
theorem search_head {head : List Char} (h : ¬ duplicateMarker <:+: head) (rest : List Char) :
    Pattern.search duplicatePattern (head ++ (duplicateMarker ++ rest)) =
      Pattern.search duplicatePattern (duplicateMarker ++ rest) := by
  refine Pattern.search_append fun skipped c left hhead groups hmatch => h ?_
  obtain ⟨between, eventId, more, hmore, -⟩ := matches_duplicatePattern.mp hmatch
  -- the words begin with the only `k` in them, so two occurrences do not overlap
  rw [duplicateMarker_eq, List.cons_append, List.cons_append, List.cons_append] at hmore
  obtain ⟨rfl, htail⟩ := List.cons.inj hmore
  have hfirst : 'k' ∉ "ind=DUPLICATE status=duplicate".toList := by decide
  have hprefix : "ind=DUPLICATE status=duplicate".toList <+: left :=
    Pattern.prefix_of_append hfirst ⟨_, htail.symm⟩
  rw [hhead, duplicateMarker_eq]
  exact ((List.cons_prefix_cons.mpr ⟨rfl, hprefix⟩).isInfix).trans
    (List.suffix_append skipped _).isInfix

/-- Where a line has one underscore, `event_id=` and what follows it are found in one way. -/
theorem eventId_unique {before eventId between found more rest : List Char}
    (hbefore : '_' ∉ before) (heventId : '_' ∉ eventId)
    (hline : '\n' ∉ between ++ ("event_id=".toList ++ found))
    (hlength : found.length = eventId.length)
    (h : between ++ ("event_id=".toList ++ (found ++ more)) =
      before ++ ("event_id=".toList ++ eventId) ++ '\n' :: rest) : found = eventId := by
  have hsplit : ∀ cs : List Char,
      "event_id=".toList ++ cs = "event".toList ++ '_' :: ("id=".toList ++ cs) := fun cs => rfl
  -- the match ends on the line
  have hprefix : between ++ ("event_id=".toList ++ found) <+:
      before ++ ("event_id=".toList ++ eventId) :=
    Pattern.prefix_of_append hline ⟨more, by rw [← h]; simp only [List.append_assoc]⟩
  obtain ⟨left, hleft⟩ := hprefix
  rw [List.append_assoc, List.append_assoc, hsplit, hsplit, ← List.append_assoc,
    ← List.append_assoc before] at hleft
  have hevent : '_' ∉ before ++ "event".toList := by simp [hbefore]
  have hid : '_' ∉ "id=".toList ++ eventId := by simp [heventId]
  have hbetween : '_' ∉ between ++ "event".toList := by
    have hcount := congrArg (List.count '_') hleft
    have hzero := List.count_eq_zero.mpr hevent
    have hzero' := List.count_eq_zero.mpr hid
    simp only [List.count_append, List.count_cons_self] at hcount hzero hzero'
    refine List.count_eq_zero.mp ?_
    rw [List.count_append]
    omega
  have hrest := (Sql.append_cons_unique hbetween hevent hleft).2
  rw [List.append_cancel_left_eq] at hrest
  have hleftover := congrArg List.length hrest
  rw [List.length_append] at hleftover
  rw [← hrest, List.eq_nil_of_length_eq_zero (show left.length = 0 by omega), List.append_nil]

/-- The end of a line of a replay. -/
theorem search_replay (attempts : Nat) (eventId : UUID) (rest : List Char) :
    Pattern.search duplicatePattern (duplicateMarker ++ ((" attempts=" ++ toString attempts ++
      " event_id=" ++ uuidText eventId).toList ++ '\n' :: rest)) =
        some [(uuidText eventId).toList] := by
  have hdigits : ∀ c ∈ (toString attempts).toList, isLineChar c = true ∧ c ≠ '_' := by
    intro c hc
    rw [Nat.toString_eq_ofList_toDigits, String.toList_ofList] at hc
    have hdigit := Nat.isDigit_of_mem_toDigits (by decide) (by decide) hc
    constructor
    · rw [isLineChar, Bool.and_eq_true, bne_iff_ne, bne_iff_ne]
      constructor <;> (rintro rfl; exact absurd hdigit (by decide))
    · rintro rfl
      exact absurd hdigit (by decide)
  have hwords : ∀ c ∈ " attempts=".toList, isLineChar c = true := by
    simp [isLineChar]
  have hchars := isUuidChar_uuidText eventId
  have hline : (" attempts=" ++ toString attempts ++ " event_id=" ++ uuidText eventId).toList =
      (" attempts=".toList ++ (toString attempts).toList ++ [' ']) ++
        ("event_id=".toList ++ (uuidText eventId).toList) := by
    simp
  rw [hline]
  refine Pattern.search_eq_some (matches_duplicatePattern.mpr
    ⟨" attempts=".toList ++ (toString attempts).toList ++ [' '], (uuidText eventId).toList,
      '\n' :: rest, ?_, fun c hc => ?_, hchars, length_uuidText eventId, rfl⟩)
    fun others hothers => ?_
  · simp only [List.append_assoc]
  · simp only [List.mem_append, List.mem_singleton] at hc
    rcases hc with (hc | hc) | rfl
    · exact hwords c hc
    · exact (hdigits c hc).1
    · rfl
  · obtain ⟨between, found, more, hmore, hbetween, hfound, hlength, rfl⟩ :=
      matches_duplicatePattern.mp hothers
    rw [List.append_cancel_left_eq] at hmore
    rw [eventId_unique ?_ ?_ ?_ (hlength.trans (length_uuidText eventId).symm) hmore.symm]
    · simp only [List.mem_append, List.mem_singleton, not_or]
      exact ⟨⟨by decide, fun h => (hdigits _ h).2 rfl⟩, by decide⟩
    · exact fun h => absurd (hchars _ h) (by decide)
    · simp only [List.mem_append, not_or]
      exact ⟨fun h => absurd (hbetween _ h) (by decide), by decide,
        fun h => absurd (hfound _ h) (by decide)⟩

theorem LogLine.replay_text (header storeCode : String) (attempts : Nat) (eventId : UUID) :
    (LogLine.replay header storeCode attempts eventId).text.toList =
      (header ++ "event delivered store=" ++ storeCode ++ " ").toList ++ (duplicateMarker ++
        (" attempts=" ++ toString attempts ++ " event_id=" ++ uuidText eventId).toList) := by
  have hwords : ∀ cs : List Char, " kind=".toList ++ ("DUPLICATE".toList ++ (" status=".toList ++
      ("duplicate".toList ++ cs))) = " ".toList ++ (duplicateMarker ++ cs) := fun cs => rfl
  unfold LogLine.text deliveredMessage
  simp only [String.toList_append, List.append_assoc, hwords]

/-- The first replay in a log is found. -/
theorem search_logText {lines : List LogLine} (h : ∀ line ∈ lines, line.Plain) :
    Pattern.search duplicatePattern (logText lines).toList =
      (lines.findSome? LogLine.replayed).map fun eventId => [(uuidText eventId).toList] := by
  rw [logText, String.toList_ofList]
  induction lines with
  | nil => rfl
  | cons line lines ih =>
      have hline := h line List.mem_cons_self
      rw [List.flatMap_cons, List.append_assoc, List.singleton_append]
      cases line with
      | replay header storeCode attempts eventId =>
          rw [LogLine.replay_text, List.append_assoc, List.append_assoc, search_head hline.2,
            search_replay]
          rfl
      | other text =>
          rw [LogLine.text, search_other hline, ih fun l hl => h l (List.mem_cons_of_mem _ hl)]
          rfl

/-- What is extracted from any text is the id after the words of a replay, on one line.  From the
log of the simulators it is the id of the first replay answered `duplicate`, when there is one. -/
theorem duplicate_extracted_from_log :
    (∀ log eventId : String, extractDuplicateEventId log = some eventId →
      ∃ before between rest id, log.toList = before ++ (duplicateMarker ++ (between ++
          ("event_id=".toList ++ (eventId.toList ++ rest)))) ∧
        (∀ c ∈ between, isLineChar c = true) ∧ pyUuid eventId = some id) ∧
    ∀ lines : List LogLine, (∀ line ∈ lines, line.Plain) →
      extractDuplicateEventId (logText lines) = (lines.findSome? LogLine.replayed).map uuidText ∧
        (extractDuplicateEventId (logText lines)).bind pyUuid =
          lines.findSome? LogLine.replayed := by
  refine ⟨fun log eventId hextract => ?_, fun lines hlines => ?_⟩
  · rw [extractDuplicateEventId] at hextract
    split at hextract
    case h_1 found hsearch =>
      split_ifs at hextract with huuid
      cases hextract
      obtain ⟨before, rest, hlog, hmatch⟩ := Pattern.matches_of_search hsearch
      obtain ⟨between, found', more, rfl, hbetween, -, -, he⟩ := matches_duplicatePattern.mp hmatch
      cases he
      obtain ⟨id, hid⟩ := Option.isSome_iff_exists.mp huuid
      have hfound : (String.ofList found).toList = found := String.toList_ofList
      exact ⟨before, between, more, id, by rw [hfound, hlog], hbetween, hid⟩
    case h_2 => cases hextract
  · have hfits : ∀ id, lines.findSome? LogLine.replayed = some id → id < 16 ^ 32 := by
      intro id hid
      obtain ⟨line, hmem, hline⟩ := List.exists_of_findSome?_eq_some hid
      have hplain := hlines line hmem
      cases line with
      | replay header storeCode attempts eventId =>
          cases hline
          exact hplain.1
      | other text => cases hline
    have hextract : extractDuplicateEventId (logText lines) =
        (lines.findSome? LogLine.replayed).map uuidText := by
      rw [extractDuplicateEventId, search_logText hlines]
      cases hfirst : lines.findSome? LogLine.replayed with
      | none => rfl
      | some id =>
          simp only [Option.map_some, String.ofList_toList, pyUuid_uuidText (hfits id hfirst),
            Option.isSome_some, if_true]
    refine ⟨hextract, ?_⟩
    rw [hextract]
    cases hfirst : lines.findSome? LogLine.replayed with
    | none => rfl
    | some id => rw [Option.map_some, Option.bind_some, pyUuid_uuidText (hfits id hfirst)]

/-- A log of two lines, the second of a replay. -/
theorem duplicate_extracted_from_two_lines :
    let id : UUID := 0xa1b2c3d4e5f640718293a4b5c6d7e8f9
    let log := logText
      [.other "simulator-madrid-1  | event delivered store=MAD-CENTRO kind=SALE status=accepted",
        .replay "simulator-madrid-1  | " "MAD-CENTRO" 2 id]
    extractDuplicateEventId log = some (uuidText id) ∧
      uuidText id = "a1b2c3d4-e5f6-4071-8293-a4b5c6d7e8f9" := by
  refine ⟨(duplicate_extracted_from_log.2 _ fun line hline => ?_).1, by decide +kernel⟩
  rcases List.mem_pair.mp hline with rfl | rfl
  · rw [LogLine.Plain]
    decide +kernel
  · exact ⟨by decide, by decide +kernel⟩

end StorePulse
