import StorePulse.Harness.SqlText
import StorePulse.Python.Numbers

/-!
# JSON text

`json.loads` and `json.dumps`, as the smoke harness uses them on the store
snapshot.  The grammar is the one of RFC 8259 with the words `NaN`, `Infinity` and
`-Infinity`, which PostgreSQL's `json` does not have.  An escape that is half of a
surrogate pair is refused, as PostgreSQL does: it stands for no character.

A text is read token by token.  The reader has an argument for the turns it may
still take, and every token takes at most two (`loads_dumps`).
-/

namespace StorePulse

/-! ## Strings -/

/-- The value of a hexadecimal digit. -/
def hexValue (c : Char) : Option Nat :=
  let n := c.toNat
  if 48 ≤ n ∧ n ≤ 57 then some (n - 48)
  else if 97 ≤ n ∧ n ≤ 102 then some (n - 87)
  else if 65 ≤ n ∧ n ≤ 70 then some (n - 55)
  else none

/-- Four hexadecimal digits. -/
def readHex : List Char → Option (Nat × List Char)
  | a :: b :: c :: d :: cs => do
      let a ← hexValue a
      let b ← hexValue b
      let c ← hexValue c
      let d ← hexValue d
      return (4096 * a + 256 * b + 16 * c + d, cs)
  | _ => none

/-- What follows `\u`: a code unit, or the two of a surrogate pair. -/
def readUnicode (cs : List Char) : Option (Char × List Char) := do
  let (high, cs) ← readHex cs
  if 0xD800 ≤ high ∧ high ≤ 0xDBFF then
    match cs with
    | '\\' :: 'u' :: cs =>
        let (low, cs) ← readHex cs
        if 0xDC00 ≤ low ∧ low ≤ 0xDFFF then
          some (Char.ofNat (0x10000 + (high - 0xD800) * 1024 + (low - 0xDC00)), cs)
        else none
    | _ => none
  else if 0xDC00 ≤ high ∧ high ≤ 0xDFFF then none
  else some (Char.ofNat high, cs)

/-- The characters that may follow a backslash, and what they stand for (`BACKSLASH`). -/
def backslashDict : List (Char × Char) :=
  [('"', '"'), ('\\', '\\'), ('/', '/'), ('b', '\x08'), ('f', '\x0c'), ('n', '\n'), ('r', '\r'),
    ('t', '\t')]

/-- What follows a backslash. -/
def readEscape : List Char → Option (Char × List Char)
  | [] => none
  | c :: cs =>
      if c = 'u' then readUnicode cs else (backslashDict.lookup c).map fun escaped => (escaped, cs)

/-- One character of a string.  Control characters are refused. -/
def readChar : List Char → Option (Char × List Char)
  | [] => none
  | c :: cs => if c = '\\' then readEscape cs else if c.toNat < 32 then none else some (c, cs)

/-- The characters up to the closing quote. -/
def readChars : Nat → List Char → Option (List Char × List Char)
  | 0, _ => none
  | turns + 1, cs =>
      if cs.head? = some '"' then some ([], cs.tail)
      else do
        let (c, cs) ← readChar cs
        let (text, cs) ← readChars turns cs
        return (c :: text, cs)

/-! ## Numbers and words -/

/-- `[0-9]`. -/
def isDecimal (c : Char) : Bool := 48 ≤ c.toNat && c.toNat ≤ 57

/-- `(start [0-9]+)?`, where `start` may take some characters: what was read, and what is left. -/
def readPart (start : List Char → Option (List Char × List Char)) (cs : List Char) :
    List Char × List Char :=
  match start cs with
  | none => ([], cs)
  | some (taken, rest) =>
      let digits := rest.takeWhile isDecimal
      if digits.isEmpty then ([], cs) else (taken ++ digits, rest.dropWhile isDecimal)

/-- The start of a fraction. -/
def fractionStart : List Char → Option (List Char × List Char)
  | '.' :: cs => some (['.'], cs)
  | _ => none

/-- The start of an exponent. -/
def exponentStart : List Char → Option (List Char × List Char)
  | c :: cs =>
      if c = 'e' ∨ c = 'E' then
        match cs with
        | '+' :: cs => some ([c, '+'], cs)
        | '-' :: cs => some ([c, '-'], cs)
        | cs => some ([c], cs)
      else none
  | [] => none

/-- The integer part of a number: no zero stands before another digit. -/
def readWhole : List Char → List Char × List Char
  | '0' :: cs => (['0'], cs)
  | cs => (cs.takeWhile isDecimal, cs.dropWhile isDecimal)

/-- A number (`NUMBER_RE`), which is an `int` when it is an integer part alone. -/
def readNumber (cs : List Char) : Option (Json × List Char) :=
  let (sign, cs) := if cs.head? = some '-' then (['-'], cs.tail) else ([], cs)
  let (whole, cs) := readWhole cs
  if whole.isEmpty then none
  else
    let (fraction, cs) := readPart fractionStart cs
    let (exponent, cs) := readPart exponentStart cs
    if fraction.isEmpty && exponent.isEmpty then
      (pyInt (String.ofList (sign ++ whole))).map fun n => (.int n, cs)
    else
      (pyFloat (String.ofList (sign ++ whole ++ fraction ++ exponent))).map fun x => (.float x, cs)

/-- The words, with their values. -/
def jsonWords : List (List Char × Json) :=
  [("null".toList, .null), ("true".toList, .bool true), ("false".toList, .bool false),
    ("NaN".toList, .float .nan), ("Infinity".toList, .float (.inf false)),
    ("-Infinity".toList, .float (.inf true))]

/-- What follows a word at the front. -/
def afterWord : List Char → List Char → Option (List Char)
  | [], cs => some cs
  | w :: word, c :: cs => if w = c then afterWord word cs else none
  | _ :: _, [] => none

/-- A word or a number. -/
def readScalar (cs : List Char) : Option (Json × List Char) :=
  match jsonWords.findSome? fun w => (afterWord w.1 cs).map fun rest => (w.2, rest) with
  | some read => some read
  | none => readNumber cs

/-! ## Tokens -/

/-- A token. -/
inductive JsonToken where
  /-- A string, a number or a word. -/
  | scalar (value : Json)
  | beginArray
  | endArray
  | beginObject
  | endObject
  | comma
  | colon

/-- The tokens of one character. -/
def punctuation : List (Char × JsonToken) :=
  [('[', .beginArray), (']', .endArray), ('\x7b', .beginObject), ('\x7d', .endObject),
    (',', .comma), (':', .colon)]

/-- The white space between tokens. -/
def isJsonSpace (c : Char) : Bool := c == ' ' || c == '\t' || c == '\n' || c == '\r'

/-- A token, after any white space. -/
def readToken (cs : List Char) : Option (JsonToken × List Char) :=
  match cs.dropWhile isJsonSpace with
  | [] => none
  | c :: cs =>
      if c = '"' then
        (readChars (cs.length + 1) cs).map fun (text, rest) =>
          (.scalar (.str (String.ofList text)), rest)
      else
        match punctuation.lookup c with
        | some token => some (token, cs)
        | none => (readScalar (c :: cs)).map fun (value, rest) => (.scalar value, rest)

/-! ## Values -/

/-- `d[key] = value`. -/
def dictSet (fields : List (String × Json)) (field : String × Json) : List (String × Json) :=
  if fields.any fun f => f.1 == field.1 then
    fields.map fun f => if f.1 == field.1 then field else f
  else fields ++ [field]

/-- `dict(pairs)`: a later pair replaces the value of an earlier one. -/
def dictOf (pairs : List (String × Json)) : List (String × Json) := pairs.foldl dictSet []

mutual

/-- A value. -/
def readValue : Nat → List Char → Option (Json × List Char)
  | 0, _ => none
  | turns + 1, cs =>
      match readToken cs with
      | some (.scalar value, rest) => some (value, rest)
      | some (.beginArray, rest) =>
          match readToken rest with
          | some (.endArray, rest) => some (.arr [], rest)
          | _ => (readItems turns rest).map fun (items, rest) => (.arr items, rest)
      | some (.beginObject, rest) =>
          match readToken rest with
          | some (.endObject, rest) => some (.obj [], rest)
          | _ => (readFields turns rest).map fun (pairs, rest) => (.obj (dictOf pairs), rest)
      | _ => none

/-- The items of an array, and its end. -/
def readItems : Nat → List Char → Option (List Json × List Char)
  | 0, _ => none
  | turns + 1, cs =>
      match readValue turns cs with
      | none => none
      | some (value, rest) =>
          match readToken rest with
          | some (.comma, rest) =>
              (readItems turns rest).map fun (items, rest) => (value :: items, rest)
          | some (.endArray, rest) => some ([value], rest)
          | _ => none

/-- The members of an object, and its end. -/
def readFields : Nat → List Char → Option (List (String × Json) × List Char)
  | 0, _ => none
  | turns + 1, cs =>
      match readToken cs with
      | some (.scalar (.str key), rest) =>
          match readToken rest with
          | some (.colon, rest) =>
              match readValue turns rest with
              | none => none
              | some (value, rest) =>
                  match readToken rest with
                  | some (.comma, rest) =>
                      (readFields turns rest).map fun (pairs, rest) => ((key, value) :: pairs, rest)
                  | some (.endObject, rest) => some ([(key, value)], rest)
                  | _ => none
          | _ => none
      | _ => none

end

/-- `json.loads`, with `none` for a `JSONDecodeError`. -/
def jsonLoads (s : String) : Option Json :=
  match readValue (2 * s.toList.length + 1) s.toList with
  | some (value, rest) => if rest.all isJsonSpace then some value else none
  | none => none

/-! ## Writing -/

section Writing

variable (floatText : PyFloat → List Char)

mutual

/-- `json.dumps(value, separators=(",", ":"), ensure_ascii=True)`, with the text of a float. -/
def jsonDumps : Json → List Char
  | .null => "null".toList
  | .bool true => "true".toList
  | .bool false => "false".toList
  | .int n => (toString n).toList
  | .float x => floatText x
  | .str s => jsonString s
  | .arr items => '[' :: (dumpsItems items ++ [']'])
  | .obj fields => '\x7b' :: (dumpsFields fields ++ ['\x7d'])
termination_by structural value => value

/-- The items of an array. -/
def dumpsItems : List Json → List Char
  | [] => []
  | item :: items =>
      jsonDumps item ++ (if items.isEmpty then [] else ',' :: dumpsItems items)
termination_by structural items => items

/-- The members of an object. -/
def dumpsFields : List (String × Json) → List Char
  | [] => []
  | field :: fields =>
      dumpsField field ++ (if fields.isEmpty then [] else ',' :: dumpsFields fields)
termination_by structural fields => fields

/-- A member of an object. -/
def dumpsField : String × Json → List Char
  | (key, value) => jsonString key ++ ':' :: jsonDumps value
termination_by structural field => field

end

end Writing

/-- Escapes, spaces, and a key that occurs twice. -/
example : (jsonLoads " \x7b \"a\" : [ 1 , true ] , \"\\u00e9\" : null , \"a\" : \"\\/\" \x7d\n").map
    (fun v => v.pyEq (.obj [("a", .str "/"), ("é", .null)])) = some true := by decide +kernel

/-! ## Strings are read back -/

theorem hexValue_hexDigit (n : Nat) : hexValue (hexDigit n) = some (n % 16) := by
  have hall : ∀ i : Fin 16, hexValue ("0123456789abcdef".toList.getD i '0') = some i.val := by
    decide
  exact hall ⟨n % 16, Nat.mod_lt n (by decide)⟩

theorem readHex_jsonUnicode {n : Nat} (h : n < 0x10000) (rest : List Char) :
    readHex ((jsonUnicode n).tail.tail ++ rest) = some (n, rest) := by
  have hn : 4096 * (n / 4096 % 16) + 256 * (n / 256 % 16) + 16 * (n / 16 % 16) + n % 16 = n := by
    omega
  simp [jsonUnicode, readHex, hexValue_hexDigit, hn]

/-- An escape is read as the code unit it was made from. -/
theorem readChar_jsonUnicode (n : Nat) (rest : List Char) :
    readChar (jsonUnicode n ++ rest) = readUnicode ((jsonUnicode n).tail.tail ++ rest) := rfl

/-- Two escapes that are a surrogate pair are read as one character. -/
theorem readChar_surrogates {high low : Nat} (hhigh : high < 1024) (hlow : low < 1024)
    (rest : List Char) :
    readChar (jsonUnicode (0xD800 + high) ++ jsonUnicode (0xDC00 + low) ++ rest) =
      some (Char.ofNat (0x10000 + high * 1024 + low), rest) := by
  have hpair : readHex ((jsonUnicode (0xDC00 + low)).tail.tail ++ rest) =
      some (0xDC00 + low, rest) := readHex_jsonUnicode (by omega) rest
  have hlowest : 0xDC00 ≤ 0xDC00 + low ∧ 0xDC00 + low ≤ 0xDFFF := by omega
  have hhighest : 0xD800 ≤ 0xD800 + high ∧ 0xD800 + high ≤ 0xDBFF := by omega
  rw [List.append_assoc, readChar_jsonUnicode, readUnicode, readHex_jsonUnicode (by omega)]
  change (if 0xD800 ≤ 0xD800 + high ∧ 0xD800 + high ≤ 0xDBFF then
    (readHex ((jsonUnicode (0xDC00 + low)).tail.tail ++ rest)).bind _ else _) = _
  rw [if_pos hhighest, hpair]
  change (if 0xDC00 ≤ 0xDC00 + low ∧ 0xDC00 + low ≤ 0xDFFF then _ else _) = _
  rw [if_pos hlowest, Nat.add_sub_cancel_left, Nat.add_sub_cancel_left]

theorem toNat_bounds (c : Char) :
    c.toNat < 0xD800 ∨ (0xDFFF < c.toNat ∧ c.toNat < 0x110000) := c.valid

/-- Every character is read back from its escape. -/
theorem readChar_jsonEscape (c : Char) (rest : List Char) :
    readChar (jsonEscape c ++ rest) = some (c, rest) := by
  have hvalid := toNat_bounds c
  rw [jsonEscape]
  split
  case h_1 entry hentry =>
    have hdict : ∀ e ∈ escapeDict, e.2 ≠ 'u' ∧ backslashDict.lookup e.2 = some e.1 := by decide
    obtain ⟨hu, hlookup⟩ := hdict entry (List.mem_of_find?_eq_some hentry)
    have hc : entry.1 = c := by simpa using List.find?_some hentry
    simp [readChar, readEscape, hu, hlookup, hc]
  case h_2 hnone =>
    have hbackslash : c ≠ '\\' := by
      rintro rfl
      exact absurd hnone (by decide)
    split_ifs with hprintable hshort
    · simp [readChar, hbackslash, Nat.not_lt.mpr hprintable.1]
    · rw [readChar_jsonUnicode, readUnicode, readHex_jsonUnicode hshort]
      have hhigh : ¬ (0xD800 ≤ c.toNat ∧ c.toNat ≤ 0xDBFF) := by omega
      have hlow : ¬ (0xDC00 ≤ c.toNat ∧ c.toNat ≤ 0xDFFF) := by omega
      simp [hhigh, hlow]
    · have hc : 0x10000 + (c.toNat - 0x10000) / 1024 * 1024 + (c.toNat - 0x10000) % 1024 =
          c.toNat := by omega
      rw [readChar_surrogates (by omega) (Nat.mod_lt _ (by omega)), hc, Char.ofNat_toNat]

/-- An escape is not the quote that ends the string. -/
theorem head_jsonEscape (c : Char) (rest : List Char) :
    (jsonEscape c ++ rest).head? ≠ some '"' := by
  rw [jsonEscape]
  split
  case h_1 entry hentry => simp
  case h_2 hnone =>
    have hquote : c ≠ '"' := by
      rintro rfl
      exact absurd hnone (by decide)
    split_ifs
    · simp [hquote]
    · simp [jsonUnicode]
    · simp [jsonUnicode]

theorem readChars_escaped {cs : List Char} {turns : Nat} (h : cs.length < turns)
    (rest : List Char) :
    readChars turns (cs.flatMap jsonEscape ++ '"' :: rest) = some (cs, rest) := by
  induction cs generalizing turns with
  | nil =>
      obtain ⟨n, rfl⟩ := Nat.exists_eq_succ_of_ne_zero (Nat.ne_of_gt h)
      rfl
  | cons c cs ih =>
      obtain ⟨n, rfl⟩ := Nat.exists_eq_succ_of_ne_zero (Nat.ne_of_gt (Nat.zero_lt_of_lt h))
      rw [List.flatMap_cons, List.append_assoc, readChars, if_neg (head_jsonEscape c _),
        readChar_jsonEscape]
      change (readChars n _).bind _ = _
      rw [ih (by simpa using h)]
      rfl

/-- An escape is at least as long as its character. -/
theorem length_le_escaped (cs : List Char) : cs.length ≤ (cs.flatMap jsonEscape).length := by
  induction cs with
  | nil => exact le_rfl
  | cons c cs ih =>
      have hone : 1 ≤ (jsonEscape c).length := by
        rw [jsonEscape]
        split
        case h_1 => simp
        case h_2 => split_ifs <;> simp [jsonUnicode]
      simp only [List.flatMap_cons, List.length_cons, List.length_append]
      omega

theorem readToken_jsonString (s : String) (rest : List Char) :
    readToken (jsonString s ++ rest) = some (.scalar (.str s), rest) := by
  have hlength := length_le_escaped s.toList
  have hchars : readChars (((s.toList.flatMap jsonEscape ++ ['"']) ++ rest).length + 1)
      (s.toList.flatMap jsonEscape ++ '"' :: rest) = some (s.toList, rest) :=
    readChars_escaped (by simp only [List.length_append]; omega) rest
  change (readChars (((s.toList.flatMap jsonEscape ++ ['"']) ++ rest).length + 1)
    ((s.toList.flatMap jsonEscape ++ ['"']) ++ rest)).map _ = _
  rw [List.append_assoc, List.singleton_append] at hchars ⊢
  rw [hchars]
  simp

/-! ## Values are read back -/

/-- The value holds no number, which the harness never writes. -/
def Json.textual : Json → Bool
  | .int _ => false
  | .float _ => false
  | value => value.distinctKeys

/-- A token that begins a value. -/
def JsonToken.begins : JsonToken → Bool
  | .scalar _ => true
  | .beginArray => true
  | .beginObject => true
  | _ => false

variable {floatText : PyFloat → List Char}

theorem Json.textual_of_all {value : Json} (h : value.all textual = true) :
    value.textual = true := by
  cases value with
  | arr items =>
      rw [all, Bool.and_eq_true] at h
      exact h.1
  | obj fields =>
      rw [all, Bool.and_eq_true] at h
      exact h.1
  | _ =>
      rw [all] at h
      exact h

/-- What `json.dumps` writes begins with a token that begins a value. -/
theorem begins_jsonDumps {value : Json} (h : value.textual = true) (rest : List Char) :
    ∃ token rest', readToken (jsonDumps floatText value ++ rest) = some (token, rest') ∧
      token.begins = true := by
  cases value with
  | null => exact ⟨.scalar .null, rest, rfl, rfl⟩
  | bool b =>
      cases b with
      | true => exact ⟨.scalar (.bool true), rest, rfl, rfl⟩
      | false => exact ⟨.scalar (.bool false), rest, rfl, rfl⟩
  | int n => cases h
  | float x => cases h
  | str s =>
      rw [jsonDumps, readToken_jsonString]
      exact ⟨_, _, rfl, rfl⟩
  | arr items => exact ⟨.beginArray, _, rfl, rfl⟩
  | obj fields => exact ⟨.beginObject, _, rfl, rfl⟩

theorem dictOf_eq {fields : List (String × Json)} (h : (fields.map Prod.fst).Nodup) :
    dictOf fields = fields := by
  have hset : ∀ earlier later : List (String × Json),
      ((earlier ++ later).map Prod.fst).Nodup → later.foldl dictSet earlier = earlier ++ later := by
    intro earlier later hnodup
    induction later generalizing earlier with
    | nil => exact (List.append_nil earlier).symm
    | cons field later ih =>
        have hnew : ¬ earlier.any (fun f => f.1 == field.1) = true := by
          rw [List.any_eq_true]
          rintro ⟨f, hf, heq⟩
          rw [List.map_append, List.nodup_append] at hnodup
          exact hnodup.2.2 f.1 (List.mem_map_of_mem hf) field.1 (by simp) (beq_iff_eq.mp heq)
        have hassoc : earlier ++ field :: later = (earlier ++ [field]) ++ later := by simp
        rw [List.foldl_cons, dictSet, if_neg hnew, ih _ (hassoc ▸ hnodup), hassoc]
  exact hset [] fields h

/-- The text begins with a token that begins a value. -/
def BeginsValue (cs : List Char) : Prop :=
  ∃ token rest, readToken cs = some (token, rest) ∧ token.begins = true

theorem readValue_array {cs : List Char} (h : BeginsValue cs) (turns : Nat) :
    readValue (turns + 1) ('[' :: cs) =
      (readItems turns cs).map fun (items, rest) => (.arr items, rest) := by
  obtain ⟨token, rest, htoken, hbegins⟩ := h
  have hopen : readToken ('[' :: cs) = some (.beginArray, cs) := rfl
  rw [readValue, hopen]
  simp only [htoken]
  cases token <;> first | rfl | cases hbegins

theorem readValue_object {cs : List Char} (h : BeginsValue cs) (turns : Nat) :
    readValue (turns + 1) ('\x7b' :: cs) =
      (readFields turns cs).map fun (pairs, rest) => (.obj (dictOf pairs), rest) := by
  obtain ⟨token, rest, htoken, hbegins⟩ := h
  have hopen : readToken ('\x7b' :: cs) = some (.beginObject, cs) := rfl
  rw [readValue, hopen]
  simp only [htoken]
  cases token <;> first | rfl | cases hbegins

mutual

theorem readValue_dumps : ∀ (value : Json) (turns : Nat) (rest : List Char),
    value.all Json.textual = true → 2 * (jsonDumps floatText value).length < turns →
      readValue turns (jsonDumps floatText value ++ rest) = some (value, rest)
  | .null, turns + 1, rest, _, _ => rfl
  | .bool true, turns + 1, rest, _, _ => rfl
  | .bool false, turns + 1, rest, _, _ => rfl
  | .str s, turns + 1, rest, _, _ => by rw [jsonDumps, readValue, readToken_jsonString]
  | .arr [], turns + 1, rest, _, _ => rfl
  | .arr (item :: items), turns + 1, rest, h, hturns => by
      simp only [Json.all, Bool.and_eq_true] at h
      simp only [jsonDumps, List.length_cons, List.length_append, List.length_nil] at hturns
      have hitems := readItems_dumps (item :: items) turns rest nofun h.2 (by omega)
      have hbegins : BeginsValue (dumpsItems floatText (item :: items) ++ ']' :: rest) := by
        simp only [Json.allItems, Bool.and_eq_true] at h
        rw [dumpsItems, List.append_assoc]
        exact begins_jsonDumps (Json.textual_of_all h.2.1) _
      rw [jsonDumps, List.cons_append, List.append_assoc, List.singleton_append,
        readValue_array hbegins, hitems]
      rfl
  | .obj [], turns + 1, rest, _, _ => rfl
  | .obj (field :: fields), turns + 1, rest, h, hturns => by
      simp only [Json.all, Bool.and_eq_true] at h
      simp only [jsonDumps, List.length_cons, List.length_append, List.length_nil] at hturns
      have hfields := readFields_dumps (field :: fields) turns rest nofun h.2 (by omega)
      have hdistinct : ((field :: fields).map Prod.fst).Nodup := of_decide_eq_true h.1
      have hbegins : BeginsValue (dumpsFields floatText (field :: fields) ++ '\x7d' :: rest) := by
        obtain ⟨key, value⟩ := field
        rw [dumpsFields, dumpsField, List.append_assoc, List.append_assoc]
        exact ⟨_, _, readToken_jsonString key _, rfl⟩
      rw [jsonDumps, List.cons_append, List.append_assoc, List.singleton_append,
        readValue_object hbegins, hfields]
      simp only [Option.map_some, dictOf_eq hdistinct]

theorem readItems_dumps : ∀ (items : List Json) (turns : Nat) (rest : List Char), items ≠ [] →
    Json.allItems Json.textual items = true →
      2 * (dumpsItems floatText items).length + 1 < turns →
      readItems turns (dumpsItems floatText items ++ ']' :: rest) = some (items, rest)
  | [item], turns + 1, rest, _, h, hturns => by
      simp only [Json.allItems, Bool.and_true] at h
      simp only [dumpsItems, List.isEmpty_nil, if_true, List.append_nil] at hturns ⊢
      rw [readItems, readValue_dumps item turns (']' :: rest) h (by omega)]
      rfl
  | item :: next :: items, turns + 1, rest, _, h, hturns => by
      rw [Json.allItems, Bool.and_eq_true] at h
      rw [dumpsItems, List.isEmpty_cons, if_neg Bool.false_ne_true, List.length_append,
        List.length_cons] at hturns
      have hmore := readItems_dumps (next :: items) turns rest nofun h.2 (by omega)
      rw [dumpsItems, List.isEmpty_cons, if_neg Bool.false_ne_true, List.append_assoc,
        List.cons_append, readItems, readValue_dumps item turns _ h.1 (by omega)]
      have hcomma : readToken (',' :: (dumpsItems floatText (next :: items) ++ ']' :: rest)) =
          some (.comma, dumpsItems floatText (next :: items) ++ ']' :: rest) := rfl
      simp only [hcomma, hmore, Option.map_some]

theorem readFields_dumps : ∀ (fields : List (String × Json)) (turns : Nat) (rest : List Char),
    fields ≠ [] → Json.allFields Json.textual fields = true →
      2 * (dumpsFields floatText fields).length + 1 < turns →
      readFields turns (dumpsFields floatText fields ++ '\x7d' :: rest) = some (fields, rest)
  | [(key, value)], turns + 1, rest, _, h, hturns => by
      simp only [Json.allFields, Json.allField, Bool.and_true] at h
      simp only [dumpsFields, dumpsField, List.isEmpty_nil, if_true, List.append_nil,
        List.length_append, List.length_cons] at hturns
      have hcolon : readToken (':' :: (jsonDumps floatText value ++ '\x7d' :: rest)) =
          some (.colon, jsonDumps floatText value ++ '\x7d' :: rest) := rfl
      have hend : readToken ('\x7d' :: rest) = some (.endObject, rest) := rfl
      simp only [dumpsFields, dumpsField, List.isEmpty_nil, if_true, List.append_nil,
        List.append_assoc, List.cons_append]
      rw [readFields, readToken_jsonString]
      simp only [hcolon, readValue_dumps value turns _ h (by omega), hend]
  | (key, value) :: next :: fields, turns + 1, rest, _, h, hturns => by
      rw [Json.allFields, Bool.and_eq_true, Json.allField] at h
      rw [dumpsFields, dumpsField, List.isEmpty_cons, if_neg Bool.false_ne_true, List.length_append,
        List.length_append, List.length_cons, List.length_cons] at hturns
      have hmore := readFields_dumps (next :: fields) turns rest nofun h.2 (by omega)
      have hcolon : readToken (':' :: (jsonDumps floatText value ++
            ',' :: (dumpsFields floatText (next :: fields) ++ '\x7d' :: rest))) =
          some (.colon, jsonDumps floatText value ++
            ',' :: (dumpsFields floatText (next :: fields) ++ '\x7d' :: rest)) := rfl
      have hcomma : readToken (',' :: (dumpsFields floatText (next :: fields) ++ '\x7d' :: rest)) =
          some (.comma, dumpsFields floatText (next :: fields) ++ '\x7d' :: rest) := rfl
      rw [dumpsFields, dumpsField, List.isEmpty_cons, if_neg Bool.false_ne_true, List.append_assoc,
        List.append_assoc, List.cons_append, List.cons_append, readFields, readToken_jsonString]
      simp only [hcolon, readValue_dumps value turns _ h.1 (by omega), hcomma, hmore,
        Option.map_some]

end

/-- `json.loads` reads back what `json.dumps` writes. -/
theorem loads_dumps {value : Json} (h : value.all Json.textual = true) :
    jsonLoads (String.ofList (jsonDumps floatText value)) = some value := by
  have hread : readValue (2 * (jsonDumps floatText value).length + 1)
      (jsonDumps floatText value ++ []) = some (value, []) :=
    readValue_dumps value _ [] h (Nat.lt_succ_self _)
  rw [List.append_nil] at hread
  rw [jsonLoads, String.toList_ofList, hread]
  rfl

end StorePulse
