import Mathlib.Data.List.Basic

/-!
# String literals of SQL

Ordinary string literals as the PostgreSQL scanner reads them when backslashes
are ordinary characters (`standard_conforming_strings`).  Within a literal a
doubled quote denotes one quote, and a single quote ends it.  Two literals with
nothing but white space between them, and a newline in it, are one literal, so
the scanner has to look ahead before it lets a literal end.

The grammar also takes a comment for white space.  Whether it does so between
the parts of a literal is the argument `comments`, and nothing below depends on
the answer.

A text is the code and the literals in it, in turn (`Lexes`), in one way only
(`Lexes.unique`).  A text that was put together from code and encoded values is
taken apart into the same code and the same values (`lexes_assemble`).
-/

namespace StorePulse.Sql

/-! ## Characters -/

/-- The quote. -/
def quote : Char := '\''

/-- The characters that end a line. -/
def isNewline (c : Char) : Bool := c == '\n' || c == '\r'

/-- The white space within a line. -/
def isBlank (c : Char) : Bool := c == ' ' || c == '\t' || c == '\x0b' || c == '\x0c'

/-! ## The scanner -/

/-- Where the scanner is in a literal. -/
inductive Phase where
  /-- Between the quotes. -/
  | inside
  /-- Directly after a quote. -/
  | quoted
  /-- In white space after a quote: what the literal leaves if it has ended, and whether a
  newline has been read. -/
  | gap (rest : List Char) (newline : Bool)
  /-- After the first dash of what may be a comment. -/
  | dash (rest : List Char)
  /-- In a comment. -/
  | comment (rest : List Char)

/-- The phase after the character `c` of a gap, or `none` when the literal has ended. -/
def Phase.afterGap (comments : Bool) (rest : List Char) (newline : Bool) (c : Char) :
    Option Phase :=
  if isNewline c then some (.gap rest true)
  else if isBlank c then some (.gap rest newline)
  else if c = quote ∧ newline then some .inside
  else if c = '-' ∧ comments then some (.dash rest)
  else none

/-- Go on from a phase, with the part `value` read so far: the value of the literal, and the
text it leaves.  The character U+0000 ends the text. -/
def scan (comments : Bool) : Phase → List Char → List Char → Option (List Char × List Char)
  | .inside, _, [] => none
  | .inside, value, c :: cs =>
      if c = '\x00' then none
      else if c = quote then scan comments .quoted value cs
      else scan comments .inside (value ++ [c]) cs
  | .quoted, value, [] => some (value, [])
  | .quoted, value, c :: cs =>
      if c = quote then scan comments .inside (value ++ [quote]) cs
      else match Phase.afterGap comments (c :: cs) false c with
        | some phase => scan comments phase value cs
        | none => some (value, c :: cs)
  | .gap rest _, value, [] => some (value, rest)
  | .gap rest newline, value, c :: cs =>
      match Phase.afterGap comments rest newline c with
      | some phase => scan comments phase value cs
      | none => some (value, rest)
  | .dash rest, value, [] => some (value, rest)
  | .dash rest, value, c :: cs =>
      if c = '-' then scan comments (.comment rest) value cs else some (value, rest)
  | .comment rest, value, [] => some (value, rest)
  | .comment rest, value, c :: cs =>
      if isNewline c then scan comments (.gap rest true) value cs
      else scan comments (.comment rest) value cs

/-- Read the literal a text begins with. -/
def readLiteral (comments : Bool) : List Char → Option (List Char × List Char)
  | [] => none
  | c :: cs => if c = quote then scan comments .inside [] cs else none

/-! ## Texts that continue a literal -/

/-- White space between two parts of a literal.  The flag tells whether it has a newline. -/
inductive Gap (comments : Bool) : Bool → List Char → Prop where
  | nil : Gap comments false []
  | blank {c : Char} {newline : Bool} {cs : List Char} : isBlank c = true →
      Gap comments newline cs → Gap comments newline (c :: cs)
  | newline {c : Char} {newline : Bool} {cs : List Char} : isNewline c = true →
      Gap comments newline cs → Gap comments true (c :: cs)
  | comment {text : List Char} {c : Char} {newline : Bool} {cs : List Char} : comments = true →
      (∀ d ∈ text, isNewline d = false) → isNewline c = true → Gap comments newline cs →
      Gap comments true ('-' :: '-' :: (text ++ c :: cs))

/-- The text begins with a quote, at once or after white space with a newline in it. -/
def Continues (comments : Bool) (text : List Char) : Prop :=
  ∃ rest, text = quote :: rest ∨ ∃ gap, Gap comments true gap ∧ text = gap ++ quote :: rest

/-- From a phase of a gap the scanner finds the literal continued. -/
def Resumes (comments : Bool) : Phase → List Char → Prop
  | .inside, _ => True
  | .quoted, _ => True
  | .gap _ newline, cs => ∃ newline' gap rest, Gap comments newline' gap ∧
      (newline || newline') = true ∧ cs = gap ++ quote :: rest
  | .dash _, cs => ∃ newline text c gap rest, (∀ d ∈ text, isNewline d = false) ∧
      isNewline c = true ∧ Gap comments newline gap ∧
      cs = '-' :: (text ++ c :: gap ++ quote :: rest)
  | .comment _, cs => ∃ newline text c gap rest, (∀ d ∈ text, isNewline d = false) ∧
      isNewline c = true ∧ Gap comments newline gap ∧ cs = text ++ c :: gap ++ quote :: rest

/-- What a phase of a gap leaves if the literal has ended. -/
def Phase.left : Phase → List Char
  | .gap rest _ | .dash rest | .comment rest => rest
  | .inside | .quoted => []

variable {comments newline : Bool} {phase : Phase} {value rest cs : List Char} {c : Char}

/-- A literal that is not continued at a character of a gap is not continued after it. -/
theorem not_resumes_afterGap (h : Phase.afterGap comments rest newline c = some phase)
    (hr : ¬ Resumes comments (.gap rest newline) (c :: cs)) :
    ¬ Resumes comments phase cs ∧ phase.left = rest := by
  rw [Phase.afterGap] at h
  split at h
  case isTrue hc =>
    cases h
    refine ⟨?_, rfl⟩
    rintro ⟨newline', gap, rest', hgap, _, rfl⟩
    exact hr ⟨true, c :: gap, rest', .newline hc hgap, by simp, rfl⟩
  case isFalse =>
    split at h
    case isTrue hc =>
      cases h
      refine ⟨?_, rfl⟩
      rintro ⟨newline', gap, rest', hgap, hor, rfl⟩
      exact hr ⟨newline', c :: gap, rest', .blank hc hgap, hor, rfl⟩
    case isFalse =>
      split at h
      case isTrue hc =>
        obtain ⟨rfl, rfl⟩ := hc
        exact absurd ⟨false, [], cs, .nil, rfl, rfl⟩ hr
      case isFalse =>
        split at h
        case isTrue hc =>
          obtain ⟨rfl, hcomments⟩ := hc
          cases h
          refine ⟨?_, rfl⟩
          rintro ⟨newline', text, d, gap, rest', htext, hd, hgap, rfl⟩
          exact hr ⟨true, '-' :: '-' :: (text ++ d :: gap), rest',
            .comment hcomments htext hd hgap, by simp, by simp⟩
        case isFalse => cases h

/-- A literal that is not continued after a gap has ended before it. -/
theorem scan_of_not_resumes (h : ¬ Resumes comments phase cs) :
    scan comments phase value cs = some (value, phase.left) := by
  induction cs generalizing phase with
  | nil =>
      cases phase with
      | inside | quoted => exact absurd trivial h
      | gap | dash | comment => rfl
  | cons c cs ih =>
      cases phase with
      | inside | quoted => exact absurd trivial h
      | gap rest newline =>
          rw [scan]
          cases hg : Phase.afterGap comments rest newline c with
          | none => rfl
          | some phase =>
              obtain ⟨hnext, hleft⟩ := not_resumes_afterGap hg h
              exact (ih hnext).trans (by rw [hleft]; rfl)
      | dash rest =>
          rw [scan]
          split
          case isTrue hc =>
            refine ih ?_
            rintro ⟨newline, text, d, gap, rest', htext, hd, hgap, rfl⟩
            exact h ⟨newline, text, d, gap, rest', htext, hd, hgap, by rw [hc]⟩
          case isFalse => rfl
      | comment rest =>
          rw [scan]
          split
          case isTrue hc =>
            refine ih ?_
            rintro ⟨newline', gap, rest', hgap, _, rfl⟩
            exact h ⟨newline', [], c, gap, rest', nofun, hc, hgap, rfl⟩
          case isFalse hc =>
            refine ih ?_
            rintro ⟨newline', text, d, gap, rest', htext, hd, hgap, rfl⟩
            refine h ⟨newline', c :: text, d, gap, rest', ?_, hd, hgap, rfl⟩
            simpa [hc] using htext

/-- After a quote that no text continues, the literal has ended. -/
theorem scan_quoted (h : ¬ Continues comments cs) :
    scan comments .quoted value cs = some (value, cs) := by
  have hgap : ¬ Resumes comments (.gap cs false) cs := by
    rintro ⟨newline, gap, rest, hgap, hnewline, he⟩
    rw [Bool.false_or] at hnewline
    exact h ⟨rest, Or.inr ⟨gap, hnewline ▸ hgap, he⟩⟩
  have hscan : scan comments (.gap cs false) value cs = some (value, cs) :=
    scan_of_not_resumes hgap
  cases cs with
  | nil => rfl
  | cons c cs =>
      have hc : c ≠ quote := by
        rintro rfl
        exact h ⟨cs, Or.inl rfl⟩
      rw [scan, if_neg hc]
      rwa [scan] at hscan

/-! ## Encoding -/

/-- The characters with every quote doubled. -/
def double : List Char → List Char
  | [] => []
  | c :: cs => if c = quote then quote :: quote :: double cs else c :: double cs

/-- The literal of a value. -/
def encode (value : List Char) : List Char := quote :: (double value ++ [quote])

/-- The scanner reads the doubled characters back, whatever it has read before. -/
theorem scan_double {s : List Char} (hs : '\x00' ∉ s) (value : List Char) :
    scan comments .inside value (double s ++ quote :: rest) =
      scan comments .quoted (value ++ s) rest := by
  induction s generalizing value with
  | nil => simp [double, scan, show quote ≠ '\x00' by decide]
  | cons c cs ih =>
      rw [List.mem_cons, not_or] at hs
      rw [double]
      split
      case isTrue hc =>
        -- the first of the two quotes leads to `quoted`, and the second back
        have hread : scan comments .inside value (quote :: quote :: (double cs ++ quote :: rest)) =
            scan comments .inside (value ++ [quote]) (double cs ++ quote :: rest) := by
          rw [scan, if_neg (by decide), if_pos rfl, scan, if_pos rfl]
        rw [List.cons_append, List.cons_append, hread, ih hs.2, hc]
        simp
      case isFalse hc =>
        rw [List.cons_append, scan, if_neg (Ne.symm hs.1), if_neg hc, ih hs.2]
        simp

/-- An encoded value is read as one literal, and what follows it is left. -/
theorem readLiteral_encode {s : List Char} (hs : '\x00' ∉ s) (h : ¬ Continues comments rest) :
    readLiteral comments (encode s ++ rest) = some (s, rest) := by
  rw [encode, List.cons_append, readLiteral, if_pos rfl, List.append_assoc, List.singleton_append,
    scan_double hs, scan_quoted h, List.nil_append]

/-- A newline between two literals makes them one. -/
example : readLiteral true "'it''s' -- one\n  'it';".toList =
    some ("it'sit".toList, ";".toList) := by
  decide

/-- Two values have different literals. -/
theorem encode_injective {s t : List Char} (h : encode s = encode t) : s = t := by
  have hd : double s = double t := by simpa [encode] using h
  clear h
  induction s generalizing t with
  | nil =>
      cases t with
      | nil => rfl
      | cons d ds =>
          rw [double, double] at hd
          split at hd <;> cases hd
  | cons c cs ih =>
      cases t with
      | nil =>
          rw [double, double] at hd
          split at hd <;> cases hd
      | cons d ds =>
          rw [double, double] at hd
          split at hd <;> split at hd
          case isTrue.isTrue hc hd' =>
            rw [hc, hd', ih (by simpa using hd)]
          case isTrue.isFalse hc hd' =>
            exact absurd (List.cons.inj hd).1.symm hd'
          case isFalse.isTrue hc hd' =>
            exact absurd (List.cons.inj hd).1 hc
          case isFalse.isFalse hc hd' =>
            obtain ⟨rfl, htail⟩ := List.cons.inj hd
            rw [ih htail]

/-! ## Texts -/

/-- Code that holds no quote and opens neither a comment nor another kind of quotation. -/
def plainCode : List Char → Bool
  | [] => true
  | '-' :: '-' :: _ => false
  | '/' :: '*' :: _ => false
  | c :: cs => c != quote && c != '"' && c != '$' && plainCode cs

/-- The code does not end in a prefix, such as the `E` of `E'...'`, that would make what
follows another kind of literal. -/
def endsToken (code : List Char) : Bool :=
  match code.getLast? with
  | none => true
  | some c => !(c.isAlphanum || c == '_' || c == '&' || 128 ≤ c.toNat)

/-- A text is some code, and then literals, each with the code after it. -/
inductive Lexes (comments : Bool) :
    List Char → List Char → List (List Char × List Char) → Prop where
  | code {code : List Char} : plainCode code = true → Lexes comments code code []
  | literal {code text value rest next : List Char} {tail : List (List Char × List Char)} :
      plainCode code = true → endsToken code = true →
      readLiteral comments text = some (value, rest) → Lexes comments rest next tail →
      Lexes comments (code ++ text) code ((value, next) :: tail)

/-- The text that consists of some code and of encoded values, each with the code after it. -/
def assemble (code : List Char) : List (List Char × List Char) → List Char
  | [] => code
  | (value, next) :: tail => code ++ (encode value ++ assemble next tail)

/-- After white space, the code has a character that ends a literal before it. -/
def interrupts : List Char → Bool
  | [] => false
  | c :: cs =>
      if isBlank c || isNewline c then interrupts cs else c != quote && c != '-'

/-- Code, and the code after each of some literals, can stand around literals of any values. -/
def codesFit : List Char → List (List Char) → Bool
  | code, [] => plainCode code
  | code, next :: codes =>
      plainCode code && endsToken code && interrupts next && codesFit next codes

theorem not_gap_of_interrupts {gap text : List Char} (hgap : Gap comments newline gap)
    (h : interrupts cs = true) : cs ++ text ≠ gap ++ quote :: rest := by
  induction hgap generalizing cs with
  | nil =>
      cases cs with
      | nil => cases h
      | cons c cs =>
          rintro he
          obtain ⟨rfl, -⟩ := List.cons.inj he
          simp [interrupts, isBlank, isNewline, quote] at h
  | @blank d newline ds hd _ ih | @newline d newline ds hd _ ih =>
      cases cs with
      | nil => cases h
      | cons c cs =>
          rintro he
          obtain ⟨rfl, htail⟩ := List.cons.inj he
          rw [interrupts, hd] at h
          simp only [Bool.true_or, Bool.or_true, if_true] at h
          exact ih h htail
  | comment _ _ _ _ _ =>
      cases cs with
      | nil => cases h
      | cons c cs =>
          rintro he
          obtain ⟨rfl, -⟩ := List.cons.inj he
          simp [interrupts, isBlank, isNewline] at h

theorem not_continues_of_interrupts {text : List Char} (h : interrupts cs = true) :
    ¬ Continues comments (cs ++ text) := by
  rintro ⟨rest, he | ⟨gap, hgap, he⟩⟩
  · exact not_gap_of_interrupts (Gap.nil : Gap comments false []) h he
  · exact not_gap_of_interrupts hgap h he

theorem not_continues_assemble {next : List Char} {tail : List (List Char × List Char)}
    (h : interrupts next = true) : ¬ Continues comments (assemble next tail) := by
  cases tail with
  | nil =>
      have hnil : ¬ Continues comments (next ++ []) := not_continues_of_interrupts h
      rwa [List.append_nil] at hnil
  | cons pair tail => exact not_continues_of_interrupts h

/-- An assembled text is taken apart into the code and the values it was made of. -/
theorem lexes_assemble {code : List Char} {tail : List (List Char × List Char)}
    (hcodes : codesFit code (tail.map Prod.snd) = true)
    (hvalues : ∀ part ∈ tail, '\x00' ∉ part.1) :
    Lexes comments (assemble code tail) code tail := by
  induction tail generalizing code with
  | nil => exact .code hcodes
  | cons part tail ih =>
      obtain ⟨value, next⟩ := part
      rw [List.map_cons, codesFit, Bool.and_eq_true, Bool.and_eq_true, Bool.and_eq_true] at hcodes
      obtain ⟨⟨⟨hplain, hends⟩, hnext⟩, hrest⟩ := hcodes
      have hvalue : '\x00' ∉ value := hvalues (value, next) List.mem_cons_self
      exact .literal hplain hends (readLiteral_encode hvalue (not_continues_assemble hnext))
        (ih hrest fun part hp => hvalues part (List.mem_cons_of_mem _ hp))

theorem quote_notMem_of_plainCode {code : List Char} (h : plainCode code = true) :
    quote ∉ code := by
  fun_induction plainCode code with
  | case1 => exact List.not_mem_nil
  | case2 => cases h
  | case3 => cases h
  | case4 c cs _ _ ih =>
      simp only [Bool.and_eq_true, bne_iff_ne] at h
      rw [List.mem_cons, not_or]
      exact ⟨Ne.symm h.1.1.1, ih h.2⟩

/-- A list is divided at the first occurrence of an element in one way. -/
theorem append_cons_unique {α : Type} {a : α} {xs xs' ys ys' : List α} (h : a ∉ xs) (h' : a ∉ xs')
    (he : xs ++ a :: ys = xs' ++ a :: ys') : xs = xs' ∧ ys = ys' := by
  induction xs generalizing xs' with
  | nil =>
      cases xs' with
      | nil => exact ⟨rfl, (List.cons.inj he).2⟩
      | cons x xs' =>
          rw [(List.cons.inj he).1] at h'
          exact absurd List.mem_cons_self h'
  | cons x xs ih =>
      cases xs' with
      | nil =>
          rw [(List.cons.inj he).1] at h
          exact absurd List.mem_cons_self h
      | cons x' xs' =>
          obtain ⟨rfl, htail⟩ := List.cons.inj he
          obtain ⟨rfl, rfl⟩ := ih (fun hm => h (List.mem_cons_of_mem x hm))
            (fun hm => h' (List.mem_cons_of_mem x hm)) htail
          exact ⟨rfl, rfl⟩

theorem readLiteral_cons {text : List Char} {r : List Char × List Char}
    (h : readLiteral comments text = some r) : ∃ cs, text = quote :: cs := by
  cases text with
  | nil => cases h
  | cons c cs =>
      rw [readLiteral] at h
      split at h
      case isTrue hc => exact ⟨cs, by rw [hc]⟩
      case isFalse => cases h

/-- There is only one way to take a text apart. -/
theorem Lexes.unique {text code code' : List Char} {tail tail' : List (List Char × List Char)}
    (h : Lexes comments text code tail) (h' : Lexes comments text code' tail') :
    code = code' ∧ tail = tail' := by
  induction h generalizing code' tail' with
  | @code code hplain =>
      cases h' with
      | code => exact ⟨rfl, rfl⟩
      | literal _ _ hread _ =>
          obtain ⟨cs, rfl⟩ := readLiteral_cons hread
          exact absurd (by simp) (quote_notMem_of_plainCode hplain)
  | @literal code text value rest next tail hplain _ hread _ ih =>
      obtain ⟨cs, rfl⟩ := readLiteral_cons hread
      generalize htext : code ++ quote :: cs = whole at h'
      cases h' with
      | code hplain' =>
          exact absurd (by simp [← htext]) (quote_notMem_of_plainCode hplain')
      | literal hplain' _ hread' hrest' =>
          obtain ⟨cs', rfl⟩ := readLiteral_cons hread'
          obtain ⟨rfl, rfl⟩ := append_cons_unique (quote_notMem_of_plainCode hplain)
            (quote_notMem_of_plainCode hplain') htext
          rw [hread] at hread'
          cases hread'
          obtain ⟨rfl, rfl⟩ := ih hrest'
          exact ⟨rfl, rfl⟩

end StorePulse.Sql
