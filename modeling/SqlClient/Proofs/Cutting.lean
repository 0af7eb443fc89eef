import SqlClient.Proofs.Legible
import SqlClient.Proofs.Numbering

/-!
# Cutting

What the pieces of a text are, said by a grammar instead of the scan: quoted sections, comments,
casts, placeholders and single characters, each with what may follow it. Every text is cut in one
way only, and binding replaces the placeholders of that cut and nothing else.
-/

namespace SqlClient

namespace Piece

/-! ## Grammar -/

/-- The characters that begin a quoted section, which the same character ends. -/
def quotes : List Char :=
  ['\'', '"', '\x60']

/-- Backslashes escape in the strings of one dialect, which stand in two kinds of quotes. -/
def Escapes (dialect : Dialect) (quote : Char) : Prop :=
  dialect = .mysql ∧ (quote = '\'' ∨ quote = '"')

/-- The inside of a quoted section. -/
inductive Content (dialect : Dialect) (quote : Char) : List Char → Prop where
  | nil : Content dialect quote []
  /-- A character that neither ends the section nor escapes the next one. -/
  | plain {char : Char} {inner : List Char} (other : char ≠ quote)
      (unescaped : Escapes dialect quote → char ≠ '\\') (content : Content dialect quote inner) :
      Content dialect quote (char :: inner)
  /-- A doubled quote. -/
  | doubled {inner : List Char} (content : Content dialect quote inner) :
      Content dialect quote (quote :: quote :: inner)
  /-- A backslash and any character. -/
  | escaped {char : Char} {inner : List Char} (escapes : Escapes dialect quote)
      (content : Content dialect quote inner) : Content dialect quote ('\\' :: char :: inner)

/-- The rest of a quoted section, with its closing quote, in front of a text. -/
inductive Closes (dialect : Dialect) (quote : Char) : List Char → List Char → Prop where
  /-- The closing quote; a second one behind it would be inside. -/
  | ended {inner rest : List Char} (content : Content dialect quote inner)
      (single : rest.head? ≠ some quote) : Closes dialect quote (inner ++ [quote]) rest
  /-- No closing quote, perhaps a backslash as the last character. -/
  | unended {inner last : List Char} (content : Content dialect quote inner)
      (ends : last = [] ∨ Escapes dialect quote ∧ last = ['\\']) :
      Closes dialect quote (inner ++ last) []

/-- The rest of a block comment, with its end, in front of a text. -/
inductive Ends : List Char → List Char → Prop where
  /-- The first end of a comment. -/
  | ended {inner : List Char} (within : ¬['*', '/'] <:+: inner) (rest : List Char) :
      Ends (inner ++ ['*', '/']) rest
  /-- No end. -/
  | unended {inner : List Char} (within : ¬['*', '/'] <:+: inner) : Ends inner []

/-- A piece may stand in front of a text. -/
inductive Leads (dialect : Dialect) : Piece → List Char → Prop where
  /-- A quoted section. -/
  | quoted {quote : Char} {inner rest : List Char} (quoting : quote ∈ quotes)
      (closes : Closes dialect quote inner rest) : Leads dialect (.fixed (quote :: inner)) rest
  /-- A comment up to the end of the line. -/
  | line {inner rest : List Char} (within : '\n' ∉ inner)
      (ends : rest = [] ∨ rest.head? = some '\n') :
      Leads dialect (.fixed ('-' :: '-' :: inner)) rest
  /-- A comment up to its end. -/
  | block {inner rest : List Char} (ends : Ends inner rest) :
      Leads dialect (.fixed ('/' :: '*' :: inner)) rest
  /-- Two colons. -/
  | cast (rest : List Char) : Leads dialect (.fixed [':', ':']) rest
  /-- A colon and the longest name behind it. -/
  | name {letters rest : List Char} (valid : isParamName letters = true)
      (longest : ∀ next ∈ rest.head?, isParamName (letters ++ [next]) = false) :
      Leads dialect (.name letters) rest
  /-- A question mark where it is a placeholder. -/
  | mark (numbered : dialect = .postgres) (rest : List Char) : Leads dialect .mark rest
  /-- A single character with which nothing else begins. -/
  | plain {char : Char} {rest : List Char} (unquoted : char ∉ quotes)
      (minus : char = '-' → rest.head? ≠ some '-') (slash : char = '/' → rest.head? ≠ some '*')
      (colon : char = ':' → ∀ next ∈ rest.head?, next ≠ ':' ∧ isParamName [next] = false)
      (unnumbered : char = '?' → dialect ≠ .postgres) : Leads dialect (.fixed [char]) rest

/-- A text is cut into pieces. -/
inductive Cut (dialect : Dialect) : List Char → List Piece → Prop where
  | nil : Cut dialect [] []
  | cons {piece : Piece} {rest : List Char} {pieces : List Piece}
      (leads : Leads dialect piece rest) (cut : Cut dialect rest pieces) :
      Cut dialect (piece.chars ++ rest) (piece :: pieces)

/-- The pieces of a cut make up the text. -/
theorem Cut.flatMap_chars {dialect : Dialect} {chars : List Char} {pieces : List Piece}
    (cut : Cut dialect chars pieces) : pieces.flatMap Piece.chars = chars := by
  induction cut with
  | nil => rfl
  | cons leads cut ih => rw [List.flatMap_cons, ih]

theorem isQuote_iff (char : Char) : isQuote char = true ↔ char ∈ quotes := by
  simp [isQuote, quotes, or_assoc]

theorem hasBackslash_iff {dialect : Dialect} {quote : Char} (quoting : quote ∈ quotes) :
    hasBackslash dialect quote = true ↔ Escapes dialect quote := by
  simp only [quotes, List.mem_cons, List.not_mem_nil, or_false] at quoting
  obtain rfl | rfl | rfl := quoting <;> simp [hasBackslash, Escapes]

theorem ne_backslash_of_mem_quotes {quote : Char} (quoting : quote ∈ quotes) : quote ≠ '\\' := by
  rintro rfl
  exact absurd quoting (by decide)

/-! ## Quoted sections -/

section Sections

variable {dialect : Dialect} {quote : Char}

theorem Content.append {left right : List Char} (first : Content dialect quote left)
    (second : Content dialect quote right) : Content dialect quote (left ++ right) := by
  induction first with
  | nil => exact second
  | plain other unescaped _ ih => exact .plain other unescaped ih
  | doubled _ ih => exact .doubled ih
  | escaped escapes _ ih => exact .escaped escapes ih

/-- The inside of a section does not end it. -/
theorem Content.inside {inner : List Char} (quoting : quote ∈ quotes)
    (content : Content dialect quote inner) : Inside (hasBackslash dialect quote) quote inner := by
  induction content with
  | nil => exact inside_nil _ _
  | plain other unescaped _ ih =>
      refine inside_append (inside_single other ?_) ih
      rw [hasBackslash_iff quoting]
      exact unescaped
  | doubled _ ih => exact inside_append (inside_pair (.inr ⟨rfl, rfl⟩)) ih
  | escaped escapes _ ih =>
      exact inside_append (inside_pair (.inl ⟨(hasBackslash_iff quoting).2 escapes, rfl⟩)) ih

theorem Closes.extend {before inner rest : List Char} (content : Content dialect quote before)
    (closes : Closes dialect quote inner rest) : Closes dialect quote (before ++ inner) rest := by
  cases closes with
  | ended later single =>
      rw [← List.append_assoc]
      exact .ended (content.append later) single
  | unended later ends =>
      rw [← List.append_assoc]
      exact .unended (content.append later) ends

theorem closes_closeQuote (quoting : quote ∈ quotes) (chars : List Char) :
    Closes dialect quote (closeQuote (hasBackslash dialect quote) quote chars).1
      (closeQuote (hasBackslash dialect quote) quote chars).2 := by
  fun_induction closeQuote (hasBackslash dialect quote) quote chars with
  | case1 => exact .unended .nil (.inl rfl)
  | case2 char =>
      by_cases closes : char = quote
      · exact closes ▸ .ended .nil (by simp)
      · by_cases escapes : Escapes dialect quote ∧ char = '\\'
        · exact escapes.2 ▸ .unended .nil (.inr ⟨escapes.1, rfl⟩)
        · have plain : Escapes dialect quote → char ≠ '\\' := fun escaping backslash =>
            escapes ⟨escaping, backslash⟩
          exact .unended (.plain closes plain .nil) (.inl rfl)
  | case3 char next rest paired inner after closed ih =>
      have pair : Content dialect quote [char, next] := by
        simp only [Bool.or_eq_true, Bool.and_eq_true, beq_iff_eq, hasBackslash_iff quoting]
          at paired
        obtain ⟨escapes, rfl⟩ | ⟨rfl, rfl⟩ := paired
        · exact .escaped escapes .nil
        · exact .doubled .nil
      rw [closed] at ih
      exact ih.extend pair
  | case4 char next rest unpaired closes =>
      obtain rfl : char = quote := by simpa using closes
      -- A second quote behind it would have made a pair.
      refine .ended .nil ?_
      rintro same
      obtain rfl : next = char := by simpa using same
      simp at unpaired
  | case5 char next rest unpaired other inner after closed ih =>
      have different : char ≠ quote := by simpa using other
      have plain : Escapes dialect quote → char ≠ '\\' := by
        rintro escapes rfl
        simp [(hasBackslash_iff quoting).2 escapes] at unpaired
      rw [closed] at ih
      exact ih.extend (.plain different plain .nil)

theorem closeQuote_of_closes {inner rest : List Char} (quoting : quote ∈ quotes)
    (closes : Closes dialect quote inner rest) :
    closeQuote (hasBackslash dialect quote) quote (inner ++ rest) = (inner, rest) := by
  cases closes with
  | ended content single =>
      rw [List.append_assoc, content.inside quoting, List.singleton_append,
        closeQuote_quote (ne_backslash_of_mem_quotes quoting) single]
  | unended content ends =>
      rw [List.append_nil, content.inside quoting]
      obtain rfl | ⟨-, rfl⟩ := ends <;> rfl

end Sections

/-! ## Comments -/

theorem infix_end_cons_iff (char : Char) (chars : List Char) :
    ['*', '/'] <:+: char :: chars ↔
      (char = '*' ∧ chars.head? = some '/') ∨ ['*', '/'] <:+: chars := by
  rw [List.infix_cons_iff, List.cons_prefix_cons]
  apply or_congr_left
  cases chars with
  | nil => simp
  | cons next rest => simp [eq_comm]

theorem Ends.extend {char : Char} {inner rest : List Char}
    (other : char = '*' → inner.head? ≠ some '/') (ends : Ends inner rest) :
    Ends (char :: inner) rest := by
  cases ends with
  | @ended inner within rest =>
      rw [← List.cons_append]
      refine .ended ?_ rest
      rw [infix_end_cons_iff]
      rintro (⟨star, slash⟩ | sooner)
      · exact other star (by simp [slash])
      · exact within sooner
  | unended within =>
      refine .unended ?_
      rw [infix_end_cons_iff]
      rintro (⟨star, slash⟩ | sooner)
      · exact other star slash
      · exact within sooner

theorem ends_closeComment (chars : List Char) :
    Ends (closeComment chars).1 (closeComment chars).2 := by
  fun_induction closeComment chars with
  | case1 => exact .unended (by decide)
  | case2 char =>
      refine .unended ?_
      simp [infix_end_cons_iff]
  | case3 char next rest closes =>
      obtain ⟨rfl, rfl⟩ : char = '*' ∧ next = '/' := by simpa using closes
      have nothing : ¬['*', '/'] <:+: ([] : List Char) := by decide
      exact .ended nothing rest
  | case4 char next rest other inner after closed ih =>
      -- What the comment takes begins with the next character, so no end begins here.
      have whole := closeComment_append (next :: rest)
      rw [closed] at whole ih
      refine ih.extend ?_
      rintro rfl slash
      obtain ⟨later, rfl⟩ := List.head?_eq_some_iff.1 slash
      obtain rfl : '/' = next := (List.cons.inj whole).1
      simp at other

theorem closeComment_cons {char : Char} {chars : List Char}
    (other : char = '*' → chars.head? ≠ some '/') :
    closeComment (char :: chars) = (char :: (closeComment chars).1, (closeComment chars).2) := by
  cases chars with
  | nil => rfl
  | cons next rest =>
      have unpaired : (char == '*' && next == '/') = false := by
        by_cases star : char = '*'
        · simpa [star] using other star
        · simp [star]
      simp [closeComment, unpaired]

theorem closeComment_of_ends {inner rest : List Char} (ends : Ends inner rest) :
    closeComment (inner ++ rest) = (inner, rest) := by
  cases ends with
  | @ended inner within rest =>
      induction inner with
      | nil => simp [closeComment]
      | cons char inner ih =>
          rw [infix_end_cons_iff, not_or] at within
          have other : char = '*' → (inner ++ ['*', '/'] ++ rest).head? ≠ some '/' := by
            intro star
            cases inner with
            | nil => simp
            | cons next inner => simpa using fun slash => within.1 ⟨star, by simp [slash]⟩
          rw [List.cons_append, List.cons_append, closeComment_cons other, ih within.2]
  | unended within =>
      rw [List.append_nil]
      induction inner with
      | nil => rfl
      | cons char inner ih =>
          rw [infix_end_cons_iff, not_or, not_and] at within
          rw [closeComment_cons within.1, ih within.2]

/-! ## Pieces -/

section Pieces

variable {dialect : Dialect}

theorem isParamName_append_iff {letters : List Char} (valid : isParamName letters = true)
    (next : Char) : isParamName (letters ++ [next]) = continuesName next := by
  cases letters with
  | nil => simp [isParamName] at valid
  | cons char letters =>
      rw [isParamName, Bool.and_eq_true] at valid
      simp [isParamName, continuesName, valid.1, valid.2]

theorem isParamName_single (char : Char) : isParamName [char] = startsName char := by
  simp [isParamName, startsName]

theorem head?_dropWhile_eq {test : Char → Bool} {chars : List Char} {char : Char}
    (next : (chars.dropWhile test).head? = some char) : test char = false := by
  simpa [next] using List.head?_dropWhile_not test chars

theorem leads_line (rest : List Char) :
    Leads dialect (.fixed ('-' :: '-' :: rest.takeWhile (· != '\n')))
      (rest.dropWhile (· != '\n')) := by
  refine .line ?_ ?_
  · intro newline
    simpa using List.all_eq_true.1 List.all_takeWhile _ newline
  · cases later : rest.dropWhile (· != '\n') with
    | nil => exact .inl rfl
    | cons next after =>
        have stops := head?_dropWhile_eq (by rw [later]; rfl)
        exact .inr (by simpa using stops)

theorem leads_name {char : Char} (starts : startsName char = true) (rest : List Char) :
    Leads dialect (.name ((char :: rest).takeWhile continuesName))
      ((char :: rest).dropWhile continuesName) := by
  refine .name (isParamName_takeWhile starts rest) ?_
  intro after later
  rw [isParamName_append_iff (isParamName_takeWhile starts rest)]
  exact head?_dropWhile_eq later

/-- The first piece is one that the grammar has there. -/
theorem leads_first (char : Char) (rest : List Char) :
    Leads dialect (first dialect char rest).1 (first dialect char rest).2 := by
  unfold first
  split
  · next quoting =>
    rw [isQuote_iff] at quoting
    exact .quoted quoting (closes_closeQuote quoting rest)
  · next other =>
    rw [isQuote_iff] at other
    split
    · next rest =>
      rw [List.takeWhile_cons_of_pos (by decide), List.dropWhile_cons_of_pos (by decide)]
      exact leads_line rest
    · next rest => exact .block (ends_closeComment rest)
    · next rest => exact .cast rest
    · next next rest double =>
      split
      · next starts => exact leads_name starts rest
      · next starts =>
        refine .plain other (by simp) (by simp) ?_ (by simp)
        rintro - after behind
        obtain rfl : next = after := by simpa using behind
        exact ⟨double, by simpa [isParamName_single] using starts⟩
    · split
      · next numbered => exact .mark numbered _
      · next unnumbered => exact .plain other (by simp) (by simp) (by simp) fun _ => unnumbered
    -- None of the characters that begin something is followed by what it needs.
    · next mark minus slash double colon =>
      refine .plain other ?_ ?_ ?_ fun question => (mark question).elim
      · intro same next
        obtain ⟨later, rfl⟩ := List.head?_eq_some_iff.1 next
        exact minus later same rfl
      · intro same next
        obtain ⟨later, rfl⟩ := List.head?_eq_some_iff.1 next
        exact slash later same rfl
      · intro same next behind
        obtain ⟨later, rfl⟩ := List.head?_eq_some_iff.1 behind
        exact (colon next later same rfl).elim

theorem first_line {inner rest : List Char} (within : '\n' ∉ inner)
    (ends : rest = [] ∨ rest.head? = some '\n') :
    first dialect '-' ('-' :: (inner ++ rest)) = (.fixed ('-' :: '-' :: inner), rest) := by
  have inside : ∀ char ∈ inner, (char != '\n') = true := by
    intro char member
    have different : char ≠ '\n' := by
      rintro rfl
      exact within member
    simpa using different
  have stops : ∀ next ∈ rest.head?, (next != '\n') = false := by
    intro next behind
    obtain rfl | newline := ends
    · simp at behind
    · rw [newline, Option.mem_some_iff] at behind
      simp [← behind]
  obtain ⟨taken, dropped⟩ := span_append inside stops
  simp [first, isQuote, taken, dropped]

/-- Where the grammar has a piece, it is the first one. -/
theorem first_of_leads {piece : Piece} {rest : List Char} (leads : Leads dialect piece rest) :
    ∃ char later, piece.chars ++ rest = char :: later ∧
      first dialect char later = (piece, rest) := by
  cases leads with
  | @quoted quote inner _ quoting closes =>
      refine ⟨quote, inner ++ rest, rfl, ?_⟩
      unfold first
      rw [if_pos ((isQuote_iff quote).2 quoting), closeQuote_of_closes quoting closes]
  | @line inner _ within ends =>
      exact ⟨'-', '-' :: (inner ++ rest), rfl, first_line within ends⟩
  | @block inner _ ends =>
      refine ⟨'/', '*' :: inner ++ rest, rfl, ?_⟩
      simp [first, isQuote, closeComment_of_ends ends]
  | cast => exact ⟨':', ':' :: rest, rfl, by simp [first, isQuote]⟩
  | @name letters _ valid longest =>
      refine ⟨':', letters ++ rest, rfl, ?_⟩
      have stops : ∀ next ∈ rest.head?, continuesName next = false := by
        intro next behind
        rw [← isParamName_append_iff valid]
        exact longest next behind
      exact first_name valid stops
  | mark numbered => exact ⟨'?', rest, rfl, by simp [first, isQuote, numbered]⟩
  | @plain char _ unquoted minus slash colon unnumbered =>
      refine ⟨char, rest, rfl, ?_⟩
      rw [← isQuote_iff] at unquoted
      unfold first
      rw [if_neg unquoted]
      split
      · simp at minus
      · simp at slash
      · simpa using colon rfl
      · have other := (colon rfl _ rfl).2
        rw [isParamName_single] at other
        simp [other]
      · simp [unnumbered rfl]
      · rfl

/-- The scan cuts a text as the grammar does, which does it in one way only. -/
theorem cut_iff (chars : List Char) (pieces : List Piece) :
    Cut dialect chars pieces ↔ pieces = ofChars dialect chars := by
  constructor
  · intro cut
    induction cut with
    | nil => rw [ofChars]
    | @cons piece rest pieces leads cut ih =>
        obtain ⟨char, later, same, begins⟩ := first_of_leads leads
        rw [same, ofChars, begins, ← ih]
  · rintro rfl
    fun_induction ofChars dialect chars with
    | case1 => exact .nil
    | case2 char rest ih =>
        have cut := Cut.cons (leads_first char rest) ih
        rwa [chars_first_append] at cut

end Pieces

end Piece

/-! ## Binding -/

theorem bind_ok_eq_error {ε α β : Type} {first : Except ε α} {change : α → β} {error : ε} :
    (first >>= fun value => .ok (change value)) = .error error ↔ first = .error error := by
  cases first <;> simp [Bind.bind, Except.bind]

namespace Params

open Piece

/-- A placeholder as it is written: a dollar sign and its number in decimal digits in one dialect, a
question mark in the others. -/
def spelling : Dialect → (position : Nat) → List Char
  | .postgres, position => '$' :: Nat.toDigits 10 position
  | .mysql, _ | .sqlite, _ => ['?']

theorem toList_placeholder (dialect : Dialect) (position : Nat) :
    (dialect.placeholder position).toList = spelling dialect position := by
  cases dialect <;> simp [Dialect.placeholder, spelling, Nat.toString_eq_repr, Nat.toList_repr]

/-- The text of pieces in which those of some kind are replaced by placeholders, numbered from a
position on. -/
def written (dialect : Dialect) (replaced : Piece → Bool) :
    (position : Nat) → List Piece → List Char
  | _, [] => []
  | position, piece :: rest =>
      if replaced piece then
        spelling dialect position ++ written dialect replaced (position + 1) rest
      else piece.chars ++ written dialect replaced position rest

def isMark : Piece → Bool
  | .mark => true
  | _ => false

def isPlaceholder : Piece → Bool
  | .fixed _ => false
  | _ => true

/-- The last entry of a name has a value. -/
def LastEntry (pairs : List (String × Scalar)) (name : String) (value : Scalar) : Prop :=
  ∃ before after, pairs = before ++ (name, value) :: after ∧ name ∉ after.map Prod.fst

/-- The first of some names without an entry. -/
def FirstMissing (pairs : List (String × Scalar)) (names : List String) (name : String) : Prop :=
  ∃ before after, names = before ++ name :: after ∧
    (∀ earlier ∈ before, earlier ∈ pairs.map Prod.fst) ∧ name ∉ pairs.map Prod.fst

theorem written_of_forall {dialect : Dialect} {replaced : Piece → Bool} {pieces : List Piece}
    (kept : ∀ piece ∈ pieces, replaced piece = false) (position : Nat) :
    written dialect replaced position pieces = pieces.flatMap Piece.chars := by
  induction pieces with
  | nil => rfl
  | cons piece rest ih =>
      obtain ⟨here, later⟩ := List.forall_mem_cons.1 kept
      simp [written, here, ih later]

theorem numberMarks_eq (dialect : Dialect) (position : Nat) (pieces : List Piece) :
    numberMarks dialect position pieces = written dialect isMark position pieces := by
  induction pieces generalizing position with
  | nil => rfl
  | cons piece rest ih => cases piece <;> simp [numberMarks, written, isMark, toList_placeholder, ih]

theorem flatten_replacements (dialect : Dialect) (position : Nat) (pieces : List Piece) :
    (replacements dialect position pieces).flatten =
      written dialect isPlaceholder position pieces := by
  induction pieces generalizing position with
  | nil => rfl
  | cons piece rest ih =>
      cases piece <;>
        simp [replacements, written, isPlaceholder, Piece.chars, toList_placeholder, ih]

theorem lastValue?_eq_some_iff {pairs : List (String × Scalar)} {name : String} {value : Scalar} :
    lastValue? pairs name = some value ↔ LastEntry pairs name value := by
  rw [lastValue?, List.lookup_eq_some_iff]
  constructor
  · rintro ⟨later, earlier, reversed, other⟩
    refine ⟨earlier.reverse, later.reverse, by simpa using congrArg List.reverse reversed, ?_⟩
    simpa using fun value member => by simpa using other (name, value) member
  · rintro ⟨before, after, rfl, other⟩
    refine ⟨after.reverse, before.reverse, by simp, ?_⟩
    rintro ⟨key, value⟩ member
    have different : name ≠ key := by
      rintro rfl
      exact other (List.mem_map_of_mem (List.mem_reverse.1 member))
    simpa using different

theorem lastValue?_eq_none_iff {pairs : List (String × Scalar)} {name : String} :
    lastValue? pairs name = Option.none ↔ name ∉ pairs.map Prod.fst := by
  rw [lastValue?, List.lookup_eq_none_iff]
  simp only [List.mem_reverse, bne_iff_ne, List.mem_map, not_exists, not_and]
  exact forall₂_congr fun entry _ => ne_comm

theorem bindNamed_of_lined {dialect : Dialect} {pairs : List (String × Scalar)} {position : Nat}
    {pieces : List Piece} {values : List Scalar}
    (lined : List.Forall₂ (fun name value => lastValue? pairs name = some value) (names pieces)
      values) :
    bindNamed dialect pairs position pieces =
      .ok ((replacements dialect position pieces).flatten, values) := by
  induction pieces generalizing position values with
  | nil =>
      obtain rfl := List.forall₂_nil_left_iff.1 lined
      rfl
  | cons piece rest ih =>
      cases piece with
      | fixed chars =>
          rw [bindNamed, ih lined]
          rfl
      | mark =>
          rw [bindNamed, ih lined]
          rfl
      | name letters =>
          obtain ⟨value, later, valued, behind, rfl⟩ := List.forall₂_cons_left_iff.1 lined
          simp only [bindNamed, valued, ih behind]
          rfl

theorem firstMissing_cons_iff {pairs : List (String × Scalar)} {first name : String}
    {rest : List String} :
    FirstMissing pairs (first :: rest) name ↔
      (first ∉ pairs.map Prod.fst ∧ first = name) ∨
        (first ∈ pairs.map Prod.fst ∧ FirstMissing pairs rest name) := by
  constructor
  · rintro ⟨before, after, same, present, missing⟩
    cases before with
    | nil =>
        obtain ⟨rfl, rfl⟩ := List.cons.inj same
        exact .inl ⟨missing, rfl⟩
    | cons earlier before =>
        obtain ⟨rfl, rfl⟩ := List.cons.inj same
        obtain ⟨here, later⟩ := List.forall_mem_cons.1 present
        exact .inr ⟨here, before, after, rfl, later, missing⟩
  · rintro (⟨missing, rfl⟩ | ⟨here, before, after, rfl, present, missing⟩)
    · exact ⟨[], rest, rfl, by simp, missing⟩
    · exact ⟨first :: before, after, rfl, List.forall_mem_cons.2 ⟨here, present⟩, missing⟩

theorem bindNamed_eq_error_iff {dialect : Dialect} {pairs : List (String × Scalar)}
    {position : Nat} {pieces : List Piece} {name : String} :
    bindNamed dialect pairs position pieces = .error ⟨name⟩ ↔
      FirstMissing pairs (names pieces) name := by
  induction pieces generalizing position with
  | nil => simp [bindNamed, names, FirstMissing]
  | cons piece rest ih =>
      cases piece with
      | fixed chars => simp [bindNamed, names, bind_ok_eq_error, ih]
      | mark => simp [bindNamed, names, bind_ok_eq_error, ih]
      | name letters =>
          rw [names, firstMissing_cons_iff]
          cases valued : lastValue? pairs (String.ofList letters) with
          | none =>
              have missing := lastValue?_eq_none_iff.1 valued
              simp [bindNamed, valued, missing]
          | some value =>
              have present : String.ofList letters ∈ pairs.map Prod.fst := by
                by_contra missing
                simp [lastValue?_eq_none_iff.2 missing] at valued
              simp only [bindNamed, valued, bind_ok_eq_error, ih, present, not_true, false_and,
                true_and, false_or]

theorem exists_firstMissing_iff {pairs : List (String × Scalar)} {names : List String} :
    (∃ name, FirstMissing pairs names name) ↔ ∃ name ∈ names, name ∉ pairs.map Prod.fst := by
  constructor
  · rintro ⟨name, before, after, rfl, -, missing⟩
    exact ⟨name, by simp, missing⟩
  · intro missing
    induction names with
    | nil => simp at missing
    | cons first rest ih =>
        by_cases here : first ∈ pairs.map Prod.fst
        · have later : ∃ name ∈ rest, name ∉ pairs.map Prod.fst := by
            obtain ⟨name, member, missing⟩ := missing
            obtain rfl | member := List.mem_cons.1 member
            · exact absurd here missing
            · exact ⟨name, member, missing⟩
          obtain ⟨name, missing⟩ := ih later
          exact ⟨name, firstMissing_cons_iff.2 (.inr ⟨here, missing⟩)⟩
        · exact ⟨first, firstMissing_cons_iff.2 (.inl ⟨here, rfl⟩)⟩

theorem bind_named_eq_error_iff {dialect : Dialect} {sql : String}
    {pairs : List (String × Scalar)} {name : String} :
    bind dialect sql (.named pairs) = .error ⟨name⟩ ↔
      FirstMissing pairs (names (ofChars dialect sql.toList)) name := by
  rw [bind, bind_ok_eq_error, bindNamed_eq_error_iff]

theorem bind_named_eq_ok_iff {dialect : Dialect} {sql out : String}
    {pairs : List (String × Scalar)} {values : List Scalar} :
    bind dialect sql (.named pairs) = .ok (out, values) ↔
      out.toList = written dialect isPlaceholder 1 (ofChars dialect sql.toList) ∧
        List.Forall₂ (LastEntry pairs) (names (ofChars dialect sql.toList)) values := by
  have entries : LastEntry pairs = fun name value => lastValue? pairs name = some value := by
    funext name value
    exact propext lastValue?_eq_some_iff.symm
  rw [← flatten_replacements, entries]
  constructor
  · intro bound
    obtain ⟨⟨text, lined⟩, scanned, same⟩ := bind_eq_ok.1 bound
    cases same
    rw [String.toList_ofList]
    exact bindNamed_eq_ok scanned
  · rintro ⟨text, lined⟩
    rw [bind, bindNamed_of_lined lined, ← text]
    simp [Bind.bind, Except.bind]

theorem bind_positional (dialect : Dialect) (sql : String) (values : List Scalar) :
    ∃ out, bind dialect sql (.positional values) = .ok (out, values) ∧
      out.toList = written dialect isMark 1 (ofChars dialect sql.toList) ∧
      (dialect ≠ .postgres → out = sql) := by
  by_cases numbered : dialect = .postgres
  · refine ⟨_, by rw [bind, if_pos numbered], ?_, absurd numbered⟩
    rw [String.toList_ofList, numberMarks_eq]
  · refine ⟨sql, by rw [bind, if_neg numbered], ?_, fun _ => rfl⟩
    have unmarked : ∀ piece ∈ ofChars dialect sql.toList, isMark piece = false := by
      intro piece member
      cases piece with
      | mark => exact absurd member (mark_not_mem_ofChars numbered sql.toList)
      | fixed | name => rfl
    rw [written_of_forall unmarked, flatMap_chars_ofChars]

/-- A text is cut in one way. Without parameters it stays as it is, positional values number the
question marks of one dialect from one on, and named values replace all placeholders: each name by
its last entry, where the first name without any is refused. All other pieces stay in their
places. -/
theorem bind_cut (dialect : Dialect) (sql : String) :
    ∃ pieces, (∀ others, Cut dialect sql.toList others ↔ others = pieces) ∧
      pieces.flatMap Piece.chars = sql.toList ∧
      bind dialect sql .none = .ok (sql, []) ∧
      (∀ values, ∃ out, bind dialect sql (.positional values) = .ok (out, values) ∧
        out.toList = written dialect isMark 1 pieces ∧ (dialect ≠ .postgres → out = sql)) ∧
      ∀ pairs,
        ((∃ error, bind dialect sql (.named pairs) = .error error) ↔
          ∃ name ∈ names pieces, name ∉ pairs.map Prod.fst) ∧
        (∀ name, bind dialect sql (.named pairs) = .error ⟨name⟩ ↔
          FirstMissing pairs (names pieces) name) ∧
        ∀ out values, bind dialect sql (.named pairs) = .ok (out, values) ↔
          out.toList = written dialect isPlaceholder 1 pieces ∧
            List.Forall₂ (LastEntry pairs) (names pieces) values := by
  have cut : Cut dialect sql.toList (ofChars dialect sql.toList) := (cut_iff _ _).2 rfl
  refine ⟨ofChars dialect sql.toList, cut_iff sql.toList, cut.flatMap_chars, rfl,
    bind_positional dialect sql, ?_⟩
  intro pairs
  refine ⟨?_, fun _ => bind_named_eq_error_iff, fun _ _ => bind_named_eq_ok_iff⟩
  rw [← exists_firstMissing_iff]
  constructor
  · rintro ⟨⟨name⟩, failed⟩
    exact ⟨name, bind_named_eq_error_iff.1 failed⟩
  · rintro ⟨name, missing⟩
    exact ⟨⟨name⟩, bind_named_eq_error_iff.2 missing⟩

end Params

end SqlClient
