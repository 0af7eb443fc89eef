import SqlClient.Placeholder
import SqlClient.Proofs.Template

/-!
# Legible templates

A template is legible when the scan for placeholders gives it back glyph by glyph: every slot as a
named placeholder and every other character as itself. Legibility is asked of a template in front
of any text that begins with a break, so that legible templates can be put together.
-/

namespace SqlClient

namespace Piece

/-- A piece cut into single characters; placeholders stay whole. -/
def split : Piece → List Piece
  | .fixed chars => chars.map fun char => .fixed [char]
  | .name letters => [.name letters]
  | .mark => [.mark]

/-- The pieces of a text cut into single characters and placeholders. -/
def scan (dialect : Dialect) (chars : List Char) : List Piece :=
  (ofChars dialect chars).flatMap split

@[simp] theorem scan_nil (dialect : Dialect) : scan dialect [] = [] := by
  simp [scan, ofChars]

theorem scan_cons (dialect : Dialect) (char : Char) (rest : List Char) :
    scan dialect (char :: rest) =
      (first dialect char rest).1.split ++ scan dialect (first dialect char rest).2 := by
  rw [scan, ofChars, List.flatMap_cons, scan]

/-- A character that is itself wherever it stands outside quotes. -/
def isOrdinary (char : Char) : Bool :=
  !isQuote char && char != '-' && char != '/' && char != ':' && char != '?'

theorem scan_ordinary_cons {dialect : Dialect} {char : Char} (rest : List Char)
    (ordinary : isOrdinary char = true) :
    scan dialect (char :: rest) = .fixed [char] :: scan dialect rest := by
  simp only [isOrdinary, Bool.and_eq_true, Bool.not_eq_true', bne_iff_ne, ne_eq] at ordinary
  obtain ⟨⟨⟨⟨quote, dash⟩, slash⟩, colon⟩, mark⟩ := ordinary
  have alone : first dialect char rest = (.fixed [char], rest) := by
    simp [first, quote]
    split <;> simp_all
  rw [scan_cons, alone]
  rfl

theorem scan_ordinary_append {dialect : Dialect} {chars : List Char} (rest : List Char)
    (ordinary : chars.all isOrdinary = true) :
    scan dialect (chars ++ rest) = chars.map (fun char => .fixed [char]) ++ scan dialect rest := by
  induction chars with
  | nil => rfl
  | cons char chars ih =>
      simp only [List.all_cons, Bool.and_eq_true] at ordinary
      rw [List.cons_append, scan_ordinary_cons _ ordinary.1, ih ordinary.2]
      rfl

/-! ## Quoted sections -/

/-- Characters that stay inside a quoted section, whatever follows them. -/
def Inside (backslash : Bool) (quote : Char) (inner : List Char) : Prop :=
  ∀ rest, closeQuote backslash quote (inner ++ rest) =
    (inner ++ (closeQuote backslash quote rest).1, (closeQuote backslash quote rest).2)

theorem inside_nil (backslash : Bool) (quote : Char) : Inside backslash quote [] :=
  fun _ => rfl

theorem inside_append {backslash : Bool} {quote : Char} {left right : List Char}
    (first : Inside backslash quote left) (second : Inside backslash quote right) :
    Inside backslash quote (left ++ right) := by
  intro rest
  rw [List.append_assoc, first, second]
  simp

theorem inside_flatMap {backslash : Bool} {quote : Char} {escape : Char → List Char}
    (each : ∀ char, Inside backslash quote (escape char)) (chars : List Char) :
    Inside backslash quote (chars.flatMap escape) := by
  induction chars with
  | nil => exact inside_nil backslash quote
  | cons char chars ih => exact inside_append (each char) ih

/-- A character that neither closes the section nor escapes the next one stays inside. -/
theorem inside_single {backslash : Bool} {quote char : Char} (other : char ≠ quote)
    (plain : backslash = true → char ≠ '\\') : Inside backslash quote [char] := by
  have unescaped : (backslash && char == '\\') = false := by
    cases backslash <;> simp_all
  intro rest
  cases rest with
  | nil => simp [closeQuote]
  | cons next rest => simp [closeQuote, unescaped, other]

/-- A doubled quote stays inside, and so does an escaped character. -/
theorem inside_pair {backslash : Bool} {quote char next : Char}
    (escaped : (backslash = true ∧ char = '\\') ∨ (char = quote ∧ next = quote)) :
    Inside backslash quote [char, next] := by
  have paired : (backslash && char == '\\' || char == quote && next == quote) = true := by
    rcases escaped with ⟨rfl, rfl⟩ | ⟨rfl, rfl⟩ <;> simp
  intro rest
  simp [closeQuote, paired]

theorem inside_of_forall {backslash : Bool} {quote : Char} {inner : List Char}
    (plain : ∀ char ∈ inner, char ≠ quote ∧ char ≠ '\\') : Inside backslash quote inner := by
  induction inner with
  | nil => exact inside_nil backslash quote
  | cons char inner ih =>
      have here := plain char List.mem_cons_self
      have later := ih fun other member => plain other (List.mem_cons_of_mem char member)
      exact inside_append (inside_single here.1 fun _ => here.2) later

/-- A quote closes its section when no second quote follows. -/
theorem closeQuote_quote {backslash : Bool} {quote : Char} {rest : List Char}
    (visible : quote ≠ '\\') (single : rest.head? ≠ some quote) :
    closeQuote backslash quote (quote :: rest) = ([quote], rest) := by
  cases rest with
  | nil => rfl
  | cons next rest =>
      have different : (next == quote) = false := by simpa using single
      simp [closeQuote, visible, different]

/-- A quoted section is fixed text. -/
theorem scan_section {dialect : Dialect} {quote : Char} {inner rest : List Char}
    (quoting : isQuote quote = true) (inside : Inside (hasBackslash dialect quote) quote inner)
    (single : rest.head? ≠ some quote) :
    scan dialect (quote :: (inner ++ quote :: rest)) =
      (quote :: (inner ++ [quote])).map (fun char => .fixed [char]) ++ scan dialect rest := by
  have visible : quote ≠ '\\' := by
    rintro rfl
    exact absurd quoting (by decide)
  have whole : first dialect quote (inner ++ quote :: rest) =
      (.fixed (quote :: (inner ++ [quote])), rest) := by
    unfold first
    rw [if_pos quoting, inside, closeQuote_quote visible single]
  rw [scan_cons, whole]
  simp [split]

/-! ## Breaks and names -/

/-- A character that ends a quoted section or a name before it. -/
def isBreak (char : Char) : Bool :=
  char == ' ' || char == ',' || char == ')' || char == '.'

/-- A text that begins with a break, or is empty. -/
def Clear (rest : List Char) : Prop :=
  ∀ char ∈ rest.head?, isBreak char = true

theorem clear_nil : Clear [] := by
  simp [Clear]

theorem clear_append {left right : List Char} (first : Clear left) (second : Clear right) :
    Clear (left ++ right) := by
  cases left with
  | nil => exact second
  | cons char left => simpa [Clear] using first

theorem clear_of_break {left : List Char} (right : List Char)
    (breaks : left.head?.any isBreak = true) : Clear (left ++ right) := by
  cases left with
  | nil => simp at breaks
  | cons char left => simpa [Clear] using breaks

theorem ne_of_clear {rest : List Char} (clear : Clear rest) {char : Char}
    (joined : isBreak char = false) : rest.head? ≠ some char := by
  intro same
  have breaks := clear char same
  rw [joined] at breaks
  contradiction

theorem not_isBreak_of_isQuote {quote : Char} (quoting : isQuote quote = true) :
    isBreak quote = false := by
  simp only [isQuote, Bool.or_eq_true, beq_iff_eq] at quoting
  rcases quoting with (rfl | rfl) | rfl <;> decide

theorem not_continuesName_of_isBreak {char : Char} (breaks : isBreak char = true) :
    continuesName char = false := by
  simp only [isBreak, Bool.or_eq_true, beq_iff_eq] at breaks
  rcases breaks with ((rfl | rfl) | rfl) | rfl <;> decide

theorem continuesName_of_startsName {char : Char} (starts : startsName char = true) :
    continuesName char = true := by
  simp only [startsName, continuesName, Char.isAlphanum, Bool.or_eq_true] at starts ⊢
  rcases starts with letter | underscore
  · exact Or.inl (Or.inl letter)
  · exact Or.inr underscore

theorem continuesName_of_isParamName {chars : List Char} (valid : isParamName chars = true) :
    ∀ char ∈ chars, continuesName char = true := by
  cases chars with
  | nil => simp
  | cons char rest =>
      rw [isParamName, Bool.and_eq_true] at valid
      rw [List.forall_mem_cons]
      exact ⟨continuesName_of_startsName valid.1, List.all_eq_true.1 valid.2⟩

theorem isParamName_takeWhile {char : Char} (starts : startsName char = true) (rest : List Char) :
    isParamName ((char :: rest).takeWhile continuesName) = true := by
  rw [List.takeWhile_cons_of_pos (continuesName_of_startsName starts), isParamName,
    Bool.and_eq_true]
  exact ⟨starts, List.all_takeWhile⟩

/-- Characters of a kind are all taken from a text up to one that is not of it. -/
theorem span_append {test : Char → Bool} {chars rest : List Char}
    (inside : ∀ char ∈ chars, test char = true) (stops : ∀ next ∈ rest.head?, test next = false) :
    (chars ++ rest).takeWhile test = chars ∧ (chars ++ rest).dropWhile test = rest := by
  have outside : rest.takeWhile test = [] ∧ rest.dropWhile test = rest := by
    cases rest with
    | nil => simp
    | cons next rest => simp [stops next rfl]
  rw [List.takeWhile_append_of_pos inside, List.dropWhile_append_of_pos inside, outside.1,
    outside.2, List.append_nil]
  exact ⟨rfl, rfl⟩

/-- A colon and a name are a placeholder where the name does not go on. -/
theorem first_name {dialect : Dialect} {letters rest : List Char}
    (valid : isParamName letters = true)
    (stops : ∀ next ∈ rest.head?, continuesName next = false) :
    first dialect ':' (letters ++ rest) = (.name letters, rest) := by
  obtain ⟨taken, dropped⟩ := span_append (continuesName_of_isParamName valid) stops
  cases letters with
  | nil => simp [isParamName] at valid
  | cons char letters =>
      rw [isParamName, Bool.and_eq_true] at valid
      have letter : startsName char = true := valid.1
      have noColon : char ≠ ':' := by
        rintro rfl
        exact absurd letter (by decide)
      rw [List.cons_append] at taken dropped ⊢
      simp [first, isQuote, letter, taken, dropped]

/-- In front of a break, a colon and a name are read as the placeholder of that name. -/
theorem scan_name {dialect : Dialect} {letters rest : List Char}
    (valid : isParamName letters = true) (clear : Clear rest) :
    scan dialect (':' :: letters ++ rest) = .name letters :: scan dialect rest := by
  have stops : ∀ next ∈ rest.head?, continuesName next = false :=
    fun next behind => not_continuesName_of_isBreak (clear next behind)
  rw [List.cons_append, scan_cons, first_name valid stops]
  rfl

/-- In front of a text that does not begin with a second one, a minus sign is itself. -/
theorem scan_minus {dialect : Dialect} {rest : List Char} (single : rest.head? ≠ some '-') :
    scan dialect ('-' :: rest) = .fixed ['-'] :: scan dialect rest := by
  have alone : first dialect '-' rest = (.fixed ['-'], rest) := by
    cases rest with
    | nil => simp [first, isQuote]
    | cons next rest =>
        have different : next ≠ '-' := by simpa using single
        simp [first, isQuote, different]
  rw [scan_cons, alone]
  rfl

/-- Two colons are themselves. -/
theorem scan_cast (dialect : Dialect) (rest : List Char) :
    scan dialect (':' :: ':' :: rest) = .fixed [':'] :: .fixed [':'] :: scan dialect rest := by
  have pair : first dialect ':' (':' :: rest) = (.fixed [':', ':'], rest) := by
    simp [first, isQuote]
  rw [scan_cons, pair]
  rfl

end Piece

/-- The piece that a glyph is read as. -/
def Glyph.piece : Glyph → Piece
  | .plain char => .fixed [char]
  | .slot name _ => .name name.toList

namespace Template

open Piece

/-- In front of a break, the scan gives back the glyphs of the template. -/
def Legible (dialect : Dialect) (template : Template) : Prop :=
  ∀ rest, Clear rest →
    scan dialect (template.text ++ rest) = template.map Glyph.piece ++ scan dialect rest

theorem legible_nil (dialect : Dialect) : Legible dialect [] :=
  fun _ _ => rfl

theorem legible_append {dialect : Dialect} {left right : Template}
    (first : Legible dialect left) (second : Legible dialect right) (clear : Clear right.text) :
    Legible dialect (left ++ right) := by
  intro rest after
  rw [text_append, List.append_assoc, first _ (clear_append clear after), second rest after,
    List.map_append, List.append_assoc]

theorem map_piece_ofText (text : String) :
    (ofText text).map Glyph.piece = text.toList.map fun char => .fixed [char] := by
  simp [ofText, Glyph.piece]

/-- Ordinary text may stand before anything. -/
theorem legible_ofText_append {dialect : Dialect} {text : String} {template : Template}
    (ordinary : text.toList.all isOrdinary = true) (legible : Legible dialect template) :
    Legible dialect (ofText text ++ template) := by
  intro rest after
  rw [text_append, text_ofText, List.append_assoc, scan_ordinary_append _ ordinary,
    legible rest after, List.map_append, map_piece_ofText, List.append_assoc]

theorem legible_ofText {dialect : Dialect} {text : String}
    (ordinary : text.toList.all isOrdinary = true) : Legible dialect (ofText text) := by
  simpa using legible_ofText_append ordinary (legible_nil dialect)

theorem legible_slot {dialect : Dialect} {name : String} (bound? : Option Scalar)
    (valid : isParamName name.toList = true) : Legible dialect [.slot name bound?] := by
  intro rest after
  simpa [text, Glyph.written, Glyph.piece] using scan_name valid after

theorem legible_intercalate {dialect : Dialect} {separator : String} {templates : List Template}
    (ordinary : separator.toList.all isOrdinary = true)
    (breaks : separator.toList.head?.any isBreak = true)
    (each : ∀ template ∈ templates, Legible dialect template) :
    Legible dialect ((ofText separator).intercalate templates) := by
  induction templates with
  | nil => exact legible_nil dialect
  | cons template rest ih =>
      have here := each template List.mem_cons_self
      cases rest with
      | nil => simpa using here
      | cons next rest =>
          have later := ih fun other member => each other (List.mem_cons_of_mem template member)
          rw [List.intercalate_cons_cons, List.append_assoc]
          refine legible_append here (legible_ofText_append ordinary later) ?_
          rw [text_append, text_ofText]
          exact clear_of_break _ breaks

theorem legible_commaList {dialect : Dialect} {templates : List Template}
    (each : ∀ template ∈ templates, Legible dialect template) :
    Legible dialect (commaList templates) :=
  legible_intercalate (by decide) (by decide) each

/-- A legible template that may stand behind any other one. -/
def Trailing (dialect : Dialect) (template : Template) : Prop :=
  template.Legible dialect ∧ Clear template.text

theorem trailing_nil (dialect : Dialect) : Trailing dialect [] :=
  ⟨legible_nil dialect, clear_nil⟩

theorem trailing_append {dialect : Dialect} {left right : Template}
    (first : Trailing dialect left) (second : Trailing dialect right) :
    Trailing dialect (left ++ right) := by
  refine ⟨legible_append first.1 second.1 second.2, ?_⟩
  rw [text_append]
  exact clear_append first.2 second.2

/-- Ordinary text behind a break may stand behind any template. -/
theorem trailing_ofText_append {dialect : Dialect} {text : String} {template : Template}
    (ordinary : text.toList.all isOrdinary = true)
    (breaks : text.toList.head?.any isBreak = true) (legible : Legible dialect template) :
    Trailing dialect (ofText text ++ template) := by
  refine ⟨legible_ofText_append ordinary legible, ?_⟩
  rw [text_append, text_ofText]
  exact clear_of_break _ breaks

theorem trailing_ofText {dialect : Dialect} {text : String}
    (ordinary : text.toList.all isOrdinary = true)
    (breaks : text.toList.head?.any isBreak = true) : Trailing dialect (ofText text) := by
  simpa using trailing_ofText_append ordinary breaks (legible_nil dialect)

/-- A legible template between ordinary text and what may stand behind any template. -/
theorem legible_between {dialect : Dialect} {opening : String} {template closing : Template}
    (ordinary : opening.toList.all isOrdinary = true) (legible : Legible dialect template)
    (closed : Trailing dialect closing) :
    Legible dialect (ofText opening ++ template ++ closing) := by
  rw [List.append_assoc]
  exact legible_ofText_append ordinary (legible_append legible closed.1 closed.2)

theorem legible_joinMembers {dialect : Dialect} {connective : Connective}
    {templates : List Template} (each : ∀ template ∈ templates, Legible dialect template) :
    Legible dialect (joinMembers connective templates) := by
  match templates with
  | [] => exact legible_nil dialect
  | [template] => exact each template List.mem_cons_self
  | first :: second :: rest =>
      have ordinary : connective.sql.toList.all isOrdinary = true := by
        cases connective <;> decide
      have breaks : connective.sql.toList.head?.any isBreak = true := by
        cases connective <;> decide
      have joined := legible_intercalate ordinary breaks each
      exact legible_between (by decide) joined (trailing_ofText (by decide) (by decide))

theorem trailing_enclosed {dialect : Dialect} {opening closing : String} {template : Template}
    (ordinary : opening.toList.all isOrdinary = true)
    (breaks : opening.toList.head?.any isBreak = true)
    (legible : Legible dialect template) (closed : Trailing dialect (ofText closing)) :
    Trailing dialect (enclosed opening closing template) := by
  unfold enclosed
  split
  · exact trailing_nil dialect
  · rw [List.append_assoc]
    exact trailing_ofText_append ordinary breaks (legible_append legible closed.1 closed.2)

theorem trailing_clause {dialect : Dialect} {keyword : String} {template : Template}
    (ordinary : keyword.toList.all isOrdinary = true) (legible : Legible dialect template) :
    Trailing dialect (clause keyword template) := by
  refine trailing_enclosed ?_ ?_ legible (trailing_nil dialect)
  · have blank : isOrdinary ' ' = true := by decide
    simp [String.toList_append, ordinary, blank]
  · have blank : isBreak ' ' = true := by decide
    simp [String.toList_append, blank]

end Template

end SqlClient
