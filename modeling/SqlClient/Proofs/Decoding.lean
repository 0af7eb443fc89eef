import SqlClient.Proofs.Quoting

/-!
# Decoding

Literals of text and of raw bytes and quoted names read back: a scan from the opening quote stops
behind the closing one, and the rules by which a server reads the section give the value that was
written. Writing and scanning have rules of their own for each dialect and each kind of quote.
-/

namespace SqlClient

open Piece

namespace Dialect

/-! ## Rules of reading -/

/-- The character meant by one behind a backslash. -/
def escapedChar? : Char → Option Char
  | '0' => some '\x00'
  | 'n' => some '\n'
  | 'r' => some '\r'
  | 'Z' => some '\x1a'
  | '\\' => some '\\'
  | '\'' => some '\''
  | '"' => some '"'
  | _ => none

/-- The characters meant between two quotes, with or without backslash escapes. A quote among them
is doubled. -/
def decode? (backslash : Bool) (quote : Char) : List Char → Option (List Char)
  | [] => some []
  | [char] => if backslash && char == '\\' || char == quote then none else some [char]
  | char :: next :: rest =>
      if backslash && char == '\\' then do
        some ((← escapedChar? next) :: (← decode? backslash quote rest))
      else if char == quote then
        if next == quote then (decode? backslash quote rest).map (quote :: ·) else none
      else (decode? backslash quote (next :: rest)).map (char :: ·)

/-- The characters meant by a section with its quotes. -/
def unquote? (backslash : Bool) (quote : Char) : List Char → Option (List Char)
  | [] => none
  | first :: rest =>
      if first = quote ∧ rest.getLast? = some quote then decode? backslash quote rest.dropLast
      else none

/-- The text meant by a string literal. -/
def textOf? (dialect : Dialect) (chars : List Char) : Option String :=
  (unquote? (dialect == .mysql) '\'' chars).map String.ofList

/-- The name meant by a quoted name. -/
def nameOf? (dialect : Dialect) (chars : List Char) : Option String :=
  (unquote? false dialect.quote chars).map String.ofList

/-- The bytes meant by the quoted section of a literal of bytes: pairs of hexadecimal digits, behind
a prefix where the section is a string itself. -/
def bytesOf? (dialect : Dialect) (chars : List Char) : Option (List UInt8) :=
  match dialect with
  | .postgres =>
      match unquote? false '\'' chars with
      | some ('\\' :: 'x' :: digits) => Text.hexBytes? digits
      | _ => none
  | .mysql => unquote? false '\'' chars >>= Text.hexBytes?
  | .sqlite => unquote? false '\'' chars >>= Text.hexBytes?

section Decoding

variable {backslash : Bool} {quote char : Char}

theorem decode?_plain (other : char ≠ quote) (plain : backslash = true → char ≠ '\\')
    (rest : List Char) :
    decode? backslash quote (char :: rest) = (decode? backslash quote rest).map (char :: ·) := by
  have unescaped : (backslash && char == '\\') = false := by
    cases backslash <;> simp_all
  cases rest with
  | nil => simp [decode?, unescaped, other]
  | cons next rest => simp [decode?, unescaped, other]

/-- Characters that are written one by one are read one by one. -/
theorem decode?_flatMap {escape : Char → List Char}
    (each : ∀ char rest, decode? backslash quote (escape char ++ rest) =
      (decode? backslash quote rest).map (char :: ·)) (chars : List Char) :
    decode? backslash quote (chars.flatMap escape) = some chars := by
  induction chars with
  | nil => rfl
  | cons char rest ih => rw [List.flatMap_cons, each, ih, Option.map_some]

theorem decode?_doubleChar (quote : Char) (chars : List Char) :
    decode? false quote (doubleChar quote chars) = some chars := by
  apply decode?_flatMap
  intro char rest
  split
  · next same => simp [decode?, same]
  · next other => exact decode?_plain other (by simp) rest

/-- A character is written as itself or as a backslash and a character that means it. -/
theorem backslashEscape_cases (char : Char) :
    (∃ letter, backslashEscape char = ['\\', letter] ∧ escapedChar? letter = some char) ∨
      (backslashEscape char = [char] ∧ char ≠ '\'' ∧ char ≠ '\\') := by
  unfold backslashEscape
  split
  all_goals first
    | exact .inl ⟨_, rfl, rfl⟩
    | exact .inr ⟨rfl, by assumption, by assumption⟩

theorem decode?_backslashEscape (chars : List Char) :
    decode? true '\'' (chars.flatMap backslashEscape) = some chars := by
  apply decode?_flatMap
  intro char rest
  obtain ⟨letter, written, meant⟩ | ⟨written, other, plain⟩ := backslashEscape_cases char
  · rw [written, List.cons_append, List.singleton_append]
    simp only [decode?, meant]
    cases decode? true '\'' rest <;> rfl
  · rw [written, List.singleton_append]
    exact decode?_plain other (fun _ => plain) rest

theorem decode?_escapeChars (dialect : Dialect) (chars : List Char) :
    decode? (dialect == .mysql) '\'' (dialect.escapeChars chars) = some chars := by
  cases dialect with
  | mysql => exact decode?_backslashEscape chars
  | postgres => exact decode?_doubleChar '\'' chars
  | sqlite => exact decode?_doubleChar '\'' chars

/-- Without a quote among them, characters mean themselves. -/
theorem decode?_of_not_mem {chars : List Char} (unquoted : quote ∉ chars) :
    decode? false quote chars = some chars := by
  induction chars with
  | nil => rfl
  | cons char rest ih =>
      rw [List.mem_cons, not_or] at unquoted
      rw [decode?_plain (Ne.symm unquoted.1) (by simp), ih unquoted.2, Option.map_some]

end Decoding

/-! ## Sections -/

/-- Characters between two quotes. -/
def quoted (quote : Char) (inner : List Char) : List Char :=
  quote :: inner ++ [quote]

/-- A written text has a quoted section, and a scan from the opening quote stops behind the closing
one, whatever follows the text but the quote again. -/
structure HasSection (dialect : Dialect) (quote : Char) (written front inner back : List Char) :
    Prop where
  text : written = front ++ quoted quote inner ++ back
  opens : quote ∉ front
  stops : ∀ rest, rest.head? ≠ some quote →
    closeQuote (hasBackslash dialect quote) quote (inner ++ quote :: (back ++ rest)) =
      (inner ++ [quote], back ++ rest)

theorem unquote?_quoted (backslash : Bool) (quote : Char) (inner : List Char) :
    unquote? backslash quote (quoted quote inner) = decode? backslash quote inner := by
  simp [unquote?, quoted]

theorem hasSection_of_inside {dialect : Dialect} {quote : Char} {front inner back : List Char}
    (visible : quote ≠ '\\') (opens : quote ∉ front) (single : back.head? ≠ some quote)
    (inside : Inside (hasBackslash dialect quote) quote inner) :
    HasSection dialect quote (front ++ quoted quote inner ++ back) front inner back := by
  refine ⟨rfl, opens, ?_⟩
  intro rest behind
  have alone : (back ++ rest).head? ≠ some quote := by
    cases back with
    | nil => exact behind
    | cons next back => exact single
  rw [inside, closeQuote_quote visible alone]

theorem textLiteral_section (dialect : Dialect) (text : String) :
    ∃ inner, HasSection dialect '\'' ((Scalar.text text).literal dialect).toList [] inner [] ∧
      dialect.textOf? (quoted '\'' inner) = some text := by
  refine ⟨dialect.escapeChars text.toList, ?_, ?_⟩
  · have written : ((Scalar.text text).literal dialect).toList =
        [] ++ quoted '\'' (dialect.escapeChars text.toList) ++ [] := by
      rw [Scalar.literal, textLiteral_eq, String.toList_ofList, quoted, List.nil_append,
        List.append_nil]
    rw [written]
    exact hasSection_of_inside (by decide) (by simp) (by simp)
      (inside_escapeChars dialect text.toList)
  · rw [textOf?, unquote?_quoted, decode?_escapeChars, Option.map_some, String.ofList_toList]

theorem quoteName_section (dialect : Dialect) {name : String} (named : name ≠ "*") :
    ∃ inner, HasSection dialect dialect.quote (dialect.quoteName name).toList [] inner [] ∧
      dialect.nameOf? (quoted dialect.quote inner) = some name := by
  refine ⟨doubleChar dialect.quote name.toList, ?_, ?_⟩
  · have noBackslash : hasBackslash dialect dialect.quote = false := by cases dialect <;> decide
    have visible : dialect.quote ≠ '\\' := by cases dialect <;> decide
    have written : (dialect.quoteName name).toList =
        [] ++ quoted dialect.quote (doubleChar dialect.quote name.toList) ++ [] := by
      rw [quoteName, if_neg named, String.toList_ofList, quoted, List.nil_append, List.append_nil]
    rw [written]
    apply hasSection_of_inside visible (by simp) (by simp)
    rw [noBackslash]
    exact inside_doubleChar dialect.quote name.toList
  · rw [nameOf?, unquote?_quoted, decode?_doubleChar, Option.map_some, String.ofList_toList]

theorem quote_not_mem_hexChars (bytes : List UInt8) : '\'' ∉ Text.hexChars bytes := by
  intro member
  exact absurd (hexChars_plain member).1 (by decide)

theorem hexLiteral_section (dialect : Dialect) (bytes : List UInt8) :
    HasSection dialect '\'' ("X'" ++ String.ofList (Text.hexChars bytes) ++ "'").toList ['X']
      (Text.hexChars bytes) [] := by
  have written : ("X'" ++ String.ofList (Text.hexChars bytes) ++ "'").toList =
      ['X'] ++ quoted '\'' (Text.hexChars bytes) ++ [] := by
    simp [quoted]
  rw [written]
  exact hasSection_of_inside (by decide) (by decide) (by simp) (inside_hexChars _ bytes)

theorem byteaLiteral_section (bytes : List UInt8) :
    HasSection .postgres '\'' ("'\\x" ++ String.ofList (Text.hexChars bytes) ++ "'::bytea").toList
      [] ('\\' :: 'x' :: Text.hexChars bytes) "::bytea".toList := by
  have written : ("'\\x" ++ String.ofList (Text.hexChars bytes) ++ "'::bytea").toList =
      [] ++ quoted '\'' ('\\' :: 'x' :: Text.hexChars bytes) ++ "::bytea".toList := by
    simp [quoted]
  rw [written]
  exact hasSection_of_inside (by decide) (by simp) (by decide) (inside_byteaChars bytes)

theorem blobLiteral_section (dialect : Dialect) :
    ∃ front back, ∀ bytes, ∃ inner,
      HasSection dialect '\'' ((Scalar.blob bytes).literal dialect).toList front inner back ∧
        dialect.bytesOf? (quoted '\'' inner) = some bytes := by
  have plain (bytes : List UInt8) :
      unquote? false '\'' (quoted '\'' (Text.hexChars bytes)) = some (Text.hexChars bytes) := by
    rw [unquote?_quoted, decode?_of_not_mem (quote_not_mem_hexChars bytes)]
  have prefixed (bytes : List UInt8) :
      unquote? false '\'' (quoted '\'' ('\\' :: 'x' :: Text.hexChars bytes)) =
        some ('\\' :: 'x' :: Text.hexChars bytes) := by
    rw [unquote?_quoted, decode?_of_not_mem]
    simp [quote_not_mem_hexChars]
  cases dialect with
  | mysql =>
      refine ⟨['X'], [], fun bytes => ⟨_, hexLiteral_section .mysql bytes, ?_⟩⟩
      simp [bytesOf?, plain, Text.hexBytes?_hexChars]
  | sqlite =>
      refine ⟨['X'], [], fun bytes => ⟨_, hexLiteral_section .sqlite bytes, ?_⟩⟩
      simp [bytesOf?, plain, Text.hexBytes?_hexChars]
  | postgres =>
      refine ⟨[], "::bytea".toList, fun bytes => ⟨_, byteaLiteral_section bytes, ?_⟩⟩
      simp [bytesOf?, prefixed, Text.hexBytes?_hexChars]

/-- Texts whose sections are read back between the same characters are not confused. -/
theorem injective_of_sections {α : Type} {dialect : Dialect} {quote : Char} {write : α → String}
    {read : List Char → Option α} {front back : List Char}
    (sections : ∀ value, ∃ inner,
      HasSection dialect quote (write value).toList front inner back ∧
        read (quoted quote inner) = some value) : Function.Injective write := by
  intro value other same
  obtain ⟨inner, written, meant⟩ := sections value
  obtain ⟨inner', written', meant'⟩ := sections other
  have texts := written.text.symm.trans ((congrArg String.toList same).trans written'.text)
  rw [List.append_left_inj, List.append_right_inj] at texts
  rw [texts, meant'] at meant
  exact (Option.some.inj meant).symm

/-- In every dialect, a literal of text, a literal of bytes and a quoted name have one quoted
section. A scan from its opening quote stops behind its closing quote, and the section means the
value that was written; so no two texts and no two sequences of bytes have the same literal. -/
theorem sections_read_back (dialect : Dialect) :
    (∀ text, ∃ inner,
      HasSection dialect '\'' ((Scalar.text text).literal dialect).toList [] inner [] ∧
        dialect.textOf? (quoted '\'' inner) = some text) ∧
    (∃ front back, ∀ bytes, ∃ inner,
      HasSection dialect '\'' ((Scalar.blob bytes).literal dialect).toList front inner back ∧
        dialect.bytesOf? (quoted '\'' inner) = some bytes) ∧
    (∀ name, name ≠ "*" → ∃ inner,
      HasSection dialect dialect.quote (dialect.quoteName name).toList [] inner [] ∧
        dialect.nameOf? (quoted dialect.quote inner) = some name) ∧
    (Function.Injective fun text => (Scalar.text text).literal dialect) ∧
    Function.Injective fun bytes => (Scalar.blob bytes).literal dialect := by
  obtain ⟨front, back, blobs⟩ := blobLiteral_section dialect
  exact ⟨textLiteral_section dialect, ⟨front, back, blobs⟩,
    fun name named => quoteName_section dialect named,
    injective_of_sections (textLiteral_section dialect), injective_of_sections blobs⟩

end Dialect

end SqlClient
