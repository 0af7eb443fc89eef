import SqlClient.Proofs.Legible

/-!
# Names and literals

Quoted names and literals of every dialect are legible, whatever characters they hold: the escapes
that keep a character inside its quotes are those that the scan for placeholders knows.
-/

namespace SqlClient

open Piece

/-! ## Numbers -/

theorem isOrdinary_of_isAlphanum {char : Char} (alphanumeric : char.isAlphanum = true) :
    isOrdinary char = true := by
  simp only [isOrdinary, isQuote, Bool.and_eq_true, Bool.not_eq_true', Bool.or_eq_false_iff,
    beq_eq_false_iff_ne, bne_iff_ne]
  refine ⟨⟨⟨⟨⟨⟨?_, ?_⟩, ?_⟩, ?_⟩, ?_⟩, ?_⟩, ?_⟩ <;>
    (rintro rfl; exact absurd alphanumeric (by decide))

/-- The characters of numbers without a sign. -/
def isNumeric (char : Char) : Bool :=
  char.isDigit || char == '.'

theorem isOrdinary_of_isNumeric {char : Char} (numeric : isNumeric char = true) :
    isOrdinary char = true := by
  simp only [isNumeric, Bool.or_eq_true, beq_iff_eq] at numeric
  rcases numeric with digit | rfl
  · exact isOrdinary_of_isAlphanum (by simp [Char.isAlphanum, digit])
  · decide

theorem ordinary_of_numeric {chars : List Char} (numeric : chars.all isNumeric = true) :
    chars.all isOrdinary = true := by
  rw [List.all_eq_true] at numeric ⊢
  exact fun char member => isOrdinary_of_isNumeric (numeric char member)

theorem numeric_toDigits (value : Nat) : (Nat.toDigits 10 value).all isNumeric = true := by
  rw [List.all_eq_true]
  intro char member
  have digit := Nat.isDigit_of_mem_toDigits (by decide) (by decide) member
  simp [isNumeric, digit]

theorem numeric_nat (value : Nat) : (toString value).toList.all isNumeric = true := by
  rw [Nat.toString_eq_repr, Nat.toList_repr]
  exact numeric_toDigits value

theorem ordinary_nat (value : Nat) : (toString value).toList.all isOrdinary = true :=
  ordinary_of_numeric (numeric_nat value)

/-- A number in positional notation is written with digits and a point. -/
theorem numeric_positionalChars (digits : Decimal.Digits) :
    (Decimal.positionalChars digits "").all isNumeric = true := by
  have written := List.all_eq_true.1 (numeric_toDigits digits.coefficient)
  have zero : isNumeric '0' = true := by decide
  have point : isNumeric '.' = true := by decide
  unfold Decimal.positionalChars Decimal.natChars
  dsimp only
  split
  · rw [List.all_eq_true]
    intro char member
    simp only [List.mem_append, List.mem_replicate] at member
    rcases member with (digit | ⟨-, rfl⟩) | nothing
    · exact written char digit
    · exact zero
    · simp at nothing
  · split
    · rw [List.all_eq_true]
      intro char member
      rw [List.mem_append, List.mem_cons] at member
      rcases member with front | rfl | back
      · exact written char (List.mem_of_mem_take front)
      · exact point
      · exact written char (List.mem_of_mem_drop back)
    · rw [List.all_eq_true]
      intro char member
      simp only [List.cons_append, List.mem_cons, List.mem_append, List.mem_replicate] at member
      rcases member with rfl | rfl | ⟨-, rfl⟩ | digit
      · exact zero
      · exact point
      · exact zero
      · exact written char digit

/-- An optional minus sign and ordinary text. -/
theorem legible_signed {dialect : Dialect} {text : String} (negative : Bool)
    (ordinary : text.toList.all isOrdinary = true) :
    (Template.ofText ((if negative then "-" else "") ++ text)).Legible dialect := by
  cases negative with
  | false => simpa using Template.legible_ofText ordinary
  | true =>
      have noMinus : ∀ rest, Clear rest → (text.toList ++ rest).head? ≠ some '-' := by
        intro rest clear
        cases written : text.toList with
        | nil => exact ne_of_clear clear (by decide)
        | cons char chars =>
            have first := List.all_eq_true.1 ordinary char (by simp [written])
            rintro minus
            obtain rfl : char = '-' := by simpa using minus
            exact absurd first (by decide)
      intro rest clear
      rw [Template.text_ofText, Template.map_piece_ofText]
      simp only [if_true, String.toList_append]
      change scan dialect ('-' :: (text.toList ++ rest)) = _
      rw [scan_minus (noMinus rest clear), scan_ordinary_append rest ordinary]
      simp

/-- A whole number is written as its magnitude behind an optional minus sign. -/
theorem toString_int (value : Int) :
    toString value = (if decide (value < 0) then "-" else "") ++ toString value.natAbs := by
  rw [Int.toString_eq_repr, Int.repr_eq_if, Nat.toString_eq_repr]
  by_cases negative : value < 0
  · have magnitude : (-value).toNat = value.natAbs := by omega
    simp [negative, Int.not_le.2 negative, magnitude]
  · have magnitude : value.toNat = value.natAbs := by omega
    simp [negative, Int.not_lt.1 negative, magnitude]

theorem legible_int (dialect : Dialect) (value : Int) :
    (Template.ofText (toString value)).Legible dialect := by
  rw [toString_int]
  exact legible_signed _ (ordinary_nat _)

theorem legible_float (dialect : Dialect) (value : Binary64) :
    (Template.ofText (Decimal.render .plain value)).Legible dialect := by
  unfold Decimal.render
  dsimp only
  split
  · exact Template.legible_ofText (by decide)
  · exact legible_signed value.isNegative (by decide)
  · apply legible_signed value.isNegative
    rw [String.toList_ofList]
    exact ordinary_of_numeric (numeric_positionalChars _)

/-! ## Quoted text -/

theorem legible_section {dialect : Dialect} {quote : Char} {inner : List Char}
    (quoting : isQuote quote = true) (inside : Inside (hasBackslash dialect quote) quote inner) :
    (Template.ofText (String.ofList (quote :: inner ++ [quote]))).Legible dialect := by
  intro rest clear
  have single := ne_of_clear clear (not_isBreak_of_isQuote quoting)
  rw [Template.text_ofText, Template.map_piece_ofText, String.toList_ofList]
  simp only [List.append_assoc, List.cons_append, List.nil_append]
  exact scan_section quoting inside single

/-- Doubling the quote keeps every character inside, where no backslash escapes. -/
theorem inside_doubleChar (quote : Char) (chars : List Char) :
    Inside false quote (Dialect.doubleChar quote chars) := by
  apply inside_flatMap
  intro char
  split
  · exact inside_pair (Or.inr ⟨rfl, rfl⟩)
  · next other => exact inside_single other (by simp)

/-- Escaping with backslashes keeps every character inside, where a backslash escapes. -/
theorem inside_backslashEscape (char : Char) :
    Inside true '\'' (Dialect.backslashEscape char) := by
  unfold Dialect.backslashEscape
  split
  all_goals first
    | exact inside_pair (Or.inl ⟨rfl, rfl⟩)
    | exact inside_single (by assumption) fun _ => by assumption

theorem inside_escapeChars (dialect : Dialect) (chars : List Char) :
    Inside (hasBackslash dialect '\'') '\'' (dialect.escapeChars chars) := by
  cases dialect with
  | mysql => exact inside_flatMap inside_backslashEscape chars
  | postgres => exact inside_doubleChar '\'' chars
  | sqlite => exact inside_doubleChar '\'' chars

/-- A literal of text is a quoted section. -/
theorem textLiteral_eq (dialect : Dialect) (text : String) :
    dialect.textLiteral text =
      String.ofList ('\'' :: dialect.escapeChars text.toList ++ ['\'']) := by
  rw [← String.toList_inj]
  simp [Dialect.textLiteral, Dialect.escapeText]

theorem legible_textLiteral (dialect : Dialect) (text : String) :
    (Template.ofText (dialect.textLiteral text)).Legible dialect := by
  rw [textLiteral_eq]
  exact legible_section (by decide) (inside_escapeChars dialect text.toList)

theorem legible_quoteName (dialect : Dialect) (name : String) :
    (Template.ofText (dialect.quoteName name)).Legible dialect := by
  unfold Dialect.quoteName
  split
  · exact Template.legible_ofText (by decide)
  · have quoting : isQuote dialect.quote = true := by cases dialect <;> decide
    have noBackslash : hasBackslash dialect dialect.quote = false := by cases dialect <;> decide
    apply legible_section quoting
    rw [noBackslash]
    exact inside_doubleChar dialect.quote name.toList

/-! ## Raw bytes -/

theorem hexDigit_plain {value : Nat} (small : value < 16) :
    isOrdinary (Text.hexDigit value) = true ∧ Text.hexDigit value ≠ '\\' := by
  have all : ∀ value < 16,
      isOrdinary (Text.hexDigit value) = true ∧ Text.hexDigit value ≠ '\\' := by decide
  exact all value small

theorem hexChars_plain {bytes : List UInt8} {char : Char} (member : char ∈ Text.hexChars bytes) :
    isOrdinary char = true ∧ char ≠ '\\' := by
  obtain ⟨byte, -, digit⟩ := List.mem_flatMap.1 member
  have bound := byte.toNat_lt
  simp only [Text.hexPair, List.mem_cons, List.not_mem_nil, or_false] at digit
  rcases digit with rfl | rfl
  · exact hexDigit_plain (by omega)
  · exact hexDigit_plain (by omega)

theorem inside_hexChars (backslash : Bool) (bytes : List UInt8) :
    Inside backslash '\'' (Text.hexChars bytes) := by
  apply inside_of_forall
  intro char member
  obtain ⟨ordinary, visible⟩ := hexChars_plain member
  refine ⟨?_, visible⟩
  rintro rfl
  exact absurd ordinary (by decide)

theorem inside_byteaChars (bytes : List UInt8) :
    Inside (hasBackslash .postgres '\'') '\'' ('\\' :: 'x' :: Text.hexChars bytes) := by
  have opening : Inside false '\'' ['\\', 'x'] :=
    inside_append (inside_single (by decide) (by simp)) (inside_single (by decide) (by simp))
  exact inside_append opening (inside_hexChars false bytes)

/-- Raw bytes in hexadecimal are a letter and a quoted section. -/
theorem hexLiteral_eq (bytes : List UInt8) :
    "X'" ++ String.ofList (Text.hexChars bytes) ++ "'" =
      "X" ++ String.ofList ('\'' :: Text.hexChars bytes ++ ['\'']) := by
  rw [← String.toList_inj]
  simp

theorem legible_hexLiteral (dialect : Dialect) (bytes : List UInt8) :
    (Template.ofText ("X'" ++ String.ofList (Text.hexChars bytes) ++ "'")).Legible dialect := by
  rw [hexLiteral_eq, Template.ofText_append]
  exact Template.legible_ofText_append (by decide)
    (legible_section (by decide) (inside_hexChars _ bytes))

/-- The cast after the section is fixed text too. -/
theorem legible_byteaLiteral (bytes : List UInt8) :
    (Template.ofText ("'\\x" ++ String.ofList (Text.hexChars bytes) ++ "'::bytea")).Legible
      .postgres := by
  have inside := inside_byteaChars bytes
  intro rest _
  have written : ("'\\x" ++ String.ofList (Text.hexChars bytes) ++ "'::bytea").toList =
      '\'' :: ('\\' :: 'x' :: Text.hexChars bytes) ++ '\'' :: ':' :: ':' :: "bytea".toList := by
    simp
  generalize '\\' :: 'x' :: Text.hexChars bytes = inner at inside written
  rw [Template.text_ofText, Template.map_piece_ofText, written]
  simp only [List.append_assoc, List.cons_append]
  rw [scan_section (by decide) inside (by simp), scan_cast, scan_ordinary_append rest (by decide)]
  simp

theorem legible_blobLiteral (dialect : Dialect) (bytes : List UInt8) :
    (Template.ofText (dialect.blobLiteral bytes)).Legible dialect := by
  cases dialect with
  | mysql => exact legible_hexLiteral .mysql bytes
  | postgres => exact legible_byteaLiteral bytes
  | sqlite => exact legible_hexLiteral .sqlite bytes

theorem legible_literal (dialect : Dialect) (value : Scalar) :
    (Template.ofText (value.literal dialect)).Legible dialect := by
  cases value with
  | null =>
      change (Template.ofText "NULL").Legible dialect
      exact Template.legible_ofText (by decide)
  | bool value => cases dialect <;> cases value <;> exact Template.legible_ofText (by decide)
  | int value => exact legible_int dialect value.toInt
  | float value => exact legible_float dialect value
  | text value => exact legible_textLiteral dialect value
  | blob bytes => exact legible_blobLiteral dialect bytes

/-! ## References -/

theorem legible_path (dialect : Dialect) (path : Path) :
    (Template.ofText (path.render dialect)).Legible dialect := by
  rw [Path.render, Dialect.quotePath, Template.ofText_intercalate, List.map_map]
  apply Template.legible_intercalate (by decide) (by decide)
  intro template member
  obtain ⟨name, -, rfl⟩ := List.mem_map.1 member
  exact legible_quoteName dialect name

theorem legible_renderAlias (dialect : Dialect) (label? : Option String) :
    (Template.ofText (Identifier.renderAlias dialect label?)).Legible dialect := by
  cases label? with
  | none => exact Template.legible_nil dialect
  | some label =>
      rw [Identifier.renderAlias, Template.ofText_append]
      exact Template.legible_ofText_append (by decide) (legible_quoteName dialect label)

theorem clear_renderAlias (dialect : Dialect) (label? : Option String) :
    Clear (Identifier.renderAlias dialect label?).toList := by
  cases label? with
  | none => exact clear_nil
  | some label =>
      rw [Identifier.renderAlias, String.toList_append]
      exact clear_of_break _ (by decide)

/-- A reference that is no expression is legible in every dialect. -/
theorem legible_identifier (dialect : Dialect) {identifier : Identifier}
    (plain : identifier.isRaw = false) :
    (Template.ofText (identifier.render dialect)).Legible dialect := by
  obtain ⟨name, alias?, _⟩ := identifier
  cases name with
  | raw sql => simp [Identifier.isRaw] at plain
  | path path =>
      rw [Identifier.render, Template.ofText_append]
      refine Template.legible_append (legible_path dialect path)
        (legible_renderAlias dialect alias?) ?_
      rw [Template.text_ofText]
      exact clear_renderAlias dialect alias?

end SqlClient
