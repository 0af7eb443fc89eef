import Mathlib.Data.List.Basic
import SqlClient.Scalar

/-!
# Scalars in documents

The JSON text of a scalar is read back as that scalar, of the same kind. Strings come back through
their escapes and whole numbers through their digits; a list of bytes is the only kind of array, and
a document is taken for the first kind of scalar that it fits.
-/

namespace SqlClient

namespace Decimal

/-! ## Digits -/

theorem isDigit_of_mem_natChars {value : Nat} {char : Char} (member : char ∈ natChars value) :
    char.isDigit = true :=
  Nat.isDigit_of_mem_toDigits (by decide) (by decide) member

/-- A number is written without a zero in front, unless it is zero. -/
theorem head?_natChars_ne_zero {value : Nat} (positive : value ≠ 0) :
    (natChars value).head? ≠ some '0' := by
  induction value using Nat.strongRecOn with
  | ind value induction =>
      rw [natChars, Nat.toDigits_eq_if (by decide)]
      split
      · simpa [Nat.digitChar_eq_zero] using positive
      · rw [List.head?_append_of_ne_nil _ Nat.toDigits_ne_nil]
        exact induction (value / 10) (by omega) (by omega)

end Decimal

namespace Json

/-! ## Whole numbers -/

/-- Nothing follows that could belong to a number: the text ends, or an item of a container does. -/
def Settled (rest : List Char) : Prop :=
  ∀ char ∈ rest.head?, char = ',' ∨ char = ']' ∨ char = '}'

theorem settled_nil : Settled [] := by
  simp [Settled]

theorem le_ofDigitChars (digits : List Char) (significand : Nat) :
    significand ≤ Nat.ofDigitChars 10 digits significand := by
  induction digits generalizing significand with
  | nil => simp
  | cons digit digits ih =>
      rw [Nat.ofDigitChars_cons]
      exact Nat.le_trans (by omega) (ih _)

/-- Digits are taken up to their end if their number fits. -/
theorem takeDigits_append {digits rest : List Char} (significand : Nat)
    (all : ∀ digit ∈ digits, digit.isDigit = true)
    (ended : ∀ char ∈ rest.head?, char.isDigit = false)
    (fits : Nat.ofDigitChars 10 digits significand ≤ maxWhole) :
    takeDigits significand (digits ++ rest) =
      (Nat.ofDigitChars 10 digits significand, rest) := by
  induction digits generalizing significand with
  | nil =>
      cases rest with
      | nil => rfl
      | cons char rest => simp [takeDigits, ended char rfl]
  | cons digit digits ih =>
      rw [List.forall_mem_cons] at all
      rw [Nat.ofDigitChars_cons] at fits ⊢
      have small := Nat.le_trans (le_ofDigitChars digits _) fits
      rw [List.cons_append, takeDigits]
      exact (if_pos ⟨all.1, small⟩).trans (ih _ all.2 fits)

/-- The digits of a number in front of a settled text are read as that number. -/
theorem unsignedNumber_natChars (negative : Bool) {value : Nat} {rest : List Char}
    (fits : value ≤ maxWhole) (settled : Settled rest) :
    unsignedNumber negative (Decimal.natChars value ++ rest) =
      .ok (wholeNumber negative value, rest) := by
  have ended : ∀ char ∈ rest.head?, char.isDigit = false := by
    intro char next
    rcases settled char next with rfl | rfl | rfl <;> decide
  have taken : takeDigits 0 (Decimal.natChars value ++ rest) = (value, rest) := by
    have same : Nat.ofDigitChars 10 (Decimal.natChars value) 0 = value :=
      Nat.ofDigitChars_ten_toDigits
    rw [takeDigits_append 0 (fun _ => Decimal.isDigit_of_mem_natChars) ended (by rwa [same]), same]
  obtain ⟨first, tail, digits⟩ : ∃ first tail, Decimal.natChars value = first :: tail :=
    List.exists_cons_of_ne_nil Nat.toDigits_ne_nil
  have leading : first.isDigit = true :=
    Decimal.isDigit_of_mem_natChars (digits ▸ List.mem_cons_self)
  have read : (if first = '0' then (0, tail ++ rest) else takeDigits 0 (first :: tail ++ rest)) =
      (value, rest) := by
    split
    · next zero =>
      obtain rfl : value = 0 := by
        by_contra positive
        exact Decimal.head?_natChars_ne_zero positive (by rw [digits, zero]; rfl)
      obtain ⟨-, rfl⟩ := List.cons.inj digits
      rfl
    · rw [← digits, taken]
  rw [digits, List.cons_append, unsignedNumber]
  simp only [leading, Bool.not_true, Bool.false_eq_true, if_false]
  rw [← List.cons_append, read]
  cases rest with
  | nil => rfl
  | cons char rest => rcases settled char rfl with rfl | rfl | rfl <;> rfl

/-! ## Strings -/

/-- A character that was read in front of the text of a string. -/
def putFront (char : Char) (read : List Char × List Char) : List Char × List Char :=
  (char :: read.1, read.2)

theorem stringBody_escape {chars after : List Char} {char : Char}
    (read : escape chars = .ok (char, after)) :
    stringBody ('\\' :: chars) = (stringBody after).map (putFront char) := by
  rw [stringBody, if_neg (by decide), if_pos rfl]
  split
  · next failed =>
    rw [read] at failed
    cases failed
  · next again =>
    obtain ⟨rfl, rfl⟩ := Prod.mk.inj (Except.ok.inj (read.symm.trans again))
    cases stringBody after <;> rfl

theorem stringBody_plain {char : Char} (rest : List Char) (quote : char ≠ '"')
    (backslash : char ≠ '\\') (visible : ¬char.toNat < 0x20) :
    stringBody (char :: rest) = (stringBody rest).map (putFront char) := by
  rw [stringBody, if_neg quote, if_neg backslash, if_neg visible]
  cases stringBody rest <;> rfl

/-- A short escape names its character. -/
theorem unescape?_of_shortEscape? {char letter : Char} (short : shortEscape? char = some letter) :
    letter ≠ 'u' ∧ unescape? letter = some char := by
  unfold shortEscape? at short
  split at short <;> cases short <;> decide

/-- The two lower-case digits of a control character are read as its code. -/
theorem hexNumber?_control {code : Nat} (control : code < 0x20) :
    Text.hexNumber? ('0' :: '0' :: (Text.hexPair (UInt8.ofNat code)).map Char.toLower) =
      some code := by
  have all : ∀ code < 0x20, Text.hexNumber?
      ('0' :: '0' :: (Text.hexPair (UInt8.ofNat code)).map Char.toLower) = some code := by decide
  exact all code control

theorem length_le_byteLength (chars : List Char) : chars.length ≤ byteLength chars := by
  have counted : ∀ (chars : List Char) (start : Nat), start + chars.length ≤
      chars.foldl (fun total char => total + char.utf8Size) start := by
    intro chars
    induction chars with
    | nil => exact fun start => Nat.le_refl start
    | cons char chars ih =>
        intro start
        have size := char.utf8Size_pos
        have rest := ih (start + char.utf8Size)
        rw [List.foldl_cons, List.length_cons]
        omega
  simpa [byteLength] using counted chars 0

/-- Four digits are read as their number. -/
theorem codeUnit_append {digits : List Char} {unit : Nat} (four : digits.length = 4)
    (read : Text.hexNumber? digits = some unit) (rest : List Char) :
    codeUnit (digits ++ rest) = .ok (unit, rest) := by
  have long := length_le_byteLength (digits ++ rest)
  rw [List.length_append] at long
  rw [codeUnit, if_neg (by omega), List.take_left' four, if_neg (by omega), read,
    List.drop_left' four]

/-- The numeric escape of a control character is that character. -/
theorem escape_control {char : Char} (control : char.toNat < 0x20) (rest : List Char) :
    escape ('u' :: '0' :: '0' :: (Text.hexPair (UInt8.ofNat char.toNat)).map Char.toLower ++ rest) =
      .ok (char, rest) := by
  have unit := codeUnit_append rfl (hexNumber?_control control) rest
  rw [List.cons_append, escape, if_pos rfl, unicodeEscape, unit]
  change (if 0xDC00 ≤ char.toNat ∧ char.toNat ≤ 0xDFFF then _ else _) = _
  rw [if_neg (by omega), if_neg (by omega), Char.ofNat_toNat]

/-- A character of a string is read from what it is written as. -/
theorem stringBody_escapeChar (char : Char) (rest : List Char) :
    stringBody (escapeChar char ++ rest) = (stringBody rest).map (putFront char) := by
  unfold escapeChar
  split
  · next letter short =>
    obtain ⟨other, same⟩ := unescape?_of_shortEscape? short
    refine stringBody_escape ?_
    change escape (letter :: rest) = _
    rw [escape, if_neg other, same]
  · next long =>
    split
    · next control => exact stringBody_escape (escape_control control rest)
    · next visible =>
      refine stringBody_plain rest ?_ ?_ visible
      · rintro rfl
        cases long
      · rintro rfl
        cases long

/-- The text between two quotes is read as the characters it was written from. -/
theorem stringBody_flatMap (chars rest : List Char) :
    stringBody (chars.flatMap escapeChar ++ '"' :: rest) = .ok (chars, rest) := by
  induction chars with
  | nil => rw [List.flatMap_nil, List.nil_append, stringBody, if_pos rfl]
  | cons char chars ih =>
      rw [List.flatMap_cons, List.append_assoc, stringBody_escapeChar, ih]
      rfl

/-! ## Values -/

/-- A document begins with a character of its own and is read back in front of settled text, with
some number of container levels. -/
structure ReadsBack (levels : Nat) (json : Json) : Prop where
  begins : ∃ char rest, json.chars = char :: rest ∧ isSpace char = false ∧ char ≠ ']'
  run : ∀ {rest}, Settled rest → (value levels).run (json.chars ++ rest) = .ok (json, rest)

theorem run_value (levels : Nat) (chars : List Char) :
    ∃ inner, (value levels).run chars = valueWithin inner (skipSpace chars) := by
  cases levels with
  | zero => exact ⟨none, rfl⟩
  | succ levels => exact ⟨some (value levels), rfl⟩

/-- A document that is no container is read back if it is read as an atom. -/
theorem readsBack_of_atom {json : Json} {char : Char} {tail : List Char} (levels : Nat)
    (written : json.chars = char :: tail) (visible : isSpace char = false)
    (outside : char ≠ ']' ∧ char ≠ '[' ∧ char ≠ '{')
    (read : ∀ rest, Settled rest → atom (json.chars ++ rest) = .ok (json, rest)) :
    ReadsBack levels json := by
  refine ⟨⟨char, tail, written, visible, outside.1⟩, ?_⟩
  intro rest settled
  obtain ⟨inner, run⟩ := run_value levels (json.chars ++ rest)
  have kept : skipSpace (json.chars ++ rest) = json.chars ++ rest := by
    simp [skipSpace, written, visible]
  rw [run, kept, ← read rest settled, written, List.cons_append, valueWithin]
  · exact fun _ same => outside.2.1 (List.cons.inj same).1
  · exact fun _ same => outside.2.2 (List.cons.inj same).1

theorem readsBack_null (levels : Nat) : ReadsBack levels .null := by
  refine readsBack_of_atom levels rfl (by decide) (by decide) ?_
  intro rest _
  rw [chars]
  rfl

theorem readsBack_bool (levels : Nat) (value : Bool) : ReadsBack levels (.bool value) := by
  cases value with
  | false =>
      refine readsBack_of_atom levels rfl (by decide) (by decide) ?_
      intro rest _
      rw [chars]
      rfl
  | true =>
      refine readsBack_of_atom levels rfl (by decide) (by decide) ?_
      intro rest _
      rw [chars]
      rfl

theorem readsBack_string (levels : Nat) (text : String) : ReadsBack levels (.string text) := by
  have written : chars (.string text) = '"' :: (text.toList.flatMap escapeChar ++ ['"']) := by
    rw [chars, stringChars, List.cons_append]
  refine readsBack_of_atom levels written (by decide) (by decide) ?_
  intro rest _
  rw [written, List.cons_append, List.append_assoc, List.singleton_append, atom,
    stringBody_flatMap]
  simp [Except.map]

theorem ne_of_isDigit {first char : Char} (digit : first.isDigit = true)
    (other : char.isDigit = false) : first ≠ char := by
  rintro rfl
  rw [digit] at other
  cases other

/-- A text that begins with a digit is read as a number. -/
theorem atom_digit {first : Char} (tail : List Char) (digit : first.isDigit = true) :
    atom (first :: tail) =
      (unsignedNumber false (first :: tail)).map fun read => (.number read.1, read.2) := by
  rw [atom]
  · exact fun same => List.cons_ne_nil _ _ same
  all_goals
    intro rest same
    exact ne_of_isDigit digit (by decide) (List.cons.inj same).1

/-- A whole number of 64 bits, with a sign or without, is read back. -/
theorem readsBack_whole (levels : Nat) {value : Int} (least : Int64.minValue.toInt ≤ value)
    (greatest : value ≤ maxWhole) : ReadsBack levels (.number (.whole value)) := by
  have fits : value.natAbs ≤ maxWhole := by
    rw [Int64.toInt_minValue] at least
    rw [maxWhole] at greatest ⊢
    omega
  by_cases negative : value < 0
  · have written : chars (.number (.whole value)) = '-' :: Decimal.natChars value.natAbs := by
      rw [chars, numberChars, intChars, if_pos negative]
    refine readsBack_of_atom levels written (by decide) (by decide) ?_
    intro rest settled
    have small : 0 < value.natAbs ∧ value.natAbs ≤ Nat.pow 2 63 := by
      have power : Nat.pow 2 63 = 9223372036854775808 := by decide
      rw [Int64.toInt_minValue] at least
      omega
    have same : -(value.natAbs : Int) = value := by omega
    rw [written, List.cons_append, atom, unsignedNumber_natChars true fits settled]
    simp only [wholeNumber, Bool.not_true, Bool.false_eq_true, if_false, small, and_self, if_true,
      same]
    rfl
  · have written : chars (.number (.whole value)) = Decimal.natChars value.natAbs := by
      rw [chars, numberChars, intChars, if_neg negative]
    obtain ⟨first, tail, digits⟩ :
        ∃ first tail, Decimal.natChars value.natAbs = first :: tail :=
      List.exists_cons_of_ne_nil Nat.toDigits_ne_nil
    have digit : first.isDigit = true :=
      Decimal.isDigit_of_mem_natChars (digits ▸ List.mem_cons_self)
    have visible : isSpace first = false := by
      simp [isSpace, ne_of_isDigit digit]
    refine readsBack_of_atom levels (written.trans digits) visible
      ⟨ne_of_isDigit digit rfl, ne_of_isDigit digit rfl, ne_of_isDigit digit rfl⟩ ?_
    intro rest settled
    have same : (value.natAbs : Int) = value := by omega
    have read := unsignedNumber_natChars false fits settled
    rw [digits, List.cons_append] at read
    rw [written, digits, List.cons_append, atom_digit _ digit, read]
    simp only [wholeNumber, Bool.not_false, if_true, same]
    rfl

/-! ## Arrays -/

/-- Behind an item the separator decides whether another one is read. -/
theorem foldItems_of_run {α : Type} {item : α → Scanner α} {close : Char} {state next : α}
    {chars middle : List Char} (read : (item state).run chars = .ok (next, middle)) :
    foldItems item close state chars = (separator close middle).bind fun (more, rest) =>
      if more then foldItems item close next rest else .ok (next, rest) := by
  rw [foldItems]
  split
  · next failed =>
    rw [read] at failed
    cases failed
  · next again =>
    obtain ⟨rfl, rfl⟩ := Prod.mk.inj (Except.ok.inj (read.symm.trans again))
    split
    · next ahead =>
      rw [ahead]
      rfl
    · next ahead =>
      rw [ahead]
      rfl
    · next ahead =>
      rw [ahead]
      rfl

theorem separator_close (rest : List Char) : separator ']' (']' :: rest) = .ok (false, rest) := by
  simp [separator, skipSpace, isSpace]

theorem separator_comma {char : Char} (rest : List Char) (visible : isSpace char = false)
    (other : char ≠ ']') : separator ']' (',' :: char :: rest) = .ok (true, char :: rest) := by
  have comma : isSpace ',' = false := by decide
  simp [separator, afterComma, skipSpace, comma, visible, other, Except.map]

theorem commaSeparated_cons (first second : Json) (items : List Json) :
    commaSeparated (itemChars (first :: second :: items)) =
      first.chars ++ ',' :: commaSeparated (itemChars (second :: items)) := by
  simp [itemChars, commaSeparated]

/-- A list of items begins with a character of its first one. -/
theorem exists_begin {levels : Nat} {items : List Json} (given : items ≠ [])
    (each : ∀ item ∈ items, ReadsBack levels item) (rest : List Char) :
    ∃ char behind, commaSeparated (itemChars items) ++ rest = char :: behind ∧
      isSpace char = false ∧ char ≠ ']' := by
  match items with
  | [] => exact absurd rfl given
  | [first] =>
      obtain ⟨char, tail, written, visible⟩ := (each first List.mem_cons_self).begins
      exact ⟨char, tail ++ rest, by simp [itemChars, commaSeparated, written], visible⟩
  | first :: second :: items =>
      obtain ⟨char, tail, written, visible⟩ := (each first List.mem_cons_self).begins
      exact ⟨char, _, by rw [commaSeparated_cons, written, List.cons_append, List.cons_append],
        visible⟩

/-- Items that are read back are read back from the list that they are written in. -/
theorem foldItems_commaSeparated {levels : Nat} {items : List Json} (given : items ≠ [])
    (each : ∀ item ∈ items, ReadsBack levels item) (state : List Json) (rest : List Char) :
    foldItems (arrayItem (value levels)) ']' state
        (commaSeparated (itemChars items) ++ ']' :: rest) =
      .ok (items.reverse ++ state, rest) := by
  induction items generalizing state with
  | nil => exact absurd rfl given
  | cons first items ih =>
      rw [List.forall_mem_cons] at each
      have read : ∀ {behind}, Settled behind →
          (arrayItem (value levels) state).run (first.chars ++ behind) =
            .ok (first :: state, behind) := by
        intro behind settled
        simp only [arrayItem, each.1.run settled]
        rfl
      cases items with
      | nil =>
          rw [itemChars, itemChars, commaSeparated, foldItems_of_run (read (by simp [Settled])),
            separator_close]
          rfl
      | cons second items =>
          obtain ⟨char, behind, ahead, visible, other⟩ :=
            exists_begin (List.cons_ne_nil second items) each.2 (']' :: rest)
          have later := ih (List.cons_ne_nil second items) each.2 (first :: state)
          rw [ahead] at later
          rw [commaSeparated_cons, List.append_assoc, List.cons_append, ahead,
            foldItems_of_run (read (by simp [Settled])), separator_comma behind visible other]
          simpa [Except.bind] using later

theorem readsBack_array {levels : Nat} {items : List Json}
    (each : ∀ item ∈ items, ReadsBack levels item) : ReadsBack (levels + 1) (.array items) := by
  have written : ∀ rest, chars (.array items) ++ rest =
      '[' :: (commaSeparated (itemChars items) ++ ']' :: rest) := by
    intro rest
    rw [chars, List.cons_append, List.cons_append, List.append_assoc, List.singleton_append]
  refine ⟨⟨'[', _, rfl, by decide, by decide⟩, ?_⟩
  intro rest _
  have folded : foldContainer (arrayItem (value levels)) ']' []
      (commaSeparated (itemChars items) ++ ']' :: rest) = .ok (items.reverse, rest) := by
    by_cases given : items = []
    · simp [given, itemChars, commaSeparated, foldContainer, skipSpace, isSpace]
    · obtain ⟨char, behind, ahead, visible, other⟩ := exists_begin given each (']' :: rest)
      have folded := foldItems_commaSeparated given each [] rest
      rw [List.append_nil, ahead] at folded
      rw [ahead, foldContainer, skipSpace, List.dropWhile_cons_of_neg (by simp [visible])]
      simp only [if_neg other, folded]
  rw [written]
  change (foldContainer (arrayItem (value levels)) ']' []
    (commaSeparated (itemChars items) ++ ']' :: rest)).map _ = _
  rw [folded]
  simp [Except.map]

end Json

namespace Scalar

/-! ## Scalars -/

/-- A scalar that is no double precision number. -/
def Exact : Scalar → Prop
  | .float _ => False
  | _ => True

theorem readsBack_toJson {scalar : Scalar} (exact : scalar.Exact) (levels : Nat) :
    Json.ReadsBack (levels + 1) scalar.toJson := by
  cases scalar with
  | null => exact Json.readsBack_null _
  | bool value => exact Json.readsBack_bool _ value
  | int value =>
      have greatest := value.toInt_lt
      refine Json.readsBack_whole _ value.minValue_le_toInt ?_
      rw [Json.maxWhole]
      omega
  | float value => exact exact.elim
  | text value => exact Json.readsBack_string _ value
  | blob bytes =>
      refine Json.readsBack_array ?_
      intro item member
      obtain ⟨byte, -, rfl⟩ := List.mem_map.1 member
      have small := byte.toNat_lt
      refine Json.readsBack_whole _ ?_ ?_
      · rw [Int64.toInt_minValue]
        omega
      · rw [Json.maxWhole]
        omega

theorem byteOfJson?_byte (byte : UInt8) :
    byteOfJson? (.number (.whole byte.toNat)) = some byte := by
  have small := byte.toNat_lt
  have range : 0 ≤ (byte.toNat : Int) ∧ (byte.toNat : Int) < 256 := by omega
  rw [byteOfJson?, if_pos range, Int.toNat_natCast, UInt8.ofNat_toNat]

theorem mapM_byteOfJson? (bytes : List UInt8) :
    (bytes.map fun byte => Json.number (.whole byte.toNat)).mapM byteOfJson? = some bytes := by
  induction bytes with
  | nil => rfl
  | cons byte bytes ih =>
      rw [List.map_cons, List.mapM_cons, byteOfJson?_byte, ih]
      rfl

/-- A scalar is the scalar of its document. -/
theorem ofJson?_toJson (scalar : Scalar) : ofJson? scalar.toJson = some scalar := by
  cases scalar with
  | null | bool | float | text => rfl
  | int value =>
      rw [toJson, ofJson?, if_pos value.toInt_le, Int64.ofInt_toInt]
  | blob bytes =>
      rw [toJson, ofJson?, mapM_byteOfJson?]
      rfl

/-! ## Kinds of scalars -/

/-- The whole numbers of the signed range are integers. -/
def intOfJson? : Json → Option Scalar
  | .number (.whole value) =>
      if value ≤ Int64.maxValue.toInt then some (.int (Int64.ofInt value)) else none
  | _ => none

/-- Every number could be a double precision number. -/
def floatOfJson? : Json → Option Scalar
  | .number (.whole value) => some (.float (Binary64.ofRatio (value < 0) value.natAbs 1))
  | .number (.float value) => some (.float value)
  | _ => none

def blobOfJson? : Json → Option Scalar
  | .array items => (items.mapM byteOfJson?).map .blob
  | _ => none

/-- The kinds of scalars, each with the documents that it takes, in the order in which they are
tried. -/
def kinds : List (Json → Option Scalar) :=
  [fun | .null => some .null | _ => none,
    fun | .bool value => some (.bool value) | _ => none,
    intOfJson?, floatOfJson?,
    fun | .string value => some (.text value) | _ => none,
    blobOfJson?]

/-- The scalar of a document is that of the first kind that takes it. -/
theorem ofJson?_eq_findSome?_kinds (json : Json) :
    ofJson? json = kinds.findSome? fun kind => kind json := by
  cases json with
  | null | bool | string | object => rfl
  | number value =>
      cases value with
      | float value => rfl
      | whole value =>
          by_cases fits : value ≤ Int64.maxValue.toInt
          · simp [ofJson?, kinds, intOfJson?, fits]
          · have maximum : Int64.maxValue.toInt = 9223372036854775807 := by decide
            have positive : ¬value < 0 := by omega
            have same : value.natAbs = value.toNat := by omega
            simp [ofJson?, kinds, intOfJson?, floatOfJson?, fits, positive, same]
  | array items =>
      cases read : items.mapM byteOfJson? <;>
        simp [ofJson?, kinds, List.findSome?_cons, intOfJson?, floatOfJson?, blobOfJson?, read]

/-- The text of a scalar that is no double precision number is read as its document, and the first
kind of scalar that takes this document gives back the scalar. So the scalar is read back from its
text. -/
theorem parse_render_toJson (scalar : Scalar) (exact : scalar.Exact) :
    Json.parse scalar.toJson.render = .ok scalar.toJson ∧
      (kinds.findSome? fun kind => kind scalar.toJson) = some scalar ∧
      parse scalar.toJson.render = .ok scalar := by
  have read : (Json.value Json.maxLevels).run scalar.toJson.render.toList =
      .ok (scalar.toJson, []) := by
    have read := (readsBack_toJson exact 126).run Json.settled_nil
    rwa [List.append_nil, ← String.toList_ofList (l := scalar.toJson.chars)] at read
  refine ⟨?_, ?_, ?_⟩
  · rw [Json.parse, read]
    rfl
  · rw [← ofJson?_eq_findSome?_kinds, ofJson?_toJson]
  · rw [parse, read]
    simp only [Bind.bind, Except.bind, ofJson?_toJson]
    rfl

/-- Characters with short and with numeric escapes, the least integer and no bytes at all. -/
theorem parse_render_toJson_escapes :
    let text := Scalar.text "\"\\\n\x00é"
    text.Exact ∧ text.toJson.render = "\"\\\"\\\\\\n\\u0000é\"" ∧
      parse text.toJson.render = .ok text ∧
      parse (toJson (.int Int64.minValue)).render = .ok (.int Int64.minValue) ∧
      parse (toJson (.blob [])).render = .ok (.blob []) := by
  intro text
  exact ⟨trivial, by decide, (parse_render_toJson text trivial).2.2,
    (parse_render_toJson (.int Int64.minValue) trivial).2.2,
    (parse_render_toJson (.blob []) trivial).2.2⟩

end Scalar

end SqlClient
