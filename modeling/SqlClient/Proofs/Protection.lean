import Mathlib.Data.List.TakeWhile
import SqlClient.Proofs.RoundTrip

/-!
# Protection

A name that users write and a text that was rendered are read by different functions: only one of
them trims the text, takes an alias without the word AS and keeps what it cannot read. On the texts
that both take for a reference they give the same one, so that a name that is protected already is
left as it is.
-/

namespace SqlClient

namespace Text

/-- Trimming takes blanks from both ends and nothing else. -/
theorem exists_trimChars (chars : List Char) :
    ∃ before after, chars = before ++ trimChars chars ++ after ∧
      (∀ char ∈ before, isBlank char = true) ∧ ∀ char ∈ after, isBlank char = true := by
  let rest := chars.dropWhile isBlank
  have trimmed : rest = trimChars chars ++ (rest.reverse.takeWhile isBlank).reverse := by
    rw [trimChars, ← List.reverse_append, List.takeWhile_append_dropWhile, List.reverse_reverse]
  refine ⟨chars.takeWhile isBlank, (rest.reverse.takeWhile isBlank).reverse, ?_, ?_, ?_⟩
  · rw [List.append_assoc, ← trimmed, List.takeWhile_append_dropWhile]
  · exact fun char => List.mem_takeWhile_imp
  · exact fun char member => List.mem_takeWhile_imp (List.mem_reverse.1 member)

theorem mem_of_mem_trimChars {chars : List Char} {char : Char} (member : char ∈ trimChars chars) :
    char ∈ chars := by
  obtain ⟨before, after, whole, -, -⟩ := exists_trimChars chars
  rw [whole]
  simp [member]

theorem trim_of_visible {text : String} (visible : ∀ char ∈ text.toList, isBlank char = false) :
    trim text = text := by
  have kept : ∀ chars : List Char, (∀ char ∈ chars, char ∈ text.toList) →
      chars.dropWhile isBlank = chars := by
    intro chars among
    refine List.dropWhile_eq_self_iff.2 fun filled => ?_
    simp [visible _ (among _ (List.getElem_mem filled))]
  rw [← String.toList_inj, toList_trim, trimChars, kept _ fun _ => id,
    kept _ fun _ => List.mem_reverse.1, List.reverse_reverse]

end Text

namespace Scanner

variable {quote : Char}

/-! ## Blanks around words -/

theorem ne_of_isBlank {char : Char} (unblank : Text.isBlank quote = false)
    (blank : Text.isBlank char = true) : char ≠ quote := by
  rintro rfl
  simp [unblank] at blank

theorem finishWord_nil : finishWord [] = id := by
  funext words
  simp [finishWord]

/-- Blanks in front of a word are passed over. -/
theorem wordsFrom_blanks_append (unblank : Text.isBlank quote = false) {before : List Char}
    (blank : ∀ char ∈ before, Text.isBlank char = true) (chars : List Char) :
    wordsFrom quote (.outside false) [] (before ++ chars) =
      wordsFrom quote (.outside false) [] chars := by
  induction before with
  | nil => rfl
  | cons char before ih =>
      rw [List.forall_mem_cons] at blank
      rw [List.cons_append, wordsFrom_blank (ne_of_isBlank unblank blank.1) blank.1, ih blank.2,
        finishWord_nil, Option.map_id_fun, id]

/-- Blanks at the end leave a section open and end a word. -/
theorem wordsFrom_blanks (unblank : Text.isBlank quote = false) (place : Place) (word : List Char)
    {after : List Char} (blank : ∀ char ∈ after, Text.isBlank char = true) :
    wordsFrom quote place word after = wordsFrom quote place word [] := by
  cases place with
  | inside =>
      induction after generalizing word with
      | nil => rfl
      | cons char after ih =>
          rw [List.forall_mem_cons] at blank
          simp [wordsFrom, ne_of_isBlank unblank blank.1, ih _ blank.2]
  | outside closed =>
      cases after with
      | nil => rfl
      | cons char after =>
          have rest := wordsFrom_blanks_append unblank (List.forall_mem_cons.1 blank).2 []
          rw [List.forall_mem_cons] at blank
          rw [List.append_nil] at rest
          simp [wordsFrom, opens, ne_of_isBlank unblank blank.1, blank.1, rest, finishWord]

theorem wordsFrom_append_blanks (unblank : Text.isBlank quote = false) (place : Place)
    (word chars : List Char) {after : List Char}
    (blank : ∀ char ∈ after, Text.isBlank char = true) :
    wordsFrom quote place word (chars ++ after) = wordsFrom quote place word chars := by
  induction chars generalizing place word with
  | nil => exact wordsFrom_blanks unblank place word blank
  | cons char chars ih =>
      cases place with
      | inside => rw [List.cons_append, wordsFrom, wordsFrom, ih]
      | outside closed => rw [List.cons_append, wordsFrom, wordsFrom, ih, ih, ih]

/-- Blanks around a text do not change its words. -/
theorem words?_trimChars (unblank : Text.isBlank quote = false) (chars : List Char) :
    words? quote (Text.trimChars chars) = words? quote chars := by
  obtain ⟨before, after, whole, front, back⟩ := Text.exists_trimChars chars
  calc words? quote (Text.trimChars chars)
      = words? quote (before ++ Text.trimChars chars) :=
        (wordsFrom_blanks_append unblank front _).symm
    _ = words? quote (before ++ Text.trimChars chars ++ after) :=
        (wordsFrom_append_blanks unblank _ _ _ back).symm
    _ = words? quote chars := by rw [← whole]

theorem words_trim (dialect : Dialect) {text : String} {found : List String}
    (read : words dialect.quote text = .ok found) :
    words dialect.quote (Text.trim text) = .ok found := by
  have unblank : Text.isBlank dialect.quote = false := by cases dialect <;> decide
  unfold words at read ⊢
  rw [Text.toList_trim, words?_trimChars unblank]
  split at read
  · exact read
  · cases read

/-! ## Names without quotes -/

section Names

variable {chars : List Char} {text : String}

/-- Visible characters without quotes stay in the word that they stand in. -/
theorem wordsFrom_visible {word : List Char} (quoted : quote ∉ chars)
    (visible : ∀ char ∈ chars, Text.isBlank char = false) :
    wordsFrom quote (.outside false) word chars = some (finishWord (chars.reverse ++ word) []) := by
  induction chars generalizing word with
  | nil => simp [wordsFrom]
  | cons char chars ih =>
      rw [List.mem_cons, not_or] at quoted
      rw [List.forall_mem_cons] at visible
      rw [wordsFrom_plain (Ne.symm quoted.1) visible.1, ih quoted.2 visible.2]
      simp

/-- A text without blanks and quotes is one word. -/
theorem words_of_visible (given : text ≠ "") (quoted : quote ∉ text.toList)
    (visible : ∀ char ∈ text.toList, Text.isBlank char = false) :
    words quote text = .ok [text] := by
  rw [words, words?, wordsFrom_visible quoted visible]
  simp [finishWord, given]

theorem leadingPart_of_absent (point : '.' ∉ chars) (quoted : quote ∉ chars) :
    leadingPart quote chars = some (chars, []) := by
  cases chars with
  | nil => rfl
  | cons char rest =>
      have each : ∀ other ∈ char :: rest, decide (other ≠ '.') = true := by
        intro other member
        simpa using ne_of_mem_of_not_mem member point
      rw [leadingPart, if_neg (ne_of_mem_of_not_mem List.mem_cons_self quoted),
        List.takeWhile_eq_self_iff.2 each, List.dropWhile_eq_nil_iff.2 each]

/-- A text without points and quotes is one part. -/
theorem parts_of_absent (given : text ≠ "") (point : '.' ∉ text.toList)
    (quoted : quote ∉ text.toList) : parts quote text = .ok [text] := by
  rw [parts, partsOf_of_end (by simpa using given) (leadingPart_of_absent point quoted)]
  simp

end Names

end Scanner

namespace Dialect

variable {dialect : Dialect} {char : Char}

/-! ## Characters of quoted names -/

theorem mem_doubleChar_iff {doubled : Char} {chars : List Char} :
    char ∈ doubleChar doubled chars ↔ char ∈ chars := by
  induction chars with
  | nil => simp [doubleChar]
  | cons head chars ih =>
      rw [doubleChar_cons, List.mem_append, ih, List.mem_cons]
      by_cases same : head = doubled <;> simp [same]

theorem mem_of_mem_quoteName {name : String} (member : char ∈ (dialect.quoteName name).toList) :
    char = dialect.quote ∨ char ∈ name.toList := by
  by_cases named : name = "*"
  · subst named
    rw [toList_quoteName_star] at member
    exact .inr member
  · rw [toList_quoteName named] at member
    simp only [List.mem_cons, List.mem_append, mem_doubleChar_iff, List.not_mem_nil,
      or_false] at member
    rcases member with quoted | inside | quoted
    · exact .inl quoted
    · exact .inr inside
    · exact .inl quoted

theorem mem_of_mem_quotePath {names : List String}
    (member : char ∈ (dialect.quotePath names).toList) :
    char = dialect.quote ∨ char = '.' ∨ ∃ name ∈ names, char ∈ name.toList := by
  match names with
  | [] => simp [quotePath] at member
  | [name] =>
      rw [toList_quotePath_singleton] at member
      rcases mem_of_mem_quoteName member with quoted | inside
      · exact .inl quoted
      · exact .inr (.inr ⟨name, List.mem_cons_self, inside⟩)
  | name :: next :: names =>
      rw [toList_quotePath_cons, List.mem_append, List.mem_cons] at member
      rcases member with first | point | later
      · rcases mem_of_mem_quoteName first with quoted | inside
        · exact .inl quoted
        · exact .inr (.inr ⟨name, List.mem_cons_self, inside⟩)
      · exact .inr (.inl point)
      · rcases mem_of_mem_quotePath later with quoted | point | ⟨other, within, inside⟩
        · exact .inl quoted
        · exact .inr (.inl point)
        · exact .inr (.inr ⟨other, List.mem_cons_of_mem name within, inside⟩)

end Dialect

namespace Identifier

open Dialect

/-! ## The two readers -/

/-- Text without an opening parenthesis. -/
def Uncalled (text : String) : Prop :=
  '(' ∉ text.toList

instance (text : String) : Decidable (Uncalled text) :=
  inferInstanceAs (Decidable ('(' ∉ text.toList))

theorem isExpression_trim {text : String} (uncalled : Uncalled text) :
    isExpression (Text.trim text) = false := by
  have absent : '(' ∉ Text.trimChars text.toList :=
    fun member => uncalled (Text.mem_of_mem_trimChars member)
  simpa [isExpression] using absent

/-- What is read of a rendered text is read of a name, from the same words. -/
theorem protect_of_read {dialect : Dialect} {text base : String} {found : List String}
    {label? : Option String} (uncalled : Uncalled text)
    (read : Scanner.words dialect.quote text = .ok found)
    (plain : plainWords? found = some (base, label?)) (asSource : Bool) :
    protect dialect text none asSource = ofTexts dialect.quote base label? := by
  have trimmed := Scanner.words_trim dialect read
  have filled : Text.trim text ≠ "" := by
    intro empty
    rw [empty] at trimmed
    obtain rfl := Except.ok.inj trimmed
    cases plain
  rw [protect, if_neg filled, isExpression_trim uncalled, if_neg Bool.false_ne_true, trimmed]
  simp only [bind, Except.bind, plain]
  rfl

theorem protect_of_parse {dialect : Dialect} {sql : String} {identifier : Identifier}
    (uncalled : Uncalled sql) (parsed : parse dialect sql = .ok identifier) (asSource : Bool) :
    protect dialect sql none asSource = .ok identifier := by
  unfold parse at parsed
  obtain ⟨found, read, parsed⟩ := bind_eq_ok.1 parsed
  split at parsed
  · next base =>
    rw [protect_of_read uncalled read rfl, parsed]
  · next base keyword label =>
    split at parsed
    · next same =>
      have plain : plainWords? [base, keyword, label] = some (base, some label) := by
        simp [plainWords?, same]
      rw [protect_of_read uncalled read plain, parsed]
    · cases parsed
  · cases parsed

/-- Quotes and points are all that a path adds to its names. -/
theorem uncalled_path (dialect : Dialect) {path : Path}
    (parts : ∀ part ∈ path.parts, Uncalled part) : Uncalled (path.render dialect) := by
  intro member
  rcases mem_of_mem_quotePath member with quoted | point | ⟨part, within, inside⟩
  · exact absurd quoted (ne_quote (by decide))
  · exact absurd point (by decide)
  · exact parts part within inside

theorem uncalled_alias (dialect : Dialect) {label : String} (uncalled : Uncalled label) :
    Uncalled (renderAlias dialect (some label)) := by
  intro member
  have quoted : '(' ∈ (dialect.quoteName label).toList := by simpa [renderAlias] using member
  rcases mem_of_mem_quoteName quoted with quote | inside
  · exact absurd quote (ne_quote (by decide))
  · exact uncalled inside

theorem protect_render {dialect : Dialect} {identifier : Identifier}
    (plain : identifier.isRaw = false) (parts : ∀ part ∈ identifier.parts, Uncalled part)
    (label : ∀ label ∈ identifier.alias?, Uncalled label) (asSource : Bool) :
    protect dialect (identifier.render dialect) none asSource = .ok identifier := by
  obtain ⟨path, rfl | ⟨label, given, rfl⟩⟩ := exists_path plain
  · refine protect_of_parse ?_ (parse_path dialect path) asSource
    rw [render, renderName, renderAlias, String.append_empty]
    exact uncalled_path dialect parts
  · refine protect_of_parse ?_ (parse_path_alias dialect path given) asSource
    rw [Uncalled, String.toList_append, List.mem_append]
    exact not_or.2 ⟨uncalled_path dialect parts, uncalled_alias dialect (label _ rfl)⟩

/-- On texts without a parenthesis, a name is read as a rendered text is, wherever that can be
read. So a reference that was rendered is read back when it is taken for a name, and its text is
not quoted a second time. -/
theorem protect_of_parsed (dialect : Dialect) (asSource : Bool) :
    (∀ sql identifier, Uncalled sql → parse dialect sql = .ok identifier →
      protect dialect sql none asSource = .ok identifier) ∧
    ∀ identifier : Identifier, identifier.isRaw = false →
      (∀ part ∈ identifier.parts, Uncalled part) → (∀ label ∈ identifier.alias?, Uncalled label) →
        protect dialect (identifier.render dialect) none asSource = .ok identifier ∧
          protectedText dialect (identifier.render dialect) = .ok (identifier.render dialect) := by
  refine ⟨fun sql identifier uncalled parsed => protect_of_parse uncalled parsed asSource, ?_⟩
  intro identifier plain parts label
  refine ⟨protect_render plain parts label asSource, ?_⟩
  rw [protectedText, protect_render plain parts label false]
  rfl

/-- A name under an alias with blanks around it, and names and an alias that have to be quoted. -/
theorem protect_of_parsed_quotes :
    let sql := " \"my table\".\"a\"\"b\"  as  t "
    let path : Path := ⟨["my table", "a\"b"], by decide, by decide⟩
    let identifier : Identifier := { name := .path path, alias? := some "t" }
    Uncalled sql ∧ parse .postgres sql = .ok identifier ∧ identifier.isRaw = false ∧
      (∀ part ∈ identifier.parts, Uncalled part) ∧ (∀ label ∈ identifier.alias?, Uncalled label) ∧
      identifier.render .postgres = "\"my table\".\"a\"\"b\" AS \"t\"" ∧
      protect .postgres sql none true = .ok identifier ∧
      protect .postgres (identifier.render .postgres) none false = .ok identifier := by
  intro sql path identifier
  have uncalled : Uncalled sql := by decide
  have parsed : parse .postgres sql = .ok identifier := by decide +kernel
  have parts : ∀ part ∈ identifier.parts, Uncalled part := by decide
  have label : ∀ label ∈ identifier.alias?, Uncalled label := by decide
  exact ⟨uncalled, parsed, rfl, parts, label, by decide,
    (protect_of_parsed .postgres true).1 sql identifier uncalled parsed,
    ((protect_of_parsed .postgres false).2 identifier rfl parts label).1⟩

end Identifier

end SqlClient
