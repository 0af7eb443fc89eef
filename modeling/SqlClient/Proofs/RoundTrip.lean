import SqlClient.Identifier.Protect
import SqlClient.Steps

/-!
# References read back

The text of a reference that is no expression is read back as that reference. Both scanners, of
words and of parts, are followed over the quoted names of a path: they agree on where a quoted
section ends, whatever the names hold.
-/

namespace SqlClient

namespace Dialect

theorem doubleChar_cons (doubled char : Char) (chars : List Char) :
    doubleChar doubled (char :: chars) =
      (if char = doubled then [doubled, doubled] else [char]) ++ doubleChar doubled chars :=
  List.flatMap_cons

theorem toList_quoteName {dialect : Dialect} {name : String} (named : name ≠ "*") :
    (dialect.quoteName name).toList =
      dialect.quote :: (doubleChar dialect.quote name.toList ++ [dialect.quote]) := by
  simp [quoteName, named]

theorem toList_quoteName_star (dialect : Dialect) : (dialect.quoteName "*").toList = ['*'] := by
  simp [quoteName]

theorem toList_quotePath_singleton (dialect : Dialect) (name : String) :
    (dialect.quotePath [name]).toList = (dialect.quoteName name).toList := by
  simp [quotePath]

theorem toList_quotePath_cons (dialect : Dialect) (name next : String) (names : List String) :
    (dialect.quotePath (name :: next :: names)).toList =
      (dialect.quoteName name).toList ++ '.' :: (dialect.quotePath (next :: names)).toList := by
  simp [quotePath]

theorem quoteName_ne_nil (dialect : Dialect) (name : String) :
    (dialect.quoteName name).toList ≠ [] := by
  by_cases named : name = "*"
  · simp [named, toList_quoteName_star]
  · simp [toList_quoteName named]

theorem quotePath_ne_nil (dialect : Dialect) {names : List String} (given : names ≠ []) :
    (dialect.quotePath names).toList ≠ [] := by
  match names with
  | [] => exact absurd rfl given
  | [name] =>
      rw [toList_quotePath_singleton]
      exact quoteName_ne_nil dialect name
  | name :: next :: names => simp [toList_quotePath_cons]

/-- Neither a point nor a letter nor a blank is a quote. -/
theorem ne_quote {dialect : Dialect} {char : Char} (other : char ≠ '\x60' ∧ char ≠ '"') :
    char ≠ dialect.quote := by
  cases dialect with
  | mysql => exact other.1
  | postgres => exact other.2
  | sqlite => exact other.2

end Dialect

namespace Scanner

open Dialect

variable {quote : Char}

/-! ## Words -/

/-- Inside a section, the scan for words goes on to the quote that is not doubled. -/
theorem wordsFrom_inside (word chars rest : List Char) :
    wordsFrom quote .inside word (doubleChar quote chars ++ quote :: rest) =
      wordsFrom quote (.outside true) (quote :: (doubleChar quote chars).reverse ++ word) rest := by
  induction chars generalizing word with
  | nil => simp [doubleChar, wordsFrom]
  | cons char chars ih =>
      rw [doubleChar_cons]
      by_cases same : char = quote
      · -- the first half closes the section, and the second half opens it again
        simp [same, wordsFrom, opens, ih]
      · simp [same, wordsFrom, ih]

/-- Whether a section was just closed matters only in front of a quote. -/
theorem wordsFrom_closed {word rest : List Char} (single : rest.head? ≠ some quote) :
    wordsFrom quote (.outside true) word rest = wordsFrom quote (.outside false) word rest := by
  cases rest with
  | nil => rfl
  | cons char rest =>
      have other : char ≠ quote := by simpa using single
      simp [wordsFrom, opens, other]

theorem wordsFrom_plain {word rest : List Char} {char : Char} (other : char ≠ quote)
    (visible : Text.isBlank char = false) :
    wordsFrom quote (.outside false) word (char :: rest) =
      wordsFrom quote (.outside false) (char :: word) rest := by
  simp [wordsFrom, opens, other, visible]

theorem wordsFrom_blank {word rest : List Char} {char : Char} (other : char ≠ quote)
    (blank : Text.isBlank char = true) :
    wordsFrom quote (.outside false) word (char :: rest) =
      (wordsFrom quote (.outside false) [] rest).map (finishWord word) := by
  simp [wordsFrom, opens, other, blank]

/-- A place in a word where a part of a name starts. The word so far is given backwards. -/
def StartsPart (word : List Char) : Prop :=
  word = [] ∨ word.head? = some '.'

/-- Where a part starts, a quoted name joins the word. -/
theorem wordsFrom_quoteName {dialect : Dialect} {word rest : List Char} (name : String)
    (starts : StartsPart word) (single : rest.head? ≠ some dialect.quote) :
    wordsFrom dialect.quote (.outside false) word ((dialect.quoteName name).toList ++ rest) =
      wordsFrom dialect.quote (.outside false) ((dialect.quoteName name).toList.reverse ++ word)
        rest := by
  by_cases named : name = "*"
  · subst named
    rw [toList_quoteName_star]
    exact wordsFrom_plain (ne_quote (by decide)) (by decide)
  · have opened : opens dialect.quote false word dialect.quote = true := by
      rcases starts with rfl | point
      · simp [opens]
      · simp [opens, point]
    rw [toList_quoteName named]
    simp [wordsFrom, opened, wordsFrom_inside, wordsFrom_closed single]

/-- Where a part starts, a whole path joins the word. -/
theorem wordsFrom_quotePath {dialect : Dialect} {word rest : List Char} {names : List String}
    (given : names ≠ []) (starts : StartsPart word) (single : rest.head? ≠ some dialect.quote) :
    wordsFrom dialect.quote (.outside false) word ((dialect.quotePath names).toList ++ rest) =
      wordsFrom dialect.quote (.outside false) ((dialect.quotePath names).toList.reverse ++ word)
        rest := by
  match names with
  | [] => exact absurd rfl given
  | [name] =>
      rw [toList_quotePath_singleton]
      exact wordsFrom_quoteName name starts single
  | name :: next :: names =>
      have point : '.' ≠ dialect.quote := ne_quote (by decide)
      rw [toList_quotePath_cons, List.append_assoc, List.cons_append,
        wordsFrom_quoteName name starts (by simpa using point),
        wordsFrom_plain point (by decide),
        wordsFrom_quotePath (List.cons_ne_nil next names) (Or.inr rfl) single]
      simp

/-- A path is one word. -/
theorem words?_quotePath (dialect : Dialect) {names : List String} (given : names ≠ []) :
    words? dialect.quote (dialect.quotePath names).toList =
      some [(dialect.quotePath names).toList] := by
  have ended : ([] : List Char).head? ≠ some dialect.quote := by simp
  have scanned := wordsFrom_quotePath given (Or.inl rfl : StartsPart []) ended
  rw [List.append_nil, List.append_nil] at scanned
  rw [words?, scanned]
  simp [wordsFrom, finishWord, quotePath_ne_nil dialect given]

/-! ## Parts -/

/-- The content of a section is what was doubled. -/
theorem section?_doubleChar {chars rest : List Char}
    (single : rest.head? ≠ some quote) : section? quote (doubleChar quote chars ++ quote :: rest) =
      some (chars, rest) := by
  induction chars with
  | nil =>
      cases rest with
      | nil => simp [doubleChar, section?]
      | cons next rest =>
          have other : next ≠ quote := by simpa using single
          simp [doubleChar, section?, other]
  | cons char chars ih =>
      rw [doubleChar_cons]
      by_cases same : char = quote
      · simp [same, section?, ih]
      · obtain ⟨next, tail, ahead⟩ :
            ∃ next tail, doubleChar quote chars ++ quote :: rest = next :: tail :=
          List.exists_cons_of_ne_nil (by simp)
        rw [ahead] at ih
        rw [if_neg same, List.append_assoc, ahead]
        simp [section?, same, ih]

/-- The first part of a quoted name is that name, in front of a point or the end. -/
theorem leadingPart_quoteName {dialect : Dialect} {rest : List Char} (name : String)
    (ended : ∀ char ∈ rest.head?, char = '.') :
    leadingPart dialect.quote ((dialect.quoteName name).toList ++ rest) =
      some (name.toList, rest) := by
  by_cases named : name = "*"
  · subst named
    have star : '*' ≠ dialect.quote := ne_quote (by decide)
    rw [toList_quoteName_star]
    cases rest with
    | nil => simp [leadingPart, star]
    | cons char rest =>
        obtain rfl : char = '.' := by simpa using ended
        simp [leadingPart, star]
  · have single : rest.head? ≠ some dialect.quote := by
      intro quoted
      exact ne_quote (by decide) (ended dialect.quote quoted).symm
    rw [toList_quoteName named]
    simp [leadingPart, section?_doubleChar single]

theorem partsOf_of_end {chars part : List Char} (given : part ≠ [])
    (leading : leadingPart quote chars = some (part, [])) : partsOf quote chars = .ok [part] := by
  obtain ⟨char, part, rfl⟩ := List.exists_cons_of_ne_nil given
  rw [partsOf]
  split <;> simp_all

theorem partsOf_of_point {chars part rest : List Char} (given : part ≠ [])
    (leading : leadingPart quote chars = some (part, '.' :: rest)) :
    partsOf quote chars = (partsOf quote rest).map (part :: ·) := by
  obtain ⟨char, part, rfl⟩ := List.exists_cons_of_ne_nil given
  rw [partsOf]
  split <;> simp_all

theorem partsOf_ne_nil {chars : List Char} : partsOf quote chars ≠ .ok [] := by
  intro found
  rw [partsOf] at found
  split at found
  · cases found
  · cases found
  · cases found
  · split at found
    · obtain ⟨later, -, same⟩ := map_eq_ok.1 found
      cases same
    · cases found

/-- The parts of a path are its names. -/
theorem partsOf_quotePath {dialect : Dialect} {names : List String} (given : names ≠ [])
    (each : ∀ name ∈ names, name ≠ "") :
    partsOf dialect.quote (dialect.quotePath names).toList = .ok (names.map String.toList) := by
  match names with
  | [] => exact absurd rfl given
  | [name] =>
      have visible : name.toList ≠ [] := by simpa using each
      have leading : leadingPart dialect.quote ((dialect.quoteName name).toList ++ []) =
          some (name.toList, []) := leadingPart_quoteName name (by simp)
      rw [List.append_nil] at leading
      rw [toList_quotePath_singleton]
      exact partsOf_of_end visible leading
  | name :: next :: names =>
      have visible : name.toList ≠ [] := by simpa using each name List.mem_cons_self
      rw [toList_quotePath_cons,
        partsOf_of_point visible (leadingPart_quoteName name (by simp)),
        partsOf_quotePath (List.cons_ne_nil next names)
          fun other member => each other (List.mem_cons_of_mem name member)]
      rfl

theorem parts_quotePath {dialect : Dialect} {names : List String} (given : names ≠ [])
    (each : ∀ name ∈ names, name ≠ "") :
    parts dialect.quote (dialect.quotePath names) = .ok names := by
  rw [parts, partsOf_quotePath given each]
  simp [Function.comp_def]

/-- A quoted name is a path of its own. -/
theorem parts_quoteName (dialect : Dialect) {name : String} (given : name ≠ "") :
    parts dialect.quote (dialect.quoteName name) = .ok [name] := by
  have whole : parts dialect.quote (dialect.quotePath [name]) = .ok [name] :=
    parts_quotePath (List.cons_ne_nil name []) (by simpa using given)
  simpa [quotePath] using whole

end Scanner

namespace Identifier

open Dialect Scanner

theorem ofParts_path (path : Path) : ofParts path.parts = .ok { name := .path path } := by
  rw [ofParts, Path.ofParts, dif_pos ⟨path.parts_ne, path.part_ne⟩]
  rfl

/-- A path and its alias are three words. -/
theorem words_alias (dialect : Dialect) (path : Path) (label : String) :
    Scanner.words dialect.quote (path.render dialect ++ renderAlias dialect (some label)) =
      .ok [path.render dialect, "AS", dialect.quoteName label] := by
  have blank : ' ' ≠ dialect.quote := ne_quote (by decide)
  have labelled := words?_quotePath dialect (List.cons_ne_nil label [])
  rw [toList_quotePath_singleton, words?] at labelled
  have written : (path.render dialect ++ renderAlias dialect (some label)).toList =
      (dialect.quotePath path.parts).toList ++
        ' ' :: 'A' :: 'S' :: ' ' :: (dialect.quoteName label).toList := by
    simp [Path.render, renderAlias]
  rw [Scanner.words, words?, written,
    wordsFrom_quotePath path.parts_ne (Or.inl rfl) (by simpa using blank),
    wordsFrom_blank blank (by decide), wordsFrom_plain (ne_quote (by decide)) (by decide),
    wordsFrom_plain (ne_quote (by decide)) (by decide), wordsFrom_blank blank (by decide),
    labelled]
  simp [finishWord, quotePath_ne_nil dialect path.parts_ne, Path.render]

theorem withAlias_eq (identifier : Identifier) {label : String} (given : label ≠ "") :
    identifier.withAlias label =
      { name := identifier.name, alias? := some label, alias_ne := by simpa using given } :=
  dif_neg given

/-- A reference that is no expression is a path, under an alias or without one. -/
theorem exists_path {identifier : Identifier} (plain : identifier.isRaw = false) :
    ∃ path, identifier = { name := .path path } ∨
      ∃ (label : String) (given : label ≠ ""), identifier =
        { name := .path path, alias? := some label, alias_ne := by simpa using given } := by
  obtain ⟨name, alias?, alias_ne⟩ := identifier
  cases name with
  | raw sql => simp [isRaw] at plain
  | path path =>
      cases alias? with
      | none => exact ⟨path, .inl rfl⟩
      | some label => exact ⟨path, .inr ⟨label, fun empty => alias_ne (congrArg some empty), rfl⟩⟩

theorem parse_path (dialect : Dialect) (path : Path) :
    parse dialect (render dialect { name := .path path }) = .ok { name := .path path } := by
  have names : Scanner.parts dialect.quote (path.render dialect) = .ok path.parts :=
    parts_quotePath path.parts_ne path.part_ne
  have word : Scanner.words dialect.quote (path.render dialect) = .ok [path.render dialect] := by
    rw [Path.render, Scanner.words, words?_quotePath dialect path.parts_ne]
    simp
  rw [render, renderName, renderAlias, String.append_empty, parse, word]
  change ofTexts dialect.quote (path.render dialect) none = _
  exact bind_eq_ok.2 ⟨path.parts, names, bind_eq_ok.2 ⟨_, ofParts_path path, rfl⟩⟩

theorem parse_path_alias (dialect : Dialect) (path : Path) {label : String} (given : label ≠ "") :
    parse dialect (path.render dialect ++ renderAlias dialect (some label)) =
      .ok { name := .path path, alias? := some label, alias_ne := by simpa using given } := by
  have names : Scanner.parts dialect.quote (path.render dialect) = .ok path.parts :=
    parts_quotePath path.parts_ne path.part_ne
  rw [parse, words_alias]
  change ofTexts dialect.quote (path.render dialect) (some (dialect.quoteName label)) = _
  refine bind_eq_ok.2 ⟨path.parts, names, bind_eq_ok.2 ⟨_, ofParts_path path, ?_⟩⟩
  exact bind_eq_ok.2 ⟨[label], parts_quoteName dialect given,
    congrArg Except.ok (withAlias_eq _ given)⟩

/-- A reference that is no expression is read back from its text, with its names and its alias. -/
theorem parse_render (dialect : Dialect) {identifier : Identifier}
    (plain : identifier.isRaw = false) :
    parse dialect (identifier.render dialect) = .ok identifier := by
  obtain ⟨path, rfl | ⟨label, given, rfl⟩⟩ := exists_path plain
  · exact parse_path dialect path
  · exact parse_path_alias dialect path given

/-- Names and an alias that hold quotes, points, blanks and the word AS. -/
theorem parse_render_quotes :
    let path : Path := ⟨["my.schema", "a\"\x60b AS c", "*"], by decide, by decide⟩
    let identifier : Identifier := { name := .path path, alias? := some "\" AS .\x60" }
    identifier.isRaw = false ∧
      identifier.render .postgres = "\"my.schema\".\"a\"\"\x60b AS c\".* AS \"\"\" AS .\x60\"" ∧
      parse .postgres (identifier.render .postgres) = .ok identifier ∧
      parse .mysql (identifier.render .mysql) = .ok identifier := by
  intro path identifier
  exact ⟨rfl, by decide, parse_render .postgres rfl, parse_render .mysql rfl⟩

end Identifier

end SqlClient
