import Mathlib.Data.List.DropRight
import SqlClient.Proofs.Protection

/-!
# Ordering terms

A term of an ordering is a column with an optional direction, or a text that is kept. What a term is
protected to is a term of the same kind, and it is protected to itself: a column that was quoted is
read back as the column, and a text that was kept is kept again.
-/

namespace SqlClient

namespace Text

/-- A trimmed text has no blanks left at its ends. -/
theorem trimChars_trimChars (chars : List Char) :
    trimChars (trimChars chars) = trimChars chars := by
  have trimmed : ∀ chars, trimChars chars = (chars.dropWhile isBlank).rdropWhile isBlank :=
    fun chars => rfl
  have front : (trimChars chars).dropWhile isBlank = trimChars chars := by
    rw [trimmed, List.dropWhile_eq_self_iff]
    intro filled
    have kept := List.rdropWhile_prefix isBlank (l := chars.dropWhile isBlank)
    rw [kept.getElem filled]
    exact List.dropWhile_eq_self_iff.1 (List.dropWhile_idempotent isBlank chars) _
  rw [trimmed, front, trimmed, List.rdropWhile_idempotent]

theorem trim_trim (text : String) : trim (trim text) = trim text := by
  rw [trim, toList_trim, trimChars_trimChars, ← trim]

/-- Capital letters do not depend on the case of the letters they are made from. -/
theorem toUpper_toLower (char : Char) : char.toLower.toUpper = char.toUpper := by
  by_cases upper : 'A' ≤ char ∧ char ≤ 'Z'
  · have all : ∀ code ≤ 'Z'.toNat,
        (Char.ofNat code).toLower.toUpper = (Char.ofNat code).toUpper := by decide
    rw [← Char.ofNat_toNat char]
    exact all char.toNat upper.2
  · have same : char.toLower = char := dif_neg upper
    rw [same]

end Text

namespace Scanner

variable {quote : Char}

/-! ## Words and parts by themselves -/

/-- A scan for words stands at a place of a word once it read the word up to there. -/
def Reads (quote : Char) (word : List Char) (place : Place) : Prop :=
  ∀ rest, wordsFrom quote (.outside false) [] (word.reverse ++ rest) =
    wordsFrom quote place word rest

theorem Reads.step {word : List Char} {place next : Place} {char : Char}
    (reads : Reads quote word place)
    (moved : ∀ rest, wordsFrom quote place word (char :: rest) =
      wordsFrom quote next (char :: word) rest) :
    Reads quote (char :: word) next := by
  intro rest
  rw [List.reverse_cons, List.append_assoc, List.singleton_append, reads, moved]

/-- A word that ends is the only word of its own. -/
theorem Reads.words?_eq {word : List Char} {closed : Bool}
    (reads : Reads quote word (.outside closed)) (given : word ≠ []) :
    words? quote word.reverse = some [word.reverse] := by
  have ended := reads []
  rw [List.append_nil] at ended
  rw [words?, ended]
  simp [wordsFrom, finishWord, given]

theorem mem_finishWord {word found : List Char} {later : List (List Char)} :
    found ∈ finishWord word later ↔ word ≠ [] ∧ found = word.reverse ∨ found ∈ later := by
  by_cases given : word = [] <;> simp [finishWord, given]

/-- A word that a scan finds is cut as itself, and it is a segment of what the scan reads. -/
theorem single_of_wordsFrom {place : Place} {word chars found : List Char}
    {words : List (List Char)} (reads : Reads quote word place)
    (cut : wordsFrom quote place word chars = some words) (member : found ∈ words) :
    words? quote found = some [found] ∧ found <:+: word.reverse ++ chars := by
  induction chars generalizing place word words with
  | nil =>
      cases place with
      | inside => cases cut
      | outside closed =>
          obtain rfl := Option.some.inj cut
          rcases mem_finishWord.1 member with ⟨given, rfl⟩ | later
          · exact ⟨reads.words?_eq given, List.infix_append_left⟩
          · cases later
  | cons char chars induction =>
      have moved : ∀ {next}, (∀ rest, wordsFrom quote place word (char :: rest) =
          wordsFrom quote next (char :: word) rest) →
          words? quote found = some [found] ∧ found <:+: word.reverse ++ char :: chars := by
        intro next moved
        rw [moved] at cut
        simpa using induction (reads.step moved) cut member
      cases place with
      | inside => exact moved fun rest => rfl
      | outside closed =>
          by_cases opened : opens quote closed word char = true
          · exact moved fun rest => by rw [wordsFrom, if_pos opened]
          by_cases blank : Text.isBlank char = true
          · rw [wordsFrom, if_neg opened, if_pos blank] at cut
            obtain ⟨later, found, rfl⟩ := Option.map_eq_some_iff.1 cut
            rcases mem_finishWord.1 member with ⟨given, rfl⟩ | further
            · exact ⟨reads.words?_eq given, List.infix_append_left⟩
            · obtain ⟨single, within⟩ := induction (fun rest => rfl) found further
              have behind : chars <:+ word.reverse ++ char :: chars :=
                (List.suffix_cons char chars).trans (List.suffix_append _ _)
              exact ⟨single, within.trans behind.isInfix⟩
          · exact moved fun rest => by rw [wordsFrom, if_neg opened, if_neg blank]

/-- A word of a text is the only word of its own, and a segment of the text. -/
theorem single_of_words? {chars word : List Char} {found : List (List Char)}
    (cut : words? quote chars = some found) (member : word ∈ found) :
    words? quote word = some [word] ∧ word <:+: chars :=
  single_of_wordsFrom (fun _ => rfl) cut member

/-- A quoted section and what follows it hold characters of the text. -/
theorem subset_of_section? {chars content rest : List Char}
    (found : section? quote chars = some (content, rest)) : content ++ rest ⊆ chars := by
  fun_induction section? quote chars generalizing content rest with
  | case1 => cases found
  | case2 =>
      cases found
      exact List.nil_subset _
  | case3 => cases found
  | case4 tail induction =>
      obtain ⟨⟨inner, after⟩, inside, same⟩ := Option.map_eq_some_iff.1 found
      cases same
      exact List.cons_subset_cons _ (List.subset_cons_of_subset _ (induction inside))
  | case5 next tail =>
      cases found
      exact List.subset_cons_self _ _
  | case6 char next tail _ induction =>
      obtain ⟨⟨inner, after⟩, inside, same⟩ := Option.map_eq_some_iff.1 found
      cases same
      exact List.cons_subset_cons _ (induction inside)

theorem subset_of_leadingPart {chars part rest : List Char}
    (found : leadingPart quote chars = some (part, rest)) : part ++ rest ⊆ chars := by
  cases chars with
  | nil =>
      cases found
      exact List.nil_subset _
  | cons char tail =>
      rw [leadingPart] at found
      split at found
      · exact List.subset_cons_of_subset _ (subset_of_section? found)
      · cases found
        rw [List.takeWhile_append_dropWhile]
        exact List.Subset.refl _

/-- The parts of a dotted name hold characters of the name. -/
theorem subset_of_partsOf {chars part : List Char} {parts : List (List Char)}
    (found : partsOf quote chars = .ok parts) (member : part ∈ parts) : part ⊆ chars := by
  fun_induction partsOf quote chars generalizing parts with
  | case1 => cases found
  | case2 => cases found
  | case3 chars char rest leading =>
      cases found
      obtain rfl := List.mem_singleton.1 member
      simpa using subset_of_leadingPart leading
  | case4 chars char first rest leading induction =>
      have whole := subset_of_leadingPart leading
      obtain ⟨later, cut, rfl⟩ := map_eq_ok.1 found
      rcases List.mem_cons.1 member with rfl | further
      · exact fun _ inside => whole (List.mem_append_left _ inside)
      · exact fun _ inside =>
          whole (List.mem_append_right _ (List.mem_cons_of_mem _ (induction cut further inside)))
  | case5 => cases found

theorem mem_of_mem_parts {name part : String} {parts : List String} {char : Char}
    (found : Scanner.parts quote name = .ok parts) (member : part ∈ parts)
    (inside : char ∈ part.toList) : char ∈ name.toList := by
  rw [Scanner.parts] at found
  split at found
  · next cut =>
    cases found
    obtain ⟨chars, within, rfl⟩ := List.mem_map.1 member
    rw [String.toList_ofList] at inside
    exact subset_of_partsOf cut within inside
  · cases found

/-- A word of a text is the only word of its own, and it holds characters of the text. -/
theorem single_of_words {text word : String} {found : List String}
    (cut : Scanner.words quote text = .ok found) (member : word ∈ found) :
    Scanner.words quote word = .ok [word] ∧ ∀ char ∈ word.toList, char ∈ text.toList := by
  rw [Scanner.words] at cut
  split at cut
  · next words read =>
    cases cut
    obtain ⟨chars, within, rfl⟩ := List.mem_map.1 member
    obtain ⟨single, segment⟩ := single_of_words? read within
    rw [Scanner.words, String.toList_ofList, single]
    exact ⟨rfl, fun char inside => segment.subset inside⟩
  · cases cut

end Scanner

namespace Identifier

open Dialect Scanner

variable {dialect : Dialect}

/-! ## Directions -/

theorem toUpper_eq_of_same {word keyword : String} (same : Text.sameIgnoringCase word keyword) :
    Text.toUpper word = Text.toUpper keyword := by
  have lowered : word.toList.map Char.toLower = keyword.toList.map Char.toLower :=
    beq_iff_eq.1 same
  have raised := congrArg (List.map Char.toUpper) lowered
  simp only [List.map_map, Function.comp_def, Text.toUpper_toLower] at raised
  rw [Text.toUpper, raised, ← Text.toUpper]

/-- A direction as it is written. -/
def IsDirection (direction : String) : Prop :=
  direction = "ASC" ∨ direction = "DESC"

theorem isDirection_of_direction? {word direction : String}
    (found : direction? word = some direction) : IsDirection direction := by
  rw [direction?] at found
  split at found
  · next known =>
    cases found
    exact known.imp (fun same => (toUpper_eq_of_same same).trans (by decide))
      fun same => (toUpper_eq_of_same same).trans (by decide)
  · cases found

theorem direction?_of_isDirection {direction : String} (known : IsDirection direction) :
    direction? direction = some direction := by
  rcases known with rfl | rfl <;> decide

theorem words?_direction (dialect : Dialect) {direction : String} (known : IsDirection direction) :
    words? dialect.quote direction.toList = some [direction.toList] := by
  rcases known with rfl | rfl <;> cases dialect <;> decide

/-! ## Terms -/

/-- A column and its direction, if words have the form of a term with a column. -/
def orderingWords? : List String → Option (String × Option String)
  | [column] => some (column, none)
  | [column, word] => (direction? word).map fun direction => (column, some direction)
  | _ => none

/-- A column and a direction as a term. -/
def termText (column : String) : Option String → String
  | none => column
  | some direction => column ++ " " ++ direction

theorem mem_of_orderingWords? {found : List String} {column : String} {direction? : Option String}
    (plain : orderingWords? found = some (column, direction?)) :
    column ∈ found ∧ ∀ direction ∈ direction?, IsDirection direction := by
  match found with
  | [] => cases plain
  | [_] =>
      cases plain
      exact ⟨List.mem_cons_self, by simp⟩
  | [_, word] =>
      obtain ⟨direction, known, same⟩ := Option.map_eq_some_iff.1 plain
      cases same
      refine ⟨List.mem_cons_self, ?_⟩
      rintro _ ⟨⟩
      exact isDirection_of_direction? known
  | _ :: _ :: _ :: _ => cases plain

theorem orderingWords?_of_isDirection (column : String) {direction? : Option String}
    (known : ∀ direction ∈ direction?, IsDirection direction) :
    orderingWords? (column :: direction?.toList) = some (column, direction?) := by
  cases direction? with
  | none => rfl
  | some direction =>
      simp [orderingWords?, direction?_of_isDirection (known direction rfl)]

theorem protectOrdering_trim (dialect : Dialect) (term : String) :
    protectOrdering dialect (Text.trim term) = protectOrdering dialect term := by
  simp only [protectOrdering, Text.trim_trim]

/-- A term without a parenthesis is a column with a direction, or it is kept. -/
theorem protectOrdering_of_words {term : String} {found : List String}
    (filled : Text.trim term ≠ "") (uncalled : Uncalled term)
    (read : Scanner.words dialect.quote term = .ok found) :
    protectOrdering dialect term =
      match orderingWords? found with
      | some (column, direction?) => (protectedText dialect column).map (termText · direction?)
      | none => .ok (Text.trim term) := by
  rw [protectOrdering, if_neg filled, isExpression_trim uncalled, if_neg Bool.false_ne_true,
    Scanner.words_trim dialect read]
  match found with
  | [] => rfl
  | [column] =>
      simp only [orderingWords?, bind, Except.bind]
      cases protectedText dialect column <;> rfl
  | [column, word] =>
      simp only [orderingWords?, bind, Except.bind]
      cases direction? word with
      | none => rfl
      | some direction =>
          simp only [Option.map_some]
          cases protectedText dialect column <;> rfl
  | _ :: _ :: _ :: _ => rfl

theorem filled_of_words {term : String} {found : List String}
    (read : Scanner.words dialect.quote term = .ok found) (given : found ≠ []) :
    Text.trim term ≠ "" := by
  intro empty
  have trimmed := Scanner.words_trim dialect read
  rw [empty] at trimmed
  exact given (Except.ok.inj trimmed).symm

/-! ## Columns of terms -/

theorem render_path (dialect : Dialect) (path : Path) :
    render dialect { name := .path path } = path.render dialect := by
  rw [render, renderName, renderAlias, String.append_empty]

/-- A dotted name without an alias is a path of parts of the name. -/
theorem path_of_ofTexts {quote : Char} {base : String} {identifier : Identifier}
    (read : ofTexts quote base none = .ok identifier) :
    ∃ path : Path, identifier = { name := .path path } ∧
      ∀ part ∈ path.parts, ∀ char ∈ part.toList, char ∈ base.toList := by
  obtain ⟨parts, cut, read⟩ := bind_eq_ok.1 read
  obtain ⟨plain, made, read⟩ := bind_eq_ok.1 read
  obtain ⟨path, given, rfl⟩ := map_eq_ok.1 made
  cases read
  rw [Path.ofParts] at given
  split at given
  · cases given
    exact ⟨_, rfl, fun part member char => mem_of_mem_parts cut member⟩
  · cases given

/-- A word that is protected as a column is a path of parts of the word. -/
theorem path_of_protectedText {term column written : String} {found : List String}
    (uncalled : Uncalled term) (read : Scanner.words dialect.quote term = .ok found)
    (member : column ∈ found) (done : protectedText dialect column = .ok written) :
    ∃ path : Path, protect dialect column none false = .ok { name := .path path } ∧
      written = path.render dialect ∧ ∀ part ∈ path.parts, Uncalled part := by
  obtain ⟨single, within⟩ := single_of_words read member
  have plain : Uncalled column := fun inside => uncalled (within _ inside)
  obtain ⟨identifier, given, rfl⟩ := map_eq_ok.1 done
  obtain ⟨path, rfl, parts⟩ :=
    path_of_ofTexts ((protect_of_read plain single rfl false).symm.trans given)
  exact ⟨path, given, render_path dialect path,
    fun part member inside => plain (parts part member _ inside)⟩

/-- A term with a column is protected to the path of the column and its direction. -/
theorem path_of_protectOrdering {term word text : String} {found : List String}
    {direction? : Option String} (filled : Text.trim term ≠ "") (uncalled : Uncalled term)
    (read : Scanner.words dialect.quote term = .ok found)
    (plain : orderingWords? found = some (word, direction?))
    (ordered : protectOrdering dialect term = .ok text) :
    ∃ path : Path, protect dialect word none false = .ok { name := .path path } ∧
      text = termText (path.render dialect) direction? ∧ ∀ part ∈ path.parts, Uncalled part := by
  rw [protectOrdering_of_words filled uncalled read] at ordered
  simp only [plain] at ordered
  obtain ⟨written, done, rfl⟩ := map_eq_ok.1 ordered
  obtain ⟨path, given, rfl, parts⟩ :=
    path_of_protectedText uncalled read (mem_of_orderingWords? plain).1 done
  exact ⟨path, given, rfl, parts⟩

/-! ## Terms protected again -/

/-- A path and a direction are the words of their term. -/
theorem words_termText (dialect : Dialect) (path : Path) {direction? : Option String}
    (known : ∀ direction ∈ direction?, IsDirection direction) :
    Scanner.words dialect.quote (termText (path.render dialect) direction?) =
      .ok (path.render dialect :: direction?.toList) := by
  cases direction? with
  | none =>
      rw [termText, Path.render, Scanner.words, words?_quotePath dialect path.parts_ne]
      simp
  | some direction =>
      have blank : ' ' ≠ dialect.quote := ne_quote (by decide)
      have written : (termText (path.render dialect) (some direction)).toList =
          (dialect.quotePath path.parts).toList ++ ' ' :: direction.toList := by
        simp [termText, Path.render]
      have single := words?_direction dialect (known direction rfl)
      rw [words?] at single
      rw [Scanner.words, words?, written,
        wordsFrom_quotePath path.parts_ne (Or.inl rfl) (by simpa using blank),
        wordsFrom_blank blank (by decide), single]
      simp [finishWord, quotePath_ne_nil dialect path.parts_ne, Path.render]

theorem uncalled_termText {column : String} {direction? : Option String}
    (uncalled : Uncalled column) (known : ∀ direction ∈ direction?, IsDirection direction) :
    Uncalled (termText column direction?) := by
  cases direction? with
  | none => exact uncalled
  | some direction =>
      have plain : Uncalled direction := by
        rcases known direction rfl with rfl | rfl <;> decide
      simp only [Uncalled, termText, String.toList_append, List.mem_append, not_or]
      exact ⟨⟨uncalled, by decide⟩, plain⟩

/-- A path with a direction is protected to itself. -/
theorem protectOrdering_termText {path : Path} {direction? : Option String}
    (parts : ∀ part ∈ path.parts, Uncalled part)
    (known : ∀ direction ∈ direction?, IsDirection direction) :
    protectOrdering dialect (termText (path.render dialect) direction?) =
      .ok (termText (path.render dialect) direction?) := by
  have read := words_termText dialect path known
  have uncalled := uncalled_termText (uncalled_path dialect parts) known
  have column : protectedText dialect (path.render dialect) = .ok (path.render dialect) := by
    have plain : isRaw { name := .path path } = false := rfl
    have whole : protect dialect (render dialect { name := .path path }) none false = .ok _ :=
      protect_render plain parts (by simp) false
    rw [render_path] at whole
    rw [protectedText, whole, Except.map, render_path]
  rw [protectOrdering_of_words (filled_of_words read (List.cons_ne_nil _ _)) uncalled read,
    orderingWords?_of_isDirection _ known]
  simp only [column, Except.map]

/-- What a term is protected to is the trimmed term, or a path with a direction. -/
theorem protectOrdering_cases {term text : String}
    (ordered : protectOrdering dialect term = .ok text) :
    text = Text.trim term ∨ ∃ (path : Path) (direction? : Option String),
      (∀ part ∈ path.parts, Uncalled part) ∧ (∀ direction ∈ direction?, IsDirection direction) ∧
        text = termText (path.render dialect) direction? := by
  rw [← protectOrdering_trim] at ordered
  have trimmed := Text.trim_trim term
  by_cases filled : Text.trim term = ""
  · rw [protectOrdering, trimmed, if_pos filled] at ordered
    cases ordered
  by_cases uncalled : Uncalled (Text.trim term)
  · cases read : Scanner.words dialect.quote (Text.trim term) with
    | error cause =>
        rw [protectOrdering, trimmed, if_neg filled, ← trimmed, isExpression_trim uncalled,
          if_neg Bool.false_ne_true, trimmed, read] at ordered
        cases ordered
    | ok found =>
        rw [← trimmed] at filled
        cases plain : orderingWords? found with
        | none =>
            rw [protectOrdering_of_words filled uncalled read, plain, trimmed] at ordered
            cases ordered
            exact Or.inl rfl
        | some pair =>
            obtain ⟨path, -, whole, parts⟩ :=
              path_of_protectOrdering filled uncalled read plain ordered
            exact Or.inr ⟨path, pair.2, parts, (mem_of_orderingWords? plain).2, whole⟩
  · have called : isExpression (Text.trim term) = true := by
      simpa [isExpression, Uncalled] using uncalled
    rw [protectOrdering, trimmed, if_neg filled, if_pos called] at ordered
    cases ordered
    exact Or.inl rfl

/-- A word is protected as a column, and what it is protected to is read back. -/
def Protects (dialect : Dialect) (word column : String) : Prop :=
  ∃ identifier, protect dialect word none false = .ok identifier ∧
    identifier.render dialect = column ∧ parse dialect column = .ok identifier

/-- A term with a column is protected just where its column is. -/
theorem protectOrdering_eq_ok_iff {term word text : String} {found : List String}
    {direction? : Option String} (uncalled : Uncalled term)
    (read : Scanner.words dialect.quote term = .ok found)
    (plain : orderingWords? found = some (word, direction?)) :
    protectOrdering dialect term = .ok text ↔
      ∃ column, Protects dialect word column ∧ text = termText column direction? := by
  have given := List.ne_nil_of_mem (mem_of_orderingWords? plain).1
  have filled := filled_of_words read given
  constructor
  · intro ordered
    obtain ⟨path, done, rfl, -⟩ := path_of_protectOrdering filled uncalled read plain ordered
    refine ⟨_, ⟨_, done, render_path dialect path, ?_⟩, rfl⟩
    rw [← render_path]
    exact parse_path dialect path
  · rintro ⟨column, ⟨identifier, done, rfl, -⟩, rfl⟩
    rw [protectOrdering_of_words filled uncalled read]
    simp only [plain, protectedText, done, Except.map]

/-- What a term is protected to is protected to itself. A term that is one word, or one word and a
direction in letters of either case, is protected just where the word is: to the column that the
word is protected to, whose text is read back as the same reference, and the direction in upper
case. -/
theorem protectOrdering_idempotent (dialect : Dialect) (term text : String) :
    (protectOrdering dialect term = .ok text → protectOrdering dialect text = .ok text) ∧
      (Uncalled term → ∀ word,
        (Scanner.words dialect.quote term = .ok [word] →
          (protectOrdering dialect term = .ok text ↔ Protects dialect word text)) ∧
        ∀ last, Scanner.words dialect.quote term = .ok [word, last] →
          Text.sameIgnoringCase last "ASC" ∨ Text.sameIgnoringCase last "DESC" →
            (protectOrdering dialect term = .ok text ↔ ∃ column, Protects dialect word column ∧
              text = column ++ " " ++ Text.toUpper last)) := by
  refine ⟨fun ordered => ?_, fun uncalled word => ⟨fun read => ?_, fun last read direction => ?_⟩⟩
  · rcases protectOrdering_cases ordered with rfl | ⟨path, direction?, parts, known, rfl⟩
    · rw [protectOrdering_trim, ordered]
    · exact protectOrdering_termText parts known
  · rw [protectOrdering_eq_ok_iff uncalled read rfl]
    simp only [termText, exists_eq_right']
  · have known : direction? last = some (Text.toUpper last) := if_pos direction
    have plain : orderingWords? [word, last] = some (word, some (Text.toUpper last)) := by
      rw [orderingWords?, known, Option.map_some]
    exact protectOrdering_eq_ok_iff uncalled read plain

/-- A quoted name with blanks and quotes in it, behind a point and in front of a direction. -/
theorem protectOrdering_idempotent_quotes :
    let word := "t.\"my \"\"key\"\"\""
    let term := " " ++ word ++ "  desc "
    let text := "\"t\".\"my \"\"key\"\"\" DESC"
    protectOrdering .postgres term = .ok text ∧ Uncalled term ∧
      Scanner.words '"' term = .ok [word, "desc"] ∧ Text.sameIgnoringCase "desc" "DESC" ∧
      protectOrdering .postgres text = .ok text ∧
      ∃ column, Protects .postgres word column ∧ text = column ++ " " ++ Text.toUpper "desc" := by
  intro word term text
  have ordered : protectOrdering .postgres term = .ok text := by decide +kernel
  have uncalled : Uncalled term := by decide
  have read : Scanner.words '"' term = .ok [word, "desc"] := by decide +kernel
  have direction : Text.sameIgnoringCase "desc" "DESC" := by decide
  obtain ⟨again, protects⟩ := protectOrdering_idempotent .postgres term text
  exact ⟨ordered, uncalled, read, direction, again ordered,
    ((protects uncalled word).2 "desc" read (Or.inr direction)).1 ordered⟩

end Identifier

end SqlClient
