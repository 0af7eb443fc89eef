import SqlClient.Proofs.Clauses
import SqlClient.Proofs.Ordering

/-!
# Quoted names in lists

The columns of a selection and its grouping and ordering terms are given as lists, which are cut at
their commas before anything in them is read. A quoted name comes through as it is, whatever its
quotes enclose, as long as no cut falls between them. A cut there leaves a section that does not
end, and then there is no text.
-/

namespace SqlClient

namespace Text

/-! ## Trimmed text and pieces -/

/-- Characters with a visible one at either end, if there are any. -/
def Flush (chars : List Char) : Prop :=
  (∀ char ∈ chars.head?, isBlank char = false) ∧ ∀ char ∈ chars.getLast?, isBlank char = false

theorem trimChars_of_flush {chars : List Char} (flush : Flush chars) : trimChars chars = chars := by
  have front : chars.dropWhile isBlank = chars := by
    rw [List.dropWhile_eq_self_iff]
    intro filled
    simp [flush.1 _ (List.head?_eq_getElem? ▸ List.getElem?_eq_getElem filled)]
  have back : chars.rdropWhile isBlank = chars := by
    rw [List.rdropWhile_eq_self_iff]
    intro filled
    simp [flush.2 _ (List.getLast?_eq_some_getLast filled)]
  have trimmed : trimChars chars = (chars.dropWhile isBlank).rdropWhile isBlank := rfl
  rw [trimmed, front, back]

theorem Flush.append {left right : List Char} (front : Flush left) (back : Flush right)
    (leftGiven : left ≠ []) (rightGiven : right ≠ []) (middle : List Char) :
    Flush (left ++ middle ++ right) := by
  constructor
  · rw [List.append_assoc, List.head?_append_of_ne_nil _ leftGiven]
    exact front.1
  · rw [List.getLast?_append_of_ne_nil _ rightGiven]
    exact back.2

theorem splitChars_of_not_mem {char : Char} {chars : List Char} (absent : char ∉ chars) :
    splitChars char chars = [chars] := by
  induction chars with
  | nil => rfl
  | cons head rest ih =>
      rw [List.mem_cons, not_or] at absent
      rw [splitChars, if_neg (Ne.symm absent.1), ih absent.2]

/-- The first piece ends where the character is met first. -/
theorem splitChars_append {char : Char} {before : List Char} (absent : char ∉ before)
    (after : List Char) :
    splitChars char (before ++ char :: after) = before :: splitChars char after := by
  induction before with
  | nil => rw [List.nil_append, splitChars, if_pos rfl]
  | cons head rest ih =>
      rw [List.mem_cons, not_or] at absent
      rw [List.cons_append, splitChars, if_neg (Ne.symm absent.1), ih absent.2]

end Text

/-! ## Lists cut at commas -/

/-- A list that is one term: it has no comma or is an expression. -/
def SingleTerm (list : String) : Prop :=
  ',' ∈ list.toList → '(' ∈ list.toList

instance (list : String) : Decidable (SingleTerm list) :=
  inferInstanceAs (Decidable (',' ∈ list.toList → '(' ∈ list.toList))

theorem splitTerms_of_singleTerm {lists : List String} (single : ∀ list ∈ lists, SingleTerm list)
    (trimmed : ∀ list ∈ lists, Text.trim list = list) (given : ∀ list ∈ lists, list ≠ "") :
    splitTerms lists = lists := by
  induction lists with
  | nil => rfl
  | cons list rest ih =>
      rw [List.forall_mem_cons] at single trimmed given
      have cut : (if Identifier.isExpression list then [list] else Text.splitOn ',' list) =
          [list] := by
        split
        · rfl
        · next plain =>
          have uncalled : '(' ∉ list.toList := by simpa [Identifier.isExpression] using plain
          rw [Text.splitOn, Text.splitChars_of_not_mem fun comma => uncalled (single.1 comma)]
          simp
      have later := ih single.2 trimmed.2 given.2
      rw [splitTerms] at later ⊢
      rw [List.flatMap_cons, cut, later]
      simp [trimmed.1, given.1]

/-- What stands before the first comma of a list is a term, unless it is blank. -/
theorem mem_splitTerms {lists : List String} {before after : List Char}
    (member : String.ofList (before ++ ',' :: after) ∈ lists)
    (uncalled : '(' ∉ before ++ ',' :: after) (absent : ',' ∉ before)
    (filled : Text.trim (String.ofList before) ≠ "") :
    Text.trim (String.ofList before) ∈ splitTerms lists := by
  have plain : Identifier.isExpression (String.ofList (before ++ ',' :: after)) = false := by
    simpa [Identifier.isExpression] using uncalled
  refine List.mem_flatMap.2 ⟨_, member, ?_⟩
  rw [plain, Text.splitOn, String.toList_ofList, Text.splitChars_append absent]
  simp [filled]

namespace Scanner

open Dialect

variable {quote : Char} {place : Place} {word chars : List Char} {char : Char}

/-! ## Commas between quotes -/

/-- Every comma of characters that are read from a place on stands in a quoted section: what comes
before it does not end. -/
def Sheltered (quote : Char) (place : Place) (word chars : List Char) : Prop :=
  ∀ before after, chars = before ++ ',' :: after → wordsFrom quote place word before = none

theorem sheltered_nil : Sheltered quote place word [] := by
  intro before after whole
  simp at whole

/-- A character that joins the word may be a comma inside a section only. -/
theorem Sheltered.step {next : Place} (later : Sheltered quote next (char :: word) chars)
    (moved : ∀ rest, wordsFrom quote place word (char :: rest) =
      wordsFrom quote next (char :: word) rest)
    (other : place = .inside ∨ char ≠ ',') : Sheltered quote place word (char :: chars) := by
  intro before after whole
  cases before with
  | nil =>
      obtain ⟨rfl, -⟩ := List.cons_eq_cons.1 whole
      rcases other with rfl | other
      · rfl
      · exact absurd rfl other
  | cons head before =>
      obtain ⟨rfl, rest⟩ := List.cons_eq_cons.1 whole
      rw [moved]
      exact later before after rest

theorem Sheltered.blank (later : Sheltered quote (.outside false) [] chars) (other : char ≠ quote)
    (blank : Text.isBlank char = true) : Sheltered quote (.outside false) word (char :: chars) := by
  intro before after whole
  cases before with
  | nil =>
      obtain ⟨rfl, -⟩ := List.cons_eq_cons.1 whole
      exact absurd blank (by decide)
  | cons head before =>
      obtain ⟨rfl, rest⟩ := List.cons_eq_cons.1 whole
      rw [wordsFrom_blank other blank, later before after rest, Option.map_none]

theorem Sheltered.plain (later : Sheltered quote (.outside false) (char :: word) chars)
    (other : char ≠ quote) (visible : Text.isBlank char = false) (comma : char ≠ ',') :
    Sheltered quote (.outside false) word (char :: chars) :=
  later.step (fun _ => wordsFrom_plain other visible) (Or.inr comma)

/-- Whether a section was just closed matters only in front of a quote. -/
theorem Sheltered.closed (later : Sheltered quote (.outside false) word chars)
    (single : chars.head? ≠ some quote) : Sheltered quote (.outside true) word chars := by
  intro before after whole
  have ahead : before.head? ≠ some quote := by
    cases before with
    | nil => simp
    | cons head before =>
        rw [whole] at single
        exact single
  rw [wordsFrom_closed ahead, later before after whole]

theorem sheltered_section (comma : quote ≠ ',') (inner : List Char)
    (later : Sheltered quote (.outside true) (quote :: (doubleChar quote inner).reverse ++ word)
      chars) : Sheltered quote .inside word (doubleChar quote inner ++ quote :: chars) := by
  induction inner generalizing word with
  | nil =>
      refine Sheltered.step later (fun rest => ?_) (Or.inl rfl)
      rw [wordsFrom, if_pos rfl]
  | cons char inner ih =>
      rw [doubleChar_cons] at later ⊢
      by_cases same : char = quote
      · -- the first half closes the section, and the second half opens it again
        subst same
        have inside : Sheltered char .inside (char :: char :: word)
            (doubleChar char inner ++ char :: chars) := ih (by simpa using later)
        have opened : Sheltered char (.outside true) (char :: word)
            (char :: (doubleChar char inner ++ char :: chars)) :=
          inside.step (fun rest => by simp [wordsFrom, opens]) (Or.inr comma)
        rw [if_pos rfl]
        exact opened.step (fun rest => by rw [wordsFrom, if_pos rfl]) (Or.inl rfl)
      · have inside : Sheltered quote .inside (char :: word)
            (doubleChar quote inner ++ quote :: chars) := ih (by simpa [same] using later)
        rw [if_neg same]
        exact inside.step (fun rest => by rw [wordsFrom, if_neg same]) (Or.inl rfl)

variable {dialect : Dialect}

theorem sheltered_quoteName (name : String) (starts : StartsPart word)
    (single : chars.head? ≠ some dialect.quote)
    (later : Sheltered dialect.quote (.outside false)
      ((dialect.quoteName name).toList.reverse ++ word) chars) :
    Sheltered dialect.quote (.outside false) word ((dialect.quoteName name).toList ++ chars) := by
  by_cases named : name = "*"
  · subst named
    rw [toList_quoteName_star] at later ⊢
    exact later.plain (ne_quote (by decide)) (by decide) (by decide)
  · have opened : opens dialect.quote false word dialect.quote = true := by
      rcases starts with rfl | point
      · simp [opens]
      · simp [opens, point]
    have comma : dialect.quote ≠ ',' := (ne_quote (by decide)).symm
    rw [toList_quoteName named] at later ⊢
    have inside : Sheltered dialect.quote .inside (dialect.quote :: word)
        (doubleChar dialect.quote name.toList ++ dialect.quote :: chars) :=
      sheltered_section comma name.toList (Sheltered.closed (by simpa using later) single)
    simpa using inside.step (fun rest => by rw [wordsFrom, if_pos opened]) (Or.inr comma)

theorem sheltered_quotePath {dialect : Dialect} {word chars : List Char} {names : List String}
    (given : names ≠ []) (starts : StartsPart word)
    (single : chars.head? ≠ some dialect.quote)
    (later : Sheltered dialect.quote (.outside false)
      ((dialect.quotePath names).toList.reverse ++ word) chars) :
    Sheltered dialect.quote (.outside false) word ((dialect.quotePath names).toList ++ chars) := by
  match names with
  | [] => exact absurd rfl given
  | [name] =>
      rw [toList_quotePath_singleton] at later ⊢
      exact sheltered_quoteName name starts single later
  | name :: next :: names =>
      have point : '.' ≠ dialect.quote := ne_quote (by decide)
      rw [toList_quotePath_cons] at later ⊢
      rw [List.append_assoc, List.cons_append]
      refine sheltered_quoteName name starts (by simpa using point) ?_
      refine Sheltered.plain ?_ point (by decide) (by decide)
      exact sheltered_quotePath (List.cons_ne_nil next names) (Or.inr rfl) single
        (by simpa using later)

/-- Before the first of its commas, such a text has a section that does not end. -/
theorem Sheltered.exists_unended (sheltered : Sheltered quote (.outside false) [] chars)
    (comma : ',' ∈ chars) :
    ∃ before after, chars = before ++ ',' :: after ∧ ',' ∉ before ∧
      words? quote before = none := by
  obtain ⟨before, after, whole, absent⟩ := List.eq_append_cons_of_mem comma
  exact ⟨before, after, whole, absent, sheltered before after whole⟩

end Scanner

namespace Identifier

open Dialect Scanner

variable {dialect : Dialect} {identifier : Identifier}

/-! ## References in lists -/

theorem flush_quoteName (dialect : Dialect) (name : String) :
    Text.Flush (dialect.quoteName name).toList := by
  have visible : Text.isBlank dialect.quote = false := by cases dialect <;> decide
  by_cases named : name = "*"
  · subst named
    rw [toList_quoteName_star]
    constructor <;> rintro _ ⟨⟩ <;> decide
  · rw [toList_quoteName named, ← List.cons_append]
    constructor
    · rintro _ ⟨⟩
      exact visible
    · rw [List.getLast?_append_of_ne_nil _ (List.cons_ne_nil _ _)]
      rintro _ ⟨⟩
      exact visible

theorem flush_quotePath (dialect : Dialect) (names : List String) :
    Text.Flush (dialect.quotePath names).toList := by
  match names with
  | [] => exact ⟨by simp [quotePath], by simp [quotePath]⟩
  | [name] =>
      rw [toList_quotePath_singleton]
      exact flush_quoteName dialect name
  | name :: next :: names =>
      have whole := (flush_quoteName dialect name).append (flush_quotePath dialect (next :: names))
        (quoteName_ne_nil dialect name) (quotePath_ne_nil dialect (List.cons_ne_nil next names))
          ['.']
      rw [toList_quotePath_cons]
      simpa using whole

/-- A rendered reference is trimmed, and no comma stands outside its quotes. -/
theorem flush_render (plain : identifier.isRaw = false) :
    Text.Flush (identifier.render dialect).toList := by
  obtain ⟨path, rfl | ⟨label, given, rfl⟩⟩ := exists_path plain
  · rw [render_path]
    exact flush_quotePath dialect path.parts
  · have whole := (flush_quotePath dialect path.parts).append (flush_quoteName dialect label)
      (quotePath_ne_nil dialect path.parts_ne) (quoteName_ne_nil dialect label) " AS ".toList
    simpa [render, renderName, renderAlias, Path.render] using whole

theorem sheltered_render (plain : identifier.isRaw = false) :
    Sheltered dialect.quote (.outside false) [] (identifier.render dialect).toList := by
  obtain ⟨path, rfl | ⟨label, given, rfl⟩⟩ := exists_path plain
  · have whole : Sheltered dialect.quote (.outside false) []
        ((dialect.quotePath path.parts).toList ++ []) :=
      sheltered_quotePath path.parts_ne (Or.inl rfl) (by simp) sheltered_nil
    rw [render_path]
    simpa [Path.render] using whole
  · have blank : ' ' ≠ dialect.quote := ne_quote (by decide)
    have labelled : Sheltered dialect.quote (.outside false) []
        ((dialect.quoteName label).toList ++ []) :=
      sheltered_quoteName label (Or.inl rfl) (by simp) sheltered_nil
    have written : (path.render dialect ++ renderAlias dialect (some label)).toList =
        (dialect.quotePath path.parts).toList ++
          ' ' :: 'A' :: 'S' :: ' ' :: ((dialect.quoteName label).toList ++ []) := by
      simp [renderAlias, Path.render]
    rw [render, renderName, written]
    refine sheltered_quotePath path.parts_ne (Or.inl rfl) (by simpa using blank) ?_
    refine Sheltered.blank ?_ blank (by decide)
    refine Sheltered.plain ?_ (ne_quote (by decide)) (by decide) (by decide)
    refine Sheltered.plain ?_ (ne_quote (by decide)) (by decide) (by decide)
    exact labelled.blank blank (by decide)

theorem trim_render (plain : identifier.isRaw = false) :
    Text.trim (identifier.render dialect) = identifier.render dialect := by
  rw [Text.trim, Text.trimChars_of_flush (flush_render plain), String.ofList_toList]

theorem render_ne_empty (plain : identifier.isRaw = false) : identifier.render dialect ≠ "" := by
  obtain ⟨path, same⟩ := exists_path plain
  have filled : (path.render dialect).toList ≠ [] := quotePath_ne_nil dialect path.parts_ne
  intro empty
  have nothing := congrArg String.toList empty
  rcases same with rfl | ⟨label, given, rfl⟩ <;>
    simp [render, renderName, filled] at nothing

theorem isExpression_of_called {text : String} (called : ¬Uncalled text) :
    isExpression text = true := by
  simpa [isExpression, Uncalled] using called

/-- A rendered reference is a column with its own text. -/
theorem protectedText_render (plain : identifier.isRaw = false) :
    protectedText dialect (identifier.render dialect) = .ok (identifier.render dialect) := by
  by_cases uncalled : Uncalled (identifier.render dialect)
  · rw [protectedText, protect_of_parse uncalled (parse_render dialect plain)]
    rfl
  · -- what holds a parenthesis is kept as an expression
    simp only [protectedText, protect, trim_render plain, render_ne_empty plain,
      isExpression_of_called uncalled, if_true, if_false]
    simp [givenAlias?, withAlias, Except.map, raw, render, renderName, renderAlias]

/-- A rendered reference is a term with its own text. -/
theorem protectOrdering_render (plain : identifier.isRaw = false) :
    protectOrdering dialect (identifier.render dialect) = .ok (identifier.render dialect) := by
  have trimmed : Text.trim (identifier.render dialect) = identifier.render dialect :=
    trim_render plain
  have filled : identifier.render dialect ≠ "" := render_ne_empty plain
  by_cases uncalled : Uncalled (identifier.render dialect)
  · rw [← trimmed] at filled
    obtain ⟨path, rfl | ⟨label, given, rfl⟩⟩ := exists_path plain
    · have column : protectedText dialect (render dialect { name := .path path }) = _ :=
        protectedText_render plain
      rw [render_path] at *
      have read : Scanner.words dialect.quote (termText (path.render dialect) none) =
          .ok [path.render dialect] := words_termText dialect path (by simp)
      rw [protectOrdering_of_words filled uncalled read]
      simp only [orderingWords?, column, Except.map, termText]
    · rw [protectOrdering_of_words filled uncalled (words_alias dialect path label), trimmed]
      rfl
  · simp only [protectOrdering, trimmed, filled, isExpression_of_called uncalled, if_true, if_false]

section Unended

variable {text : String}

/-- A text with a section that does not end has no words. -/
theorem words_of_unended (unended : words? dialect.quote text.toList = none) :
    Scanner.words dialect.quote (Text.trim text) = .error (.unterminatedQuote (Text.trim text)) := by
  have unblank : Text.isBlank dialect.quote = false := by cases dialect <;> decide
  rw [Scanner.words, Text.toList_trim, words?_trimChars unblank, unended]

theorem filled_of_unended (unended : words? dialect.quote text.toList = none) :
    Text.trim text ≠ "" := by
  intro empty
  have unread := words_of_unended unended
  rw [empty] at unread
  cases unread

theorem protectedText_of_unended (uncalled : Uncalled text)
    (unended : words? dialect.quote text.toList = none) :
    protectedText dialect (Text.trim text) = .error (.unterminatedQuote (Text.trim text)) := by
  rw [protectedText, protect, Text.trim_trim, if_neg (filled_of_unended unended),
    isExpression_trim uncalled, if_neg Bool.false_ne_true, words_of_unended unended]
  rfl

theorem protectOrdering_of_unended (uncalled : Uncalled text)
    (unended : words? dialect.quote text.toList = none) :
    protectOrdering dialect (Text.trim text) = .error (.unterminatedQuote (Text.trim text)) := by
  rw [protectOrdering, Text.trim_trim, if_neg (filled_of_unended unended),
    isExpression_trim uncalled, if_neg Bool.false_ne_true, words_of_unended unended]
  rfl

end Unended

end Identifier

/-! ## The lists of a selection -/

section Results

variable {α β ε : Type} {step : α → Except ε β} {items : List α}

/-- Results of a list are the results of its members. -/
theorem ok_of_mapM {results : List β} (done : items.mapM step = .ok results) {item : α}
    (member : item ∈ items) : ∃ result, step item = .ok result := by
  induction items generalizing results with
  | nil => cases member
  | cons head rest ih =>
      rw [List.mapM_cons] at done
      obtain ⟨first, stepped, done⟩ := bind_eq_ok.1 done
      obtain ⟨others, rested, -⟩ := bind_eq_ok.1 done
      rcases List.mem_cons.1 member with rfl | later
      · exact ⟨first, stepped⟩
      · exact ih rested later

theorem mapM_of_kept {step : α → Except ε α} (kept : ∀ item ∈ items, step item = .ok item) :
    items.mapM step = .ok items := by
  induction items with
  | nil => rfl
  | cons head rest ih =>
      rw [List.forall_mem_cons] at kept
      rw [List.mapM_cons, kept.1, ih kept.2]
      rfl

end Results

/-- A list of terms of a selection. -/
inductive TermList where
  | columns
  | grouping
  | ordering
  deriving DecidableEq, Repr

namespace TermList

/-- The selection with lists in place of earlier ones. -/
def put : TermList → Select → List String → Select
  | .columns, select, lists => select.setColumns lists
  | .grouping, select, lists => select.setGroupBy lists
  | .ordering, select, lists => select.setOrderBy lists

/-- The terms that a selection has in the list. -/
def terms : TermList → Select → List String
  | .columns, select => select.columns
  | .grouping, select => select.groupBy
  | .ordering, select => select.orderBy

/-- The text of a term. -/
def protect (dialect : Dialect) : TermList → String → Except InvalidInput String
  | .columns => Identifier.protectedText dialect
  | .grouping => Identifier.protectOrdering dialect
  | .ordering => Identifier.protectOrdering dialect

/-- What is written in front of the terms. -/
def opening : TermList → String
  | .columns => ""
  | .grouping => " GROUP BY "
  | .ordering => " ORDER BY "

/-- What is written if there are no terms. -/
def absent : TermList → String
  | .columns => "*"
  | .grouping => ""
  | .ordering => ""

/-- The texts of terms in the list. -/
def written : TermList → List String → List String → String
  | .columns, terms, texts => if terms.isEmpty then "*" else commaList texts
  | .grouping, _, texts => clause "GROUP BY" (commaList texts)
  | .ordering, _, texts => clause "ORDER BY" (commaList texts)

/-- The text of the list with its terms protected. -/
def render (dialect : Dialect) (list : TermList) (terms : List String) :
    Except StatementError String := do
  let texts ← terms.mapM fun term => refuse (list.protect dialect term)
  .ok (list.written terms texts)

variable {dialect : Dialect} {terms : List String}

theorem render_nil (dialect : Dialect) (list : TermList) :
    list.render dialect [] = .ok list.absent := by
  cases list <;> rfl

theorem written_of_visible (list : TermList) (given : terms ≠ [])
    (visible : ∀ term ∈ terms, term ≠ "") :
    list.written terms terms = list.opening ++ commaList terms := by
  obtain ⟨term, rest, rfl⟩ := List.exists_cons_of_ne_nil given
  have filled : commaList (term :: rest) ≠ "" := by
    have first : term ≠ "" := visible term List.mem_cons_self
    cases rest <;> simp [commaList, first]
  cases list with
  | columns => simp [written, opening]
  | grouping =>
      rw [written, clause, if_neg filled]
      rfl
  | ordering =>
      rw [written, clause, if_neg filled]
      rfl

/-- Terms that are protected to themselves are written one after another. -/
theorem render_of_kept (list : TermList) (given : terms ≠ []) (visible : ∀ term ∈ terms, term ≠ "")
    (kept : ∀ term ∈ terms, list.protect dialect term = .ok term) :
    list.render dialect terms = .ok (list.opening ++ commaList terms) := by
  have same : terms.mapM (fun term => refuse (list.protect dialect term)) = .ok terms := by
    refine mapM_of_kept fun term member => ?_
    rw [kept term member]
    rfl
  rw [render, same, ← written_of_visible list given visible]
  rfl

/-- A list with a term that is refused has no text. -/
theorem render_of_refused (list : TermList) {term text : String} {cause : InvalidInput}
    (member : term ∈ terms) (refused : list.protect dialect term = .error cause) :
    list.render dialect terms ≠ .ok text := by
  intro rendered
  obtain ⟨texts, done, -⟩ := bind_eq_ok.1 rendered
  obtain ⟨result, protects⟩ := ok_of_mapM done member
  rw [refused] at protects
  cases protects

end TermList

namespace Select

/-- The texts of a selection without its lists. -/
structure Frame where
  sources : String
  joins : String
  filter : String
  having : String
  lock : String

/-- Everything in a selection but its lists can be written, with these texts. -/
structure Framed (select : Select) (frame : Frame) : Prop where
  sourced : select.sources.isEmpty = false
  bound : ∃ binds, refuse (select.mergeBinds []) = .ok binds
  sources : (Source.renderAll select.dialect select.sources).map commaList = .ok frame.sources
  joins : Join.renderAll select.dialect select.joins = .ok frame.joins
  filter : select.filter.render select.dialect = .ok frame.filter
  having : select.having.render select.dialect = .ok frame.having
  lock : lockClause select.dialect select.lock? = .ok frame.lock

/-- The text of a selection up to its columns. -/
def front (select : Select) : String :=
  "SELECT " ++ (if select.distinct then "DISTINCT " else "") ++
    (select.opening?.map fun text => Text.trim text ++ " ").getD ""

/-- The text of a selection out of its frame and the texts of its lists. -/
def assemble (select : Select) (frame : Frame) (texts : TermList → String) : String :=
  select.front ++ texts .columns ++ " FROM " ++ frame.sources ++ frame.joins ++
    clause "WHERE" frame.filter ++ texts .grouping ++ clause "HAVING" frame.having ++
    texts .ordering ++ windowClause select.limit? select.offset? ++ frame.lock

theorem render_eq_ok_iff {select : Select} {sql : String} :
    select.render = .ok sql ↔ ∃ frame texts, select.Framed frame ∧
      (∀ list : TermList, list.render select.dialect (list.terms select) = .ok (texts list)) ∧
      sql = select.assemble frame texts := by
  obtain ⟨dialect, distinct, opening?, columns, sources, joins, filter, groupBy, having, orderBy,
    limit?, offset?, lock?, binds⟩ := select
  rw [Select.render]
  constructor
  · intro rendered
    split at rendered
    · cases rendered
    · next filled =>
      simp only [bind_eq_ok, Except.ok.injEq] at rendered
      obtain ⟨merged, merges, columnTexts, columned, sourceTexts, sourced, joinText, joined,
        filterText, filtered, groupText, grouped, havingText, had, orderText, ordered, lockText,
        locked, rfl⟩ := rendered
      let texts : TermList → String
        | .columns => if columns.isEmpty then "*" else commaList columnTexts
        | .grouping => groupText
        | .ordering => orderText
      refine ⟨⟨commaList sourceTexts, joinText, filterText, havingText, lockText⟩, texts,
        ⟨by simpa using filled, ⟨merged, merges⟩, map_eq_ok.2 ⟨_, sourced, rfl⟩, joined, filtered,
          had, locked⟩, ?_, rfl⟩
      rintro (_ | _ | _)
      · exact bind_eq_ok.2 ⟨columnTexts, columned, rfl⟩
      · exact grouped
      · exact ordered
  · rintro ⟨frame, texts, framed, listed, rfl⟩
    obtain ⟨merged, merges⟩ := framed.bound
    obtain ⟨columnTexts, columned, columnText⟩ := bind_eq_ok.1 (listed .columns)
    obtain ⟨sourceTexts, sourced, sourceText⟩ := map_eq_ok.1 framed.sources
    have grouped : termClause dialect "GROUP BY" groupBy = .ok (texts .grouping) :=
      listed .grouping
    have ordered : termClause dialect "ORDER BY" orderBy = .ok (texts .ordering) :=
      listed .ordering
    have columnText : texts .columns = if columns.isEmpty then "*" else commaList columnTexts :=
      (Except.ok.inj columnText).symm
    rw [if_neg (by simpa using framed.sourced)]
    simp only [bind_eq_ok, Except.ok.injEq]
    refine ⟨merged, merges, columnTexts, columned, sourceTexts, sourced, frame.joins, framed.joins,
      frame.filter, framed.filter, texts .grouping, grouped, frame.having, framed.having,
      texts .ordering, ordered, frame.lock, framed.lock, ?_⟩
    simp only [assemble, front, columnText, ← sourceText]

/-- The texts of a frame are determined. -/
theorem Framed.eq {select : Select} {frame other : Frame} (framed : select.Framed frame)
    (again : select.Framed other) : frame = other := by
  obtain ⟨sources, joins, filter, having, lock⟩ := frame
  obtain ⟨sources', joins', filter', having', lock'⟩ := other
  cases framed.sources.symm.trans again.sources
  cases framed.joins.symm.trans again.joins
  cases framed.filter.symm.trans again.filter
  cases framed.having.symm.trans again.having
  cases framed.lock.symm.trans again.lock
  rfl

end Select

namespace TermList

open Function

/-- The text around the text of the list. -/
theorem exists_around (list : TermList) (select : Select) (frame : Select.Frame)
    (texts : TermList → String) : ∃ before after, ∀ text,
      select.assemble frame (update texts list text) = before ++ text ++ after := by
  cases list with
  | columns =>
      refine ⟨select.front, " FROM " ++ frame.sources ++ frame.joins ++
        clause "WHERE" frame.filter ++ texts .grouping ++ clause "HAVING" frame.having ++
          texts .ordering ++ windowClause select.limit? select.offset? ++ frame.lock,
        fun text => ?_⟩
      simp [Select.assemble, String.append_assoc]
  | grouping =>
      refine ⟨select.front ++ texts .columns ++ " FROM " ++ frame.sources ++ frame.joins ++
        clause "WHERE" frame.filter, clause "HAVING" frame.having ++ texts .ordering ++
          windowClause select.limit? select.offset? ++ frame.lock, fun text => ?_⟩
      simp [Select.assemble, String.append_assoc]
  | ordering =>
      refine ⟨select.front ++ texts .columns ++ " FROM " ++ frame.sources ++ frame.joins ++
        clause "WHERE" frame.filter ++ texts .grouping ++ clause "HAVING" frame.having,
          windowClause select.limit? select.offset? ++ frame.lock, fun text => ?_⟩
      simp [Select.assemble, String.append_assoc]

/-- Only the list itself depends on what is put in. -/
theorem terms_put (list other : TermList) (select : Select) (lists : List String) :
    other.terms (list.put select lists) =
      if other = list then splitTerms lists else other.terms select := by
  cases list <;> cases other <;> rfl

theorem mergeBinds_put (list : TermList) (select : Select) (lists : List String) (binds : Binds) :
    (list.put select lists).mergeBinds binds = select.mergeBinds binds := by
  cases select
  cases list <;> simp only [put, Select.setColumns, Select.setGroupBy, Select.setOrderBy,
    Select.mergeBinds]

theorem framed_put_iff (list : TermList) {select : Select} {lists : List String}
    {frame : Select.Frame} : (list.put select lists).Framed frame ↔ select.Framed frame := by
  have same := list.mergeBinds_put select lists []
  constructor
  · rintro ⟨sourced, bound, sources, joins, filter, having, lock⟩
    rw [same] at bound
    cases list <;> exact ⟨sourced, bound, sources, joins, filter, having, lock⟩
  · rintro ⟨sourced, bound, sources, joins, filter, having, lock⟩
    rw [← same] at bound
    cases list <;> exact ⟨sourced, bound, sources, joins, filter, having, lock⟩

theorem dialect_put (list : TermList) (select : Select) (lists : List String) :
    (list.put select lists).dialect = select.dialect := by
  cases list <;> rfl

theorem assemble_put (list : TermList) (select : Select) (lists : List String)
    (frame : Select.Frame) (texts : TermList → String) :
    (list.put select lists).assemble frame texts = select.assemble frame texts := by
  cases list <;> rfl

/-- A selection with lists put in is rendered just where it is without them and they can be
written. -/
theorem render_put_iff (list : TermList) {select : Select} {lists : List String} {sql : String} :
    (list.put select lists).render = .ok sql ↔ ∃ frame texts text, select.Framed frame ∧
      (∀ other : TermList, other ≠ list →
        other.render select.dialect (other.terms select) = .ok (texts other)) ∧
      list.render select.dialect (splitTerms lists) = .ok text ∧
      sql = select.assemble frame (update texts list text) := by
  simp only [Select.render_eq_ok_iff, framed_put_iff, dialect_put, assemble_put, terms_put]
  constructor
  · rintro ⟨frame, texts, framed, listed, rfl⟩
    refine ⟨frame, texts, texts list, framed, fun other different => ?_, ?_, ?_⟩
    · simpa [different] using listed other
    · simpa using listed list
    · rw [update_eq_self]
  · rintro ⟨frame, texts, text, framed, listed, written, rfl⟩
    refine ⟨frame, update texts list text, framed, fun other => ?_, rfl⟩
    by_cases same : other = list
    · subst same
      simpa using written
    · simpa [same] using listed other same

/-- The text of a selection with lists put in is the text without them, except where the lists
stand. -/
theorem exists_frame (list : TermList) (select : Select) : ∃ before after, ∀ lists sql,
    (list.put select lists).render = .ok sql ↔
      ∃ text, list.render select.dialect (splitTerms lists) = .ok text ∧
        (list.put select []).render = .ok (before ++ list.absent ++ after) ∧
        sql = before ++ text ++ after := by
  by_cases bare : ∃ sql, (list.put select []).render = .ok sql
  · obtain ⟨sql, rendered⟩ := bare
    obtain ⟨frame, texts, absent, framed, listed, written, rfl⟩ := list.render_put_iff.1 rendered
    obtain rfl := Except.ok.inj (written.symm.trans (list.render_nil select.dialect))
    obtain ⟨before, after, around⟩ := list.exists_around select frame texts
    refine ⟨before, after, fun lists sql => ⟨fun again => ?_, ?_⟩⟩
    · obtain ⟨frame', texts', text, framed', listed', written', rfl⟩ := list.render_put_iff.1 again
      obtain rfl := framed.eq framed'
      have same : update texts' list text = update texts list text := by
        funext other
        by_cases own : other = list
        · subst own
          simp
        · simpa [own] using (listed' other own).symm.trans (listed other own)
      rw [same, around]
      exact ⟨text, written', around list.absent ▸ rendered, rfl⟩
    · rintro ⟨text, written', -, rfl⟩
      exact list.render_put_iff.2 ⟨frame, texts, text, framed, listed, written', (around text).symm⟩
  · refine ⟨"", "", fun lists sql => ⟨fun again => ?_, ?_⟩⟩
    · obtain ⟨frame, texts, text, framed, listed, -, -⟩ := list.render_put_iff.1 again
      exact absurd ⟨_, list.render_put_iff.2 ⟨frame, texts, list.absent, framed, listed,
        list.render_nil select.dialect, rfl⟩⟩ bare
    · rintro ⟨text, -, rendered, -⟩
      exact absurd ⟨_, rendered⟩ bare

/-! ## Lists of references -/

section References

variable {dialect : Dialect} {identifiers : List Identifier}

theorem protect_render_self (list : TermList) {identifier : Identifier}
    (plain : identifier.isRaw = false) :
    list.protect dialect (identifier.render dialect) = .ok (identifier.render dialect) := by
  cases list with
  | columns =>
      rw [protect]
      exact Identifier.protectedText_render plain
  | grouping =>
      rw [protect]
      exact Identifier.protectOrdering_render plain
  | ordering =>
      rw [protect]
      exact Identifier.protectOrdering_render plain

theorem protect_of_unended (list : TermList) {text : String} (uncalled : Identifier.Uncalled text)
    (unended : Scanner.words? dialect.quote text.toList = none) :
    list.protect dialect (Text.trim text) = .error (.unterminatedQuote (Text.trim text)) := by
  cases list with
  | columns =>
      rw [protect]
      exact Identifier.protectedText_of_unended uncalled unended
  | grouping =>
      rw [protect]
      exact Identifier.protectOrdering_of_unended uncalled unended
  | ordering =>
      rw [protect]
      exact Identifier.protectOrdering_of_unended uncalled unended

/-- References that are single terms are listed with their texts. -/
theorem render_of_single (list : TermList) (given : identifiers ≠ [])
    (plain : ∀ identifier ∈ identifiers, identifier.isRaw = false)
    (single : ∀ text ∈ identifiers.map (Identifier.render dialect), SingleTerm text) :
    list.render dialect (splitTerms (identifiers.map (Identifier.render dialect))) =
      .ok (list.opening ++ commaList (identifiers.map (Identifier.render dialect))) := by
  have visible : ∀ text ∈ identifiers.map (Identifier.render dialect), text ≠ "" := by
    rw [List.forall_mem_map]
    exact fun identifier member => Identifier.render_ne_empty (plain identifier member)
  have trimmed : ∀ text ∈ identifiers.map (Identifier.render dialect), Text.trim text = text := by
    rw [List.forall_mem_map]
    exact fun identifier member => Identifier.trim_render (plain identifier member)
  have kept : ∀ text ∈ identifiers.map (Identifier.render dialect),
      list.protect dialect text = .ok text := by
    rw [List.forall_mem_map]
    exact fun identifier member => list.protect_render_self (plain identifier member)
  rw [splitTerms_of_singleTerm single trimmed visible]
  exact list.render_of_kept (by simpa using given) visible kept

/-- A reference that is cut at a comma leaves a term that is refused. -/
theorem render_of_cut (list : TermList) {identifier : Identifier} {text : String}
    (plain : identifier.isRaw = false) (member : identifier ∈ identifiers)
    (cut : ¬SingleTerm (identifier.render dialect)) :
    list.render dialect (splitTerms (identifiers.map (Identifier.render dialect))) ≠ .ok text := by
  obtain ⟨comma, uncalled⟩ := Classical.not_imp.1 cut
  obtain ⟨before, after, whole, absent, unended⟩ :=
    (Identifier.sheltered_render plain).exists_unended comma
  have written : String.ofList (before ++ ',' :: after) = identifier.render dialect := by
    rw [← whole, String.ofList_toList]
  have listed : String.ofList (before ++ ',' :: after) ∈
      identifiers.map (Identifier.render dialect) := by
    rw [written]
    exact List.mem_map_of_mem member
  rw [whole] at uncalled
  have opened : Scanner.words? dialect.quote (String.ofList before).toList = none := by
    rw [String.toList_ofList, unended]
  have bare : Identifier.Uncalled (String.ofList before) := by
    rw [Identifier.Uncalled, String.toList_ofList]
    exact fun inside => uncalled (List.mem_append_left _ inside)
  have term := mem_splitTerms listed uncalled absent (Identifier.filled_of_unended opened)
  exact list.render_of_refused term (list.protect_of_unended bare opened)

end References

/-- References put into a list of a selection stand in its text as they are, in order, where the
list stands, just if none of them is cut: whatever their quotes enclose, they may hold a comma only
with a parenthesis. Everything else in the text stays as it is without the list. -/
theorem render_names_iff (list : TermList) (select : Select) : ∃ before after,
    (∀ bare, (list.put select []).render = .ok bare → bare = before ++ list.absent ++ after) ∧
    ∀ identifiers : List Identifier, identifiers ≠ [] →
      (∀ identifier ∈ identifiers, identifier.isRaw = false) → ∀ sql,
        let texts := identifiers.map (Identifier.render select.dialect)
        (list.put select texts).render = .ok sql ↔
          (∀ text ∈ texts, SingleTerm text) ∧ (∃ bare, (list.put select []).render = .ok bare) ∧
            sql = before ++ (list.opening ++ commaList texts) ++ after := by
  obtain ⟨before, after, framed⟩ := list.exists_frame select
  have unlisted : ∀ bare, (list.put select []).render = .ok bare →
      bare = before ++ list.absent ++ after := by
    intro bare rendered
    obtain ⟨-, -, same, -⟩ := (framed [] bare).1 rendered
    exact Except.ok.inj (rendered.symm.trans same)
  refine ⟨before, after, unlisted, fun identifiers given plain sql => ?_⟩
  intro texts
  rw [framed]
  constructor
  · rintro ⟨text, written, bare, rfl⟩
    have single : ∀ text ∈ texts, SingleTerm text := by
      rw [List.forall_mem_map]
      intro identifier member
      by_contra cut
      exact list.render_of_cut (plain identifier member) member cut written
    have listed := list.render_of_single given plain single
    obtain rfl := Except.ok.inj (written.symm.trans listed)
    exact ⟨single, ⟨_, bare⟩, rfl⟩
  · rintro ⟨single, ⟨bare, rendered⟩, rfl⟩
    exact ⟨_, list.render_of_single given plain single, unlisted bare rendered ▸ rendered, rfl⟩

/-- A name with quotes, points and blanks, and one with a comma behind a parenthesis and an alias, as
the columns of a selection. -/
theorem render_names_iff_quotes :
    let path : Path := ⟨["my \"t\".x", " a b "], by decide, by decide⟩
    let call : Path := ⟨["sum(a, b)"], by decide, by decide⟩
    let identifiers : List Identifier :=
      [{ name := .path path }, { name := .path call, alias? := some "t AS u" }]
    let texts := ["\"my \"\"t\"\".x\".\" a b \"", "\"sum(a, b)\" AS \"t AS u\""]
    let table : Identifier := { name := .path ⟨["t"], by decide, by decide⟩ }
    let select := { Select.empty .postgres with sources := [.table table], orderBy := ["a DESC"] }
    let bare := "SELECT * FROM \"t\" ORDER BY \"a\" DESC"
    (∀ identifier ∈ identifiers, identifier.isRaw = false) ∧
      identifiers.map (Identifier.render .postgres) = texts ∧
      (∀ text ∈ texts, SingleTerm text) ∧ (put .columns select []).render = .ok bare ∧
      ∃ before after, bare = before ++ "*" ++ after ∧
        (put .columns select texts).render = .ok (before ++ ("" ++ commaList texts) ++ after) := by
  intro path call identifiers texts table select bare
  have plain : ∀ identifier ∈ identifiers, identifier.isRaw = false := by decide
  have written : identifiers.map (Identifier.render .postgres) = texts := by decide +kernel
  have single : ∀ text ∈ texts, SingleTerm text := by decide
  have rendered : (put .columns select []).render = .ok bare := by decide +kernel
  obtain ⟨before, after, unlisted, named⟩ := render_names_iff .columns select
  have listed := named identifiers (List.cons_ne_nil _ _) plain
    (before ++ ("" ++ commaList texts) ++ after)
  rw [show select.dialect = .postgres from rfl, written] at listed
  exact ⟨plain, written, single, rendered, before, after, unlisted bare rendered,
    listed.2 ⟨single, ⟨bare, rendered⟩, rfl⟩⟩

/-- A name with a comma is a column of a table, but it is cut between its quotes in every list. -/
theorem comma_between_quotes_cuts :
    let identifier : Identifier := { name := .path ⟨["a,b"], by decide, by decide⟩ }
    let table : Identifier := { name := .path ⟨["t"], by decide, by decide⟩ }
    let select := { Select.empty .postgres with sources := [.table table] }
    let refused : Except StatementError String := .error (.invalid (.unterminatedQuote "\"a"))
    identifier.isRaw = false ∧ identifier.render .postgres = "\"a,b\"" ∧
      Identifier.parse .postgres "\"a,b\"" = .ok identifier ∧
      select.render = .ok "SELECT * FROM \"t\"" ∧
      (select.setColumns ["\"a,b\""]).columns = ["\"a", "b\""] ∧
      (select.setColumns ["\"a,b\""]).render = refused ∧
      (select.setGroupBy ["\"a,b\""]).render = refused ∧
      (select.setOrderBy ["\"a,b\""]).render = refused := by
  decide +kernel

end TermList

end SqlClient
