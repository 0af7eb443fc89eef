import Mathlib.Data.List.TakeWhile
import SqlClient.Proofs.Agreement
import SqlClient.Proofs.Escaped
import SqlClient.Proofs.Numbering
import SqlClient.Proofs.Protection
import SqlClient.Proofs.ValueSets

/-!
# Bound columns

An insertion without value sets takes the names of its bound values for columns and writes each of
them a second time, as a placeholder. The two are read by different rules: a column may have almost
any name, but a placeholder ends at the first character that is no letter, no digit and no
underscore. The values of names that are read whole arrive in the order of the columns.
-/

namespace SqlClient

open Piece

/-! ## Names that are read whole -/

section Names

variable {name : String}

theorem not_isBlank_of_continuesName {char : Char} (inside : continuesName char = true) :
    Text.isBlank char = false := by
  have low : 48 ≤ char.toNat ∧ char.toNat ≤ 122 := by
    simp only [continuesName, Char.isAlphanum, Bool.or_eq_true, isAlpha_iff, Char.isDigit,
      Bool.and_eq_true, decide_eq_true_eq, ge_iff_le, UInt32.le_iff_toNat_le, beq_iff_eq] at inside
    rcases inside with ((upper | lower) | digit) | rfl
    · exact ⟨Nat.le_trans (by decide) upper.1, Nat.le_trans upper.2 (by decide)⟩
    · exact ⟨Nat.le_trans (by decide) lower.1, Nat.le_trans lower.2 (by decide)⟩
    · exact ⟨Nat.le_trans (by decide) digit.1, Nat.le_trans digit.2 (by decide)⟩
    · decide
  have apart : ∀ range ∈ Text.blankRanges, range.2 < 48 ∨ 122 < range.1 := by decide
  rw [Text.isBlank, List.any_eq_false]
  intro range member
  have outside := apart range member
  simp only [Bool.and_eq_true, decide_eq_true_eq]
  omega

theorem not_continuesName_quote (dialect : Dialect) : continuesName dialect.quote = false := by
  cases dialect <;> decide

/-- As a column, a name that a placeholder may have is that name between quotes. -/
theorem protectedText_of_isParamName (dialect : Dialect)
    (valid : isParamName name.toList = true) :
    Identifier.protectedText dialect name = .ok (dialect.quoteName name) := by
  have inside := continuesName_of_isParamName valid
  have absent : ∀ char, continuesName char = false → char ∉ name.toList := by
    intro char outside member
    simp [inside char member] at outside
  have visible : ∀ char ∈ name.toList, Text.isBlank char = false :=
    fun char member => not_isBlank_of_continuesName (inside char member)
  have given : name ≠ "" := by
    rintro rfl
    cases valid
  have noCall : Identifier.isExpression name = false := by
    simpa [Identifier.isExpression] using absent '(' (by decide)
  have quoted := absent dialect.quote (not_continuesName_quote dialect)
  have word := Scanner.words_of_visible given quoted visible
  have part := Scanner.parts_of_absent given (absent '.' (by decide)) quoted
  let path : Path := ⟨[name], by simp, by simpa using given⟩
  have column : Identifier.protect dialect name none false = .ok { name := .path path } := by
    simp only [Identifier.protect, Text.trim_of_visible visible, given, noCall, word, if_false]
    change Identifier.ofTexts dialect.quote name none = _
    exact bind_eq_ok.2 ⟨path.parts, part, bind_eq_ok.2 ⟨_, Identifier.ofParts_path path, rfl⟩⟩
  rw [Identifier.protectedText, column]
  simp [Except.map, Identifier.render, Identifier.renderName, Identifier.renderAlias, path,
    Path.render, Dialect.quotePath]

theorem protectAll_of_isParamName (dialect : Dialect) {names : List String}
    (valid : ∀ name ∈ names, isParamName name.toList = true) :
    protectAll dialect names = .ok (names.map dialect.quoteName) := by
  unfold protectAll
  induction names with
  | nil => rfl
  | cons name rest ih =>
      rw [List.forall_mem_cons] at valid
      rw [List.mapM_cons, protectedText_of_isParamName dialect valid.1, ih valid.2]
      rfl

theorem legible_protectAll {dialect : Dialect} {columns texts : List String}
    (names : columns.all (namesColumn dialect) = true)
    (written : protectAll dialect columns = .ok texts) :
    (Template.ofText (commaList texts)).Legible dialect := by
  have shown : texts = columns.map fun column =>
      shown (Identifier.protectedText dialect column) := by
    rw [← map_shown_of_mapM written]
    simp [shown_refuse]
  rw [commaList, Template.ofText_intercalate]
  apply Template.legible_commaList
  simp only [shown, List.mem_map, exists_exists_and_eq_and, forall_exists_index, and_imp]
  rintro template column member rfl
  exact legible_columnTemplate (List.all_eq_true.1 names column member)

end Names

namespace Template

theorem ofText_clause (keyword written : String) :
    ofText (SqlClient.clause keyword written) = clause keyword (ofText written) := by
  unfold SqlClient.clause clause enclosed
  by_cases blank : written = "" <;> simp [blank, ofText]

end Template

/-! ## Placeholders of a text -/

namespace Params

variable {dialect : Dialect}

/-- The names of the placeholders of a text in order. -/
def placeholders (dialect : Dialect) (text : String) : List String :=
  names (ofChars dialect text.toList)

theorem names_fixed (chars : List Char) :
    names (chars.map fun char => Piece.fixed [char]) = [] := by
  induction chars with
  | nil => rfl
  | cons char rest ih => exact ih

theorem names_flatMap_split (pieces : List Piece) :
    names (pieces.flatMap split) = names pieces := by
  induction pieces with
  | nil => rfl
  | cons piece rest ih =>
      rw [List.flatMap_cons, names_append, ih]
      cases piece with
      | fixed chars =>
          rw [split, names_fixed]
          rfl
      | name letters => rfl
      | mark => rfl

theorem names_scan (dialect : Dialect) (text : String) :
    names (scan dialect text.toList) = placeholders dialect text :=
  names_flatMap_split _

theorem names_map_piece (template : Template) :
    names (template.map Glyph.piece) = template.slots.map Prod.fst := by
  induction template with
  | nil => rfl
  | cons glyph rest ih =>
      cases glyph with
      | plain char => exact ih
      | slot name bound? =>
          change String.ofList name.toList :: names (rest.map Glyph.piece) =
            name :: (Template.slots rest).map Prod.fst
          rw [String.ofList_toList, ih]

theorem isParamName_of_first {char : Char} {rest letters : List Char}
    (named : (first dialect char rest).1 = .name letters) : isParamName letters = true := by
  unfold first at named
  split at named
  · simp at named
  · split at named
    · simp at named
    · simp at named
    · simp at named
    · next letter after _ _ =>
      split at named
      · next starts =>
        obtain rfl := Piece.name.inj named
        exact isParamName_takeWhile starts after
      · simp at named
    · split at named <;> simp at named
    · simp at named

/-- Only names of letters, digits and underscores are read from a text. -/
theorem isParamName_of_mem_placeholders {text name : String}
    (read : name ∈ placeholders dialect text) : isParamName name.toList = true := by
  unfold placeholders at read
  generalize text.toList = chars at read
  fun_induction ofChars dialect chars with
  | case1 => simp [names] at read
  | case2 char rest ih =>
      cases begun : (first dialect char rest).1 with
      | fixed chars => exact ih (by simpa [begun, names] using read)
      | mark => exact ih (by simpa [begun, names] using read)
      | name letters =>
          rw [begun, names, List.mem_cons] at read
          rcases read with rfl | later
          · rw [String.toList_ofList]
            exact isParamName_of_first begun
          · exact ih later

theorem placeholders_of_legible {text : String} (legible : (Template.ofText text).Legible dialect) :
    placeholders dialect text = [] := by
  have alone := Template.scan_text legible
  rw [Template.text_ofText] at alone
  rw [← names_scan, alone, names_map_piece, Template.slots_ofText, List.map_nil]

/-- The values of names in order. -/
def LineUp (pairs : List (String × Scalar)) (names : List String) (values : List Scalar) : Prop :=
  List.Forall₂ (fun name value => lastValue? pairs name = some value) names values

/-- Names that are bound once line up the bound values. -/
theorem lineUp_of_nodup {binds : Binds} (distinct : (binds.map Prod.fst).Nodup) :
    LineUp binds (binds.map Prod.fst) (binds.map Prod.snd) := by
  rw [LineUp, List.forall₂_map_left_iff, List.forall₂_map_right_iff, List.forall₂_same]
  intro entry member
  apply lastValue?_of_find? distinct
  rw [Binds.find?_eq_some_iff_mem_firsts, Binds.firsts_of_nodup distinct]
  exact member

/-- A legible text without slots lines up nothing. -/
theorem lineUp_of_legible {pairs : List (String × Scalar)} {text : String}
    (legible : (Template.ofText text).Legible dialect) :
    LineUp pairs (placeholders dialect text) [] := by
  rw [placeholders_of_legible legible]
  exact .nil

/-- Where the names of a text line up values, those values are sent. -/
theorem bindNamed_of_lineUp {pairs : List (String × Scalar)} {pieces : List Piece}
    {values : List Scalar} (lined : LineUp pairs (names pieces) values) (position : Nat) :
    ∃ text, bindNamed dialect pairs position pieces = .ok (text, values) := by
  induction pieces generalizing position values with
  | nil =>
      cases lined
      exact ⟨[], rfl⟩
  | cons piece rest ih =>
      cases piece with
      | fixed chars =>
          obtain ⟨text, bound⟩ := ih lined position
          exact ⟨chars ++ text, by rw [bindNamed_fixed, bound]; rfl⟩
      | mark =>
          obtain ⟨text, bound⟩ := ih lined (position + 1)
          exact ⟨_, by rw [bindNamed, bound]; rfl⟩
      | name letters =>
          cases lined with
          | cons valued lined =>
              obtain ⟨text, bound⟩ := ih lined (position + 1)
              exact ⟨_, by simp only [bindNamed, valued, bound]; rfl⟩

theorem bind_of_lineUp {pairs : List (String × Scalar)} {sql : String} {values : List Scalar}
    (filled : pairs ≠ []) (lined : LineUp pairs (placeholders dialect sql) values) :
    ∃ text, (ofNamed pairs).bind dialect sql = .ok (text, values) := by
  obtain ⟨text, bound⟩ := bindNamed_of_lineUp lined 1
  have named : ofNamed pairs = .named pairs := if_neg (by simpa using filled)
  exact ⟨String.ofList text, by rw [named, bind, bound]; rfl⟩

end Params


/-! ## Closed texts -/

namespace Piece

variable {dialect : Dialect} {text : String}

/-- In front of a break, a text is read by itself: no quote, no comment and no name that begins
inside it ends behind it. -/
def Closed (dialect : Dialect) (text : String) : Prop :=
  ∀ rest, Clear rest →
    scan dialect (text.toList ++ rest) = scan dialect text.toList ++ scan dialect rest

theorem closed_of_legible (legible : (Template.ofText text).Legible dialect) :
    Closed dialect text := by
  intro rest clear
  have whole := legible rest clear
  have alone := Template.scan_text legible
  rw [Template.text_ofText] at whole alone
  rw [whole, alone]

end Piece

/-! ## Insertions of bound values -/

namespace Insert

variable {insert : Insert} {sql : String}

/-- The template of columns and of the placeholders of the same names, up to the last
parenthesis. -/
def bindsTemplate (dialect : Dialect) (names : List String) : Template :=
  .ofText " (" ++ .commaList (names.map fun name => .ofText (dialect.quoteName name)) ++
    .ofText ") VALUES (" ++ .commaList (names.map fun name => [.slot name none])

theorem text_bindsTemplate (dialect : Dialect) (names : List String) :
    (bindsTemplate dialect names).text ++ [')'] =
      (" " ++ tuple (names.map dialect.quoteName) ++ " VALUES " ++
        tuple (names.map fun name => ":" ++ name)).toList := by
  have columns : (Template.commaList
      (names.map fun name => .ofText (dialect.quoteName name))).text =
        (commaList (names.map dialect.quoteName)).toList :=
    Template.text_commaList (by simp)
  have slots : (Template.commaList (names.map fun name => [Glyph.slot name none])).text =
      (commaList (names.map fun name => ":" ++ name)).toList :=
    Template.text_commaList (by simp [Template.text, Glyph.written])
  simp [bindsTemplate, columns, slots, tuple]

theorem slots_bindsTemplate (dialect : Dialect) (names : List String) :
    (bindsTemplate dialect names).slots.map Prod.fst = names := by
  have single : ∀ name, Template.slots [Glyph.slot name none] = [(name, none)] := fun _ => rfl
  have columns : (names.flatMap fun _ => ([] : List (String × Option Scalar))) = [] :=
    List.flatMap_eq_nil_iff.2 fun _ _ => rfl
  simp [bindsTemplate, List.flatMap_map, single, columns, ← List.map_eq_flatMap,
    Function.comp_def]

theorem legible_bindsTemplate (dialect : Dialect) {names : List String}
    (valid : ∀ name ∈ names, isParamName name.toList = true) :
    (bindsTemplate dialect names).Legible dialect := by
  have columns : (Template.commaList
      (names.map fun name => .ofText (dialect.quoteName name))).Legible dialect := by
    apply Template.legible_commaList
    rintro template member
    obtain ⟨name, -, rfl⟩ := List.mem_map.1 member
    exact legible_quoteName dialect name
  have slots : (Template.commaList
      (names.map fun name => [Glyph.slot name none])).Legible dialect := by
    apply Template.legible_commaList
    rintro template member
    obtain ⟨name, named, rfl⟩ := List.mem_map.1 member
    exact Template.legible_slot none (valid name named)
  rw [bindsTemplate, List.append_assoc]
  exact Template.legible_between (by decide) columns
    (Template.trailing_ofText_append (by decide) (by decide) slots)

theorem ordinary_opening (insert : Insert) :
    (insert.opening ++ " ").toList.all isOrdinary = true := by
  unfold opening
  cases insert.replaces <;> cases insert.ignores <;> cases insert.dialect <;> decide

theorem ordinary_ignoreClause {text : String} (skips : insert.ignoreClause? = some text) :
    (" " ++ text).toList.all isOrdinary = true := by
  unfold ignoreClause? at skips
  split at skips
  · cases dialect : insert.dialect <;> simp only [dialect, Dialect.ignoreForm] at skips
    · simp at skips
    · obtain rfl := Option.some.inj skips
      decide
    · simp at skips
  · simp at skips

/-- The text behind the values. -/
def behindValues (insert : Insert) (columns : List String) : Except StatementError String := do
  let conflict ← insert.conflictText columns
  let returning ← protectAll insert.dialect insert.returning
  .ok (conflict ++ clause "RETURNING" (commaList returning))

/-- The text of an insertion that takes names for columns and for placeholders. -/
def bindsText (dialect : Dialect) (opening table : String) (names : List String) (tail : String) :
    String :=
  opening ++ " " ++ table ++ " " ++ tuple (names.map dialect.quoteName) ++ " VALUES " ++
    tuple (names.map fun name => ":" ++ name) ++ tail

/-- An insertion of bound values takes their names for columns and for placeholders. -/
theorem render_of_binds (noRows : insert.rows = []) (noColumns : insert.columns = [])
    (valid : ∀ name ∈ insert.binds.map Prod.fst, isParamName name.toList = true)
    (rendered : insert.render = .ok sql) :
    insert.binds ≠ [] ∧ ∃ table tail, insert.table? = some table ∧
      insert.behindValues (insert.binds.map Prod.fst) = .ok tail ∧
      sql = bindsText insert.dialect insert.opening (table.render insert.dialect)
        (insert.binds.map Prod.fst) tail := by
  obtain ⟨table, columns, names, conflict, returned, named, effective, written, behind, returning,
    rfl⟩ := render_eq_ok_iff.1 rendered
  have given : insert.binds ≠ [] := by
    intro none
    simp [effectiveColumns, noRows, none] at effective
  obtain rfl : insert.binds.map Prod.fst = columns := by
    simpa [effectiveColumns, noRows, noColumns, given] using effective
  rw [protectAll_of_isParamName insert.dialect valid] at written
  obtain rfl := Except.ok.inj written
  refine ⟨given, table, conflict ++ clause "RETURNING" (commaList returned), named, ?_, ?_⟩
  · exact bind_eq_ok.2 ⟨conflict, behind, bind_eq_ok.2 ⟨returned, returning, rfl⟩⟩
  · simp only [bindsText, valuesText, noRows, List.isEmpty_nil, if_true, String.append_assoc]
    rfl

/-- The placeholders of an insertion of bound values are those of its table and the names of the
values, and then those behind the values. -/
theorem placeholders_of_binds {dialect : Dialect} {opening table tail : String}
    {names : List String} (valid : ∀ name ∈ names, isParamName name.toList = true)
    (ordinary : (opening ++ " ").toList.all isOrdinary = true) (closed : Closed dialect table) :
    Params.placeholders dialect (bindsText dialect opening table names tail) =
      Params.placeholders dialect table ++ names ++ Params.placeholders dialect tail := by
  have laid : (bindsText dialect opening table names tail).toList =
      (opening ++ " ").toList ++ (table.toList ++
        ((bindsTemplate dialect names).text ++ (')' :: tail.toList))) := by
    have middle := text_bindsTemplate dialect names
    have split : ')' :: tail.toList = [')'] ++ tail.toList := rfl
    rw [split, ← List.append_assoc (Template.text _), middle]
    simp only [bindsText, String.toList_append, List.append_assoc]
  have breaks : Clear ((bindsTemplate dialect names).text ++ (')' :: tail.toList)) := by
    refine clear_append ?_ (by simp [Clear, isBreak])
    rw [bindsTemplate, List.append_assoc, List.append_assoc, Template.text_append,
      Template.text_ofText]
    exact clear_of_break _ (by decide)
  rw [← Params.names_scan, laid, scan_ordinary_append _ ordinary, closed _ breaks,
    legible_bindsTemplate dialect valid _ (by simp [Clear, isBreak]),
    scan_ordinary_cons _ (by decide)]
  simp only [Params.names_append, Params.names_fixed, Params.names_scan, Params.names_map_piece,
    slots_bindsTemplate, Params.names, List.nil_append, List.append_assoc]

/-- The bound values are sent between those of the placeholders before and behind their own. -/
theorem bind_of_lineUp {tail : String} {table : Identifier} {before after : List Scalar}
    (filled : insert.binds ≠ []) (distinct : (insert.binds.map Prod.fst).Nodup)
    (valid : ∀ name ∈ insert.binds.map Prod.fst, isParamName name.toList = true)
    (closed : Closed insert.dialect (table.render insert.dialect))
    (inTable : Params.LineUp insert.binds
      (Params.placeholders insert.dialect (table.render insert.dialect)) before)
    (inTail : Params.LineUp insert.binds (Params.placeholders insert.dialect tail) after) :
    ∃ text, insert.params.bind insert.dialect (bindsText insert.dialect insert.opening
        (table.render insert.dialect) (insert.binds.map Prod.fst) tail) =
      .ok (text, before ++ insert.binds.map Prod.snd ++ after) := by
  apply Params.bind_of_lineUp filled
  rw [placeholders_of_binds valid (ordinary_opening insert) closed]
  exact List.rel_append (List.rel_append inTable (Params.lineUp_of_nodup distinct)) inTail

/-- Nothing but names of columns stands behind the values: no row is updated, and what is returned
and what conflicts are matched by are columns. -/
def NamesTail (insert : Insert) : Prop :=
  insert.upserts = false ∧ insert.returning.all (namesColumn insert.dialect) = true ∧
    ∀ names, insert.target? = some (.columns names) →
      names.all (namesColumn insert.dialect) = true

theorem legible_tail {tail : String} (names : insert.NamesTail)
    (behind : insert.behindValues (insert.binds.map Prod.fst) = .ok tail) :
    (Template.ofText tail).Legible insert.dialect := by
  simp only [behindValues, bind_eq_ok, Except.ok.injEq] at behind
  obtain ⟨conflict, behind, returning, returned, rfl⟩ := behind
  obtain ⟨noUpsert, columns, targets⟩ := names
  have last : Template.Trailing insert.dialect
      (Template.ofText (clause "RETURNING" (commaList returning))) := by
    rw [Template.ofText_clause]
    exact Template.trailing_clause (by decide) (legible_protectAll columns returned)
  rw [Template.ofText_append]
  refine Template.legible_append ?_ last.1 last.2
  simp only [conflictText, noUpsert, Bool.false_eq_true, if_false] at behind
  split at behind
  · obtain rfl := Except.ok.inj behind
    exact Template.legible_nil _
  · next text clause =>
    split at behind
    · next name names target =>
      simp only [bind_eq_ok, Except.ok.injEq] at behind
      obtain ⟨texts, written, rfl⟩ := behind
      rw [Template.ofText_append, Template.ofText_append]
      exact Template.legible_between (by decide) (legible_protectAll (targets _ target) written)
        (Template.trailing_ofText (by decide) (by decide))
    · obtain rfl := Except.ok.inj behind
      exact Template.legible_ofText (ordinary_ignoreClause clause)

/-- Where columns only are named besides, the placeholders read are the bound names exactly if a
placeholder may have each of them. -/
theorem placeholders_eq_names_iff {table : Identifier} (noRows : insert.rows = [])
    (noColumns : insert.columns = []) (named : insert.table? = some table)
    (plain : table.isRaw = false) (columns : insert.NamesTail)
    (rendered : insert.render = .ok sql) :
    Params.placeholders insert.dialect sql = insert.binds.map Prod.fst ↔
      ∀ name ∈ insert.binds.map Prod.fst, isParamName name.toList = true := by
  constructor
  · intro read name member
    rw [← read] at member
    exact Params.isParamName_of_mem_placeholders member
  · intro valid
    obtain ⟨-, other, tail, given, behind, rfl⟩ :=
      render_of_binds noRows noColumns valid rendered
    obtain rfl := Option.some.inj (named.symm.trans given)
    have before := legible_identifier insert.dialect plain
    have after := legible_tail columns behind
    rw [placeholders_of_binds valid (ordinary_opening insert) (closed_of_legible before),
      Params.placeholders_of_legible before, Params.placeholders_of_legible after]
    simp

/-- An insertion without value sets and columns names a column for each bound value, with a
placeholder of the same name in the same place. Where the names are such that a placeholder is read
whole, its values are sent in this order, between those of the placeholders that stand in an
expression in the place of the table and behind the values. Where columns only are named there, the
bound values are all that is sent. -/
theorem sends_of_binds {given : List (String × Scalar)}
    (bound : Binds.bindAll given [] = .ok insert.binds) (noRows : insert.rows = [])
    (noColumns : insert.columns = [])
    (valid : ∀ name ∈ insert.binds.map Prod.fst, isParamName name.toList = true)
    (rendered : insert.render = .ok sql) :
    Binds.HoldsLast (Binds.stripped given) insert.binds ∧
      ∃ table tail, insert.table? = some table ∧
        insert.behindValues (insert.binds.map Prod.fst) = .ok tail ∧
        sql = bindsText insert.dialect insert.opening (table.render insert.dialect)
          (insert.binds.map Prod.fst) tail ∧
        (∀ before after, Closed insert.dialect (table.render insert.dialect) →
          Params.LineUp insert.binds
            (Params.placeholders insert.dialect (table.render insert.dialect)) before →
          Params.LineUp insert.binds (Params.placeholders insert.dialect tail) after →
          ∃ text, insert.params.bind insert.dialect sql =
            .ok (text, before ++ insert.binds.map Prod.snd ++ after)) ∧
        (table.isRaw = false → insert.NamesTail →
          ∃ text, insert.params.bind insert.dialect sql =
            .ok (text, insert.binds.map Prod.snd)) := by
  have holds := Binds.holdsLast_of_bindAll bound
  obtain ⟨filled, table, tail, named, behind, rfl⟩ :=
    render_of_binds noRows noColumns valid rendered
  refine ⟨holds, table, tail, named, behind, rfl, ?_, ?_⟩
  · intro before after closed inTable inTail
    exact bind_of_lineUp filled holds.nodup valid closed inTable inTail
  · intro plain columns
    have before := legible_identifier insert.dialect plain
    have after := legible_tail columns behind
    have sent := bind_of_lineUp filled holds.nodup valid (closed_of_legible before)
      (Params.lineUp_of_legible before) (Params.lineUp_of_legible after)
    simpa using sent

/-- An insertion of two bound values that skips conflicting rows and returns a column or an
expression. -/
def boundInsert (returned : String) : Insert :=
  { empty .postgres with
    table? := some (.ofLetter 't')
    ignores := true
    target? := some (.columns ["id"])
    returning := [returned]
    binds := [("id", .int 3), ("name", .text "a")] }

theorem sends_of_binds_boundInsert :
    let given := [(":id", Scalar.int 1), ("name", .text "a"), ("id", .int 3)]
    let plain := "INSERT INTO \"t\" (\"id\", \"name\") VALUES (:id, :name) " ++
      "ON CONFLICT (\"id\") DO NOTHING RETURNING \"id\""
    let raw := "INSERT INTO \"t\" (\"id\", \"name\") VALUES (:id, :name) " ++
      "ON CONFLICT (\"id\") DO NOTHING RETURNING upper(:name)"
    Binds.bindAll given [] = .ok (boundInsert "id").binds ∧
      (boundInsert "id").render = .ok plain ∧ (boundInsert "upper(:name)").render = .ok raw ∧
      (∃ text, (boundInsert "id").params.bind .postgres plain =
        .ok (text, [.int 3, .text "a"])) ∧
      ∃ text, (boundInsert "upper(:name)").params.bind .postgres raw =
        .ok (text, [.int 3, .text "a", .text "a"]) := by
  intro given plain raw
  have bound : Binds.bindAll given [] = .ok (boundInsert "id").binds := by decide +kernel
  have valid : ∀ name ∈ (boundInsert "id").binds.map Prod.fst,
      isParamName name.toList = true := by decide +kernel
  have written : (boundInsert "id").render = .ok plain := by decide +kernel
  have rawWritten : (boundInsert "upper(:name)").render = .ok raw := by decide +kernel
  have names : (boundInsert "id").NamesTail := by
    refine ⟨by decide, by decide +kernel, ?_⟩
    rintro columns ⟨⟩
    decide +kernel
  obtain ⟨-, table, tail, named, -, -, -, sends⟩ := sends_of_binds bound rfl rfl valid written
  cases named
  have rawBound : Binds.bindAll given [] = .ok (boundInsert "upper(:name)").binds := bound
  obtain ⟨-, table, tail, named, behind, -, rawSends, -⟩ :=
    sends_of_binds rawBound rfl rfl valid rawWritten
  cases named
  have spelled : (boundInsert "upper(:name)").behindValues ["id", "name"] =
      .ok " ON CONFLICT (\"id\") DO NOTHING RETURNING upper(:name)" := by decide +kernel
  obtain rfl := Except.ok.inj (spelled.symm.trans behind)
  have table : (Template.ofText ((Identifier.ofLetter 't').render .postgres)).Legible .postgres :=
    legible_identifier .postgres rfl
  have inTail : Params.placeholders .postgres
      " ON CONFLICT (\"id\") DO NOTHING RETURNING upper(:name)" = ["name"] := by decide +kernel
  have after : Params.LineUp (boundInsert "upper(:name)").binds
      (Params.placeholders .postgres " ON CONFLICT (\"id\") DO NOTHING RETURNING upper(:name)")
      [.text "a"] := by
    rw [inTail]
    exact .cons (by decide) .nil
  exact ⟨bound, written, rawWritten, sends rfl names,
    rawSends [] [.text "a"] (closed_of_legible table) (Params.lineUp_of_legible table) after⟩

/-- A name with a hyphen is a column, but its placeholder ends before the hyphen: the first value is
sent twice, and the second one is not sent at all. -/
theorem placeholder_cuts_name :
    let insert : Insert :=
      { empty .sqlite with
        table? := some (.ofLetter 't')
        binds := [("a", .int 1), ("a-b", .int 2)] }
    let sql := "INSERT INTO \"t\" (\"a\", \"a-b\") VALUES (:a, :a-b)"
    Binds.bindAll [("a", .int 1), ("a-b", .int 2)] [] = .ok insert.binds ∧
      insert.rows = [] ∧ insert.columns = [] ∧ insert.upserts = false ∧
      insert.render = .ok sql ∧
      insert.params.bind .sqlite sql =
        .ok ("INSERT INTO \"t\" (\"a\", \"a-b\") VALUES (?, ?-b)", [.int 1, .int 1]) := by
  decide +kernel

end Insert

end SqlClient
