import SqlClient.Proofs.Quoting

/-!
# Escaped trees

A tree is escaped when all its text comes from names, scalars and parameters that are bound on the
selection where they stand: it holds no raw condition, no other verbatim text, no opening text and
no expression in the place of a name. The template of a rendered escaped tree is legible.
-/

namespace SqlClient

/-! ## The parts of a tree -/

/-- A column text that names a column, rather than an expression. -/
def namesColumn (dialect : Dialect) (column : String) : Bool :=
  match Identifier.protect dialect column none false with
  | .ok identifier => !identifier.isRaw
  | .error _ => false

/-- An ordering or grouping term that names a column, with an optional direction. -/
def namesTerm (dialect : Dialect) (term : String) : Bool :=
  !Identifier.isExpression (Text.trim term) &&
    match Scanner.words dialect.quote (Text.trim term) with
    | .ok [column] => namesColumn dialect column
    | .ok [column, word] => (Identifier.direction? word).isSome && namesColumn dialect column
    | _ => false

/-- A scalar, or a parameter with a value. -/
def Expr.isEscaped (binds : Binds) : Expr → Bool
  | .scalar _ => true
  | .verbatim sql =>
      match paramName? sql with
      | some name => (binds.find? name).isSome
      | none => false

mutual

/-- A condition of names, scalars and bound parameters. -/
def Condition.Escaped (dialect : Dialect) (binds : Binds) : Condition → Prop
  | .raw _ => False
  | .group _ members => Condition.AllEscaped dialect binds members
  | .leaf column _ operand =>
      namesColumn dialect column = true ∧ Operand.Escaped dialect binds operand

/-- Conditions of names, scalars and bound parameters. -/
def Condition.AllEscaped (dialect : Dialect) (binds : Binds) : List Condition → Prop
  | [] => True
  | member :: rest =>
      Condition.Escaped dialect binds member ∧ Condition.AllEscaped dialect binds rest

/-- A right-hand side of names, scalars and bound parameters. -/
def Operand.Escaped (dialect : Dialect) (binds : Binds) : Operand → Prop
  | .none => True
  | .value expr => expr.isEscaped binds = true
  | .list exprs => exprs.all (Expr.isEscaped binds) = true
  | .column other => namesColumn dialect other = true
  | .subquery select => Select.Escaped select
  | .nested condition => Condition.Escaped dialect binds condition

/-- Joins of named tables under escaped conditions. -/
def Join.AllEscaped (dialect : Dialect) (binds : Binds) : List Join → Prop
  | [] => True
  | join :: rest => Join.Escaped dialect binds join ∧ Join.AllEscaped dialect binds rest

/-- A join of a named table under an escaped condition. -/
def Join.Escaped (dialect : Dialect) (binds : Binds) : Join → Prop
  | ⟨_, source, condition⟩ =>
      source.isRaw = false ∧ Condition.Escaped dialect binds condition

/-- A named table, or an escaped selection of the same dialect. -/
def Source.Escaped (dialect : Dialect) : Source → Prop
  | .table identifier => identifier.isRaw = false
  | .subquery select _ => select.dialect = dialect ∧ Select.Escaped select

/-- Named tables and escaped selections of the same dialect. -/
def Source.AllEscaped (dialect : Dialect) : List Source → Prop
  | [] => True
  | source :: rest => Source.Escaped dialect source ∧ Source.AllEscaped dialect rest

/-- A selection of names, scalars and parameters bound where they stand. -/
def Select.Escaped : Select → Prop
  | ⟨dialect, _, opening?, columns, sources, joins, filter, groupBy, having, orderBy, _, _, _,
      binds⟩ =>
      opening? = none ∧ columns.all (namesColumn dialect) = true ∧
        Source.AllEscaped dialect sources ∧ Join.AllEscaped dialect binds joins ∧
        Condition.Escaped dialect binds filter ∧ groupBy.all (namesTerm dialect) = true ∧
        Condition.Escaped dialect binds having ∧ orderBy.all (namesTerm dialect) = true

end

theorem Source.allEscaped_append {dialect : Dialect} {sources : List Source} {source : Source}
    (all : Source.AllEscaped dialect sources) (last : source.Escaped dialect) :
    Source.AllEscaped dialect (sources ++ [source]) := by
  induction sources with
  | nil => exact ⟨last, trivial⟩
  | cons first rest induction => exact ⟨all.1, induction all.2⟩

/-- A selection takes an escaped selection only if that is of its own dialect, and stays escaped. -/
theorem Select.escaped_addSelect {select inner built : Select} {label? : Option String}
    (escaped : select.Escaped) (inside : inner.Escaped)
    (added : select.addSelect inner label? = .ok built) : built.Escaped := by
  obtain ⟨dialect, distinct, opening?, columns, sources, joins, filter, groupBy, having, orderBy,
    limit?, offset?, lock?, binds⟩ := select
  rw [Select.addSelect] at added
  split at added
  · simp at added
  · next same =>
    have agreed : inner.dialect = dialect := Classical.not_not.1 same
    obtain rfl := Except.ok.inj added
    obtain ⟨unopened, names, read, others⟩ := escaped
    exact ⟨unopened, names, Source.allEscaped_append read ⟨agreed, inside⟩, others⟩

/-! ## Legible parts -/

open Piece

theorem protectedText_of_namesColumn {dialect : Dialect} {column : String}
    (names : namesColumn dialect column = true) :
    ∃ identifier : Identifier, identifier.isRaw = false ∧
      Identifier.protectedText dialect column = .ok (identifier.render dialect) := by
  unfold namesColumn at names
  split at names
  · next identifier found =>
    refine ⟨identifier, by simpa using names, ?_⟩
    rw [Identifier.protectedText, found]
    rfl
  · simp at names

theorem legible_columnTemplate {dialect : Dialect} {column : String}
    (names : namesColumn dialect column = true) :
    (columnTemplate dialect column).Legible dialect := by
  obtain ⟨identifier, plain, found⟩ := protectedText_of_namesColumn names
  rw [columnTemplate, found]
  exact legible_identifier dialect plain

theorem isAlpha_iff (char : Char) :
    char.isAlpha = true ↔ ('A'.val ≤ char.val ∧ char.val ≤ 'Z'.val) ∨
      ('a'.val ≤ char.val ∧ char.val ≤ 'z'.val) := by
  change (decide (char.val ≥ 'A'.val ∧ char.val ≤ 'Z'.val) ||
    (decide (char.val ≥ 'a'.val) && decide (char.val ≤ 'z'.val))) = true ↔ _
  rw [Bool.or_eq_true, Bool.and_eq_true, decide_eq_true_eq, decide_eq_true_eq, decide_eq_true_eq]

theorem isAlpha_toUpper_of_toLower {char : Char} (letter : char.toLower.isAlpha = true) :
    char.toUpper.isAlpha = true := by
  rw [isAlpha_iff] at letter ⊢
  unfold Char.toLower at letter
  unfold Char.toUpper
  split at letter <;> split <;> simp_all <;> grind

/-- A direction is written in letters. -/
theorem ordinary_direction {word direction : String}
    (found : Identifier.direction? word = some direction) :
    direction.toList.all isOrdinary = true := by
  unfold Identifier.direction? at found
  split at found
  · next known =>
    obtain rfl := Option.some.inj found
    have lowered : (word.toList.map Char.toLower).all Char.isAlpha = true := by
      simp only [Text.sameIgnoringCase, beq_iff_eq] at known
      rcases known with ascending | descending
      · rw [ascending]
        decide
      · rw [descending]
        decide
    rw [Text.toUpper, String.toList_ofList, List.all_eq_true]
    intro upper member
    obtain ⟨char, inWord, rfl⟩ := List.mem_map.1 member
    have lower := List.all_eq_true.1 lowered char.toLower (List.mem_map_of_mem inWord)
    have letter := isAlpha_toUpper_of_toLower lower
    exact isOrdinary_of_isAlphanum (by simp [Char.isAlphanum, letter])
  · simp at found

theorem legible_term {dialect : Dialect} {term : String} (names : namesTerm dialect term = true) :
    (Template.ofText (shown (Identifier.protectOrdering dialect term))).Legible dialect := by
  simp only [namesTerm, Bool.and_eq_true, Bool.not_eq_true'] at names
  obtain ⟨noExpression, form⟩ := names
  have filled : Text.trim term ≠ "" := by
    intro blank
    rw [blank] at form
    simp [Scanner.words, Scanner.words?, Scanner.wordsFrom, Scanner.finishWord] at form
  unfold Identifier.protectOrdering
  simp only [filled, noExpression, if_false, Bool.false_eq_true]
  split at form
  · next column cut =>
    obtain ⟨identifier, plain, found⟩ := protectedText_of_namesColumn form
    rw [cut]
    simp only [bind, Except.bind, found, shown]
    exact legible_identifier dialect plain
  · next column word cut =>
    simp only [Bool.and_eq_true] at form
    obtain ⟨identifier, plain, found⟩ := protectedText_of_namesColumn form.2
    obtain ⟨direction, directed⟩ := Option.isSome_iff_exists.1 form.1
    rw [cut]
    simp only [bind, Except.bind, directed, found, shown, Template.ofText_append,
      List.append_assoc]
    refine Template.legible_append (legible_identifier dialect plain)
      (Template.legible_ofText_append (by decide) ?_) ?_
    · exact Template.legible_ofText (ordinary_direction directed)
    · rw [Template.text_append, Template.text_ofText]
      exact clear_of_break _ (by decide)
  · simp at form

theorem trailing_termTemplate {dialect : Dialect} {keyword : String} {terms : List String}
    (ordinary : keyword.toList.all isOrdinary = true)
    (names : terms.all (namesTerm dialect) = true) :
    (termTemplate dialect keyword terms).Trailing dialect := by
  apply Template.trailing_clause ordinary
  apply Template.legible_commaList
  intro template member
  obtain ⟨term, inTerms, rfl⟩ := List.mem_map.1 member
  exact legible_term (List.all_eq_true.1 names term inTerms)

theorem legible_expr {dialect : Dialect} {binds : Binds} {expr : Expr}
    (escaped : expr.isEscaped binds = true) : (expr.template dialect binds).Legible dialect := by
  cases expr with
  | scalar value => exact legible_literal dialect value
  | verbatim sql =>
      rw [Expr.isEscaped] at escaped
      rw [Expr.template]
      cases named : paramName? sql with
      | none => simp [named] at escaped
      | some name => exact Template.legible_slot _ (toList_of_paramName? named).2

theorem trailing_limitClause (dialect : Dialect) (limit? : Option Nat) :
    (Template.ofText (limitClause limit?)).Trailing dialect := by
  cases limit? with
  | none => exact Template.trailing_nil dialect
  | some limit =>
      rw [limitClause, Template.ofText_append]
      exact Template.trailing_ofText_append (by decide) (by decide)
        (Template.legible_ofText (ordinary_nat limit))

theorem trailing_windowClause (dialect : Dialect) (limit? offset? : Option Nat) :
    (Template.ofText (windowClause limit? offset?)).Trailing dialect := by
  unfold windowClause
  split
  · next limit offset =>
    rw [Template.ofText_append, Template.ofText_append, List.append_assoc]
    apply Template.trailing_append (trailing_limitClause dialect (some limit))
    exact Template.trailing_ofText_append (by decide) (by decide)
      (Template.legible_ofText (ordinary_nat offset))
  · exact trailing_limitClause dialect _

theorem trailing_lockClause (dialect : Dialect) (lock? : Option Lock) :
    (Template.ofText (shown (lockClause dialect lock?))).Trailing dialect := by
  rcases lock? with - | lock
  · exact Template.trailing_nil dialect
  · cases lock with
    | forUpdate =>
        change (Template.ofText " FOR UPDATE").Trailing dialect
        exact Template.trailing_ofText (by decide) (by decide)
    | shared =>
        cases dialect with
        | mysql => exact Template.trailing_ofText (by decide) (by decide)
        | postgres => exact Template.trailing_ofText (by decide) (by decide)
        | sqlite => exact Template.trailing_nil .sqlite

theorem ordinary_operator (operator : Operator) : operator.sql.toList.all isOrdinary = true := by
  cases operator <;> decide

/-- A legible template may stand behind an operator. -/
theorem legible_compared {dialect : Dialect} {template : Template} (operator : Operator)
    (legible : template.Legible dialect) :
    (Template.ofText (operator.sql ++ " ") ++ template).Legible dialect := by
  rw [Template.ofText_append, List.append_assoc]
  exact Template.legible_ofText_append (ordinary_operator operator)
    (Template.legible_ofText_append (by decide) legible)

/-- A legible template may stand in parentheses behind an operator. -/
theorem legible_parenthesised {dialect : Dialect} {template : Template} (operator : Operator)
    (legible : template.Legible dialect) :
    (Template.ofText (operator.sql ++ " (") ++ template ++ Template.ofText ")").Legible dialect := by
  have opening : (operator.sql ++ " (").toList.all isOrdinary = true := by
    cases operator <;> decide
  exact Template.legible_between opening legible (Template.trailing_ofText (by decide) (by decide))

/-! ## Legible trees -/

mutual

/-- The template of a rendered escaped condition is legible. -/
theorem Condition.legible_template {dialect : Dialect} {binds : Binds} {text : String} :
    (condition : Condition) → condition.Escaped dialect binds →
      condition.render dialect = .ok text → (condition.template dialect binds).Legible dialect
  | .raw _, escaped, _ => escaped.elim
  | .group connective members, escaped, rendered => by
      simp only [Condition.render, bind_eq_ok, Except.ok.injEq] at rendered
      obtain ⟨texts, each, -⟩ := rendered
      have members' := Condition.legible_templates members escaped each
      rw [Condition.template]
      apply Template.legible_joinMembers
      intro template member
      exact members' template (List.mem_filter.1 member).1
  | .leaf column operator operand, escaped, rendered => by
      simp only [Condition.render, bind_eq_ok, Except.ok.injEq] at rendered
      obtain ⟨left, named, right, compared, -⟩ := rendered
      have compared' := Operand.legible_template operand escaped.2 compared
      rw [Condition.template, List.append_assoc]
      have behind : (Template.ofText " " ++ Operand.template dialect binds operator operand).Trailing
          dialect := Template.trailing_ofText_append (by decide) (by decide) compared'
      exact Template.legible_append (legible_columnTemplate escaped.1) behind.1 behind.2

theorem Condition.legible_templates {dialect : Dialect} {binds : Binds} {texts : List String} :
    (members : List Condition) → Condition.AllEscaped dialect binds members →
      Condition.renderAll dialect members = .ok texts →
        ∀ template ∈ Condition.templates dialect binds members, template.Legible dialect
  | [], _, _ => by simp [Condition.templates]
  | member :: rest, escaped, rendered => by
      simp only [Condition.renderAll, bind_eq_ok, Except.ok.injEq] at rendered
      obtain ⟨text, first, others, remaining, -⟩ := rendered
      intro template member'
      rw [Condition.templates, List.mem_cons] at member'
      rcases member' with rfl | later
      · exact Condition.legible_template member escaped.1 first
      · exact Condition.legible_templates rest escaped.2 remaining template later

theorem Operand.legible_template {dialect : Dialect} {binds : Binds} {column text : String}
    {operator : Operator} : (operand : Operand) → operand.Escaped dialect binds →
      operand.render dialect column operator = .ok text →
        (operand.template dialect binds operator).Legible dialect
  | .none, _, _ => Template.legible_ofText (ordinary_operator operator)
  | .value expr, escaped, _ => by
      by_cases absent : expr = .scalar .null
      · subst absent
        rw [Operand.template]
        exact Template.legible_ofText (ordinary_operator _)
      · rw [Operand.template_value absent]
        exact legible_compared operator (legible_expr escaped)
  | .list exprs, escaped, _ => by
      rw [Operand.template]
      apply legible_parenthesised operator
      apply Template.legible_commaList
      intro template member
      obtain ⟨expr, inList, rfl⟩ := List.mem_map.1 member
      exact legible_expr (List.all_eq_true.1 escaped expr inList)
  | .column other, escaped, _ => by
      rw [Operand.template]
      exact legible_compared operator (legible_columnTemplate escaped)
  | .subquery select, escaped, rendered => by
      simp only [Operand.render] at rendered
      split at rendered
      · simp at rendered
      · next same =>
        simp only [bind_eq_ok, Except.ok.injEq] at rendered
        obtain ⟨inner, selected, -⟩ := rendered
        obtain rfl : select.dialect = dialect := by simpa using same
        rw [Operand.template]
        exact legible_parenthesised operator (Select.legible_template select escaped selected)
  | .nested condition, escaped, rendered => by
      simp only [Operand.render, bind_eq_ok, Except.ok.injEq] at rendered
      obtain ⟨inner, nested, -⟩ := rendered
      rw [Operand.template]
      exact legible_parenthesised operator (Condition.legible_template condition escaped nested)

theorem Join.trailing_template {dialect : Dialect} {binds : Binds} {text : String} :
    (join : Join) → join.Escaped dialect binds → join.render dialect = .ok text →
      (join.template dialect binds).Trailing dialect
  | ⟨kind, source, condition⟩, escaped, rendered => by
      simp only [Join.render, bind_eq_ok, Except.ok.injEq] at rendered
      obtain ⟨inner, joined, -⟩ := rendered
      have named : (Template.ofText (" " ++ kind.sql ++ " " ++ source.render dialect)).Trailing
          dialect := by
        rw [Template.ofText_append]
        refine Template.trailing_ofText_append ?_ ?_ (legible_identifier dialect escaped.1)
        · cases kind <;> decide
        · cases kind <;> decide
      have condition' := Condition.legible_template condition escaped.2 joined
      rw [Join.template]
      exact Template.trailing_append named
        (Template.trailing_enclosed (by decide) (by decide) condition'
          (Template.trailing_ofText (by decide) (by decide)))

theorem Join.trailing_templates {dialect : Dialect} {binds : Binds} {text : String} :
    (joins : List Join) → Join.AllEscaped dialect binds joins →
      Join.renderAll dialect joins = .ok text →
        (Join.templates dialect binds joins).Trailing dialect
  | [], _, _ => by
      rw [Join.templates]
      exact Template.trailing_nil dialect
  | join :: rest, escaped, rendered => by
      simp only [Join.renderAll, bind_eq_ok, Except.ok.injEq] at rendered
      obtain ⟨first, joined, others, remaining, -⟩ := rendered
      rw [Join.templates]
      exact Template.trailing_append (Join.trailing_template join escaped.1 joined)
        (Join.trailing_templates rest escaped.2 remaining)

theorem Source.legible_template {dialect : Dialect} {text : String} :
    (source : Source) → source.Escaped dialect → source.render dialect = .ok text →
      (source.template dialect).Legible dialect
  | .table identifier, escaped, _ => by
      rw [Source.template]
      exact legible_identifier dialect escaped
  | .subquery select label?, escaped, rendered => by
      simp only [Source.render, bind_eq_ok, Except.ok.injEq] at rendered
      obtain ⟨inner, selected, -⟩ := rendered
      obtain ⟨rfl, escaped⟩ := escaped
      have closing : (Template.ofText (")" ++ Identifier.renderAlias select.dialect label?)).Trailing
          select.dialect := by
        rw [Template.ofText_append]
        exact Template.trailing_ofText_append (by decide) (by decide) (legible_renderAlias _ label?)
      rw [Source.template]
      exact Template.legible_between (by decide) (Select.legible_template select escaped selected)
        closing

theorem Source.legible_templates {dialect : Dialect} {texts : List String} :
    (sources : List Source) → Source.AllEscaped dialect sources →
      Source.renderAll dialect sources = .ok texts →
        ∀ template ∈ Source.templates dialect sources, template.Legible dialect
  | [], _, _ => by simp [Source.templates]
  | source :: rest, escaped, rendered => by
      simp only [Source.renderAll, bind_eq_ok, Except.ok.injEq] at rendered
      obtain ⟨text, first, others, remaining, -⟩ := rendered
      intro template member
      rw [Source.templates, List.mem_cons] at member
      rcases member with rfl | later
      · exact Source.legible_template source escaped.1 first
      · exact Source.legible_templates rest escaped.2 remaining template later

/-- The template of a rendered escaped selection is legible in its dialect. -/
theorem Select.legible_template {text : String} :
    (select : Select) → select.Escaped → select.render = .ok text →
      select.template.Legible select.dialect
  | ⟨dialect, distinct, opening?, columns, sources, joins, filter, groupBy, having, orderBy,
      limit?, offset?, lock?, binds⟩, escaped, rendered => by
      simp only [Select.render] at rendered
      split at rendered
      · simp at rendered
      · simp only [bind_eq_ok, Except.ok.injEq] at rendered
        obtain ⟨_, _, columnTexts, named, sourceTexts, read, joinText, joined, filterText,
          filtered, groupText, grouped, havingText, had, orderText, ordered, lockText, locked,
          -⟩ := rendered
        obtain ⟨rfl, columnNames, escapedSources, escapedJoins, escapedFilter, groupNames,
          escapedHaving, orderNames⟩ := escaped
        have opening : ("SELECT " ++ (if distinct then "DISTINCT " else "") ++ "").toList.all
            isOrdinary = true := by
          cases distinct <;> decide
        have selected : (if columns.isEmpty then Template.ofText "*"
            else .commaList (columns.map (columnTemplate dialect))).Legible dialect := by
          split
          · exact Template.legible_ofText (by decide)
          · apply Template.legible_commaList
            intro template member
            obtain ⟨column, inColumns, rfl⟩ := List.mem_map.1 member
            exact legible_columnTemplate (List.all_eq_true.1 columnNames column inColumns)
        have source := Template.legible_commaList
          (Source.legible_templates sources escapedSources read)
        have joins' := Join.trailing_templates joins escapedJoins joined
        have filter' := Template.trailing_clause (by decide : "WHERE".toList.all isOrdinary = true)
          (Condition.legible_template filter escapedFilter filtered)
        have group' := trailing_termTemplate (by decide : "GROUP BY".toList.all isOrdinary = true)
          groupNames
        have having' := Template.trailing_clause
          (by decide : "HAVING".toList.all isOrdinary = true)
          (Condition.legible_template having escapedHaving had)
        have order' := trailing_termTemplate (by decide : "ORDER BY".toList.all isOrdinary = true)
          orderNames
        have window := Template.trailing_append (trailing_windowClause dialect limit? offset?)
          (trailing_lockClause dialect lock?)
        rw [← Template.ofText_append] at window
        have clauses := Template.trailing_append joins' (Template.trailing_append filter'
          (Template.trailing_append group' (Template.trailing_append having'
            (Template.trailing_append order' window))))
        have behind := Template.trailing_ofText_append
          (by decide : " FROM ".toList.all isOrdinary = true) (by decide)
          (Template.legible_append source clauses.1 clauses.2)
        have whole := Template.legible_ofText_append opening
          (Template.legible_append selected behind.1 behind.2)
        simpa only [Select.template, Option.map_none, Option.getD_none, List.append_assoc]
          using whole

end

end SqlClient
