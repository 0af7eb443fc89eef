import SqlClient.Statement.Select
import SqlClient.Steps

/-!
# Templates

A template is the text of a statement with its named parameters marked: a list of characters and of
slots, where a slot also holds the value that the selection around it binds to its name. This file
lays out every tree as a template and shows that the written template is the rendered text.
-/

namespace SqlClient

/-- One place of a template. -/
inductive Glyph where
  /-- A character of the text. -/
  | plain (char : Char)
  /-- A named parameter, and the value bound to it where it stands. -/
  | slot (name : String) (bound? : Option Scalar)
  deriving DecidableEq, Repr

/-- The characters of a place; a parameter is written as a colon and its name. -/
def Glyph.written : Glyph → List Char
  | .plain char => [char]
  | .slot name _ => ':' :: name.toList

/-- A text with its named parameters marked. -/
abbrev Template := List Glyph

namespace Template

/-- The template of a text without parameters. -/
def ofText (text : String) : Template :=
  text.toList.map .plain

/-- The text of a template. -/
def text (template : Template) : List Char :=
  template.flatMap Glyph.written

/-- The text of a template in which the slots are numbered placeholders, from a position on. -/
def numbered (dialect : Dialect) : Nat → Template → List Char
  | _, [] => []
  | position, .plain char :: rest => char :: numbered dialect position rest
  | position, .slot _ _ :: rest =>
      (dialect.placeholder position).toList ++ numbered dialect (position + 1) rest

/-- The slots in the order of the text: the name of each and the value bound where it stands. -/
def slots (template : Template) : List (String × Option Scalar) :=
  template.filterMap fun
    | .plain _ => none
    | .slot name bound? => some (name, bound?)

/-- Templates with a comma and a blank between them. -/
def commaList (templates : List Template) : Template :=
  (ofText ", ").intercalate templates

/-- The members of a group in one template. -/
def joinMembers (connective : Connective) : List Template → Template
  | [] => []
  | [template] => template
  | templates => ofText "(" ++ (ofText connective.sql).intercalate templates ++ ofText ")"

/-- A template between two texts, unless it is empty. -/
def enclosed (opening closing : String) (template : Template) : Template :=
  if template = [] then [] else ofText opening ++ template ++ ofText closing

/-- A clause of a keyword and a template, unless the template is empty. -/
def clause (keyword : String) (template : Template) : Template :=
  enclosed (" " ++ keyword ++ " ") "" template

@[simp] theorem text_nil : text [] = [] := rfl

@[simp] theorem text_append (left right : Template) :
    text (left ++ right) = text left ++ text right := by
  simp [text]

@[simp] theorem text_ofText (written : String) : (ofText written).text = written.toList := by
  simp [ofText, text, List.flatMap_map, Glyph.written]

theorem ofText_append (left right : String) :
    ofText (left ++ right) = ofText left ++ ofText right := by
  simp [ofText]

theorem ofText_intercalate (separator : String) (texts : List String) :
    ofText (separator.intercalate texts) = (ofText separator).intercalate (texts.map ofText) := by
  rw [ofText, String.toList_intercalate]
  induction texts with
  | nil => rfl
  | cons text rest induction =>
      cases rest with
      | nil => simp [ofText]
      | cons next rest =>
          simp only [List.map_cons, List.intercalate_cons_cons, List.map_append] at induction ⊢
          rw [induction]
          rfl

@[simp] theorem text_eq_nil {template : Template} : template.text = [] ↔ template = [] := by
  cases template with
  | nil => simp
  | cons glyph rest => cases glyph <;> simp [text, Glyph.written]

theorem text_intercalate (separator : Template) (templates : List Template) :
    text (separator.intercalate templates) =
      separator.text.intercalate (templates.map text) := by
  induction templates with
  | nil => rfl
  | cons template rest ih =>
      cases rest with
      | nil => simp
      | cons next rest =>
          simp only [List.intercalate_cons_cons, List.map_cons, text_append] at ih ⊢
          rw [ih]

theorem text_commaList {templates : List Template} {texts : List String}
    (same : templates.map text = texts.map String.toList) :
    (commaList templates).text = (SqlClient.commaList texts).toList := by
  rw [commaList, text_intercalate, same, text_ofText, SqlClient.commaList,
    String.toList_intercalate]

theorem map_text_filter {templates : List Template} {texts : List String}
    (same : templates.map text = texts.map String.toList) :
    (templates.filter (· ≠ [])).map text = (texts.filter (· ≠ "")).map String.toList := by
  induction templates generalizing texts with
  | nil =>
      obtain rfl : texts = [] := by simpa using same.symm
      rfl
  | cons template rest ih =>
      cases texts with
      | nil => simp at same
      | cons head tail =>
          simp only [List.map_cons, List.cons.injEq] at same
          have empty : template = [] ↔ head = "" := by
            rw [← text_eq_nil, same.1, String.toList_eq_nil_iff]
          have others := ih same.2
          by_cases blank : head = ""
          · simpa [blank, empty.2 blank] using others
          · simpa [blank, mt empty.1 blank, same.1] using others

theorem text_joinMembers {connective : Connective} {templates : List Template}
    {texts : List String} (same : templates.map text = texts.map String.toList) :
    (joinMembers connective templates).text = (SqlClient.joinMembers connective texts).toList := by
  cases templates with
  | nil =>
      obtain rfl : texts = [] := by simpa using same.symm
      rfl
  | cons first rest =>
      cases texts with
      | nil => simp at same
      | cons head tail =>
          cases rest with
          | nil =>
              obtain rfl : tail = [] := by
                have lengths := congrArg List.length same
                simpa using lengths.symm
              simpa [joinMembers, SqlClient.joinMembers] using same
          | cons second rest =>
              cases tail with
              | nil => simp at same
              | cons next tail =>
                  simp only [joinMembers, SqlClient.joinMembers, text_append, text_intercalate,
                    same, text_ofText, String.toList_append, String.toList_intercalate]

theorem text_enclosed {opening closing written : String} {template : Template}
    (same : template.text = written.toList) :
    (enclosed opening closing template).text =
      (if written = "" then "" else opening ++ written ++ closing).toList := by
  have empty : template = [] ↔ written = "" := by
    rw [← text_eq_nil, same, String.toList_eq_nil_iff]
  by_cases blank : written = ""
  · simp [enclosed, blank, empty.2 blank]
  · have filled := mt empty.1 blank
    simp [enclosed, blank, filled, same]

theorem text_clause (keyword : String) {written : String} {template : Template}
    (same : template.text = written.toList) :
    (clause keyword template).text = (SqlClient.clause keyword written).toList := by
  rw [clause, text_enclosed same, SqlClient.clause, String.append_empty]

@[simp] theorem slots_nil : slots [] = [] := rfl

@[simp] theorem slots_append (left right : Template) :
    slots (left ++ right) = slots left ++ slots right := by
  simp [slots]

@[simp] theorem slots_ofText (written : String) : (ofText written).slots = [] := by
  simp [ofText, slots]

theorem slots_intercalate (separator : String) (templates : List Template) :
    slots ((ofText separator).intercalate templates) = templates.flatMap slots := by
  induction templates with
  | nil => rfl
  | cons template rest induction =>
      cases rest with
      | nil => simp
      | cons next rest =>
          rw [List.intercalate_cons_cons, slots_append, slots_append, induction]
          simp

@[simp] theorem slots_commaList (templates : List Template) :
    (commaList templates).slots = templates.flatMap slots :=
  slots_intercalate ", " templates

@[simp] theorem slots_joinMembers (connective : Connective) (templates : List Template) :
    (joinMembers connective templates).slots = templates.flatMap slots := by
  match templates with
  | [] => rfl
  | [template] => simp [joinMembers]
  | first :: second :: rest => simp [joinMembers, slots_intercalate]

@[simp] theorem slots_enclosed (opening closing : String) (template : Template) :
    (enclosed opening closing template).slots = template.slots := by
  unfold enclosed
  split
  · next empty => rw [empty]
  · simp

@[simp] theorem slots_clause (keyword : String) (template : Template) :
    (clause keyword template).slots = template.slots :=
  slots_enclosed (" " ++ keyword ++ " ") "" template

/-- Empty templates hold no slots. -/
@[simp] theorem flatMap_slots_filter (templates : List Template) :
    (templates.filter (· ≠ [])).flatMap slots = templates.flatMap slots := by
  induction templates with
  | nil => rfl
  | cons template rest induction =>
      by_cases empty : template = []
      · simpa [empty] using induction
      · simpa [empty] using induction

end Template

/-! ## Parameters -/

/-- A text that can stand after the colon of a named parameter: a letter or an underscore, then
letters, digits and underscores. -/
def isParamName : List Char → Bool
  | [] => false
  | char :: rest =>
      (char.isAlpha || char == '_') && rest.all fun char => char.isAlphanum || char == '_'

/-- The name of a text that is nothing but a named parameter. -/
def paramName? (sql : String) : Option String :=
  match sql.toList with
  | ':' :: letters => if isParamName letters then some (String.ofList letters) else none
  | _ => none

theorem toList_of_paramName? {sql name : String} (named : paramName? sql = some name) :
    sql.toList = ':' :: name.toList ∧ isParamName name.toList = true := by
  unfold paramName? at named
  split at named
  · next letters written =>
    split at named
    · next valid =>
      obtain rfl := Option.some.inj named
      simp [written, valid]
    · simp at named
  · simp at named

theorem paramName?_param {name : String} (valid : isParamName name.toList = true) :
    paramName? (":" ++ name) = some name := by
  simp [paramName?, String.toList_append, valid]

/-- The template of an expression under the bindings of the selection around it. -/
def Expr.template (dialect : Dialect) (binds : Binds) : Expr → Template
  | .verbatim sql =>
      match paramName? sql with
      | some name => [.slot name (binds.find? name)]
      | none => .ofText sql
  | .scalar value => .ofText (value.literal dialect)

theorem Expr.template_param (dialect : Dialect) (binds : Binds) {name : String}
    (valid : isParamName name.toList = true) :
    (Expr.param name).template dialect binds = [.slot name (binds.find? name)] := by
  rw [Expr.param, Expr.template, paramName?_param valid]

theorem Expr.text_template (dialect : Dialect) (binds : Binds) (expr : Expr) :
    (expr.template dialect binds).text = (expr.render dialect).toList := by
  cases expr with
  | scalar value => simp [template, render]
  | verbatim sql =>
      simp only [template, render]
      split
      · next name named =>
        simp [Template.text, Glyph.written, (toList_of_paramName? named).1]
      · simp

/-! ## Trees -/

/-- The text of a result, or nothing. -/
def shown {ε : Type} : Except ε String → String
  | .ok text => text
  | .error _ => ""

/-- The template of a protected column. -/
def columnTemplate (dialect : Dialect) (column : String) : Template :=
  .ofText (shown (Identifier.protectedText dialect column))

/-- The template of a clause of ordering or grouping terms. -/
def termTemplate (dialect : Dialect) (keyword : String) (terms : List String) : Template :=
  .clause keyword
    (.commaList (terms.map fun term => .ofText (shown (Identifier.protectOrdering dialect term))))

@[simp] theorem slots_columnTemplate (dialect : Dialect) (column : String) :
    (columnTemplate dialect column).slots = [] :=
  Template.slots_ofText _

@[simp] theorem slots_termTemplate (dialect : Dialect) (keyword : String) (terms : List String) :
    (termTemplate dialect keyword terms).slots = [] := by
  simp [termTemplate, List.flatMap_map]

mutual

/-- The template of a condition under the bindings of the selection around it. -/
def Condition.template (dialect : Dialect) (binds : Binds) : Condition → Template
  | .raw sql => .ofText (Text.trim sql)
  | .group connective members =>
      .joinMembers connective ((Condition.templates dialect binds members).filter (· ≠ []))
  | .leaf column operator operand =>
      columnTemplate dialect column ++ .ofText " " ++
        Operand.template dialect binds operator operand

/-- The templates of several conditions. -/
def Condition.templates (dialect : Dialect) (binds : Binds) : List Condition → List Template
  | [] => []
  | member :: rest =>
      Condition.template dialect binds member :: Condition.templates dialect binds rest

/-- The template of an operator and the right-hand side of a comparison. -/
def Operand.template (dialect : Dialect) (binds : Binds) (operator : Operator) :
    Operand → Template
  | .none => .ofText operator.sql
  | .value (.scalar .null) => .ofText (operator.nullTest?.getD operator).sql
  | .value expr => .ofText (operator.sql ++ " ") ++ expr.template dialect binds
  | .list exprs =>
      .ofText (operator.sql ++ " (") ++ .commaList (exprs.map (Expr.template dialect binds)) ++
        .ofText ")"
  | .column other => .ofText (operator.sql ++ " ") ++ columnTemplate dialect other
  | .subquery select => .ofText (operator.sql ++ " (") ++ Select.template select ++ .ofText ")"
  | .nested condition =>
      .ofText (operator.sql ++ " (") ++ Condition.template dialect binds condition ++ .ofText ")"

/-- The template of joins in order. -/
def Join.templates (dialect : Dialect) (binds : Binds) : List Join → Template
  | [] => []
  | join :: rest => Join.template dialect binds join ++ Join.templates dialect binds rest

/-- The template of a join. -/
def Join.template (dialect : Dialect) (binds : Binds) : Join → Template
  | ⟨kind, source, condition⟩ =>
      .ofText (" " ++ kind.sql ++ " " ++ source.render dialect) ++
        .enclosed " ON (" ")" (Condition.template dialect binds condition)

/-- The template of a source. -/
def Source.template (dialect : Dialect) : Source → Template
  | .table identifier => .ofText (identifier.render dialect)
  | .subquery select label? =>
      .ofText "(" ++ Select.template select ++
        .ofText (")" ++ Identifier.renderAlias dialect label?)

/-- The templates of sources in order. -/
def Source.templates (dialect : Dialect) : List Source → List Template
  | [] => []
  | source :: rest => Source.template dialect source :: Source.templates dialect rest

/-- The template of a selection. -/
def Select.template : Select → Template
  | ⟨dialect, distinct, opening?, columns, sources, joins, filter, groupBy, having, orderBy,
      limit?, offset?, lock?, binds⟩ =>
      .ofText ("SELECT " ++ (if distinct then "DISTINCT " else "") ++
          (opening?.map fun text => Text.trim text ++ " ").getD "") ++
        (if columns.isEmpty then .ofText "*"
          else .commaList (columns.map (columnTemplate dialect))) ++
        .ofText " FROM " ++ .commaList (Source.templates dialect sources) ++
        Join.templates dialect binds joins ++
        .clause "WHERE" (Condition.template dialect binds filter) ++
        termTemplate dialect "GROUP BY" groupBy ++
        .clause "HAVING" (Condition.template dialect binds having) ++
        termTemplate dialect "ORDER BY" orderBy ++
        .ofText (windowClause limit? offset? ++ shown (lockClause dialect lock?))

end

/-! ## Written templates -/

theorem refuse_eq_ok {α : Type} {result : Except InvalidInput α} {value : α} :
    refuse result = .ok value ↔ result = .ok value := by
  cases result with
  | error error =>
      have refused : refuse (.error error : Except InvalidInput α) = .error (.invalid error) := rfl
      rw [refused]
      simp
  | ok done =>
      have kept : refuse (.ok done : Except InvalidInput α) = .ok done := rfl
      rw [kept]
      simp

/-- Results of a list are the results of its members. -/
theorem map_shown_of_mapM {ε : Type} {step : String → Except ε String} {items texts : List String}
    (done : items.mapM step = .ok texts) : items.map (fun item => shown (step item)) = texts := by
  induction items generalizing texts with
  | nil => simpa [pure, Except.pure] using done
  | cons item rest ih =>
      simp only [List.mapM_cons, bind_eq_ok] at done
      obtain ⟨text, stepped, others, rested, same⟩ := done
      simp only [pure, Except.pure, Except.ok.injEq] at same
      rw [List.map_cons, ih rested, stepped, ← same]
      rfl

theorem shown_refuse (result : Except InvalidInput String) : shown (refuse result) = shown result := by
  cases result <;> rfl

theorem text_columnTemplate {dialect : Dialect} {column text : String}
    (given : refuse (Identifier.protectedText dialect column) = .ok text) :
    (columnTemplate dialect column).text = text.toList := by
  simp [columnTemplate, refuse_eq_ok.1 given, shown]

theorem text_columns {dialect : Dialect} {columns texts : List String}
    (given : protectAll dialect columns = .ok texts) :
    (Template.commaList (columns.map (columnTemplate dialect))).text =
      (commaList texts).toList := by
  apply Template.text_commaList
  rw [← map_shown_of_mapM given]
  simp [columnTemplate, shown_refuse]

theorem text_termTemplate {dialect : Dialect} {keyword written : String} {terms : List String}
    (given : termClause dialect keyword terms = .ok written) :
    (termTemplate dialect keyword terms).text = written.toList := by
  simp only [termClause, bind_eq_ok, Except.ok.injEq] at given
  obtain ⟨texts, mapped, rfl⟩ := given
  have listed : (Template.commaList (terms.map fun term =>
      .ofText (shown (Identifier.protectOrdering dialect term)))).text =
        (commaList texts).toList := by
    apply Template.text_commaList
    rw [← map_shown_of_mapM mapped]
    simp [shown_refuse]
  rw [termTemplate, Template.text_clause keyword listed]

theorem Operand.render_value {dialect : Dialect} {column : String} {operator : Operator}
    {expr : Expr} (present : expr ≠ .scalar .null) :
    Operand.render dialect column operator (.value expr) =
      .ok (operator.sql ++ " " ++ expr.render dialect) := by
  rcases expr with sql | value
  · rw [Operand.render]
    simp
  · cases value <;> first | exact absurd rfl present | simp [Operand.render]

theorem Operand.template_value {dialect : Dialect} {binds : Binds} {operator : Operator}
    {expr : Expr} (present : expr ≠ .scalar .null) :
    Operand.template dialect binds operator (.value expr) =
      .ofText (operator.sql ++ " ") ++ expr.template dialect binds := by
  rcases expr with sql | value
  · rw [Operand.template]
    simp
  · cases value <;> first | exact absurd rfl present | simp [Operand.template]

mutual

/-- A rendered condition is its template written down. -/
theorem Condition.text_template {dialect : Dialect} (binds : Binds) {text : String} :
    (condition : Condition) → condition.render dialect = .ok text →
      (condition.template dialect binds).text = text.toList
  | .raw sql, rendered => by
      simp only [Condition.render, Except.ok.injEq] at rendered
      simp [Condition.template, rendered]
  | .group connective members, rendered => by
      simp only [Condition.render, bind_eq_ok, Except.ok.injEq] at rendered
      obtain ⟨texts, each, rfl⟩ := rendered
      rw [Condition.template]
      apply Template.text_joinMembers
      exact Template.map_text_filter (Condition.text_templates binds members each)
  | .leaf column operator operand, rendered => by
      simp only [Condition.render, bind_eq_ok, Except.ok.injEq] at rendered
      obtain ⟨left, named, right, compared, rfl⟩ := rendered
      have written := Operand.text_template binds operand compared
      simp [Condition.template, text_columnTemplate named, written]

theorem Condition.text_templates {dialect : Dialect} (binds : Binds) {texts : List String} :
    (members : List Condition) → Condition.renderAll dialect members = .ok texts →
      (Condition.templates dialect binds members).map Template.text = texts.map String.toList
  | [], rendered => by
      simp only [Condition.renderAll, Except.ok.injEq] at rendered
      simp [Condition.templates, ← rendered]
  | member :: rest, rendered => by
      simp only [Condition.renderAll, bind_eq_ok, Except.ok.injEq] at rendered
      obtain ⟨text, first, others, remaining, rfl⟩ := rendered
      rw [Condition.templates, List.map_cons, List.map_cons,
        Condition.text_template binds member first, Condition.text_templates binds rest remaining]

theorem Operand.text_template {dialect : Dialect} (binds : Binds) {column text : String}
    {operator : Operator} : (operand : Operand) →
      operand.render dialect column operator = .ok text →
        (operand.template dialect binds operator).text = text.toList
  | .none, rendered => by
      simp only [Operand.render, Except.ok.injEq] at rendered
      simp [Operand.template, rendered]
  | .value expr, rendered => by
      by_cases absent : expr = .scalar .null
      · subst absent
        simp only [Operand.render] at rendered
        split at rendered
        · next test tested =>
          simp only [Except.ok.injEq] at rendered
          simp [Operand.template, tested, rendered]
        · simp at rendered
      · rw [Operand.render_value absent, Except.ok.injEq] at rendered
        simp [Operand.template_value absent, Expr.text_template, ← rendered]
  | .list [], rendered => by simp [Operand.render] at rendered
  | .list (expr :: exprs), rendered => by
      simp only [Operand.render, Except.ok.injEq] at rendered
      have listed : (Template.commaList ((expr :: exprs).map (Expr.template dialect binds))).text =
          (commaList ((expr :: exprs).map (Expr.render dialect))).toList := by
        apply Template.text_commaList
        simp [Expr.text_template]
      simp only [Operand.template, Template.text_append, listed, Template.text_ofText, ← rendered,
        String.toList_append]
  | .column other, rendered => by
      simp only [Operand.render, bind_eq_ok, Except.ok.injEq] at rendered
      obtain ⟨right, named, rfl⟩ := rendered
      simp [Operand.template, text_columnTemplate named]
  | .subquery select, rendered => by
      simp only [Operand.render] at rendered
      split at rendered
      · simp at rendered
      · simp only [bind_eq_ok, Except.ok.injEq] at rendered
        obtain ⟨inner, selected, rfl⟩ := rendered
        simp [Operand.template, Select.text_template select selected]
  | .nested condition, rendered => by
      simp only [Operand.render, bind_eq_ok, Except.ok.injEq] at rendered
      obtain ⟨inner, nested, rfl⟩ := rendered
      simp [Operand.template, Condition.text_template binds condition nested]

theorem Join.text_template {dialect : Dialect} (binds : Binds) {text : String} :
    (join : Join) → join.render dialect = .ok text →
      (join.template dialect binds).text = text.toList
  | ⟨kind, source, condition⟩, rendered => by
      simp only [Join.render, bind_eq_ok, Except.ok.injEq] at rendered
      obtain ⟨inner, joined, rfl⟩ := rendered
      have written := Condition.text_template binds condition joined
      simp [Join.template, Template.text_enclosed written, onClause]

theorem Join.text_templates {dialect : Dialect} (binds : Binds) {text : String} :
    (joins : List Join) → Join.renderAll dialect joins = .ok text →
      (Join.templates dialect binds joins).text = text.toList
  | [], rendered => by
      simp only [Join.renderAll, Except.ok.injEq] at rendered
      simp [Join.templates, ← rendered]
  | join :: rest, rendered => by
      simp only [Join.renderAll, bind_eq_ok, Except.ok.injEq] at rendered
      obtain ⟨first, joined, others, remaining, rfl⟩ := rendered
      simp [Join.templates, Join.text_template binds join joined,
        Join.text_templates binds rest remaining]

theorem Source.text_template {dialect : Dialect} {text : String} :
    (source : Source) → source.render dialect = .ok text →
      (source.template dialect).text = text.toList
  | .table identifier, rendered => by
      simp only [Source.render, Except.ok.injEq] at rendered
      simp [Source.template, rendered]
  | .subquery select label?, rendered => by
      simp only [Source.render, bind_eq_ok, Except.ok.injEq] at rendered
      obtain ⟨inner, selected, rfl⟩ := rendered
      simp [Source.template, Select.text_template select selected]

theorem Source.text_templates {dialect : Dialect} {texts : List String} :
    (sources : List Source) → Source.renderAll dialect sources = .ok texts →
      (Source.templates dialect sources).map Template.text = texts.map String.toList
  | [], rendered => by
      simp only [Source.renderAll, Except.ok.injEq] at rendered
      simp [Source.templates, ← rendered]
  | source :: rest, rendered => by
      simp only [Source.renderAll, bind_eq_ok, Except.ok.injEq] at rendered
      obtain ⟨text, first, others, remaining, rfl⟩ := rendered
      rw [Source.templates, List.map_cons, List.map_cons,
        Source.text_template source first, Source.text_templates rest remaining]

/-- A rendered selection is its template written down. -/
theorem Select.text_template {text : String} :
    (select : Select) → select.render = .ok text → select.template.text = text.toList
  | ⟨dialect, distinct, opening?, columns, sources, joins, filter, groupBy, having, orderBy,
      limit?, offset?, lock?, binds⟩, rendered => by
      simp only [Select.render] at rendered
      split at rendered
      · simp at rendered
      · simp only [bind_eq_ok, Except.ok.injEq] at rendered
        obtain ⟨_, _, columnTexts, named, sourceTexts, read, joinText, joined, filterText,
          filtered, groupText, grouped, havingText, had, orderText, ordered, lockText, locked,
          rfl⟩ := rendered
        have opened : (if columns.isEmpty then Template.ofText "*"
            else .commaList (columns.map (columnTemplate dialect))).text =
              (if columns.isEmpty then "*" else commaList columnTexts).toList := by
          split
          · simp
          · exact text_columns named
        have sourced := Template.text_commaList (Source.text_templates sources read)
        have filterClause := Template.text_clause "WHERE"
          (Condition.text_template binds filter filtered)
        have havingClause := Template.text_clause "HAVING"
          (Condition.text_template binds having had)
        simp only [Select.template, Template.text_append, Template.text_ofText, opened, sourced,
          Join.text_templates binds joins joined, filterClause, havingClause, text_termTemplate grouped,
          text_termTemplate ordered, locked, shown, String.toList_append, List.append_assoc]

end

end SqlClient
