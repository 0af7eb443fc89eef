import SqlClient.Identifier.Protect
import SqlClient.Statement.Tree

/-!
# Rendered trees

The text of conditions and selections, and the clauses that all kinds of statements share. Names are
protected and scalars escaped here and only here.
-/

namespace SqlClient

/-- A refused input as an error of a statement. -/
def refuse {α : Type} (result : Except InvalidInput α) : Except StatementError α :=
  result.mapError .invalid

/-- Texts with a comma and a blank between them. -/
def commaList (texts : List String) : String :=
  ", ".intercalate texts

/-- The protected texts of columns. -/
def protectAll (dialect : Dialect) (columns : List String) :
    Except StatementError (List String) :=
  columns.mapM fun column => refuse (Identifier.protectedText dialect column)

/-- A clause of a keyword and a text, unless the text is empty. -/
def clause (keyword text : String) : String :=
  if text = "" then "" else " " ++ keyword ++ " " ++ text

/-- A clause of ordering or grouping terms, unless there are none. -/
def termClause (dialect : Dialect) (keyword : String) (terms : List String) :
    Except StatementError String := do
  let texts ← terms.mapM fun term => refuse (Identifier.protectOrdering dialect term)
  .ok (clause keyword (commaList texts))

def limitClause : Option Nat → String
  | none => ""
  | some limit => " LIMIT " ++ toString limit

/-- The clause of a window of rows; an offset needs a limit. -/
def windowClause (limit? offset? : Option Nat) : String :=
  match limit?, offset? with
  | some limit, some offset => limitClause (some limit) ++ " OFFSET " ++ toString offset
  | limit?, _ => limitClause limit?

def lockClause (dialect : Dialect) : Option Lock → Except StatementError String
  | none => .ok ""
  | some .forUpdate => .ok " FOR UPDATE"
  | some .shared =>
      match dialect.sharedLock? with
      | some text => .ok (" " ++ text)
      | none => .error (.unsupported .sharedLock dialect)

/-- The members of a group in one text: parentheses stand around two and more. -/
def joinMembers (connective : Connective) : List String → String
  | [] => ""
  | [text] => text
  | texts => "(" ++ connective.sql.intercalate texts ++ ")"

/-- The condition of a join after its table, unless it is empty. -/
def onClause (text : String) : String :=
  if text = "" then "" else " ON (" ++ text ++ ")"

mutual

def Condition.render (dialect : Dialect) : Condition → Except StatementError String
  | .raw sql => .ok (Text.trim sql)
  | .group connective members => do
      let texts ← Condition.renderAll dialect members
      .ok (joinMembers connective (texts.filter (· ≠ "")))
  | .leaf column operator operand => do
      let left ← refuse (Identifier.protectedText dialect column)
      let right ← Operand.render dialect column operator operand
      .ok (left ++ " " ++ right)

def Condition.renderAll (dialect : Dialect) :
    List Condition → Except StatementError (List String)
  | [] => .ok []
  | member :: rest => do
      let text ← Condition.render dialect member
      let texts ← Condition.renderAll dialect rest
      .ok (text :: texts)

/-- The operator and the right-hand side of a comparison of a column. A comparison with the absent
value is a test for absence. -/
def Operand.render (dialect : Dialect) (column : String) (operator : Operator) :
    Operand → Except StatementError String
  | .none => .ok operator.sql
  | .value (.scalar .null) =>
      match operator.nullTest? with
      | some test => .ok test.sql
      | none => .error (.nullComparison column operator)
  | .value expr => .ok (operator.sql ++ " " ++ expr.render dialect)
  | .list [] => .error (.invalid (.emptyList column))
  | .list exprs =>
      .ok (operator.sql ++ " (" ++ commaList (exprs.map (Expr.render dialect)) ++ ")")
  | .column other => do
      .ok (operator.sql ++ " " ++ (← refuse (Identifier.protectedText dialect other)))
  | .subquery select => do
      if select.dialect ≠ dialect then .error (.foreign (.subquery select.dialect dialect))
      else .ok (operator.sql ++ " (" ++ (← Select.render select) ++ ")")
  | .nested condition => do
      .ok (operator.sql ++ " (" ++ (← Condition.render dialect condition) ++ ")")

def Join.render (dialect : Dialect) : Join → Except StatementError String
  | ⟨kind, source, condition⟩ => do
      let text ← Condition.render dialect condition
      .ok (" " ++ kind.sql ++ " " ++ source.render dialect ++ onClause text)

def Join.renderAll (dialect : Dialect) : List Join → Except StatementError String
  | [] => .ok ""
  | join :: rest => do
      .ok ((← Join.render dialect join) ++ (← Join.renderAll dialect rest))

def Source.render (dialect : Dialect) : Source → Except StatementError String
  | .table identifier => .ok (identifier.render dialect)
  | .subquery select label? => do
      .ok ("(" ++ (← Select.render select) ++ ")" ++ Identifier.renderAlias dialect label?)

def Source.renderAll (dialect : Dialect) : List Source → Except StatementError (List String)
  | [] => .ok []
  | source :: rest => do
      let text ← Source.render dialect source
      let texts ← Source.renderAll dialect rest
      .ok (text :: texts)

/-- The text of a selection. The bindings of the whole tree have to agree. -/
def Select.render : Select → Except StatementError String
  | ⟨dialect, distinct, opening?, columns, sources, joins, filter, groupBy, having, orderBy,
      limit?, offset?, lock?, binds⟩ => do
      if sources.isEmpty then .error (.missing .selectSource)
      else
        let _ ← refuse (Select.mergeBinds
          ⟨dialect, distinct, opening?, columns, sources, joins, filter, groupBy, having, orderBy,
            limit?, offset?, lock?, binds⟩ [])
        let opening := (opening?.map fun text => Text.trim text ++ " ").getD ""
        let columnTexts ← protectAll dialect columns
        let sourceTexts ← Source.renderAll dialect sources
        let joinText ← Join.renderAll dialect joins
        let filterText ← Condition.render dialect filter
        let groupText ← termClause dialect "GROUP BY" groupBy
        let havingText ← Condition.render dialect having
        let orderText ← termClause dialect "ORDER BY" orderBy
        let lockText ← lockClause dialect lock?
        .ok ("SELECT " ++ (if distinct then "DISTINCT " else "") ++ opening ++
          (if columns.isEmpty then "*" else commaList columnTexts) ++
          " FROM " ++ commaList sourceTexts ++ joinText ++ clause "WHERE" filterText ++
          groupText ++ clause "HAVING" havingText ++ orderText ++
          windowClause limit? offset? ++ lockText)

end

end SqlClient
