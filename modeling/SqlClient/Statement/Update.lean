import SqlClient.Statement.Select

/-!
# Updates

Updates of rows. Assignments come from calls, or else from the names of the bound parameters.
-/

namespace SqlClient

/-- An assignment to a column. -/
inductive Assignment where
  /-- A text kept as it is. -/
  | verbatim (column sql : String)
  | param (column : String)
  | value (column : String) (expr : Expr)
  deriving DecidableEq, Repr

namespace Assignment

/-- The assignment written as a column, an equals sign and a text, or as a column alone. -/
def ofText (text : String) : Assignment :=
  match Text.splitOnce? '=' text with
  | some (column, sql) =>
      if Text.isAllBlank column then .param (Text.trim text)
      else .verbatim (Text.trim column) (Text.trim sql)
  | none => .param (Text.trim text)

def column : Assignment → String
  | .verbatim column _ => column
  | .param column => column
  | .value column _ => column

/-- The text of the value. -/
def valueText (dialect : Dialect) : Assignment → String
  | .verbatim _ sql => sql
  | .param column => (Expr.param column).render dialect
  | .value _ expr => expr.render dialect

def render (dialect : Dialect) (assignment : Assignment) : Except StatementError String := do
  let column ← refuse (Identifier.protectedText dialect assignment.column)
  .ok (column ++ " = " ++ assignment.valueText dialect)

end Assignment

/-- An update of rows. -/
structure Update where
  /-- The dialect it is rendered for. -/
  dialect : Dialect
  table? : Option Identifier := none
  /-- The assignments in order. -/
  assignments : List Assignment := []
  joins : List Join := []
  /-- The condition on rows. -/
  filter : Condition := .empty
  orderBy : List String := []
  /-- The greatest number of rows. -/
  limit? : Option Nat := none
  /-- The values bound to its parameters. -/
  binds : Binds := []

/-- Refuses a clause of write statements where the dialect lacks it. -/
def requireWriteClauses (dialect : Dialect) (feature : Feature) : Except StatementError Unit :=
  if dialect.hasWriteClauses then .ok () else .error (.unsupported feature dialect)

namespace Update

def empty (dialect : Dialect) : Update :=
  { dialect }

/-- The table, in place of an earlier one. -/
def setTable (update : Update) (table : String) : Except StatementError Update := do
  .ok { update with table? := some (← protectTable update.dialect table none) }

/-- Further assignments given as texts. -/
def addTexts (update : Update) (texts : List String) : Update :=
  { update with assignments := update.assignments ++ texts.map Assignment.ofText }

/-- A value assigned to a column, in place of its first assignment if there is one. -/
def assignIn (column : String) (expr : Expr) : List Assignment → List Assignment
  | [] => [.value column expr]
  | assignment :: rest =>
      if assignment.column = column then .value column expr :: rest
      else assignment :: assignIn column expr rest

def assign (update : Update) (column : String) (expr : Expr) : Update :=
  { update with assignments := assignIn column expr update.assignments }

/-- Values assigned to columns in order. -/
def assignAll (update : Update) (pairs : List (String × Expr)) : Update :=
  pairs.foldl (fun update pair => update.assign pair.1 pair.2) update

def addJoin (update : Update) (kind : JoinKind) (table : String) (condition : Condition) :
    Except StatementError Update := do
  requireWriteClauses update.dialect (.writeJoin .update)
  let join ← Join.ofTable update.dialect kind table condition
  .ok { update with joins := update.joins ++ [join] }

def addFilter (update : Update) (connective : Connective) (condition : Condition) : Update :=
  { update with filter := update.filter.push connective condition }

/-- The ordering terms, in place of earlier ones. -/
def setOrderBy (update : Update) (lists : List String) : Except StatementError Update := do
  requireWriteClauses update.dialect (.writeOrder .update)
  .ok { update with orderBy := splitTerms lists }

/-- The greatest number of rows; zero stands for no limit. -/
def setLimit (update : Update) (limit : Nat) : Except StatementError Update := do
  requireWriteClauses update.dialect (.writeLimit .update)
  .ok { update with limit? := if limit = 0 then none else some limit }

def bind (update : Update) (name : String) (value : Scalar) : Except StatementError Update := do
  .ok { update with binds := ← refuse (update.binds.bind name value) }

/-- All bindings of the tree. -/
def mergedBinds (update : Update) : Except InvalidInput Binds :=
  statementBinds update.binds update.joins [update.filter]

/-- The assignments, or those of the bound parameters where there are none. -/
def effectiveAssignments (update : Update) : Except StatementError (List Assignment) :=
  if !update.assignments.isEmpty then .ok update.assignments
  else if update.binds.isEmpty then .error (.missing .assignments)
  else .ok (update.binds.map fun bind => .param bind.1)

def render (update : Update) : Except StatementError String :=
  match update.table? with
  | none => .error (.missing .table)
  | some table => do
      let _ ← refuse update.mergedBinds
      let assignments ← update.effectiveAssignments
      let joins ← Join.renderAll update.dialect update.joins
      let texts ← assignments.mapM (Assignment.render update.dialect)
      let filter ← update.filter.render update.dialect
      let order ← termClause update.dialect "ORDER BY" update.orderBy
      .ok ("UPDATE " ++ table.render update.dialect ++ joins ++ " SET " ++ commaList texts ++
        clause "WHERE" filter ++ order ++ limitClause update.limit?)

def params (update : Update) : Params :=
  paramsOf update.binds update.mergedBinds

end Update

end SqlClient
