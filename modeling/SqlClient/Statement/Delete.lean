import SqlClient.Statement.Update

/-!
# Deletions

Deletions of rows. An unscoped deletion empties its tables by a statement of its own where that is
asked for and the dialect has one.
-/

namespace SqlClient

/-- A deletion of rows. -/
structure Delete where
  /-- The dialect it is rendered for. -/
  dialect : Dialect
  tables : List Identifier := []
  /-- Whole tables are emptied where possible. -/
  truncates : Bool := false
  joins : List Join := []
  /-- The condition on rows. -/
  filter : Condition := .empty
  orderBy : List String := []
  /-- The greatest number of rows. -/
  limit? : Option Nat := none
  /-- The values bound to its parameters. -/
  binds : Binds := []

namespace Delete

def empty (dialect : Dialect) : Delete :=
  { dialect }

/-- A further table, with an optional alias. -/
def addTable (delete : Delete) (table : String) (label? : Option String) :
    Except StatementError Delete := do
  let identifier ← protectTable delete.dialect table label?
  .ok { delete with tables := delete.tables ++ [identifier] }

/-- Whole tables are emptied where possible, or not. -/
def setTruncates (delete : Delete) (truncates : Bool) : Delete :=
  { delete with truncates }

def addJoin (delete : Delete) (kind : JoinKind) (table : String) (condition : Condition) :
    Except StatementError Delete := do
  requireWriteClauses delete.dialect (.writeJoin .delete)
  let join ← Join.ofTable delete.dialect kind table condition
  .ok { delete with joins := delete.joins ++ [join] }

/-- A condition joined to the condition on rows. -/
def addFilter (delete : Delete) (connective : Connective) (condition : Condition) : Delete :=
  { delete with filter := delete.filter.push connective condition }

/-- The ordering terms, in place of earlier ones. -/
def setOrderBy (delete : Delete) (lists : List String) : Except StatementError Delete := do
  requireWriteClauses delete.dialect (.writeOrder .delete)
  .ok { delete with orderBy := splitTerms lists }

/-- The greatest number of rows; zero stands for no limit. -/
def setLimit (delete : Delete) (limit : Nat) : Except StatementError Delete := do
  requireWriteClauses delete.dialect (.writeLimit .delete)
  .ok { delete with limit? := if limit = 0 then none else some limit }

def bind (delete : Delete) (name : String) (value : Scalar) : Except StatementError Delete := do
  .ok { delete with binds := ← refuse (delete.binds.bind name value) }

/-- All bindings of the tree. -/
def mergedBinds (delete : Delete) : Except InvalidInput Binds :=
  statementBinds delete.binds delete.joins [delete.filter]

/-- No clause keeps rows from being deleted. -/
def isUnscoped (delete : Delete) : Bool :=
  delete.filter.isEmpty && delete.orderBy.isEmpty && delete.joins.isEmpty &&
    delete.limit?.isNone

/-- The tables are emptied by a statement of its own. -/
def isTruncation (delete : Delete) : Bool :=
  delete.truncates && delete.isUnscoped && delete.dialect.hasTruncate &&
    (delete.tables.length ≤ 1 || delete.dialect.truncatesMany)

/-- The statement that empties the tables; it takes no aliases. -/
def truncationText (delete : Delete) : String :=
  let tables := commaList (delete.tables.map (Identifier.renderName delete.dialect))
  match delete.dialect with
  | .postgres => "TRUNCATE " ++ tables ++ " RESTART IDENTITY"
  | .mysql => "TRUNCATE " ++ tables
  | .sqlite => "TRUNCATE " ++ tables

/-- The name by which a joined deletion tells whose rows to delete. -/
def targetText (dialect : Dialect) (table : Identifier) : String :=
  match table.alias? with
  | some label => dialect.quoteName label
  | none => table.renderName dialect

/-- The opening words with the tables. -/
def opening (delete : Delete) : String :=
  let sources := commaList (delete.tables.map (Identifier.render delete.dialect))
  if delete.joins.isEmpty then "DELETE FROM " ++ sources
  else
    "DELETE " ++ commaList (delete.tables.map (targetText delete.dialect)) ++ " FROM " ++ sources

def render (delete : Delete) : Except StatementError String :=
  if delete.tables.isEmpty then .error (.missing .deleteSource)
  else do
    let _ ← refuse delete.mergedBinds
    if delete.isTruncation then .ok delete.truncationText
    else
      let joins ← Join.renderAll delete.dialect delete.joins
      let filter ← delete.filter.render delete.dialect
      let order ← termClause delete.dialect "ORDER BY" delete.orderBy
      .ok (delete.opening ++ joins ++ clause "WHERE" filter ++ order ++
        limitClause delete.limit?)

def params (delete : Delete) : Params :=
  paramsOf delete.binds delete.mergedBinds

end Delete

end SqlClient
