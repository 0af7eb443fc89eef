import SqlClient.Statement.Render

/-!
# Selections

The calls that build a selection, and what a selection tells about itself. A refused call gives an
error and leaves the selection to the caller as it was.
-/

namespace SqlClient

/-- The trimmed terms of comma-separated lists, blank terms left out. A list that holds an opening
parenthesis is one expression. -/
def splitTerms (lists : List String) : List String :=
  (lists.flatMap fun list =>
    ((if Identifier.isExpression list then [list] else Text.splitOn ',' list).map
      Text.trim).filter (· ≠ ""))

/-- The reference of a table, which has to be a plain name. -/
def protectTable (dialect : Dialect) (table : String) (label? : Option String) :
    Except StatementError Identifier :=
  refuse (Identifier.protect dialect table label? true)

def Join.ofTable (dialect : Dialect) (kind : JoinKind) (table : String) (condition : Condition) :
    Except StatementError Join := do
  .ok ⟨kind, ← protectTable dialect table none, condition⟩

/-- The bindings of a statement with those of its joins and conditions. -/
def statementBinds (own : Binds) (joins : List Join) (conditions : List Condition) :
    Except InvalidInput Binds := do
  Condition.mergeAll conditions (← Join.mergeAll joins own)

/-- The parameters of a statement: all its bindings, or its own while the others conflict. -/
def paramsOf (own : Binds) (merged : Except InvalidInput Binds) : Params :=
  match merged with
  | .ok binds => .ofNamed binds
  | .error _ => .ofNamed own

namespace Select

def empty (dialect : Dialect) : Select :=
  { dialect, distinct := false, opening? := none, columns := [], sources := [], joins := [],
    filter := .empty, groupBy := [], having := .empty, orderBy := [], limit? := none,
    offset? := none, lock? := none, binds := [] }

/-- Equal rows once, or all rows. -/
def setDistinct (select : Select) (distinct : Bool) : Select :=
  { select with distinct }

/-- Text right after the opening keyword; blank text is none. -/
def setOpening (select : Select) (text : String) : Select :=
  { select with opening? := if Text.isAllBlank text then none else some text }

/-- The selected columns, in place of earlier ones. -/
def setColumns (select : Select) (lists : List String) : Select :=
  { select with columns := splitTerms lists }

/-- A further table to select from, with an optional alias. -/
def addTable (select : Select) (table : String) (label? : Option String) :
    Except StatementError Select := do
  let identifier ← protectTable select.dialect table label?
  .ok { select with sources := select.sources ++ [.table identifier] }

/-- A further selection to select from, under a name unless that is blank. -/
def addSelect (select inner : Select) (label? : Option String) : Except StatementError Select :=
  if inner.dialect ≠ select.dialect then
    .error (.foreign (.subquery inner.dialect select.dialect))
  else
    .ok { select with
      sources := select.sources ++ [.subquery inner (label?.filter (!Text.isAllBlank ·))] }

def addJoin (select : Select) (kind : JoinKind) (table : String) (condition : Condition) :
    Except StatementError Select := do
  let join ← Join.ofTable select.dialect kind table condition
  .ok { select with joins := select.joins ++ [join] }

def addFilter (select : Select) (connective : Connective) (condition : Condition) : Select :=
  { select with filter := select.filter.push connective condition }

/-- The grouping terms, in place of earlier ones. -/
def setGroupBy (select : Select) (lists : List String) : Select :=
  { select with groupBy := splitTerms lists }

/-- A condition that groups have to meet as well. -/
def addHaving (select : Select) (condition : Condition) : Select :=
  { select with having := select.having.push .and condition }

/-- The ordering terms, in place of earlier ones. -/
def setOrderBy (select : Select) (lists : List String) : Select :=
  { select with orderBy := splitTerms lists }

def clearOrderBy (select : Select) : Select :=
  { select with orderBy := [] }

/-- The window of rows; zero stands for no limit and for no offset. -/
def setLimit (select : Select) (limit offset : Nat) : Select :=
  { select with
    limit? := if limit = 0 then none else some limit
    offset? := if offset = 0 then none else some offset }

/-- All rows. -/
def clearLimit (select : Select) : Select :=
  { select with limit? := none, offset? := none }

/-- A lock against all others, or no lock. -/
def setForUpdate (select : Select) (locked : Bool) : Select :=
  { select with lock? := if locked then some .forUpdate else none }

/-- A shared lock, or no shared lock. -/
def setSharedLock (select : Select) (locked : Bool) : Except StatementError Select :=
  if locked then
    if select.dialect.sharedLock?.isNone then .error (.unsupported .sharedLock select.dialect)
    else .ok { select with lock? := some .shared }
  else if select.lock? = some .shared then .ok { select with lock? := none }
  else .ok select

def bind (select : Select) (name : String) (value : Scalar) : Except StatementError Select := do
  .ok { select with binds := ← refuse (select.binds.bind name value) }

def params (select : Select) : Params :=
  paramsOf select.binds (select.mergeBinds [])

end Select

end SqlClient
