import SqlClient.Identifier.Basic
import SqlClient.Statement.Binds

/-!
# Statement trees

Conditions and selections, which nest in one another: a condition may compare with a selection, and
a selection reads from sources, joins and conditions.
-/

namespace SqlClient

/-- The flavour of a join. -/
inductive JoinKind where
  | inner
  | left
  | right
  | plain
  deriving DecidableEq, Repr

def JoinKind.sql : JoinKind → String
  | .inner => "INNER JOIN"
  | .left => "LEFT JOIN"
  | .right => "RIGHT JOIN"
  | .plain => "JOIN"

/-- The lock taken on selected rows. -/
inductive Lock where
  /-- Against readers that lock and writers. -/
  | forUpdate
  /-- Against writers. -/
  | shared
  deriving DecidableEq, Repr

mutual

/-- The right-hand side of a comparison. -/
inductive Operand where
  /-- Nothing, for tests of absence. -/
  | none
  /-- One value. -/
  | value (expr : Expr)
  /-- A list of values. -/
  | list (exprs : List Expr)
  /-- A column, written like the left-hand side. -/
  | column (name : String)
  /-- The rows of a selection. -/
  | subquery (select : Select)
  /-- A condition. -/
  | nested (condition : Condition)

/-- A condition on rows. -/
inductive Condition where
  /-- A comparison of a column. -/
  | leaf (column : String) (operator : Operator) (operand : Operand)
  /-- Conditions joined by a connective. -/
  | group (connective : Connective) (members : List Condition)
  /-- Text rendered as it is. -/
  | raw (sql : String)

/-- What rows are selected from. -/
inductive Source where
  | table (identifier : Identifier)
  /-- The rows of a selection under an optional name. -/
  | subquery (select : Select) (label? : Option String)

/-- A joined table. -/
structure Join where
  /-- The flavour of the join. -/
  kind : JoinKind
  source : Identifier
  condition : Condition

/-- A selection of rows. -/
structure Select where
  /-- The dialect it is rendered for. -/
  dialect : Dialect
  /-- Equal rows are returned once. -/
  distinct : Bool
  /-- Text right after the opening keyword. -/
  opening? : Option String
  /-- The selected columns; none stands for all. -/
  columns : List String
  sources : List Source
  joins : List Join
  /-- The condition on rows. -/
  filter : Condition
  groupBy : List String
  /-- The condition on groups. -/
  having : Condition
  orderBy : List String
  /-- The greatest number of rows. -/
  limit? : Option Nat
  /-- The number of rows left out first. -/
  offset? : Option Nat
  /-- The lock taken on the rows. -/
  lock? : Option Lock
  /-- The values bound to its parameters. -/
  binds : Binds

end

mutual

/-- A condition that renders to nothing. -/
def Condition.isEmpty : Condition → Bool
  | .leaf _ _ _ => false
  | .group _ members => Condition.allEmpty members
  | .raw sql => Text.isAllBlank sql

/-- Conditions that all render to nothing. -/
def Condition.allEmpty : List Condition → Bool
  | [] => true
  | member :: rest => member.isEmpty && Condition.allEmpty rest

end

namespace Condition

/-- The condition without members. -/
def empty : Condition :=
  .group .and []

/-- A condition joined to another. Empty conditions leave no trace, and a group of the same
connective takes the new member itself. -/
def push (condition : Condition) (connective : Connective) (other : Condition) : Condition :=
  if other.isEmpty then condition
  else if condition.isEmpty then other
  else
    match condition with
    | .group current members =>
        if current = connective then .group current (members ++ [other])
        else .group connective [condition, other]
    | _ => .group connective [condition, other]

def and (condition other : Condition) : Condition :=
  condition.push .and other

def or (condition other : Condition) : Condition :=
  condition.push .or other

/-- A column compared with one value. -/
def compare (column : String) (operator : Operator) (expr : Expr) : Condition :=
  .leaf column operator (.value expr)

def eq (column : String) (expr : Expr) : Condition :=
  compare column .eq expr

/-- A column among scalars. -/
def isIn (column : String) (values : List Scalar) : Condition :=
  .leaf column .isIn (.list (values.map .scalar))

/-- A column outside scalars. -/
def notIn (column : String) (values : List Scalar) : Condition :=
  .leaf column .notIn (.list (values.map .scalar))

/-- A column among the rows of a selection. -/
def inSelect (column : String) (select : Select) : Condition :=
  .leaf column .isIn (.subquery select)

def isNull (column : String) : Condition :=
  .leaf column .isNull .none

def isNotNull (column : String) : Condition :=
  .leaf column .isNotNull .none

def columnsEq (left right : String) : Condition :=
  .leaf left .eq (.column right)

end Condition

/-! ## Bindings of a tree -/

mutual

/-- Bindings joined with those of the selections inside a condition. -/
def Condition.mergeBinds : Condition → Binds → Except InvalidInput Binds
  | .raw _, binds => .ok binds
  | .group _ members, binds => Condition.mergeAll members binds
  | .leaf _ _ operand, binds => Operand.mergeBinds operand binds

/-- Bindings joined with those of several conditions in order. -/
def Condition.mergeAll : List Condition → Binds → Except InvalidInput Binds
  | [], binds => .ok binds
  | member :: rest, binds => do Condition.mergeAll rest (← Condition.mergeBinds member binds)

/-- Bindings joined with those of the selections inside an operand. -/
def Operand.mergeBinds : Operand → Binds → Except InvalidInput Binds
  | .subquery select, binds => Select.mergeBinds select binds
  | .nested condition, binds => Condition.mergeBinds condition binds
  | .none, binds => .ok binds
  | .value _, binds => .ok binds
  | .list _, binds => .ok binds
  | .column _, binds => .ok binds

/-- Bindings joined with those of the selections read from. -/
def Source.mergeAll : List Source → Binds → Except InvalidInput Binds
  | [], binds => .ok binds
  | source :: rest, binds => do Source.mergeAll rest (← Source.mergeBinds source binds)

/-- Bindings joined with those of a selection read from. -/
def Source.mergeBinds : Source → Binds → Except InvalidInput Binds
  | .table _, binds => .ok binds
  | .subquery select _, binds => Select.mergeBinds select binds

/-- Bindings joined with those of the conditions of joins. -/
def Join.mergeAll : List Join → Binds → Except InvalidInput Binds
  | [], binds => .ok binds
  | join :: rest, binds => do Join.mergeAll rest (← Join.mergeBinds join binds)

/-- Bindings joined with those of the condition of a join. -/
def Join.mergeBinds : Join → Binds → Except InvalidInput Binds
  | ⟨_, _, condition⟩, binds => Condition.mergeBinds condition binds

/-- Bindings joined with all bindings of a selection: its own first, then those of its joins, its
conditions and its sources. -/
def Select.mergeBinds : Select → Binds → Except InvalidInput Binds
  | ⟨_, _, _, _, sources, joins, filter, _, having, _, _, _, _, own⟩, binds => do
      let own ← Join.mergeAll joins own
      let own ← Condition.mergeBinds filter own
      let own ← Condition.mergeBinds having own
      let own ← Source.mergeAll sources own
      binds.merge own

end

end SqlClient
