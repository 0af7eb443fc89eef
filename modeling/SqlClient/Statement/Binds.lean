import SqlClient.Scalar
import SqlClient.Statement.Error
import SqlClient.Text.Split

/-!
# Bound parameters

Values bound to the named parameters of a statement, in the order in which the names were first
bound, with one value a name.
-/

namespace SqlClient

/-- Named values in the order of their binding. -/
abbrev Binds := List (String × Scalar)

namespace Binds

/-- The value bound to a name. -/
def find? : Binds → String → Option Scalar
  | [], _ => none
  | (name, value) :: rest, wanted => if name = wanted then some value else find? rest wanted

/-- A value put in the place of the name's earlier value, or at the end. -/
def assign : Binds → String → Scalar → Binds
  | [], name, value => [(name, value)]
  | (head, old) :: rest, name, value =>
      if head = name then (head, value) :: rest else (head, old) :: assign rest name value

/-- A value bound to a name, which may be written with leading colons. -/
def bind (binds : Binds) (written : String) (value : Scalar) : Except InvalidInput Binds :=
  let name := Text.dropLeading ':' written
  if name = "" then .error .emptyParameter else .ok (binds.assign name value)

/-- Bindings joined with those of a nested statement. A name bound on both sides keeps the first
value, with which the second must agree. -/
def merge : Binds → Binds → Except InvalidInput Binds
  | binds, [] => .ok binds
  | binds, (name, value) :: rest =>
      match binds.find? name with
      | none => merge (binds ++ [(name, value)]) rest
      | some bound =>
          if bound.agrees value then merge binds rest else .error (.conflictingParameter name)

end Binds

/-- The values that a statement is run with. -/
inductive Params where
  | none
  | positional (values : List Scalar)
  | named (pairs : List (String × Scalar))
  deriving DecidableEq, Repr

namespace Params

def size : Params → Nat
  | .none => 0
  | .positional values => values.length
  | .named pairs => pairs.length

def isEmpty (params : Params) : Bool :=
  params.size == 0

/-- Named values, if there are any. -/
def ofNamed (pairs : List (String × Scalar)) : Params :=
  if pairs.isEmpty then .none else .named pairs

end Params

end SqlClient
