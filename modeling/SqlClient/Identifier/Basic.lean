import SqlClient.Statement.Error

/-!
# Identifiers

References to tables and columns. A reference is a dotted path of names or an expression kept as
it is, with an optional alias. A path has at least one name, no name is empty and neither is an
alias; these rules are part of the types.
-/

namespace SqlClient

/-- A dotted path of names, the outermost first. -/
structure Path where
  /-- The names without quotes. -/
  parts : List String
  parts_ne : parts ≠ []
  part_ne : ∀ part ∈ parts, part ≠ ""
  deriving DecidableEq

namespace Path

/-- The path of the given names. -/
def ofParts (parts : List String) : Except InvalidInput Path :=
  if given : parts ≠ [] ∧ ∀ part ∈ parts, part ≠ "" then .ok ⟨parts, given.1, given.2⟩
  else .error .emptyParts

/-- The quoted names with points between them. -/
def render (dialect : Dialect) (path : Path) : String :=
  dialect.quotePath path.parts

end Path

/-- What a reference names. -/
inductive Name where
  /-- A path of names, quoted when rendered. -/
  | path (path : Path)
  /-- An expression, rendered as it is. -/
  | raw (sql : String)
  deriving DecidableEq

/-- A reference to a table, a column or an expression. -/
structure Identifier where
  /-- What is named. -/
  name : Name
  /-- The alias without quotes. -/
  alias? : Option String := none
  alias_ne : alias? ≠ some "" := by simp
  deriving DecidableEq

namespace Identifier

/-- The reference of the given names. -/
def ofParts (parts : List String) : Except InvalidInput Identifier :=
  (Path.ofParts parts).map fun path => { name := .path path }

/-- The reference to an expression. -/
def raw (sql : String) : Identifier :=
  { name := .raw sql }

/-- The same reference under an alias; an empty alias is none. -/
def withAlias (identifier : Identifier) (label : String) : Identifier :=
  if given : label = "" then { name := identifier.name }
  else { name := identifier.name, alias? := some label, alias_ne := by simpa using given }

/-- The names of a path; an expression counts as one name. -/
def parts (identifier : Identifier) : List String :=
  match identifier.name with
  | .path path => path.parts
  | .raw sql => [sql]

def isRaw (identifier : Identifier) : Bool :=
  match identifier.name with
  | .path _ => false
  | .raw _ => true

/-- The innermost name: the column of a column reference. -/
def lastPart (identifier : Identifier) : String :=
  identifier.parts.getLastD ""

/-- The name before the innermost one. -/
def qualifier? (identifier : Identifier) : Option String :=
  identifier.parts.reverse[1]?

/-- The name two before the innermost one. -/
def schema? (identifier : Identifier) : Option String :=
  identifier.parts.reverse[2]?

/-- The text of a reference without its alias. -/
def renderName (dialect : Dialect) (identifier : Identifier) : String :=
  match identifier.name with
  | .path path => path.render dialect
  | .raw sql => sql

def renderAlias (dialect : Dialect) : Option String → String
  | none => ""
  | some label => " AS " ++ dialect.quoteName label

/-- The text of a reference. -/
def render (dialect : Dialect) (identifier : Identifier) : String :=
  identifier.renderName dialect ++ renderAlias dialect identifier.alias?

end Identifier

end SqlClient
