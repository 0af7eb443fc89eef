import SqlClient.Dictionary
import SqlClient.Scalar

/-!
# Rows and answers

Rows of a result with access by position and by name, and the answer of a server to one statement,
from which rows are taken front to back.
-/

namespace SqlClient

/-- A row: values under the names of their columns. -/
structure Row where
  columns : List String
  /-- The values in the order of the columns. -/
  values : List Scalar
  deriving DecidableEq, Repr

namespace Row

def get? (row : Row) (index : Nat) : Option Scalar :=
  row.values[index]?

/-- The last position of a text in a list. -/
def lastPosition? (wanted : String) : List String → Option Nat
  | [] => none
  | text :: rest =>
      match lastPosition? wanted rest with
      | some position => some (position + 1)
      | none => if text = wanted then some 0 else none

/-- The value of a column; of columns of one name the last counts. -/
def find? (row : Row) (name : String) : Option Scalar :=
  (lastPosition? name row.columns).bind row.get?

/-- The value of a column as an integer. -/
def int? (row : Row) (name : String) : Option Int64 :=
  (row.find? name).bind Scalar.toInt64?

/-- The value of a column that is text. -/
def text? (row : Row) (name : String) : Option String :=
  (row.find? name).bind Scalar.text?

/-- The values under their names. -/
def toDictionary (row : Row) : Dictionary Scalar :=
  .ofPairs (row.columns.zip row.values)

/-- The values under their names as a JSON object. -/
def toJson (row : Row) : Json :=
  .object (row.toDictionary.map fun entry => (entry.1, entry.2.toJson))

end Row

/-- The answer of a server to one statement. -/
structure Answer where
  /-- The names of the columns; a statement without a result has none. -/
  columns : List String
  /-- The rows not taken yet. -/
  rows : List (List Scalar)
  /-- The number of rows returned, or of rows affected by a statement without a result. -/
  rowCount : Nat
  /-- The id that an insertion generated. -/
  insertId? : Option Int64
  deriving DecidableEq, Repr

namespace Answer

def ofRows (columns : List String) (rows : List (List Scalar)) : Answer :=
  ⟨columns, rows, rows.length, none⟩

/-- The answer of a statement without a result. -/
def affected (count : Nat) (insertId? : Option Int64) : Answer :=
  ⟨[], [], count, insertId?⟩

/-- The next row, and the answer without it. -/
def take (answer : Answer) : Option Row × Answer :=
  match answer.rows with
  | [] => (none, answer)
  | values :: rest => (some ⟨answer.columns, values⟩, { answer with rows := rest })

/-- The answer holds a row of a position, taken or not. -/
def hasRow (answer : Answer) (index : Nat) : Bool :=
  !answer.columns.isEmpty && index < answer.rowCount

end Answer

end SqlClient
