import SqlClient.Cursor.Basic

/-!
# Fetches

Rows read through a cursor into values of other types, one column of a row, and rows grouped under
the values of some of their columns.
-/

namespace SqlClient

/-- Types whose values are made of rows. -/
class FromRow (α : Type) where
  /-- The value of a row, or the error of a row without it. -/
  fromRow : Row → Except SessionError α

export FromRow (fromRow)

instance : FromRow Row := ⟨.ok⟩
instance : FromRow (Dictionary Scalar) := ⟨fun row => .ok row.toDictionary⟩

/-- A column picked from a row. -/
inductive ColumnRef where
  | index (position : Nat)
  | name (text : String)
  deriving DecidableEq, Repr

namespace ColumnRef

/-- The text of a column in messages. -/
def text : ColumnRef → String
  | .index position => "#" ++ toString position
  | .name text => text

/-- The value of the column, if the row has it. -/
def pick? (column : ColumnRef) (row : Row) : Option Scalar :=
  match column with
  | .index position => row.get? position
  | .name text => row.find? text

/-- The value of the column. -/
def pick (column : ColumnRef) (row : Row) : Except SessionError Scalar :=
  match column.pick? row with
  | some value => .ok value
  | none => .error (.unknownColumn column.text)

end ColumnRef

/-- How rows are grouped. -/
structure Grouping where
  /-- The columns whose values are the keys, one level for each. -/
  columns : List String
  /-- The column kept in place of the whole row. -/
  valueColumn? : Option String
  /-- Each key begins with its column. -/
  labelled : Bool
  deriving DecidableEq, Repr

/-- What is left under a key of a grouped result. -/
inductive Grouped where
  | row (row : Row)
  | value (value : Scalar)
  /-- Entries under the keys of the next column. -/
  | nested (entries : List (String × Grouped))

namespace Grouped

/-- The entries under a key; a key without further levels has none. -/
def entriesAt (entries : Dictionary Grouped) (key : String) : Dictionary Grouped :=
  match entries.find? key with
  | some (.nested inner) => inner
  | _ => []

/-- Entries with a leaf at the end of a path of keys. What stood there before is replaced. -/
def insertPath (leaf : Grouped) : List String → Dictionary Grouped → Dictionary Grouped
  | [], entries => entries
  | [key], entries => entries.insert key leaf
  | key :: next :: path, entries =>
      entries.insert key (.nested (insertPath leaf (next :: path) (entriesAt entries key)))

end Grouped

namespace Grouping

/-- The grouping by one column that keeps whole rows. -/
def byColumn (column : String) : Grouping :=
  ⟨[column], none, false⟩

/-- The key of a row for a column. -/
def key (grouping : Grouping) (row : Row) (column : String) : Except SessionError String := do
  let value ← (ColumnRef.name column).pick row
  .ok (if grouping.labelled then column ++ "_" ++ value.key else value.key)

/-- What is kept of a row. -/
def leaf (grouping : Grouping) (row : Row) : Except SessionError Grouped :=
  match grouping.valueColumn? with
  | some column => ((ColumnRef.name column).pick row).map .value
  | none => .ok (.row row)

/-- The path of a row and what is kept of it. -/
def place (grouping : Grouping) (row : Row) : Except SessionError (List String × Grouped) := do
  let path ← grouping.columns.mapM (grouping.key row)
  let leaf ← grouping.leaf row
  .ok (path, leaf)

end Grouping

/-- What a fetch asks for. -/
inductive FetchRequest where
  /-- The next row. -/
  | single
  /-- All rows from the position on. -/
  | all
  /-- All rows from the position on, grouped; of rows of one path the last counts. -/
  | keyed (grouping : Grouping)
  /-- One column of the next row. -/
  | column (column : ColumnRef)
  deriving DecidableEq, Repr

/-- The answer to a request. -/
inductive Fetched where
  | row (row? : Option Row)
  | rows (rows : List Row)
  /-- The rows asked for under their keys. -/
  | keyed (entries : Dictionary Grouped)
  /-- The value asked for, if there is a row. -/
  | value (value? : Option Scalar)

namespace Cursor

variable {σ : Type}

/-- The next row made into a value. -/
def fetchInto (server : Server σ) (α : Type) [FromRow α] : Action σ (Option α) := do
  match ← next server with
  | some row => return some (← ExceptT.mk (pure (fromRow row)))
  | none => return none

/-- The rows from the position on made into values. All rows are read before the first is made
into one. -/
def fetchAllInto (server : Server σ) (α : Type) [FromRow α] : Action σ (List α) := do
  ExceptT.mk (pure ((← fetchAll server).mapM fromRow))

/-- The rows from the position on under their keys. -/
def fetchKeyed (server : Server σ) (grouping : Grouping) : Action σ (Dictionary Grouped) := do
  if grouping.columns.isEmpty then
    throw (.invalidFetch "keyed fetch needs at least one column")
  else
    let places ← collect server grouping.place
    return places.foldl (fun entries place => Grouped.insertPath place.2 place.1 entries) []

/-- The answer to a request. -/
def fetch (server : Server σ) : FetchRequest → Action σ Fetched
  | .single => return .row (← next server)
  | .all => return .rows (← fetchAll server)
  | .keyed grouping => return .keyed (← fetchKeyed server grouping)
  | .column column => do
      match ← next server with
      | some row => return .value (some (← ExceptT.mk (pure (column.pick row))))
      | none => return .value none

end Cursor

end SqlClient
