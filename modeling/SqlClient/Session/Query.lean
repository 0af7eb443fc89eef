import SqlClient.Cursor.Basic
import SqlClient.Statement.Basic

/-!
# Queries

Texts and built statements run on a session, with a cursor over the answer of each, and the id that
an insertion generated.
-/

namespace SqlClient

namespace Session

variable {σ : Type}

/-- A text run, and a cursor over its answer. -/
def query (server : Server σ) (sql : String) (params : Params) : Action σ Cursor := do
  return .ofAnswer (← run server sql params) sql params

/-- A statement rendered and run, and a cursor over its answer. A statement of another dialect is
refused before it is rendered. -/
def execute (server : Server σ) (statement : Statement) : Action σ Cursor := fun session =>
  if statement.dialect = session.dialect then
    match statement.render with
    | .error error => (.error (.statement error), session)
    | .ok sql => query server sql statement.params session
  else (.error (.statement (.foreign (.statement statement.dialect session.dialect))), session)

/-- A call of a cursor as a call of its session, which has the cursor no longer afterwards. -/
def reading {α : Type} (action : Cursor.Action σ α) (cursor : Cursor) : Action σ α := fun session =>
  match action (cursor, session) with
  | (result, _, session) => (result, session)

/-- The first row of a text. -/
def selectRow (server : Server σ) (sql : String) (params : Params) : Action σ (Option Row) := do
  reading (Cursor.next server) (← query server sql params)

def selectAll (server : Server σ) (sql : String) (params : Params) : Action σ (List Row) := do
  reading (Cursor.fetchAll server) (← query server sql params)

/-- All rows of a statement. -/
def selectStatement (server : Server σ) (statement : Statement) : Action σ (List Row) := do
  reading (Cursor.fetchAll server) (← execute server statement)

/-- The text and the parameters that ask the server for the last generated id, if the session asks:
PostgreSQL knows the sequence of a column, SQLite knows the id itself. -/
def insertIdQuery? (dialect : Dialect) (table? column? : Option String) :
    Option (String × Params) :=
  match dialect, table?, column? with
  | .postgres, some table, some column =>
      some ("SELECT currval(pg_catalog.pg_get_serial_sequence(?, ?))",
        .positional [.text table, .text column])
  | .sqlite, _, _ => some ("SELECT last_insert_rowid()", .none)
  | _, _, _ => none

def lastInsertId (server : Server σ) (table? column? : Option String) :
    Action σ (Option Int64) := do
  let session ← get
  match insertIdQuery? session.dialect table? column? with
  | none => return session.insertId?
  | some (sql, params) =>
      let row? ← selectRow server sql params
      return row?.bind fun row => (row.get? 0).bind Scalar.toInt64?

end Session

end SqlClient
