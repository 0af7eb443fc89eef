import SqlClient.Statement.Delete
import SqlClient.Statement.Insert

/-!
# Statements

The four kinds of statements under one type: a session runs any of them.
-/

namespace SqlClient

/-- A statement. -/
inductive Statement where
  | select (selection : Select)
  | insert (insertion : Insert)
  | update (change : Update)
  | delete (removal : Delete)

namespace Statement

def dialect : Statement → Dialect
  | .select selection => selection.dialect
  | .insert insertion => insertion.dialect
  | .update change => change.dialect
  | .delete removal => removal.dialect

def render : Statement → Except StatementError String
  | .select selection => selection.render
  | .insert insertion => insertion.render
  | .update change => change.render
  | .delete removal => removal.render

/-- The parameters that the text refers to. -/
def params : Statement → Params
  | .select selection => selection.params
  | .insert insertion => insertion.params
  | .update change => change.params
  | .delete removal => removal.params

/-- Running the statement gives rows. -/
def returnsRows : Statement → Bool
  | .select _ => true
  | .insert insertion => !insertion.returning.isEmpty
  | .update _ => false
  | .delete _ => false

end Statement

end SqlClient
