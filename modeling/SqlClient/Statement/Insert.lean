import SqlClient.Statement.Select

/-!
# Insertions

Insertions of value sets or of bound parameters, with replacement, skipping and updating of
conflicting rows. All value sets have the columns of the first one, or of the column list given.
-/

namespace SqlClient

/-- What a conflict clause matches. -/
inductive ConflictTarget where
  /-- Columns that are unique together. -/
  | columns (names : List String)
  | constraint (name : String)
  deriving DecidableEq, Repr

/-- An insertion of rows. -/
structure Insert where
  /-- The dialect it is rendered for. -/
  dialect : Dialect
  table? : Option Identifier := none
  /-- Conflicting rows are replaced. -/
  replaces : Bool := false
  /-- Conflicting rows are skipped. -/
  ignores : Bool := false
  /-- The columns in order. -/
  columns : List String := []
  /-- The value sets, each in the order of the columns. -/
  rows : List (List Expr) := []
  /-- Conflicting rows are updated with these values, or with the inserted ones for none. -/
  updates? : Option (List (String × Expr)) := none
  /-- What a conflict clause matches. -/
  target? : Option ConflictTarget := none
  /-- The columns returned. -/
  returning : List String := []
  /-- The values bound to its parameters. -/
  binds : Binds := []

namespace Insert

def empty (dialect : Dialect) : Insert :=
  { dialect }

/-- The first text that occurs before. -/
def firstRepeated? : (seen texts : List String) → Option String
  | _, [] => none
  | seen, text :: rest =>
      if seen.contains text then some text else firstRepeated? (seen ++ [text]) rest

/-- The values of a row of some columns, brought into the order of other columns. -/
def align (columns : List String) (row : List Expr) (order : List String) : List Expr :=
  order.filterMap fun column => (columns.zip row).lookup column

/-- The table, with or without replacement of conflicting rows. -/
def setTable (insert : Insert) (table : String) (replaces : Bool) :
    Except StatementError Insert := do
  let identifier ← protectTable insert.dialect table none
  .ok { insert with table? := some identifier, replaces }

/-- The column list. Value sets there are follow its order, so it has to hold their columns. -/
def setColumns (insert : Insert) (names : List String) : Except StatementError Insert :=
  let columns := names.map Text.trim
  match firstRepeated? [] columns with
  | some column => .error (.invalid (.repeatedColumn column))
  | none =>
      if insert.rows.isEmpty then .ok { insert with columns }
      else if columns.length = insert.columns.length ∧
          columns.all insert.columns.contains then
        .ok { insert with
          columns, rows := insert.rows.map fun row => align insert.columns row columns }
      else .error (.uneven .columnList)

def addValues (insert : Insert) (row : List (String × Expr)) : Except StatementError Insert :=
  if row.isEmpty then .error (.missing .valueSet)
  else if insert.columns.isEmpty then
    match firstRepeated? [] (row.map Prod.fst) with
    | some column => .error (.invalid (.repeatedValue column))
    | none =>
        .ok { insert with
          columns := row.map Prod.fst, rows := insert.rows ++ [row.map Prod.snd] }
  else if row.length ≠ insert.columns.length then
    .error (.uneven (.valueSet insert.rows.length))
  else
    match insert.columns.mapM fun column => row.lookup column with
    | some values => .ok { insert with rows := insert.rows ++ [values] }
    | none => .error (.uneven (.valueSet insert.rows.length))

/-- Conflicting rows are updated, with the given values if there are any. -/
def setUpdates (insert : Insert) (updates : List (String × Expr)) : Insert :=
  { insert with updates? := some updates }

/-- Conflicting rows are skipped, or not. -/
def setIgnores (insert : Insert) (ignores : Bool) : Insert :=
  { insert with ignores }

/-- What a conflict clause matches. -/
def setTarget (insert : Insert) (target : ConflictTarget) : Insert :=
  { insert with target? := some target }

/-- The columns returned, in place of earlier ones. -/
def setReturning (insert : Insert) (lists : List String) : Except StatementError Insert :=
  if insert.dialect.hasReturning then .ok { insert with returning := splitTerms lists }
  else .error (.unsupported .returning insert.dialect)

def bind (insert : Insert) (name : String) (value : Scalar) : Except StatementError Insert := do
  .ok { insert with binds := ← refuse (insert.binds.bind name value) }

/-! ## Text -/

/-- The columns and whether their values are the bound parameters. -/
def effectiveColumns (insert : Insert) : Except StatementError (List String) :=
  if !insert.rows.isEmpty then .ok insert.columns
  else if insert.binds.isEmpty then .error (.missing .insertValues)
  else if insert.columns.isEmpty then .ok (insert.binds.map Prod.fst)
  else .ok insert.columns

def opening (insert : Insert) : String :=
  if insert.replaces then insert.dialect.replaceOpening?.getD "INSERT INTO"
  else if insert.ignores then
    match insert.dialect.ignoreForm with
    | .opening text => text
    | .clause _ => "INSERT INTO"
  else "INSERT INTO"

/-- Conflicting rows are updated: on demand, or because the dialect cannot replace them. -/
def upserts (insert : Insert) : Bool :=
  insert.updates?.isSome || (insert.replaces && insert.dialect.replaceOpening?.isNone)

/-- The clause that skips conflicting rows, where it is no opening. -/
def ignoreClause? (insert : Insert) : Option String :=
  if !insert.replaces && insert.ignores then
    match insert.dialect.ignoreForm with
    | .opening _ => none
    | .clause text => some text
  else none

/-- The words before the assignments of an upsert. -/
def upsertOpening (insert : Insert) : Except StatementError String :=
  match insert.dialect.upsertForm with
  | .onDuplicateKey => .ok " ON DUPLICATE KEY UPDATE "
  | .onConflict requiresTarget =>
      let untargeted : Except StatementError String :=
        if requiresTarget then .error (.missingConflictTarget insert.dialect)
        else .ok " ON CONFLICT DO UPDATE SET "
      match insert.target? with
      | some (.columns names) =>
          if names.isEmpty then untargeted
          else do
            .ok (" ON CONFLICT (" ++ commaList (← protectAll insert.dialect names) ++
              ") DO UPDATE SET ")
      | some (.constraint name) =>
          if Text.isAllBlank name then untargeted
          else if insert.dialect ≠ .postgres then
            .error (.unsupported .conflictConstraint insert.dialect)
          else
            .ok (" ON CONFLICT ON CONSTRAINT " ++ insert.dialect.quoteName (Text.trim name) ++
              " DO UPDATE SET ")
      | none => untargeted

/-- The columns that an upsert assigns, with the texts of their values. -/
def updatePairs (insert : Insert) (columns : List String) :
    Except StatementError (List (String × String)) :=
  let explicit := insert.updates?.getD []
  if !explicit.isEmpty then
    .ok (explicit.map fun pair => (pair.1, pair.2.render insert.dialect))
  else
    match insert.rows with
    | [] => .ok (columns.map fun column => (column, (Expr.param column).render insert.dialect))
    | [row] =>
        .ok ((columns.zip row).map fun pair => (pair.1, pair.2.render insert.dialect))
    | _ => .error .ambiguousUpsert

/-- One assignment of a text to a column. -/
def assignment (dialect : Dialect) (pair : String × String) : Except StatementError String := do
  .ok ((← refuse (Identifier.protectedText dialect pair.1)) ++ " = " ++ pair.2)

/-- What follows the values on account of conflicting rows. -/
def conflictText (insert : Insert) (columns : List String) : Except StatementError String :=
  if insert.upserts then do
    let opening ← insert.upsertOpening
    let pairs ← insert.updatePairs columns
    .ok (opening ++ commaList (← pairs.mapM (assignment insert.dialect)))
  else
    match insert.ignoreClause? with
    | none => .ok ""
    | some text =>
        match insert.target? with
        | some (.columns (name :: names)) => do
            .ok (" ON CONFLICT (" ++ commaList (← protectAll insert.dialect (name :: names)) ++
              ") DO NOTHING")
        | _ => .ok (" " ++ text)

/-- Texts between parentheses. -/
def tuple (texts : List String) : String :=
  "(" ++ commaList texts ++ ")"

/-- The text of the values. -/
def valuesText (insert : Insert) (columns : List String) : String :=
  if insert.rows.isEmpty then
    tuple (columns.map fun column => (Expr.param column).render insert.dialect)
  else commaList (insert.rows.map fun row => tuple (row.map (Expr.render insert.dialect)))

def render (insert : Insert) : Except StatementError String :=
  match insert.table? with
  | none => .error (.missing .table)
  | some table => do
      let columns ← insert.effectiveColumns
      let columnTexts ← protectAll insert.dialect columns
      let conflict ← insert.conflictText columns
      let returning ← protectAll insert.dialect insert.returning
      .ok (insert.opening ++ " " ++ table.render insert.dialect ++ " " ++ tuple columnTexts ++
        " VALUES " ++ insert.valuesText columns ++ conflict ++
        clause "RETURNING" (commaList returning))

def params (insert : Insert) : Params :=
  .ofNamed insert.binds

end Insert

end SqlClient
