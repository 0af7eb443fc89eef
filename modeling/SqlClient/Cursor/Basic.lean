import SqlClient.Session.Basic

/-!
# Cursors

A cursor reads the answer of one statement row by row. The answer gives up its rows front to back
only; on top of it the cursor keeps a position that can be anywhere. A row ahead of the answer is
reached by passing over the rows before it, a row that was taken before by running the statement
again. The row read last is kept, so that reading it once more needs neither. Positions are taken to
stay below `2 ^ 64`.
-/

namespace SqlClient

/-- A position in the answer of a statement. -/
structure Cursor where
  /-- The answer, without the rows taken from it. -/
  answer : Answer
  sql : String
  params : Params
  /-- The number of rows taken from the answer. -/
  consumed : Nat
  /-- The row that is read next. -/
  position : Nat
  /-- The row read last, and its position. -/
  cached? : Option (Nat × Row)

namespace Cursor

variable {σ : Type}

/-- A call of a cursor: its result or error, and the cursor and its session after it. -/
abbrev Action (σ α : Type) := ExceptT SessionError (StateM (Cursor × Session σ)) α

/-- A cursor before the first row of an answer. -/
def ofAnswer (answer : Answer) (sql : String) (params : Params) : Cursor :=
  { answer, sql, params, consumed := 0, position := 0, cached? := none }

def columns (cursor : Cursor) : List String :=
  cursor.answer.columns

/-- The number of rows returned, or of rows affected by a statement without a result. -/
def rowCount (cursor : Cursor) : Nat :=
  cursor.answer.rowCount

/-- The row of an index exists. -/
def hasRow (cursor : Cursor) (index : Nat) : Bool :=
  cursor.answer.hasRow index

/-- The cursor at a position; nothing is read. -/
def seek (cursor : Cursor) (index : Nat) : Cursor :=
  { cursor with position := index }

/-- The row of an index that was not taken yet; the rows before it are passed over. -/
def take (cursor : Cursor) (index : Nat) : Option Row × Cursor :=
  let ahead := index - cursor.consumed
  match cursor.answer.rows.drop ahead with
  | [] =>
      (none, { cursor with
        answer := { cursor.answer with rows := [] }
        consumed := cursor.consumed + cursor.answer.rows.length })
  | values :: rest =>
      let row : Row := ⟨cursor.answer.columns, values⟩
      (some row, { cursor with
        answer := { cursor.answer with rows := rest }
        consumed := cursor.consumed + ahead + 1
        cached? := some (index, row) })

/-- The statement run once more and the cursor before its first row. A failure leaves the cursor
as it was. -/
def reexecute (server : Server σ) : Action σ Unit := fun (cursor, session) =>
  match Session.run server cursor.sql cursor.params session with
  | (.error error, session) => (.error error, cursor, session)
  | (.ok answer, session) => (.ok (), ofAnswer answer cursor.sql cursor.params, session)

/-- The row of an index; the position stays. -/
def read (server : Server σ) (index : Nat) : Action σ (Option Row) := fun (cursor, session) =>
  match cursor.cached? with
  | some (held, row) =>
      if held = index then (.ok (some row), cursor, session) else readAnew cursor session
  | none => readAnew cursor session
where
  /-- The row of an index from the answer, or from a new answer if it was taken before. -/
  readAnew (cursor : Cursor) (session : Session σ) :
      Except SessionError (Option Row) × Cursor × Session σ :=
    if index < cursor.consumed then
      match reexecute server (cursor, session) with
      | (.error error, after) => (.error error, after)
      | (.ok (), renewed, session) =>
          let (row?, after) := (renewed.seek cursor.position).take index
          (.ok row?, after, session)
    else
      let (row?, after) := cursor.take index
      (.ok row?, after, session)

/-- The row at the position; the position stays. -/
def current (server : Server σ) : Action σ (Option Row) := fun (cursor, session) =>
  read server cursor.position (cursor, session)

/-- The row at the position, which moves past it. -/
def next (server : Server σ) : Action σ (Option Row) := fun state =>
  match current server state with
  | (.ok (some row), cursor, session) =>
      (.ok (some row), cursor.seek (cursor.position + 1), session)
  | result => result

/-- The row of an index, if it exists; the position stays. -/
def rowAt (server : Server σ) (index : Nat) : Action σ (Option Row) := fun (cursor, session) =>
  if cursor.hasRow index then read server index (cursor, session)
  else (.ok none, cursor, session)

/-- The first row; the position moves past it. -/
def first (server : Server σ) : Action σ (Option Row) := fun (cursor, session) =>
  next server (cursor.seek 0, session)

/-- The last row; the position moves past it. -/
def last (server : Server σ) : Action σ (Option Row) := fun (cursor, session) =>
  match cursor.rowCount with
  | 0 => (.ok none, cursor, session)
  | count + 1 => next server (cursor.seek count, session)

/-! ## All rows from the position on -/

/-- How far a cursor is from taking its answer in order: it may have a row to repeat, and then a
statement to run again. -/
def detours (cursor : Cursor) : Nat :=
  if cursor.cached?.map Prod.fst = some cursor.position then 2
  else if cursor.position < cursor.consumed then 1
  else 0

/-- One cursor has less to read in order than another. -/
def Ahead (after before : Cursor) : Prop :=
  Prod.Lex (· < ·) (· < ·) (after.detours, after.answer.rows.length)
    (before.detours, before.answer.rows.length)

/-- What a row taken leaves behind. -/
theorem after_take {cursor : Cursor} {index : Nat} {row : Row}
    (taken : (cursor.take index).1 = some row) :
    (cursor.take index).2.cached? = some (index, row) ∧
      (cursor.take index).2.consumed = cursor.consumed + (index - cursor.consumed) + 1 ∧
      (cursor.take index).2.answer.rows.length < cursor.answer.rows.length := by
  simp only [take] at taken ⊢
  split at taken
  · simp at taken
  · next values rest dropped =>
    have shorter := congrArg List.length dropped
    simp only [List.length_drop, List.length_cons] at shorter
    simp only [Option.some.injEq] at taken
    exact ⟨by rw [taken], rfl, by simp only; omega⟩

/-- Taking a row leaves the position where it is. -/
theorem position_take (cursor : Cursor) (index : Nat) :
    (cursor.take index).2.position = cursor.position := by
  simp only [take]
  split <;> rfl

/-- A row taken in order leaves no detour behind it. -/
theorem detours_of_take {cursor : Cursor} {index : Nat} {row : Row}
    (taken : (cursor.take index).1 = some row) (reached : cursor.consumed ≤ index) :
    ((cursor.take index).2.seek (index + 1)).detours = 0 := by
  obtain ⟨cached, consumed, -⟩ := after_take taken
  simp only [detours, seek, cached, consumed, Option.map_some, Option.some.injEq]
  split
  · omega
  · split
    · omega
    · rfl

/-- A row read anew leaves less to read in order. -/
theorem ahead_of_readAnew {server : Server σ} {cursor after : Cursor} {session rest : Session σ}
    {row : Row}
    (found : read.readAnew server cursor.position cursor session = (.ok (some row), after, rest))
    (fresh : cursor.cached?.map Prod.fst ≠ some cursor.position) :
    (after.seek (after.position + 1)).Ahead cursor := by
  unfold read.readAnew at found
  split at found
  · next behind =>
    have before : cursor.detours = 1 := by simp [detours, fresh, behind]
    unfold reexecute at found
    cases ran : Session.run server cursor.sql cursor.params session with
    | mk result session' =>
      cases result with
      | error error => simp [ran] at found
      | ok answer =>
        simp only [ran, Prod.mk.injEq, Except.ok.injEq] at found
        obtain ⟨taken, rfl, -⟩ := found
        have none := detours_of_take taken (Nat.zero_le _)
        apply Prod.Lex.left
        rw [before, position_take]
        exact Nat.lt_of_le_of_lt (Nat.le_of_eq none) (by decide)
  · next reached =>
    have before : cursor.detours = 0 := by simp [detours, fresh, reached]
    simp only [Prod.mk.injEq, Except.ok.injEq] at found
    obtain ⟨taken, rfl, -⟩ := found
    have none := detours_of_take taken (Nat.le_of_not_lt reached)
    rw [Ahead, before, position_take, none]
    exact Prod.Lex.right _ (after_take taken).2.2

/-- Reading a row leaves less to read in order. -/
theorem ahead_of_next {server : Server σ} {cursor after : Cursor} {session rest : Session σ}
    {row : Row} (found : next server (cursor, session) = (.ok (some row), after, rest)) :
    after.Ahead cursor := by
  unfold next at found
  split at found
  · next row reader session' reading =>
    cases found
    unfold current read at reading
    dsimp only at reading
    split at reading
    · next held row cached =>
      split at reading
      · next same =>
        cases reading
        have before : cursor.detours = 2 := by simp [detours, cached, same]
        apply Prod.Lex.left
        rw [before]
        simp only [detours, seek, cached, Option.map_some, Option.some.injEq]
        split
        · omega
        · split <;> decide
      · next other => exact ahead_of_readAnew reading (by simp [cached, other])
    · next uncached => exact ahead_of_readAnew reading (by simp [uncached])
  · next other => exact absurd found (other _ _ _)

/-- The values that a step makes of the rows from the position to the end. The first error of the
step ends the reading, with the position behind its row. -/
def collect {α : Type} (server : Server σ) (step : Row → Except SessionError α)
    (state : Cursor × Session σ) : Except SessionError (List α) × Cursor × Session σ :=
  match _found : next server state with
  | (.error error, after) => (.error error, after)
  | (.ok none, after) => (.ok [], after)
  | (.ok (some row), after) =>
      match step row with
      | .error error => (.error error, after)
      | .ok value =>
          match collect server step after with
          | (.error error, after) => (.error error, after)
          | (.ok values, after) => (.ok (value :: values), after)
termination_by (state.1.detours, state.1.answer.rows.length)
decreasing_by exact ahead_of_next _found

/-- Every row from the position to the end. -/
def fetchAll (server : Server σ) : Action σ (List Row) :=
  collect server .ok

/-- Every row as a dictionary, from the first one. -/
def toMaps (server : Server σ) : Action σ (List (Dictionary Scalar)) := fun (cursor, session) =>
  match fetchAll server (cursor.seek 0, session) with
  | (.error error, after) => (.error error, after)
  | (.ok rows, after) => (.ok (rows.map Row.toDictionary), after)

end Cursor

end SqlClient
