import SqlClient.Proofs.Attempt
import SqlClient.Script
import SqlClient.Session.Query

/-!
# Cursors with random access

As long as the server keeps answering the statement of a cursor with the same rows, the cursor is an
array of rows and a position in it. The cursor itself takes rows front to back, passes over some,
runs the statement again and keeps a row; the array knows nothing of that.
-/

namespace SqlClient

variable {σ : Type}

/-! ## Statements with the same rows -/

/-- The state of a server after a statement was run on a connection a number of times. -/
def Server.afterRuns (server : Server σ) (connection : Nat) (text : String) (values : List Scalar) :
    Nat → σ → σ
  | 0, state => state
  | count + 1, state =>
      afterRuns server connection text values count
        (server.execute connection text values state).2

/-- However often a statement is run, it is answered with the same columns and rows. -/
def Server.Steady (server : Server σ) (connection : Nat) (text : String) (values : List Scalar)
    (columns : List String) (rows : List (List Scalar)) (state : σ) : Prop :=
  ∀ count, ∃ insertId?,
    (server.execute connection text values
      (server.afterRuns connection text values count state)).1 =
        .ok ⟨columns, rows, rows.length, insertId?⟩

/-- One run of a steady statement: its answer, and a state in which it is steady again. -/
theorem Server.Steady.execute {server : Server σ} {connection : Nat} {text : String}
    {values : List Scalar} {columns : List String} {rows : List (List Scalar)} {state : σ}
    (steady : server.Steady connection text values columns rows state) :
    ∃ insertId? after, server.execute connection text values state =
        (.ok ⟨columns, rows, rows.length, insertId?⟩, after) ∧
      server.Steady connection text values columns rows after := by
  obtain ⟨insertId?, answered⟩ := steady 0
  exact ⟨insertId?, (server.execute connection text values state).2, Prod.ext answered rfl,
    fun count => steady (count + 1)⟩

/-- A scripted server without failures answers a statement in the same way however often it is
run. -/
theorem Script.steady {script : Script} {connection : Nat} {text : String} {values : List Scalar}
    {columns : List String} {rows : List (List Scalar)} (calm : script.breakdowns = [])
    (answered : script.answerOf text = .ofRows columns rows) :
    Script.server.Steady connection text values columns rows script := by
  intro count
  refine ⟨none, ?_⟩
  induction count generalizing script with
  | zero =>
      change (Script.execute connection text values script).1 = .ok (.ofRows columns rows)
      rw [Script.execute, calm, Script.fail?, answered]
  | succ count induction =>
      have executed : (Script.server.execute connection text values script).2 =
          script.note ⟨connection, text, values⟩ := by
        change (Script.execute connection text values script).2 = _
        rw [Script.execute, calm, Script.fail?]
      rw [Server.afterRuns, executed]
      exact induction calm answered

namespace Cursor

/-! ## Calls -/

/-- A call of a cursor. -/
inductive Call where
  | next
  | current
  | rowAt (index : Nat)
  | first
  | last
  | seek (index : Nat)
  | rewind
  | fetchAll
  | toMaps
  | reexecute
  deriving DecidableEq, Repr

/-- What a call gives back. -/
inductive Reply where
  | nothing
  | row (row? : Option Row)
  | rows (rows : List Row)
  | maps (maps : List (Dictionary Scalar))
  deriving DecidableEq

/-- A call that gives back its value in another form. -/
def Action.giving {α β : Type} (action : Action σ α) (form : α → β) : Action σ β := fun state =>
  ((action state).1.map form, (action state).2)

/-- A cursor at a position; nothing is read. -/
def moveTo (index : Nat) : Action σ Unit := fun (cursor, session) =>
  (.ok (), cursor.seek index, session)

/-- What a call does to a cursor and its session. -/
def Call.perform (server : Server σ) : Call → Action σ Reply
  | .next => Action.giving (Cursor.next server) .row
  | .current => Action.giving (Cursor.current server) .row
  | .rowAt index => Action.giving (Cursor.rowAt server index) .row
  | .first => Action.giving (Cursor.first server) .row
  | .last => Action.giving (Cursor.last server) .row
  | .seek index => Action.giving (moveTo index) fun _ => .nothing
  | .rewind => Action.giving (moveTo 0) fun _ => .nothing
  | .fetchAll => Action.giving (Cursor.fetchAll server) .rows
  | .toMaps => Action.giving (Cursor.toMaps server) .maps
  | .reexecute => Action.giving (Cursor.reexecute server) fun _ => .nothing

/-- What calls in order give back, and the position after each of them. -/
def trace (server : Server σ) :
    List Call → Cursor × Session σ → List (Except SessionError Reply × Nat)
  | [], _ => []
  | call :: rest, state =>
      let (reply, after) := call.perform server state
      (reply, after.1.position) :: trace server rest after

/-! ## An array and a position -/

/-- The row at a position of an array; the position moves past it. -/
def nextOf (rows : List Row) (position : Nat) : Option Row × Nat :=
  (rows[position]?, if position < rows.length then position + 1 else position)

/-- The last row of an array; the position moves past it. -/
def lastOf (rows : List Row) (position : Nat) : Option Row × Nat :=
  if rows = [] then (none, position) else nextOf rows (rows.length - 1)

/-- What a call gives back on an array at a position, and the position after it. -/
def Call.answer (rows : List Row) : Call → Nat → Reply × Nat
  | .next, position => (nextOf rows position).map .row id
  | .current, position => (.row rows[position]?, position)
  | .rowAt index, position => (.row rows[index]?, position)
  | .first, _ => (nextOf rows 0).map .row id
  | .last, position => (lastOf rows position).map .row id
  | .seek index, _ => (.nothing, index)
  | .rewind, _ => (.nothing, 0)
  | .fetchAll, position => (.rows (rows.drop position), max position rows.length)
  | .toMaps, _ => (.maps (rows.map Row.toDictionary), rows.length)
  | .reexecute, _ => (.nothing, 0)

/-- What calls in order give back on an array, and the position after each of them. -/
def answers (rows : List Row) : List Call → Nat → List (Reply × Nat)
  | [], _ => []
  | call :: rest, position =>
      call.answer rows position :: answers rows rest (call.answer rows position).2

/-! ## The cursor as an array -/

section Mirrors

variable {server : Server σ} {text : String} {values : List Scalar} {columns : List String}
  {rows : List (List Scalar)} {cursor : Cursor} {session : Session σ}

/-- The rows of an answer under the names of its columns. -/
abbrev table (columns : List String) (rows : List (List Scalar)) : List Row :=
  rows.map (Row.mk columns)

/-- A cursor over a statement with the same rows, and the session that it runs on. The answer holds
the rows not taken yet, and the row kept is the one of its index. -/
structure Mirrors (server : Server σ) (text : String) (values : List Scalar) (columns : List String)
    (rows : List (List Scalar)) (cursor : Cursor) (session : Session σ) : Prop where
  columns_eq : cursor.answer.columns = columns
  rowCount_eq : cursor.answer.rowCount = rows.length
  rest_eq : cursor.answer.rows = rows.drop cursor.consumed
  consumed_le : cursor.consumed ≤ rows.length
  kept : ∀ index row, cursor.cached? = some (index, row) → (table columns rows)[index]? = some row
  bound : cursor.params.bind session.dialect cursor.sql = .ok (text, values)
  steady : server.Steady session.connection text values columns rows session.state

/-- A call gives back a value and leaves the cursor at a position, where it still mirrors. -/
def Gives {α : Type} (server : Server σ) (text : String) (values : List Scalar)
    (columns : List String) (rows : List (List Scalar))
    (result : Except SessionError α × Cursor × Session σ) (value : α) (position : Nat) : Prop :=
  ∃ cursor session, result = (.ok value, cursor, session) ∧
    Mirrors server text values columns rows cursor session ∧ cursor.position = position

/-- The position plays no part in what a cursor mirrors. -/
theorem Mirrors.seek (mirrors : Mirrors server text values columns rows cursor session)
    (index : Nat) : Mirrors server text values columns rows (cursor.seek index) session :=
  ⟨mirrors.columns_eq, mirrors.rowCount_eq, mirrors.rest_eq, mirrors.consumed_le, mirrors.kept,
    mirrors.bound, mirrors.steady⟩

/-- Running the statement gives an answer of the same rows. -/
theorem run_of_steady {sql : String} {params : Params}
    (bound : params.bind session.dialect sql = .ok (text, values))
    (steady : server.Steady session.connection text values columns rows session.state) :
    ∃ answer after, Session.run server sql params session = (.ok answer, after) ∧
      Mirrors server text values columns rows (ofAnswer answer sql params) after := by
  obtain ⟨insertId?, state, executed, later⟩ := steady.execute
  have ran := Session.runAs_of_answer bound executed session.inTransaction
  exact ⟨_, _, ran, rfl, rfl, rfl, Nat.zero_le _, by simp [ofAnswer], bound, later⟩

theorem Mirrors.reexecute (mirrors : Mirrors server text values columns rows cursor session) :
    Gives server text values columns rows (Cursor.reexecute server (cursor, session)) () 0 := by
  obtain ⟨answer, after, ran, renewed⟩ := run_of_steady mirrors.bound mirrors.steady
  refine ⟨ofAnswer answer cursor.sql cursor.params, after, ?_, renewed, rfl⟩
  rw [Cursor.reexecute, ran]

/-- A row that was not taken yet is the row of its index. -/
theorem Mirrors.take (mirrors : Mirrors server text values columns rows cursor session)
    {index : Nat} (reached : cursor.consumed ≤ index) :
    (cursor.take index).1 = (table columns rows)[index]? ∧
      Mirrors server text values columns rows (cursor.take index).2 session := by
  have ahead : cursor.answer.rows.drop (index - cursor.consumed) = rows.drop index := by
    rw [mirrors.rest_eq, List.drop_drop, Nat.add_sub_cancel' reached]
  have taken := mirrors.consumed_le
  simp only [Cursor.take, ahead]
  split
  · next ended =>
    have past : rows.length ≤ index := List.drop_eq_nil_iff.1 ended
    have all : cursor.consumed + cursor.answer.rows.length = rows.length := by
      rw [mirrors.rest_eq, List.length_drop]
      omega
    refine ⟨by simp [List.getElem?_eq_none past], mirrors.columns_eq, mirrors.rowCount_eq, ?_, ?_,
      mirrors.kept, mirrors.bound, mirrors.steady⟩
    · simp only [all, List.drop_length]
    · simp only [all, Nat.le_refl]
  · next row rest found =>
    have within : index < rows.length := by
      have longer := congrArg List.length found
      simp only [List.length_drop, List.length_cons] at longer
      omega
    have here : rows[index]? = some row := by
      rw [← List.head?_drop, found, List.head?_cons]
    have held : (table columns rows)[index]? = some ⟨columns, row⟩ := by
      simp [here]
    have passed : cursor.consumed + (index - cursor.consumed) + 1 = index + 1 := by omega
    refine ⟨by rw [held, mirrors.columns_eq], mirrors.columns_eq, mirrors.rowCount_eq, ?_, ?_, ?_,
      mirrors.bound, mirrors.steady⟩
    · simp only [passed]
      rw [← List.drop_drop, found, List.drop_one, List.tail_cons]
    · simp only [passed]
      exact within
    · simp only [Option.some.injEq, Prod.mk.injEq]
      rintro _ _ ⟨rfl, rfl⟩
      rw [held, mirrors.columns_eq]

/-- Reading an index gives the row of that index, wherever the answer stands. -/
theorem Mirrors.read (mirrors : Mirrors server text values columns rows cursor session)
    (index : Nat) :
    Gives server text values columns rows (Cursor.read server index (cursor, session))
      (table columns rows)[index]? cursor.position := by
  have anew : Gives server text values columns rows
      (read.readAnew server index cursor session) (table columns rows)[index]?
        cursor.position := by
    unfold read.readAnew
    split
    · obtain ⟨answer, after, ran, fresh⟩ := run_of_steady mirrors.bound mirrors.steady
      obtain ⟨found, later⟩ := (fresh.seek cursor.position).take (Nat.zero_le index)
      rw [Cursor.reexecute, ran, ← found]
      exact ⟨_, after, rfl, later, position_take _ index⟩
    · next reached =>
      obtain ⟨found, later⟩ := mirrors.take (Nat.le_of_not_lt reached)
      rw [← found]
      exact ⟨(cursor.take index).2, session, rfl, later, position_take cursor index⟩
  by_cases fresh : cursor.cached?.map Prod.fst ≠ some index
  · rw [read_of_fresh fresh]
    exact anew
  · obtain ⟨⟨held, row⟩, cached, rfl⟩ := Option.map_eq_some_iff.1 (Classical.not_not.1 fresh)
    rw [read_of_cached cached, mirrors.kept held row cached]
    exact ⟨cursor, session, rfl, mirrors, rfl⟩

theorem Mirrors.current (mirrors : Mirrors server text values columns rows cursor session) :
    Gives server text values columns rows (Cursor.current server (cursor, session))
      (table columns rows)[cursor.position]? cursor.position :=
  mirrors.read cursor.position

theorem Mirrors.next (mirrors : Mirrors server text values columns rows cursor session) :
    Gives server text values columns rows (Cursor.next server (cursor, session))
      (nextOf (table columns rows) cursor.position).1
      (nextOf (table columns rows) cursor.position).2 := by
  obtain ⟨after, session', found, later, stayed⟩ := mirrors.current
  rw [Cursor.next, found, nextOf]
  by_cases within : cursor.position < (table columns rows).length
  · rw [List.getElem?_eq_getElem within, if_pos within]
    exact ⟨after.seek (after.position + 1), session', rfl, later.seek _, congrArg (· + 1) stayed⟩
  · rw [List.getElem?_eq_none (Nat.le_of_not_lt within), if_neg within]
    exact ⟨after, session', rfl, later, stayed⟩

/-- A statement with columns has the rows of its answer. -/
theorem Mirrors.hasRow (mirrors : Mirrors server text values columns rows cursor session)
    (named : columns ≠ []) (index : Nat) :
    cursor.hasRow index = true ↔ index < (table columns rows).length := by
  simp [Cursor.hasRow, Answer.hasRow, mirrors.columns_eq, mirrors.rowCount_eq, named]

theorem Mirrors.rowAt (mirrors : Mirrors server text values columns rows cursor session)
    (named : columns ≠ []) (index : Nat) :
    Gives server text values columns rows (Cursor.rowAt server index (cursor, session))
      (table columns rows)[index]? cursor.position := by
  unfold Cursor.rowAt
  dsimp only
  split
  · exact mirrors.read index
  · next absent =>
    rw [mirrors.hasRow named, Nat.not_lt] at absent
    rw [List.getElem?_eq_none absent]
    exact ⟨cursor, session, rfl, mirrors, rfl⟩

theorem Mirrors.last (mirrors : Mirrors server text values columns rows cursor session) :
    Gives server text values columns rows (Cursor.last server (cursor, session))
      (lastOf (table columns rows) cursor.position).1
      (lastOf (table columns rows) cursor.position).2 := by
  have count : cursor.rowCount = (table columns rows).length := by
    rw [Cursor.rowCount, mirrors.rowCount_eq, List.length_map]
  unfold Cursor.last lastOf
  dsimp only
  split
  · next none =>
    rw [count, List.length_eq_zero_iff] at none
    rw [if_pos none]
    exact ⟨cursor, session, rfl, mirrors, rfl⟩
  · next count' counted =>
    rw [count] at counted
    have filled : table columns rows ≠ [] := by
      intro empty
      rw [empty] at counted
      simp at counted
    rw [if_neg filled, counted, Nat.succ_sub_one]
    exact (mirrors.seek count').next

/-- Reading on to the end gives the rows from the position on. -/
theorem Mirrors.fetchAll (mirrors : Mirrors server text values columns rows cursor session) :
    Gives server text values columns rows (Cursor.fetchAll server (cursor, session))
      ((table columns rows).drop cursor.position) (max cursor.position rows.length) := by
  -- The induction is on the number of rows from the position on.
  generalize ahead : rows.length - cursor.position = count
  induction count generalizing cursor session with
  | zero =>
      have past : rows.length ≤ cursor.position := by omega
      obtain ⟨after, session', moved, later, stays⟩ := mirrors.next
      have absent : (nextOf (table columns rows) cursor.position).1 = none := by
        simp [nextOf, past]
      have stayed : (nextOf (table columns rows) cursor.position).2 = cursor.position := by
        simp [nextOf, past]
      rw [Cursor.fetchAll, collect, moved, absent, Nat.max_eq_left past,
        List.drop_eq_nil_of_le (by simpa using past)]
      exact ⟨after, session', rfl, later, stays.trans stayed⟩
  | succ count induction =>
      have within : cursor.position < rows.length := by omega
      have inTable : cursor.position < (table columns rows).length := by simpa using within
      obtain ⟨middle, session', moved, later, moves⟩ := mirrors.next
      have found : (nextOf (table columns rows) cursor.position).1 =
          some (table columns rows)[cursor.position] := List.getElem?_eq_getElem inTable
      have advanced : middle.position = cursor.position + 1 := by
        rw [moves, nextOf, if_pos inTable]
      obtain ⟨after, session'', rest, last, stays⟩ := induction later (by omega)
      rw [Cursor.fetchAll] at rest
      rw [Cursor.fetchAll, collect, moved, found]
      dsimp only
      rw [rest, advanced, List.drop_eq_getElem_cons inTable]
      refine ⟨after, session'', rfl, last, ?_⟩
      rw [stays, advanced]
      omega

theorem Mirrors.toMaps (mirrors : Mirrors server text values columns rows cursor session) :
    Gives server text values columns rows (Cursor.toMaps server (cursor, session))
      ((table columns rows).map Row.toDictionary) rows.length := by
  obtain ⟨after, session', fetched, later, stays⟩ := (mirrors.seek 0).fetchAll
  rw [Cursor.toMaps, fetched]
  exact ⟨after, session', rfl, later, stays.trans (Nat.zero_max rows.length)⟩

/-! ## Runs -/

theorem Gives.giving {α β : Type} {action : Action σ α} {value : α} {position : Nat}
    (given : Gives server text values columns rows (action (cursor, session)) value position)
    (form : α → β) :
    Gives server text values columns rows (action.giving form (cursor, session)) (form value)
      position := by
  obtain ⟨after, session', done, later, stays⟩ := given
  rw [Action.giving, done]
  exact ⟨after, session', rfl, later, stays⟩

/-- One call on a cursor is the call on the array. -/
theorem Mirrors.perform (mirrors : Mirrors server text values columns rows cursor session)
    (named : columns ≠ []) (call : Call) :
    Gives server text values columns rows (call.perform server (cursor, session))
      (call.answer (table columns rows) cursor.position).1
      (call.answer (table columns rows) cursor.position).2 := by
  have length_eq : (table columns rows).length = rows.length := List.length_map (Row.mk columns)
  cases call with
  | next => exact mirrors.next.giving Reply.row
  | current => exact mirrors.current.giving Reply.row
  | rowAt index => exact (mirrors.rowAt named index).giving Reply.row
  | first => exact (mirrors.seek 0).next.giving Reply.row
  | last => exact mirrors.last.giving Reply.row
  | seek index => exact ⟨cursor.seek index, session, rfl, mirrors.seek index, rfl⟩
  | rewind => exact ⟨cursor.seek 0, session, rfl, mirrors.seek 0, rfl⟩
  | fetchAll =>
      rw [Call.answer, length_eq]
      exact mirrors.fetchAll.giving Reply.rows
  | toMaps =>
      rw [Call.answer, length_eq]
      exact mirrors.toMaps.giving Reply.maps
  | reexecute => exact mirrors.reexecute.giving fun _ => Reply.nothing

/-- Calls in order on a cursor are the calls on the array. -/
theorem Mirrors.trace (mirrors : Mirrors server text values columns rows cursor session)
    (named : columns ≠ []) (calls : List Call) :
    Cursor.trace server calls (cursor, session) =
      (answers (table columns rows) calls cursor.position).map (Prod.map .ok id) := by
  induction calls generalizing cursor session with
  | nil => rfl
  | cons call rest induction =>
      obtain ⟨after, session', performed, later, moved⟩ := mirrors.perform named call
      have here : Prod.map .ok id (call.answer (table columns rows) cursor.position) =
          ((.ok (call.answer (table columns rows) cursor.position).1 :
            Except SessionError Reply), after.position) := by
        rw [moved]
        rfl
      rw [Cursor.trace, performed, answers, List.map_cons, here, ← moved, ← induction later]

end Mirrors

/-- A query whose statement keeps its rows gives a cursor on which all calls in any order have the
answers and the positions of an array of the rows with a position, which is zero at first. -/
theorem trace_query {server : Server σ} {session : Session σ} {sql text : String} {params : Params}
    {values : List Scalar} {columns : List String} {rows : List (List Scalar)}
    (bound : params.bind session.dialect sql = .ok (text, values)) (named : columns ≠ [])
    (steady : server.Steady session.connection text values columns rows session.state)
    (calls : List Call) :
    ∃ cursor after, Session.query server sql params session = (.ok cursor, after) ∧
      trace server calls (cursor, after) =
        (answers (table columns rows) calls 0).map (Prod.map .ok id) := by
  obtain ⟨answer, after, ran, mirrors⟩ := run_of_steady bound steady
  exact ⟨ofAnswer answer sql params, after, Session.bind_of_ok ran, mirrors.trace named calls⟩

/-- Calls in both directions over two rows, two of which run the statement again. -/
theorem trace_query_two_rows :
    let one : Row := ⟨["id"], [.int 1]⟩
    let two : Row := ⟨["id"], [.int 2]⟩
    let script : Script :=
      { responses := [⟨"SELECT", .ofRows ["id"] [[.int 1], [.int 2]]⟩] }
    let session : Session Script :=
      { settings := { driver := "sqlite" }, dialect := .sqlite, state := script, connection := 1,
        depth := 0, policy := .disabled, insertId? := none, journal? := none }
    ∃ cursor after,
      Session.query Script.server "SELECT id FROM t" .none session = (.ok cursor, after) ∧
        trace Script.server [.last, .rowAt 0, .next, .seek 7, .current, .first, .fetchAll]
          (cursor, after) =
          [(.ok (.row (some two)), 2), (.ok (.row (some one)), 2), (.ok (.row none), 2),
            (.ok .nothing, 7), (.ok (.row none), 7), (.ok (.row (some one)), 1),
            (.ok (.rows [two]), 2)] := by
  intro one two script session
  have steady : Script.server.Steady session.connection "SELECT id FROM t" [] ["id"]
      [[.int 1], [.int 2]] script := Script.steady rfl (by decide)
  exact trace_query rfl (by decide) steady _

end Cursor

end SqlClient
