import SqlClient.Proofs.RandomAccess

/-!
# Reading forward

A row that a cursor keeps or has not taken yet is read without its server, and what such a reading
gives does not depend on the session. Running the statement again is all that can fail, and where it
fails the cursor stays as it was: reading forward goes on as if the call had not been made.
-/

namespace SqlClient

namespace Cursor

variable {σ : Type} {server : Server σ} {cursor : Cursor} {session : Session σ} {index : Nat}

/-! ## Rows at hand -/

/-- The row of an index is kept, or no row from the index on was taken. -/
def AtHand (cursor : Cursor) (index : Nat) : Prop :=
  cursor.cached?.map Prod.fst = some index ∨ cursor.consumed ≤ index

/-- The rows of all indexes from one on are at hand as they are read in order. -/
def AllAtHand (cursor : Cursor) (index : Nat) : Prop :=
  cursor.AtHand index ∧ cursor.consumed ≤ index + 1

/-- Passing over all rows leaves the kept row, and takes at most the rows before the index. -/
theorem after_take_none (reached : cursor.consumed ≤ index) (ended : (cursor.take index).1 = none) :
    (cursor.take index).2.cached? = cursor.cached? ∧ (cursor.take index).2.consumed ≤ index := by
  simp only [take] at ended ⊢
  split at ended
  · next all =>
    have fewer := List.drop_eq_nil_iff.1 all
    exact ⟨rfl, by simp only; omega⟩
  · simp at ended

/-- A row at hand is the row kept, or the answer gives it. -/
theorem read_of_atHand (server : Server σ) (atHand : cursor.AtHand index) :
    (∃ row, cursor.cached? = some (index, row) ∧
      ∀ session, read server index (cursor, session) = (.ok (some row), cursor, session)) ∨
    cursor.consumed ≤ index ∧
      ∀ session, read server index (cursor, session) =
        (.ok (cursor.take index).1, (cursor.take index).2, session) := by
  by_cases fresh : cursor.cached?.map Prod.fst ≠ some index
  · have reached : cursor.consumed ≤ index := atHand.resolve_left fresh
    refine .inr ⟨reached, fun session => ?_⟩
    rw [read_of_fresh fresh, read.readAnew, if_neg (Nat.not_lt.2 reached)]
  · obtain ⟨⟨held, row⟩, cached, rfl⟩ := Option.map_eq_some_iff.1 (Classical.not_not.1 fresh)
    exact .inl ⟨row, cached, fun session => read_of_cached cached⟩

/-- Every other row is read once the statement was run again. -/
theorem read_of_not_atHand (server : Server σ) (session : Session σ)
    (behind : ¬cursor.AtHand index) :
    cursor.cached?.map Prod.fst ≠ some index ∧ index < cursor.consumed ∧
      read server index (cursor, session) =
        match Session.run server cursor.sql cursor.params session with
        | (.error error, after) => (.error error, cursor, after)
        | (.ok answer, after) =>
            let renewed := (ofAnswer answer cursor.sql cursor.params).seek cursor.position
            (.ok (renewed.take index).1, (renewed.take index).2, after) := by
  obtain ⟨fresh, passed⟩ := not_or.1 behind
  have taken : index < cursor.consumed := Nat.lt_of_not_le passed
  refine ⟨fresh, taken, ?_⟩
  rw [read_of_fresh fresh, read.readAnew, if_pos taken, reexecute]
  rcases Session.run server cursor.sql cursor.params session with ⟨error | answer, after⟩ <;> rfl

/-! ## Calls that need no server -/

/-- An action on a cursor that succeeds in every session, with the same value and the same cursor
after it, and leaves the session alone. -/
def Offline {α : Type} (action : Action σ α) (cursor : Cursor) : Prop :=
  ∃ value after, ∀ session, action (cursor, session) = (.ok value, after, session)

theorem Offline.giving {α β : Type} {action : Action σ α} (offline : Offline action cursor)
    (form : α → β) : Offline (action.giving form) cursor := by
  obtain ⟨value, after, done⟩ := offline
  exact ⟨form value, after, fun session => by rw [Action.giving, done]; rfl⟩

theorem offline_read (server : Server σ) (atHand : cursor.AtHand index) :
    Offline (read server index) cursor := by
  rcases read_of_atHand server atHand with ⟨row, -, kept⟩ | ⟨-, taken⟩
  · exact ⟨some row, cursor, kept⟩
  · exact ⟨_, _, taken⟩

/-- Reading the next row moves past it, and all rows from there on are at hand if they were. -/
theorem offline_next (server : Server σ) (atHand : cursor.AtHand cursor.position) :
    ∃ row? after, (∀ session, next server (cursor, session) = (.ok row?, after, session)) ∧
      (row? ≠ none → cursor.AllAtHand cursor.position → after.AllAtHand after.position) := by
  rcases read_of_atHand server atHand with ⟨row, cached, kept⟩ | ⟨reached, taken⟩
  · refine ⟨some row, cursor.seek (cursor.position + 1), fun session => ?_, fun _ all => ?_⟩
    · simp only [next, current, kept]
    · exact ⟨.inr all.2, Nat.le_succ_of_le all.2⟩
  · cases given : (cursor.take cursor.position).1 with
    | none =>
        refine ⟨none, (cursor.take cursor.position).2, fun session => ?_, fun found => ?_⟩
        · simp only [next, current, taken, given]
        · exact absurd rfl found
    | some row =>
        refine ⟨some row, (cursor.take cursor.position).2.seek (cursor.position + 1),
          fun session => ?_, fun _ _ => ?_⟩
        · simp only [next, current, taken, given, position_take]
        · have moved : (cursor.take cursor.position).2.consumed = cursor.position + 1 := by
            rw [(after_take given).2.1]
            omega
          exact ⟨.inr (Nat.le_of_eq moved), Nat.le_succ_of_le (Nat.le_of_eq moved)⟩

/-- Reading on to the end needs no server if no row behind the first one was taken. -/
theorem offline_fetchAll (server : Server σ) (session : Session σ) (cursor : Cursor)
    (all : cursor.AllAtHand cursor.position) : Offline (fetchAll server) cursor := by
  obtain ⟨row?, after, moved, ahead⟩ := offline_next server all.1
  cases row? with
  | none => exact ⟨[], after, fun session => by rw [fetchAll, collect, moved session]⟩
  | some row =>
      have found := moved session
      obtain ⟨rows, last, rest⟩ := offline_fetchAll server session after (ahead (by simp) all)
      refine ⟨row :: rows, last, fun session => ?_⟩
      have later := rest session
      rw [fetchAll] at later ⊢
      rw [collect, moved session]
      dsimp only
      rw [later]
termination_by (cursor.detours, cursor.answer.rows.length)
decreasing_by exact ahead_of_next found

namespace Call

/-- All that a call reads is at hand. -/
def Forward (cursor : Cursor) : Call → Prop
  | .next | .current => cursor.AtHand cursor.position
  | .rowAt index => cursor.hasRow index → cursor.AtHand index
  | .first => cursor.AtHand 0
  | .last => ∀ count, cursor.rowCount = count + 1 → cursor.AtHand count
  | .seek _ | .rewind => True
  | .fetchAll => cursor.AllAtHand cursor.position
  | .toMaps => cursor.AllAtHand 0
  | .reexecute => False

/-- A call that comes to reading one row or to running the statement. -/
def Single : Call → Prop
  | .next | .current | .rowAt _ | .reexecute => True
  | .first | .last | .seek _ | .rewind | .fetchAll | .toMaps => False

theorem offline_of_forward (server : Server σ) (session : Session σ) {call : Call}
    (forward : call.Forward cursor) : Offline (call.perform server) cursor := by
  have next (cursor : Cursor) (atHand : cursor.AtHand cursor.position) :
      Offline (Cursor.next server) cursor := by
    obtain ⟨row?, after, moved, -⟩ := offline_next server atHand
    exact ⟨row?, after, moved⟩
  cases call with
  | next => exact (next cursor forward).giving _
  | current => exact (offline_read server forward).giving _
  | rowAt index =>
      refine Offline.giving ?_ _
      by_cases exist : cursor.hasRow index
      · obtain ⟨row?, after, done⟩ := offline_read server (forward exist)
        exact ⟨row?, after, fun session => by rw [Cursor.rowAt, if_pos exist, done]⟩
      · exact ⟨none, cursor, fun session => by rw [Cursor.rowAt, if_neg exist]⟩
  | first =>
      obtain ⟨row?, after, done⟩ := next (cursor.seek 0) forward
      exact Offline.giving ⟨row?, after, done⟩ _
  | last =>
      refine Offline.giving ?_ _
      cases count : cursor.rowCount with
      | zero => exact ⟨none, cursor, fun session => by rw [Cursor.last]; simp only [count]⟩
      | succ count' =>
          obtain ⟨row?, after, done⟩ := next (cursor.seek count') (forward count' count)
          exact ⟨row?, after, fun session => by rw [Cursor.last]; simp only [count, done]⟩
  | seek index => exact ⟨.nothing, cursor.seek index, fun _ => rfl⟩
  | rewind => exact ⟨.nothing, cursor.seek 0, fun _ => rfl⟩
  | fetchAll => exact (offline_fetchAll server session cursor forward).giving _
  | toMaps =>
      obtain ⟨rows, after, done⟩ := offline_fetchAll server session (cursor.seek 0) forward
      refine Offline.giving ⟨rows.map Row.toDictionary, after, fun session => ?_⟩ _
      rw [Cursor.toMaps, done]
  | reexecute => exact forward.elim

end Call

/-- All calls in order read what is at hand when they are made. -/
def Forward (server : Server σ) : List Call → Cursor × Session σ → Prop
  | [], _ => True
  | call :: rest, state =>
      call.Forward state.1 ∧ Forward server rest (call.perform server state).2

/-- Calls that read forward give the same on a cursor in every session. -/
theorem trace_of_forward {calls : List Call} (forward : Forward server calls (cursor, session))
    (other : Session σ) :
    trace server calls (cursor, other) = trace server calls (cursor, session) := by
  induction calls generalizing cursor session with
  | nil => rfl
  | cons call rest induction =>
      obtain ⟨reply, after, done⟩ := Call.offline_of_forward server session forward.1
      have later := forward.2
      rw [done session] at later
      rw [trace, trace, done other, done session]
      exact congrArg (_ :: ·) (induction later)

/-! ## Calls that fail -/

theorem giving_eq_error {α β : Type} {action : Action σ α} {form : α → β} {error : SessionError}
    {state after : Cursor × Session σ} (failed : action.giving form state = (.error error, after)) :
    action state = (.error error, after) := by
  rw [Action.giving] at failed
  rcases done : action state with ⟨error' | value, after'⟩
  · rw [done] at failed
    obtain ⟨same, rfl⟩ := Prod.mk.inj failed
    rw [Except.error.inj same]
  · rw [done] at failed
    cases failed

/-- The cursor that a failed call leaves, and the run that failed. -/
def Refused (server : Server σ) (cursor : Cursor) (session : Session σ) (error : SessionError)
    (after : Cursor × Session σ) : Prop :=
  after.1 = cursor ∧
    Session.run server cursor.sql cursor.params session = (.error error, after.2)

section Refused

variable {error : SessionError} {after : Cursor × Session σ}

theorem refused_reexecute (failed : reexecute server (cursor, session) = (.error error, after)) :
    Refused server cursor session error after := by
  rw [reexecute] at failed
  split at failed
  · next error' rest ran =>
    cases failed
    exact ⟨rfl, ran⟩
  · cases failed

theorem refused_read (failed : read server index (cursor, session) = (.error error, after)) :
    Refused server cursor session error after := by
  by_cases atHand : cursor.AtHand index
  · obtain ⟨row?, left, done⟩ := offline_read server atHand
    rw [done] at failed
    cases failed
  · rw [(read_of_not_atHand server session atHand).2.2] at failed
    split at failed
    · next error' rest ran =>
      cases failed
      exact ⟨rfl, ran⟩
    · cases failed

theorem refused_next (failed : next server (cursor, session) = (.error error, after)) :
    Refused server cursor session error after := by
  rw [next] at failed
  split at failed
  · cases failed
  · exact refused_read failed

theorem refused_rowAt (failed : rowAt server index (cursor, session) = (.error error, after)) :
    Refused server cursor session error after := by
  rw [rowAt] at failed
  split at failed
  · exact refused_read failed
  · cases failed

end Refused

/-- A call that reads one row, or runs the statement, fails only where the statement does. Then the
cursor is what it was, its answer, its counts and its kept row included, whatever became of the
session, and calls that read forward give what they would have given without the failed call. -/
theorem trace_of_refused {call : Call} (single : call.Single) {error : SessionError}
    {after : Cursor × Session σ}
    (failed : call.perform server (cursor, session) = (.error error, after)) :
    after.1 = cursor ∧
      Session.run server cursor.sql cursor.params session = (.error error, after.2) ∧
      ∀ calls, Forward server calls (cursor, session) →
        trace server calls after = trace server calls (cursor, session) := by
  have refused : Refused server cursor session error after := by
    cases call with
    | next => exact refused_next (giving_eq_error failed)
    | current => exact refused_read (giving_eq_error failed)
    | rowAt index => exact refused_rowAt (giving_eq_error failed)
    | reexecute => exact refused_reexecute (giving_eq_error failed)
    | first | last | seek | rewind | fetchAll | toMaps => exact single.elim
  obtain ⟨rfl, ran⟩ := refused
  exact ⟨rfl, ran, fun calls forward => trace_of_forward forward after.2⟩

/-- A row passed before is asked for while the statement fails, and the rows ahead are read on. -/
theorem trace_of_refused_rowAt :
    let row (id : Int64) : Row := ⟨["id"], [.int id]⟩
    let error : ServerError := ⟨some "1", "no such table: t", false⟩
    let cursor : Cursor :=
      { answer := ⟨["id"], [[.int 3]], 3, none⟩, sql := "SELECT id FROM t", params := .none,
        consumed := 2, position := 2, cached? := some (1, row 2) }
    let session : Session Script :=
      { settings := { driver := "sqlite" }, dialect := .sqlite,
        state := { breakdowns := [⟨"SELECT", error, 1⟩] }, connection := 1, depth := 0,
        policy := .disabled, insertId? := none, journal? := none }
    let failed := Call.perform Script.server (.rowAt 0) (cursor, session)
    failed.1 = .error (.server error) ∧ failed.2.1 = cursor ∧
      trace Script.server [.rowAt 1, .next, .next] failed.2 =
        [(.ok (.row (some (row 2))), 2), (.ok (.row (some (row 3))), 3), (.ok (.row none), 3)] := by
  intro row error cursor session failed
  have reported : Script.fail? cursor.sql session.state.breakdowns = some (error, []) := by decide
  obtain ⟨state, executed⟩ :
      ∃ state, Script.server.execute 1 cursor.sql [] session.state = (.error error, state) := by
    refine ⟨_, Prod.ext ?_ rfl⟩
    change (Script.execute 1 cursor.sql [] session.state).1 = _
    rw [Script.execute, reported]
  have ran : Session.run Script.server cursor.sql cursor.params session = _ :=
    Session.persist_of_other false executed (by decide)
  have behind : ¬cursor.AtHand 0 := by simp [AtHand, cursor]
  have refused : failed = (.error (.server error), cursor,
      session.recorded cursor.sql [] (.error error) state) := by
    have missed := (read_of_not_atHand Script.server session behind).2.2
    rw [ran] at missed
    simp only [failed, Call.perform, Action.giving, rowAt, missed]
    rfl
  have single : (Call.rowAt 0).Single := trivial
  have kept := trace_of_refused single refused
  rw [refused]
  refine ⟨rfl, rfl, (kept.2.2 [.rowAt 1, .next, .next] ?_).trans rfl⟩
  exact ⟨fun _ => .inl rfl, .inr (by decide), .inr (by decide), trivial⟩

end Cursor

end SqlClient
