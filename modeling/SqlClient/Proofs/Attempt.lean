import SqlClient.Cursor.Basic
import SqlClient.Session.Transaction

/-!
# Attempts of a session

What one attempt changes, what a run comes to once its first attempt is answered, and when a cursor
runs its statement again.
-/

namespace SqlClient

section Calls

variable {S α β : Type} {action : ExceptT SessionError (StateM S) α}
  {next : α → ExceptT SessionError (StateM S) β} {state after : S}

theorem run_bind (state : S) :
    (action >>= next) state =
      match action state with
      | (.ok value, after) => next value after
      | (.error error, after) => (.error error, after) := by
  change ExceptT.bindCont next (action state).1 (action state).2 = _
  rcases action state with ⟨error | value, after⟩ <;> rfl

namespace Session

/-- A call that succeeds is followed by the next one. -/
theorem bind_of_ok {value : α} (done : action state = (.ok value, after)) :
    (action >>= next) state = next value after := by
  rw [run_bind, done]

/-- A call that fails is not followed by another. -/
theorem bind_of_error {error : SessionError} (failed : action state = (.error error, after)) :
    (action >>= next) state = (.error error, after) := by
  rw [run_bind, failed]

end Session

end Calls

namespace Session

variable {σ : Type} {server : Server σ} {sql : String} {values : List Scalar}
  {session : Session σ}

/-- The session after an attempt that left the server in a state. -/
def recorded (session : Session σ) (sql : String) (values : List Scalar)
    (result : Except ServerError Answer) (state : σ) : Session σ :=
  { session with
    state
    journal? := session.journal?.map (· ++ [⟨sql, values, outcomeOf result⟩]) }

theorem attempt_of_execute {result : Except ServerError Answer} {state : σ}
    (executed : server.execute session.connection sql values session.state = (result, state)) :
    attempt server sql values session = (result, session.recorded sql values result state) := by
  rw [attempt, executed]
  rfl

/-- A connection that is made ends the attempts to connect. -/
theorem reconnectUntil_of_connected {connection : Nat} {state : σ}
    (connected : server.connect session.settings session.state = (.ok connection, state)) :
    reconnectUntil server session = { session with connection, state, depth := 0 } := by
  rw [reconnectUntil]
  split <;> simp_all

/-- A refused connection is followed by another attempt. -/
theorem reconnectUntil_of_refused {error : ServerError} {state : σ}
    (refused : server.connect session.settings session.state = (.error error, state)) :
    reconnectUntil server session = reconnectUntil server { session with state } := by
  rw [reconnectUntil]
  split <;> simp_all

/-- A statement that is answered at the first attempt is not sent again. -/
theorem persist_of_answer {answer : Answer} {state : σ} (inTransaction : Bool)
    (executed : server.execute session.connection sql values session.state =
      (.ok answer, state)) :
    persist server sql values inTransaction session =
      (.ok answer, noteInsertId answer (session.recorded sql values (.ok answer) state)) := by
  rw [persist, attempt_of_execute executed]

/-- A text with its parameters bound that is answered at the first attempt. -/
theorem runAs_of_answer {text : String} {params : Params} {answer : Answer} {state : σ}
    (bound : params.bind session.dialect sql = .ok (text, values))
    (executed : server.execute session.connection text values session.state = (.ok answer, state))
    (inTransaction : Bool) :
    runAs server inTransaction sql params session =
      (.ok answer, noteInsertId answer (session.recorded text values (.ok answer) state)) := by
  rw [runAs, bound]
  exact persist_of_answer inTransaction executed

/-- A level whose text is answered at the first attempt is open. -/
theorem begin_of_answer {text : String} {answer : Answer} {state : σ} {nesting : Bool}
    (sent : beginText? session.dialect (session.depth + 1) nesting = some text)
    (executed : server.execute session.connection text [] session.state = (.ok answer, state)) :
    begin server nesting session =
      (.ok true, { noteInsertId answer (session.recorded text [] (.ok answer) state) with
        depth := session.depth + 1 }) := by
  simp only [begin, sent, runAs, Params.bind, persist_of_answer _ executed]

/-- What follows the first failed attempt of a run. -/
theorem persist_of_failure {inside : Bool} {after : Session σ} {error : ServerError}
    (failed : attempt server sql values session = (.error error, after)) :
    persist server sql values inside session =
      match error.failure session.dialect with
      | .other => (.error (.server error), after)
      | .lockContention =>
          if inside then (.error (.transactionLost .contention error), abandon server after)
          else persist server sql values false after
      | .connectionLost =>
          match session.policy with
          | .disabled => (.error (.server error), after)
          | .unbounded _ =>
              if inside then
                (.error (.transactionLost .reconnect error), reconnectUntil server after)
              else persist server sql values false (reconnectUntil server after) := by
  rw [persist, failed]
  dsimp only
  split
  · next kind => rw [kind]
  · next kind => rw [kind]
  · next kind => cases policy : session.policy <;> simp only [kind]

section Failures

variable {error : ServerError} {state : σ}

/-- A failure from which there is no recovery is reported as it is. -/
theorem persist_of_other (inTransaction : Bool)
    (executed : server.execute session.connection sql values session.state =
      (.error error, state)) (kind : error.failure session.dialect = .other) :
    persist server sql values inTransaction session =
      (.error (.server error), session.recorded sql values (.error error) state) := by
  simp only [persist_of_failure (attempt_of_execute executed), kind]

/-- Contention inside a transaction ends it with one further attempt, to roll back. -/
theorem persist_of_contention
    (executed : server.execute session.connection sql values session.state =
      (.error error, state)) (kind : error.failure session.dialect = .lockContention) :
    persist server sql values true session =
      (.error (.transactionLost .contention error),
        abandon server (session.recorded sql values (.error error) state)) := by
  simp only [persist_of_failure (attempt_of_execute executed), kind, if_true]

/-- A lost connection that is not replaced is reported as it is. -/
theorem persist_of_loss_disabled (inTransaction : Bool)
    (executed : server.execute session.connection sql values session.state =
      (.error error, state)) (kind : error.failure session.dialect = .connectionLost)
    (policy : session.policy = .disabled) :
    persist server sql values inTransaction session =
      (.error (.server error), session.recorded sql values (.error error) state) := by
  simp only [persist_of_failure (attempt_of_execute executed), kind, policy]

/-- A lost connection inside a transaction is replaced and the transaction is gone. -/
theorem persist_of_loss_unbounded {pause : Nat}
    (executed : server.execute session.connection sql values session.state =
      (.error error, state)) (kind : error.failure session.dialect = .connectionLost)
    (policy : session.policy = .unbounded pause) :
    persist server sql values true session =
      (.error (.transactionLost .reconnect error),
        reconnectUntil server (session.recorded sql values (.error error) state)) := by
  simp only [persist_of_failure (attempt_of_execute executed), kind, policy, if_true]

end Failures

end Session

namespace Cursor

variable {σ : Type} {server : Server σ} {cursor : Cursor} {session : Session σ} {index : Nat}

/-- The row read last is kept. -/
theorem read_of_cached {row : Row} (cached : cursor.cached? = some (index, row)) :
    read server index (cursor, session) = (.ok (some row), cursor, session) := by
  simp only [read, cached, if_true]

/-- Every other row is read from an answer. -/
theorem read_of_fresh (fresh : cursor.cached?.map Prod.fst ≠ some index) :
    read server index (cursor, session) = read.readAnew server index cursor session := by
  unfold read
  dsimp only
  split
  · next held row cached =>
    rw [if_neg]
    simpa [cached] using fresh
  · rfl

end Cursor

end SqlClient
