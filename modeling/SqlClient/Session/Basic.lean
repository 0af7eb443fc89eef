import SqlClient.Monitor
import SqlClient.Placeholder
import SqlClient.Server
import SqlClient.Session.Error

/-!
# Sessions

A session owns one connection and runs statements on it one at a time. Every attempt is recorded
for the monitor. Lock contention outside a transaction is met by another attempt, a lost connection
by a new one if the policy allows; inside a transaction either ends the transaction.
-/

namespace SqlClient

/-- A session with a server. -/
structure Session (σ : Type) where
  /-- How it connects. -/
  settings : Settings
  /-- The dialect of its server. -/
  dialect : Dialect
  state : σ
  /-- The connection it holds. -/
  connection : Nat
  /-- The number of open transaction levels, of which fewer than `2 ^ 32` are assumed. -/
  depth : Nat
  /-- What it does when its connection is lost. -/
  policy : ReconnectPolicy
  /-- The id that the last insertion generated. -/
  insertId? : Option Int64
  /-- The attempts so far, the latest last, if a monitor is installed. -/
  journal? : Option (List Event)

namespace Session

variable {σ : Type}

/-- A call of a session: its result or error, and the session after it. -/
abbrev Action (σ α : Type) := ExceptT SessionError (StateM (Session σ)) α

/-- A new session on a new connection, or the error and the state of the server after it. -/
def start (server : Server σ) (settings : Settings) (state : σ) :
    Except (SessionError × σ) (Session σ) :=
  match settings.dialect with
  | .error error => .error (.settings error, state)
  | .ok dialect =>
      match server.connect settings state with
      | (.error error, state) => .error (.server error, state)
      | (.ok connection, state) =>
          .ok { settings, dialect, state, connection, depth := 0, policy := .disabled,
                insertId? := none, journal? := none }

def setPolicy (session : Session σ) (policy : ReconnectPolicy) : Session σ :=
  { session with policy }

/-- The session with a monitor that has seen nothing. -/
def installMonitor (session : Session σ) : Session σ :=
  { session with journal? := some [] }

/-- What the monitor has seen, and the session with a monitor that has seen nothing since. -/
def takeJournal (session : Session σ) : List Event × Session σ :=
  (session.journal?.getD [], { session with journal? := session.journal?.map fun _ => [] })

def inTransaction (session : Session σ) : Bool :=
  0 < session.depth

/-- A new connection in place of the old one, whose transaction is gone. -/
def reconnect (server : Server σ) : Action σ Unit := fun session =>
  match server.connect session.settings session.state with
  | (.error error, state) => (.error (.server error), { session with state })
  | (.ok connection, state) => (.ok (), { session with connection, state, depth := 0 })

/-! ## Attempts -/

/-- What the monitor sees of an attempt's result. -/
def outcomeOf : Except ServerError Answer → Outcome
  | .error error => .error error.text
  | .ok answer =>
      if answer.columns.isEmpty then .affected answer.rowCount else .rows answer.rowCount

/-- One attempt to run a text with positional values on the connection held. -/
def attempt (server : Server σ) (sql : String) (values : List Scalar) (session : Session σ) :
    Except ServerError Answer × Session σ :=
  let (result, state) := server.execute session.connection sql values session.state
  (result, { session with
    state
    journal? := session.journal?.map (· ++ [⟨sql, values, outcomeOf result⟩]) })

/-- The session after attempts to connect until one succeeds. -/
def reconnectUntil (server : Server σ) (session : Session σ) : Session σ :=
  match _connected : server.connect session.settings session.state with
  | (.ok connection, state) => { session with connection, state, depth := 0 }
  | (.error _, state) => reconnectUntil server { session with state }
termination_by server.unrest session.state
decreasing_by exact server.unrest_refused _connected

theorem unrest_reconnectUntil_le (server : Server σ) (session : Session σ) :
    server.unrest (reconnectUntil server session).state ≤ server.unrest session.state := by
  fun_induction reconnectUntil server session with
  | case1 _ _ _ connected => exact server.unrest_connected connected
  | case2 _ _ _ refused ih => exact Nat.le_trans ih (Nat.le_of_lt (server.unrest_refused refused))

/-- The session after its transaction is given up: what the server still holds of it is rolled
back, whether that succeeds or not. -/
def abandon (server : Server σ) (session : Session σ) : Session σ :=
  (attempt server "ROLLBACK" [] { session with depth := 0 }).2

/-- The session with the id of an answer, if it has one. -/
def noteInsertId (answer : Answer) (session : Session σ) : Session σ :=
  { session with insertId? := answer.insertId?.or session.insertId? }

theorem unrest_attempt_lt {server : Server σ} {sql : String} {values : List Scalar}
    {session after : Session σ} {error : ServerError} {dialect : Dialect}
    (failed : attempt server sql values session = (.error error, after))
    (recoverable : error.failure dialect ≠ .other) :
    server.unrest after.state < server.unrest session.state := by
  cases executed : server.execute session.connection sql values session.state with
  | mk result state =>
    simp only [attempt, executed, Prod.mk.injEq] at failed
    obtain ⟨rfl, rfl⟩ := failed
    exact server.unrest_failed executed recoverable

/-- Attempts until one succeeds or fails for good. Inside a transaction there is no second attempt
of the same text. -/
def persist (server : Server σ) (sql : String) (values : List Scalar) (inTransaction : Bool)
    (session : Session σ) : Except SessionError Answer × Session σ :=
  match _attempted : attempt server sql values session with
  | (.ok answer, after) => (.ok answer, noteInsertId answer after)
  | (.error error, after) =>
      match _kind : error.failure session.dialect with
      | .other => (.error (.server error), after)
      | .lockContention =>
          if inTransaction then
            (.error (.transactionLost .contention error), abandon server after)
          else persist server sql values false after
      | .connectionLost =>
          match session.policy with
          | .disabled => (.error (.server error), after)
          | .unbounded _ =>
              if inTransaction then
                (.error (.transactionLost .reconnect error), reconnectUntil server after)
              else persist server sql values false (reconnectUntil server after)
termination_by server.unrest session.state
decreasing_by
  · exact unrest_attempt_lt _attempted (by rw [_kind]; decide)
  · exact Nat.lt_of_le_of_lt (unrest_reconnectUntil_le server after)
      (unrest_attempt_lt _attempted (by rw [_kind]; decide))

/-- A text run with its parameters bound, where a failure would or would not lose a transaction. -/
def runAs (server : Server σ) (inTransaction : Bool) (sql : String) (params : Params) :
    Action σ Answer := fun session =>
  match params.bind session.dialect sql with
  | .error unbound => (.error (.missingParameter unbound.name), session)
  | .ok (sql, values) => persist server sql values inTransaction session

/-- A text run with its parameters bound. -/
def run (server : Server σ) (sql : String) (params : Params) : Action σ Answer := fun session =>
  runAs server session.inTransaction sql params session

/-- The number of rows that a text affects or returns. -/
def exec (server : Server σ) (sql : String) (params : Params) : Action σ Nat := do
  return (← run server sql params).rowCount

end Session

end SqlClient
