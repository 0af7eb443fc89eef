import SqlClient.ServerError
import SqlClient.Settings.Basic
import SqlClient.Statement.Error

/-!
# Errors of sessions

Everything that a call of a session or a cursor may fail with, and the message of each.
-/

namespace SqlClient

/-- Why an open transaction was given up. -/
inductive LossReason where
  /-- A lock was held by another session. -/
  | contention
  /-- The connection was replaced. -/
  | reconnect
  deriving DecidableEq, Repr

/-- Why a call failed. -/
inductive SessionError where
  /-- The statement cannot be built or rendered. -/
  | statement (error : StatementError)
  /-- The settings cannot be used. -/
  | settings (error : SettingsError)
  /-- The open transaction is gone. -/
  | transactionLost (reason : LossReason) (source : ServerError)
  /-- There is no level to finish. -/
  | noActiveTransaction
  /-- The server failed in a way from which the session does not recover. -/
  | server (error : ServerError)
  /-- A named placeholder has no value. -/
  | missingParameter (name : String)
  /-- A column that a row does not have. -/
  | unknownColumn (column : String)
  /-- A fetch that cannot be answered. -/
  | invalidFetch (detail : String)
  deriving DecidableEq, Repr

namespace SessionError

def lossText (source : ServerError) : LossReason → String
  | .contention => "lock contention inside a transaction: " ++ source.message
  | .reconnect => "Lost transaction during reconnect"

def message : SessionError → String
  | .statement error => error.message
  | .settings error => error.message
  | .transactionLost reason source => "transaction lost: " ++ lossText source reason
  | .noActiveTransaction => "no active transaction"
  | .server error => "Database error: " ++ error.text
  | .missingParameter name => "missing value for parameter :" ++ name
  | .unknownColumn column => "unknown column: " ++ column
  | .invalidFetch detail => "invalid fetch: " ++ detail

/-- The error tells that the open transaction is gone. -/
def isTransactionLost : SessionError → Bool
  | .transactionLost _ _ => true
  | _ => false

end SessionError

end SqlClient
