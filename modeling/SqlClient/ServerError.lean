import SqlClient.Decimal.Reader
import SqlClient.Dialect

/-!
# Failures of a server

What a server or the transport below it reports when a statement fails, and how a session may
recover from it.
-/

namespace SqlClient

/-- A failure reported by a server or the transport below it. -/
structure ServerError where
  /-- The code of the vendor. -/
  code? : Option String
  message : String
  /-- The failure happened below the server, so the connection is gone. -/
  transport : Bool
  deriving DecidableEq, Repr

/-- How a session may recover from a failure. -/
inductive Failure where
  /-- By trying again: another session holds a lock. -/
  | lockContention
  /-- By a new connection: the old one is gone. -/
  | connectionLost
  /-- Not at all. -/
  | other
  deriving DecidableEq, Repr

namespace ServerError

/-- The failure without a code that the transport reports. -/
def ofTransport (message : String) : ServerError :=
  ⟨none, message, true⟩

/-- Codes that MySQL reports. -/
def mysqlFailure (code : String) : Failure :=
  if code = "1213" ∨ code = "1205" ∨ code = "40001" then .lockContention
  else if code = "2006" ∨ code = "2013" ∨ code = "08S01" then .connectionLost
  else .other

/-- Codes that PostgreSQL reports; the class 08 is about connections. -/
def postgresFailure (code : String) : Failure :=
  if code = "40P01" ∨ code = "40001" ∨ code = "55P03" then .lockContention
  else if code = "57P01" ∨ ['0', '8'].isPrefixOf code.toList then .connectionLost
  else .other

/-- Codes that SQLite reports; extended codes hold the primary code in their low byte. -/
def sqliteFailure (code : String) : Failure :=
  match Decimal.readInt64? code with
  | some value =>
      if value.toInt % 256 = 5 ∨ value.toInt % 256 = 6 then .lockContention else .other
  | none => .other

/-- How a session may recover from a failure. -/
def failure (error : ServerError) (dialect : Dialect) : Failure :=
  if error.transport then .connectionLost
  else
    match error.code? with
    | none => .other
    | some code =>
        match dialect with
        | .mysql => mysqlFailure code
        | .postgres => postgresFailure code
        | .sqlite => sqliteFailure code

/-- The text of a failure: its code between brackets, if any, and its message. -/
def text (error : ServerError) : String :=
  match error.code? with
  | some code => "[" ++ code ++ "] " ++ error.message
  | none => error.message

end ServerError

end SqlClient
