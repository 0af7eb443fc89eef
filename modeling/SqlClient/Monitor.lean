import SqlClient.Scalar

/-!
# Monitoring

Every attempt to run a statement is an event. A report turns an event and its duration into a log
record, with long texts shortened and slow statements raised to a warning.
-/

namespace SqlClient

/-- How an attempt ended. -/
inductive Outcome where
  | rows (count : Nat)
  | affected (count : Nat)
  | error (text : String)
  deriving DecidableEq, Repr

/-- An attempt to run a statement. -/
structure Event where
  sql : String
  /-- The positional values sent. -/
  values : List Scalar
  outcome : Outcome
  deriving DecidableEq, Repr

/-- The weight of a log record. -/
inductive LogLevel where
  | error
  | warn
  | info
  | debug
  | trace
  deriving DecidableEq, Repr

def LogLevel.name : LogLevel → String
  | .error => "ERROR"
  | .warn => "WARN"
  | .info => "INFO"
  | .debug => "DEBUG"
  | .trace => "TRACE"

/-- All levels, the heaviest first. -/
def LogLevel.all : List LogLevel :=
  [.error, .warn, .info, .debug, .trace]

def LogLevel.ofName? (name : String) : Option LogLevel :=
  LogLevel.all.find? fun level => level.name = name

/-- A log record about an attempt. -/
structure LogRecord where
  level : LogLevel
  /-- The text, perhaps shortened. -/
  sql : String
  valueCount : Nat
  /-- The whole milliseconds it took. -/
  elapsedMillis : Nat
  /-- It took as long as counts as slow. -/
  slow : Bool
  outcome : Outcome
  deriving DecidableEq, Repr

/-- How attempts are reported. -/
structure Reporter where
  /-- The weight of ordinary records. -/
  level : LogLevel := .info
  /-- The greatest number of characters of a text. -/
  maxLength? : Option Nat := some 200
  /-- The microseconds from which an attempt is slow. -/
  slowMicros? : Option Nat := none
  deriving DecidableEq, Repr

namespace Reporter

/-- The name under which records are written. -/
def target : String := "oxide_driver.sql"

/-- A text cut to the greatest length, with dots where something was cut. -/
def shorten (reporter : Reporter) (sql : String) : String :=
  match reporter.maxLength? with
  | none => sql
  | some most =>
      if most < sql.toList.length then String.ofList (sql.toList.take most) ++ "..." else sql

/-- The record about an attempt that took some microseconds. -/
def report (reporter : Reporter) (event : Event) (elapsedMicros : Nat) : LogRecord :=
  let slow := reporter.slowMicros?.any (· ≤ elapsedMicros)
  { level := if slow then .warn else reporter.level
    sql := reporter.shorten event.sql
    valueCount := event.values.length
    elapsedMillis := elapsedMicros / 1000
    slow
    outcome := event.outcome }

end Reporter

end SqlClient
