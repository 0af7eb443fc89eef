import SqlClient.Server

/-!
# Scripted servers

A server that answers from a script: statements are told apart by fragments of their text, with an
answer or a number of failures for each fragment. It keeps a log of the statements it was sent.
Sessions can be tried on it without a database.
-/

namespace SqlClient

/-- An answer for statements that hold a fragment. -/
structure Response where
  fragment : String
  answer : Answer
  deriving DecidableEq, Repr

/-- Failures for statements that hold a fragment. -/
structure Breakdown where
  fragment : String
  error : ServerError
  /-- How often the failure is still to come. -/
  times : Nat
  deriving DecidableEq, Repr

/-- A statement that was sent. -/
structure LogEntry where
  connection : Nat
  sql : String
  values : List Scalar
  deriving DecidableEq, Repr

/-- The state of a scripted server. -/
structure Script where
  attempts : Nat := 0
  /-- The number of connections opened, which is the number of the latest. -/
  opened : Nat := 0
  /-- The number of attempts still to be refused. -/
  refusals : Nat := 0
  /-- The answers, of which the latest that fits is given. -/
  responses : List Response := []
  /-- The failures, of which the first that fits is reported before any answer. -/
  breakdowns : List Breakdown := []
  /-- The statements sent, the latest last. -/
  log : List LogEntry := []
  deriving DecidableEq, Repr

namespace Script

def holds (fragment : List Char) : List Char → Bool
  | [] => fragment.isEmpty
  | char :: rest => fragment.isPrefixOf (char :: rest) || holds fragment rest

/-- A statement holds a fragment. -/
def fits (sql fragment : String) : Bool :=
  holds fragment.toList sql.toList

/-- The first failure that fits a statement, and the failures left after it was reported. -/
def fail? (sql : String) : List Breakdown → Option (ServerError × List Breakdown)
  | [] => none
  | breakdown :: rest =>
      if fits sql breakdown.fragment then
        if breakdown.times ≤ 1 then some (breakdown.error, rest)
        else some (breakdown.error, { breakdown with times := breakdown.times - 1 } :: rest)
      else (fail? sql rest).map fun (error, left) => (error, breakdown :: left)

/-- The answer to a statement that does not fail: the latest that fits, or one affected row. -/
def answerOf (script : Script) (sql : String) : Answer :=
  match script.responses.reverse.find? fun response => fits sql response.fragment with
  | some response => response.answer
  | none => .affected 1 none

/-- A further answer. -/
def respond (script : Script) (response : Response) : Script :=
  { script with responses := script.responses ++ [response] }

/-- Further failures. -/
def breakOn (script : Script) (breakdown : Breakdown) : Script :=
  { script with breakdowns := script.breakdowns ++ [breakdown] }

/-- A number of attempts to connect to be refused. -/
def refuse (script : Script) (count : Nat) : Script :=
  { script with refusals := count }

/-- The script with an empty log. -/
def clearLog (script : Script) : Script :=
  { script with log := [] }

def connect (script : Script) : Except ServerError Nat × Script :=
  match script.refusals with
  | 0 => (.ok (script.opened + 1),
      { script with attempts := script.attempts + 1, opened := script.opened + 1 })
  | left + 1 => (.error (.ofTransport "connection refused"),
      { script with attempts := script.attempts + 1, refusals := left })

/-- A statement that was sent, put into the log. -/
def note (script : Script) (entry : LogEntry) : Script :=
  { script with log := script.log ++ [entry] }

def execute (connection : Nat) (sql : String) (values : List Scalar) (script : Script) :
    Except ServerError Answer × Script :=
  match fail? sql script.breakdowns with
  | some (error, left) =>
      (.error error, { script.note ⟨connection, sql, values⟩ with breakdowns := left })
  | none => (.ok (script.answerOf sql), script.note ⟨connection, sql, values⟩)

/-- A bound on the reports of failures. -/
def reports : List Breakdown → Nat
  | [] => 0
  | breakdown :: rest => breakdown.times + 1 + reports rest

/-- A bound on the refusals and failures to come. -/
def unrest (script : Script) : Nat :=
  script.refusals + reports script.breakdowns

/-- A reported failure is one less to come. -/
theorem reports_fail?_lt {sql : String} {breakdowns left : List Breakdown} {error : ServerError}
    (failed : fail? sql breakdowns = some (error, left)) : reports left < reports breakdowns := by
  induction breakdowns generalizing left with
  | nil => simp [fail?] at failed
  | cons breakdown rest ih =>
    unfold fail? at failed
    split at failed
    · split at failed
      · simp only [Option.some.injEq, Prod.mk.injEq] at failed
        obtain ⟨-, rfl⟩ := failed
        simp only [reports]
        omega
      · simp only [Option.some.injEq, Prod.mk.injEq] at failed
        obtain ⟨-, rfl⟩ := failed
        simp only [reports]
        omega
    · obtain ⟨⟨error', left'⟩, found, same⟩ := Option.map_eq_some_iff.1 failed
      simp only [Prod.mk.injEq] at same
      obtain ⟨rfl, rfl⟩ := same
      have := ih found
      simp only [reports]
      omega

/-- The server that answers from scripts. -/
def server : Server Script where
  connect _ script := script.connect
  execute := execute
  unrest := unrest
  unrest_connected := by
    intro _ state _ after connected
    simp only [connect] at connected
    split at connected
    · simp only [Prod.mk.injEq] at connected
      obtain ⟨-, rfl⟩ := connected
      exact Nat.le_refl _
    · simp at connected
  unrest_refused := by
    intro _ state _ after refused
    simp only [connect] at refused
    split at refused
    · simp at refused
    · next left count =>
      simp only [Prod.mk.injEq] at refused
      obtain ⟨-, rfl⟩ := refused
      simp only [unrest, count]
      omega
  unrest_failed := by
    intro connection sql values state error after _ failed _
    simp only [execute] at failed
    split at failed
    · next reported =>
      simp only [Prod.mk.injEq] at failed
      obtain ⟨-, rfl⟩ := failed
      simp only [unrest, note]
      have := reports_fail?_lt reported
      omega
    · simp at failed

end Script

end SqlClient
