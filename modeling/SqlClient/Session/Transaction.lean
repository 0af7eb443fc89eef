import SqlClient.Session.Basic

/-!
# Transactions

Levels of transactions: the first is a transaction of the server, the levels inside it are
savepoints named by their depth. A level opened without nesting only counts.
-/

namespace SqlClient

namespace Session

variable {σ : Type}

/-- The savepoint of a level. -/
def savepoint (level : Nat) : String :=
  "trans" ++ toString level

/-- How a level is finished. -/
inductive Finish where
  /-- Its changes are kept. -/
  | commit
  /-- Its changes are undone. -/
  | rollback
  deriving DecidableEq, Repr

/-- The text that opens a level, if one is sent. -/
def beginText? (dialect : Dialect) (level : Nat) (nesting : Bool) : Option String :=
  if level = 1 then some dialect.beginText
  else if nesting then some ("SAVEPOINT " ++ savepoint level)
  else none

/-- The text that finishes a level, if one is sent. -/
def Finish.text? (finish : Finish) (level : Nat) (nesting : Bool) : Option String :=
  match finish with
  | .commit =>
      if level = 1 then some "COMMIT"
      else if nesting then some ("RELEASE SAVEPOINT " ++ savepoint level)
      else none
  | .rollback =>
      if level = 1 then some "ROLLBACK"
      else if nesting then some ("ROLLBACK TO SAVEPOINT " ++ savepoint level)
      else none

/-- A further level, and whether a text was sent for it. -/
def begin (server : Server σ) (nesting : Bool) : Action σ Bool := fun session =>
  let level := session.depth + 1
  match beginText? session.dialect level nesting with
  | none => (.ok false, { session with depth := level })
  | some text =>
      match runAs server (session.depth ≠ 0) text .none session with
      | (.error error, after) => (.error error, after)
      | (.ok _, after) => (.ok true, { after with depth := level })

/-- The innermost level finished, and whether a text was sent for it. The level counts as finished
even when the text fails. -/
def finish (server : Server σ) (way : Finish) (nesting : Bool) : Action σ Bool := fun session =>
  match session.depth with
  | 0 => (.error .noActiveTransaction, session)
  | depth + 1 =>
      match way.text? (depth + 1) nesting with
      | none => (.ok false, { session with depth })
      | some text =>
          match runAs server true text .none { session with depth } with
          | (.error error, after) => (.error error, after)
          | (.ok _, after) => (.ok true, after)

/-- The innermost level finished with its changes kept. -/
def commit (server : Server σ) (nesting : Bool) : Action σ Bool :=
  finish server .commit nesting

/-- The innermost level finished with its changes undone. -/
def rollback (server : Server σ) (nesting : Bool) : Action σ Bool :=
  finish server .rollback nesting

/-- A body run inside a level of its own, which is committed when the body succeeds and rolled back
when it fails. The error of the body stands, whatever the rollback comes to. -/
def transaction {α : Type} (server : Server σ) (body : Action σ α) : Action σ α := fun session =>
  match begin server true session with
  | (.error error, after) => (.error error, after)
  | (.ok _, after) =>
      match body after with
      | (.ok value, after) =>
          match commit server true after with
          | (.error error, after) => (.error error, after)
          | (.ok _, after) => (.ok value, after)
      | (.error error, after) =>
          if 0 < after.depth ∧ !error.isTransactionLost then
            (.error error, (rollback server true after).2)
          else (.error error, after)

end Session

end SqlClient
