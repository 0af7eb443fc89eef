import SqlClient.Row
import SqlClient.ServerError
import SqlClient.Settings.Basic

/-!
# Servers

What a session talks to: a server opens connections and answers statements, changing a state of its
own. A session tries again after contention and connects again after a loss, so a server may fail
in these ways only finitely often in a row. The number of failures still to come is bounded by a
measure of its state.
-/

namespace SqlClient

/-- A server with states of one type. -/
structure Server (σ : Type) where
  /-- A new connection, given by its number. -/
  connect : Settings → σ → Except ServerError Nat × σ
  /-- A statement with positional values, run on a connection. -/
  execute : Nat → String → List Scalar → σ → Except ServerError Answer × σ
  /-- A bound on the refused connections and recoverable failures to come in a row. -/
  unrest : σ → Nat
  /-- A connection does not raise the bound. -/
  unrest_connected : ∀ {settings state connection after},
    connect settings state = (.ok connection, after) → unrest after ≤ unrest state
  /-- A refused connection lowers the bound. -/
  unrest_refused : ∀ {settings state error after},
    connect settings state = (.error error, after) → unrest after < unrest state
  /-- A recoverable failure lowers the bound. -/
  unrest_failed : ∀ {connection sql values state error after} {dialect : Dialect},
    execute connection sql values state = (.error error, after) →
      error.failure dialect ≠ .other → unrest after < unrest state

/-- The server with a further value in its states, which it leaves alone. -/
def Server.carrying {σ : Type} (server : Server σ) (τ : Type) : Server (σ × τ) where
  connect settings state :=
    ((server.connect settings state.1).1, (server.connect settings state.1).2, state.2)
  execute connection sql values state :=
    ((server.execute connection sql values state.1).1,
      (server.execute connection sql values state.1).2, state.2)
  unrest state := server.unrest state.1
  unrest_connected := by
    intro _ _ _ _ connected
    simp only [Prod.ext_iff] at connected
    exact server.unrest_connected (Prod.ext connected.1 connected.2.1)
  unrest_refused := by
    intro _ _ _ _ refused
    simp only [Prod.ext_iff] at refused
    exact server.unrest_refused (Prod.ext refused.1 refused.2.1)
  unrest_failed := by
    intro _ _ _ _ _ _ _ failed
    simp only [Prod.ext_iff] at failed
    exact server.unrest_failed (Prod.ext failed.1 failed.2.1)

end SqlClient
