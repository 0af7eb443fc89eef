import SqlClient.Proofs.Attempt

/-!
# Exchanges with a server

A server that takes notes of what it is asked. The notes may be all exchanges, from which what a
session did is read off, or the texts with the states that they met.
-/

namespace SqlClient

variable {σ : Type}

/-- Something asked of a server, and its answer. -/
inductive Exchange where
  /-- A new connection. -/
  | connected (result : Except ServerError Nat)
  /-- A statement on a connection. -/
  | executed (connection : Nat) (sql : String) (values : List Scalar)
      (result : Except ServerError Answer)

/-- The server with notes in its states, of attempts to connect and of statements, the latest
last. -/
def Server.noting {ν : Type} (server : Server σ) (connected : Except ServerError Nat → List ν)
    (executed : σ → Nat → String → List Scalar → Except ServerError Answer → List ν) :
    Server (σ × List ν) where
  connect settings state :=
    let (result, after) := server.connect settings state.1
    (result, after, state.2 ++ connected result)
  execute connection sql values state :=
    let (result, after) := server.execute connection sql values state.1
    (result, after, state.2 ++ executed state.1 connection sql values result)
  unrest state := server.unrest state.1
  unrest_connected := by
    intro _ _ _ _ connected
    simp only [Prod.ext_iff] at connected
    exact server.unrest_connected (Prod.ext connected.1 connected.2.1)
  unrest_refused := by
    intro _ _ _ _ refused
    simp only [Prod.ext_iff] at refused
    exact server.unrest_refused (Prod.ext refused.1 refused.2.1)
  unrest_failed := by
    intro _ _ _ _ _ _ _ failed
    simp only [Prod.ext_iff] at failed
    exact server.unrest_failed (Prod.ext failed.1 failed.2.1)

/-- The server with all exchanges in its states. -/
def Server.logged (server : Server σ) : Server (σ × List Exchange) :=
  server.noting (fun result => [.connected result])
    fun _ connection sql values result => [.executed connection sql values result]

/-- The server with every text that it was sent, and the state that the text met. -/
def Server.watched (server : Server σ) : Server (σ × List (σ × String)) :=
  server.noting (fun _ => []) fun state _ sql _ _ => [(state, sql)]

/-- Answers to come, whatever is asked. Any finite course of answers is one. -/
structure Tape where
  /-- The answers to attempts to connect. -/
  connections : List (Except ServerError Nat)
  /-- The answers to statements. -/
  answers : List (Except ServerError Answer)

/-- The server that answers from tapes; behind the end of one it fails no more. -/
def Tape.server : Server Tape where
  connect _ tape :=
    match tape.connections with
    | [] => (.ok 0, tape)
    | result :: rest => (result, { tape with connections := rest })
  execute _ _ _ tape :=
    match tape.answers with
    | [] => (.ok (.affected 0 none), tape)
    | result :: rest => (result, { tape with answers := rest })
  unrest tape := tape.connections.length + tape.answers.length
  unrest_connected := by
    intro _ tape _ _ connected
    split at connected
    · obtain ⟨-, rfl⟩ := Prod.mk.inj connected
      exact Nat.le_refl _
    · next result rest ahead =>
      obtain ⟨-, rfl⟩ := Prod.mk.inj connected
      simp only [ahead, List.length_cons]
      omega
  unrest_refused := by
    intro _ tape _ _ refused
    split at refused
    · simp at refused
    · next result rest ahead =>
      obtain ⟨-, rfl⟩ := Prod.mk.inj refused
      simp only [ahead, List.length_cons]
      omega
  unrest_failed := by
    intro _ _ _ tape _ _ _ failed _
    split at failed
    · simp at failed
    · next result rest ahead =>
      obtain ⟨-, rfl⟩ := Prod.mk.inj failed
      simp only [ahead, List.length_cons]
      omega

namespace Session

/-- The exchanges of a session so far. -/
def exchanges (session : Session (σ × List Exchange)) : List Exchange :=
  session.state.2

/-- Attempts to connect that were all refused, and the one that was not. -/
def connecting (refusals : List ServerError) (connection : Nat) : List Exchange :=
  refusals.map (fun error => .connected (.error error)) ++ [.connected (.ok connection)]

theorem connect_logged {server : Server σ} {settings : Settings} {state : σ × List Exchange}
    {result : Except ServerError Nat} {after : σ}
    (connected : server.connect settings state.1 = (result, after)) :
    server.logged.connect settings state = (result, after, state.2 ++ [.connected result]) := by
  simp only [Server.logged, Server.noting, connected]

theorem execute_logged {server : Server σ} {connection : Nat} {sql : String} {values : List Scalar}
    {state : σ × List Exchange} {result : Except ServerError Answer} {after : σ}
    (executed : server.execute connection sql values state.1 = (result, after)) :
    server.logged.execute connection sql values state =
      (result, after, state.2 ++ [.executed connection sql values result]) := by
  simp only [Server.logged, Server.noting, executed]

theorem execute_watched {server : Server σ} {connection : Nat} {sql : String} {values : List Scalar}
    {state : σ × List (σ × String)} {result : Except ServerError Answer} {after : σ}
    (executed : server.execute connection sql values state.1 = (result, after)) :
    server.watched.execute connection sql values state =
      (result, after, state.2 ++ [(state.1, sql)]) := by
  simp only [Server.watched, Server.noting, executed]

/-- Connecting again is refused a number of times and then succeeds; nothing is executed. -/
theorem reconnectUntil_logged (server : Server σ) (session : Session (σ × List Exchange)) :
    ∃ refusals connection,
      (reconnectUntil server.logged session).exchanges =
          session.exchanges ++ connecting refusals connection ∧
        (reconnectUntil server.logged session).connection = connection ∧
        (reconnectUntil server.logged session).depth = 0 := by
  fun_induction reconnectUntil server.logged session with
  | case1 session connection state connected =>
      refine ⟨[], connection, ?_, rfl, rfl⟩
      simp only [Server.logged, Server.noting, Prod.mk.injEq] at connected
      obtain ⟨answered, rfl⟩ := connected
      simp [exchanges, connecting, answered]
  | case2 session error state refused induction =>
      obtain ⟨refusals, connection, noted, held, closed⟩ := induction
      refine ⟨error :: refusals, connection, ?_, held, closed⟩
      simp only [Server.logged, Server.noting, Prod.mk.injEq] at refused
      obtain ⟨answered, rfl⟩ := refused
      simpa [exchanges, connecting, answered] using noted

/-- Giving up a transaction takes one attempt. -/
theorem abandon_logged (server : Server σ) (session : Session (σ × List Exchange)) :
    ∃ answer, (abandon server.logged session).exchanges =
        session.exchanges ++ [.executed session.connection "ROLLBACK" [] answer] ∧
      (abandon server.logged session).depth = 0 :=
  ⟨(server.execute session.connection "ROLLBACK" [] session.state.1).1, rfl, rfl⟩

end Session

end SqlClient
