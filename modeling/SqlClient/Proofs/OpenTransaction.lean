import SqlClient.Proofs.Course

/-!
# Open transactions

While a session counts levels, the transaction that it began is open on the connection that it
holds: nothing that it did since ended it, and every statement since went to that connection.
-/

namespace SqlClient

/-- What may happen on a connection while its transaction stays open: statements, but no commit or
rollback that is answered, and attempts to connect that are refused. -/
def Exchange.Within (connection : Nat) : Exchange → Prop
  | .connected result => result.isOk = false
  | .executed other text _ result =>
      other = connection ∧ (text = "COMMIT" ∨ text = "ROLLBACK" → result.isOk = false)

/-- Statements go to no other connection. -/
def Exchange.On (connection : Nat) : Exchange → Prop
  | .connected _ => True
  | .executed other _ _ _ => other = connection

/-- A text that asks nothing of transactions ends none. -/
theorem Control.ne_of_plain (text : String) (plain : Control.ofText? text = none) :
    text ≠ "COMMIT" ∧ text ≠ "ROLLBACK" := by
  constructor
  · rintro rfl
    exact absurd plain (by decide)
  · rintro rfl
    exact absurd plain (by decide)

namespace Session

variable {σ : Type}

/-- A transaction was begun on a connection and is open since. -/
def OpenOn (dialect : Dialect) (connection : Nat) (exchanges : List Exchange) : Prop :=
  ∃ earlier answer later,
    exchanges = earlier ++ .executed connection dialect.beginText [] (.ok answer) :: later ∧
      ∀ exchange ∈ later, exchange.Within connection

theorem OpenOn.append {dialect : Dialect} {connection : Nat} {exchanges more : List Exchange}
    (isOpen : OpenOn dialect connection exchanges)
    (within : ∀ exchange ∈ more, exchange.Within connection) :
    OpenOn dialect connection (exchanges ++ more) := by
  obtain ⟨earlier, answer, later, rfl, before⟩ := isOpen
  refine ⟨earlier, answer, later ++ more, by simp, ?_⟩
  intro exchange member
  exact (List.mem_append.1 member).elim (before exchange) (within exchange)

/-- The levels that a session counts are levels of a transaction that is open on its connection. -/
structure Anchored (dialect : Dialect) (session : Session (σ × List Exchange)) : Prop where
  dialect_eq : session.dialect = dialect
  isOpen : 0 < session.depth → OpenOn dialect session.connection session.exchanges

section Steps

variable {server : Server σ} {plain : String → Prop} {dialect : Dialect}
  {session after : Session (σ × List Exchange)}

/-- A statement is noted behind the exchanges before it. -/
theorem exchanges_of_execute {text : String} {values : List Scalar}
    {result : Except ServerError Answer} {state : σ × List Exchange}
    (executed : server.logged.execute session.connection text values session.state =
      (result, state)) :
    state.2 = session.exchanges ++ [.executed session.connection text values result] := by
  simp only [Server.logged, Server.noting, Prod.mk.injEq] at executed
  obtain ⟨rfl, rfl⟩ := executed
  rfl

/-- A statement is settled outside a transaction: its answer is the last exchange. -/
theorem anchored_of_begun (same : session.dialect = dialect) (closed : session.depth = 0)
    {ran : Except SessionError Answer × Session (σ × List Exchange)}
    (settled : Settled server.logged dialect.beginText [] session ran) :
    Anchored dialect (opened 1 ran) := by
  cases settled with
  | @answered answer state executed =>
      refine ⟨same, fun _ => ⟨session.exchanges, answer, [], ?_, by simp⟩⟩
      exact exchanges_of_execute executed
  | failed executed final =>
      exact ⟨same, fun deep => absurd closed (Nat.pos_iff_ne_zero.1 deep)⟩

/-- A session outside a transaction has nothing to be open. -/
theorem anchored_of_closed (same : session.dialect = dialect) (closed : session.depth = 0) :
    Anchored dialect session :=
  ⟨same, fun deep => absurd closed (Nat.pos_iff_ne_zero.1 deep)⟩

theorem KeepsOpen.apart {text : String} (keeps : KeepsOpen plain text)
    (apart : ∀ text, plain text → text ≠ "COMMIT" ∧ text ≠ "ROLLBACK") :
    ¬(text = "COMMIT" ∨ text = "ROLLBACK") := by
  have different := keeps.elim (apart text) id
  rintro (same | same)
  · exact different.1 same
  · exact different.2 same

/-- No call makes a session lose sight of its transaction. -/
theorem Anchored.effect (apart : ∀ text, plain text → text ≠ "COMMIT" ∧ text ≠ "ROLLBACK")
    (effect : Effect server.logged plain session after) (anchored : Anchored dialect session) :
    Anchored dialect after := by
  obtain ⟨rfl, isOpen⟩ := anchored
  cases effect with
  | silent same => exact ⟨rfl, fun deep => isOpen (by simp only at deep; omega)⟩
  | @outside text values asked closed =>
      obtain ⟨last, ⟨same, outside⟩, settled⟩ := settled_outside server.logged text values closed
      obtain ⟨dialect_eq, depth_eq⟩ := settled.same
      exact anchored_of_closed (dialect_eq.trans same) (depth_eq.trans outside)
  | begun closed =>
      obtain ⟨last, ⟨same, outside⟩, settled⟩ :=
        settled_outside server.logged session.dialect.beginText [] closed
      exact anchored_of_begun same outside settled
  | @inside text values result state depth insertId? within keeps executed deep =>
      refine ⟨rfl, fun _ => ?_⟩
      have noted := exchanges_of_execute executed
      have more : ∀ exchange ∈ [Exchange.executed session.connection text values result],
          exchange.Within session.connection := by
        intro exchange member
        rw [List.mem_singleton.1 member]
        exact ⟨rfl, fun ends => absurd ends (keeps.apart apart)⟩
      have longer := (isOpen within).append more
      rw [← noted] at longer
      exact longer
  | finished outermost executed final => exact anchored_of_closed rfl rfl
  | abandoned within executed => exact anchored_of_closed rfl rfl
  | replaced within executed =>
      exact anchored_of_closed (dialect_reconnectUntil _ _) (depth_reconnectUntil _ _)

/-- A new connection takes all levels with it, and one that is refused changes nothing. -/
theorem Anchored.reconnect (anchored : Anchored dialect session) :
    Anchored dialect (Session.reconnect server.logged session).2 := by
  obtain ⟨rfl, isOpen⟩ := anchored
  rcases connected : server.logged.connect session.settings session.state with
    ⟨error | connection, state⟩
  · rw [Session.reconnect, connected]
    refine ⟨rfl, fun deep => ?_⟩
    simp only [Server.logged, Server.noting, Prod.mk.injEq] at connected
    obtain ⟨refused, rfl⟩ := connected
    refine (isOpen deep).append fun exchange member => ?_
    rw [List.mem_singleton.1 member, refused]
    rfl
  · rw [Session.reconnect, connected]
    exact anchored_of_closed rfl rfl

theorem on_connecting (refusals : List ServerError) (replacement connection : Nat) :
    ∀ exchange ∈ connecting refusals replacement, exchange.On connection := by
  intro exchange member
  rw [connecting, List.mem_append, List.mem_map, List.mem_singleton] at member
  obtain ⟨error, -, rfl⟩ | rfl := member
  · trivial
  · trivial

/-- What a call sends inside a transaction goes to the connection held. -/
theorem Effect.sent_on (effect : Effect server.logged plain session after)
    (within : 0 < session.depth) :
    ∃ later, after.exchanges = session.exchanges ++ later ∧
      ∀ exchange ∈ later, exchange.On session.connection := by
  have outside : session.depth ≠ 0 := Nat.pos_iff_ne_zero.1 within
  cases effect with
  | silent same => exact ⟨[], by simp [exchanges], by simp⟩
  | outside asked closed => exact absurd closed outside
  | begun closed => exact absurd closed outside
  | inside _ _ executed _ =>
      exact ⟨_, exchanges_of_execute executed, by simp [Exchange.On]⟩
  | finished _ executed _ =>
      exact ⟨_, exchanges_of_execute executed, by simp [Exchange.On]⟩
  | @abandoned text values error state depth _ executed =>
      have noted := exchanges_of_execute executed
      obtain ⟨answer, rolledBack, -⟩ := abandon_logged server
        { session.recorded text values (.error error) state with depth }
      refine ⟨[.executed session.connection text values (.error error),
        .executed session.connection "ROLLBACK" [] answer], ?_, by simp [Exchange.On]⟩
      rw [rolledBack, exchanges, recorded, noted, List.append_assoc]
      rfl
  | @replaced text values error state depth _ executed =>
      have noted := exchanges_of_execute executed
      obtain ⟨refusals, connection, connected, -, -⟩ := reconnectUntil_logged server
        { session.recorded text values (.error error) state with depth }
      refine ⟨.executed session.connection text values (.error error) ::
        connecting refusals connection, ?_, List.forall_mem_cons.2 ⟨rfl, on_connecting _ _ _⟩⟩
      rw [connected, exchanges, recorded, noted, List.append_assoc]
      rfl

/-- A new session has no levels. -/
theorem anchored_of_start {settings : Settings} {state : σ × List Exchange}
    (started : start server.logged settings state = .ok session) :
    Anchored session.dialect session :=
  anchored_of_closed rfl (connect_of_start started).2

end Steps

/-- Along every course of a session, while it counts levels, its begin was answered on the
connection that it holds, and since then no commit and no rollback was answered, no other connection
was made, and all statements went to that connection, as does everything that a further call
sends. -/
theorem openOn_of_reaches {server : Server σ} {settings : Settings} {state : σ}
    {session after : Session (σ × List Exchange)} {plain : String → Prop}
    (apart : ∀ text, plain text → text ≠ "COMMIT" ∧ text ≠ "ROLLBACK")
    (started : start server.logged settings (state, []) = .ok session)
    (reached : Reaches server.logged plain session after) (inside : 0 < after.depth) :
    OpenOn session.dialect after.connection after.exchanges ∧
      ∀ call : Call, call.Asks plain after → ∃ later,
        (call.perform server.logged after).2.exchanges = after.exchanges ++ later ∧
          ∀ exchange ∈ later, exchange.On after.connection := by
  have start := anchored_of_start started
  have anchored := reached.keeps (Anchored.effect apart) Anchored.reconnect
    (fun _ anchored => ⟨anchored.dialect_eq, anchored.isOpen⟩) start
  refine ⟨anchored.isOpen inside, fun call asks => ?_⟩
  exact (Call.effect asks).sent_on inside

/-- A begin whose connection is lost and replaced, and an inner level that is kept. -/
theorem openOn_of_reaches_replaced :
    let gone : ServerError := .ofTransport "gone"
    let tape : Tape := ⟨[.ok 7, .error gone, .ok 8], [.error gone]⟩
    let plain : String → Prop := fun text => Control.ofText? text = none
    let session : Session (Tape × List Exchange) :=
      { settings := { driver := "mysql" }, dialect := .mysql
        state := ({ tape with connections := [.error gone, .ok 8] }, [.connected (.ok 7)])
        connection := 7, depth := 0, policy := .disabled, insertId? := none, journal? := none }
    let calls : List Call :=
      [.begin true, .exec "UPDATE t SET a = 1" .none, .begin true, .finish .commit true]
    let after := calls.foldl (fun session call => (call.perform Tape.server.logged session).2)
      (session.setPolicy (.unbounded 1))
    start Tape.server.logged session.settings (tape, []) = .ok session ∧
      Reaches Tape.server.logged plain session after ∧ after.depth = 1 ∧ after.connection = 8 ∧
      OpenOn .mysql 8 after.exchanges := by
  intro gone tape plain session calls after
  have started : start Tape.server.logged session.settings (tape, []) = .ok session :=
    start_of_connect (by decide +kernel) rfl
  have asks : ∀ session : Session (Tape × List Exchange),
      Call.Asks plain session (.exec "UPDATE t SET a = 1" .none) := by
    rintro session text values ⟨⟩
    decide
  have reached : Reaches Tape.server.logged plain session after :=
    ((((Reaches.start session).setPolicy (.unbounded 1)).call (.begin true) trivial).call _
      (asks _)).call (.begin true) trivial |>.call (.finish .commit true) trivial
  have depth : after.depth = 1 := by decide +kernel
  have connection : after.connection = 8 := by decide +kernel
  have isOpen := (openOn_of_reaches Control.ne_of_plain started reached (depth ▸ Nat.one_pos)).1
  rw [connection] at isOpen
  exact ⟨started, reached, depth, connection, isOpen⟩

end Session

end SqlClient
