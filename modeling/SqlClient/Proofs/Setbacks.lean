import SqlClient.Proofs.Course

/-!
# Setbacks

Outside a transaction a session recovers from contention and, if its policy says so, from a lost
connection: it sends the same statement again. What a server does to one statement is a finite run
of such setbacks and the outcome that ends it. A call sends its statement once for each of them, on
the newest connection, and returns the outcome as it is.
-/

namespace SqlClient

variable {σ : Type}

/-- A failure that a session recovers from, and the recovery. -/
inductive Setback where
  /-- Another session holds a lock. -/
  | contention (error : ServerError)
  /-- The connection is lost; others are refused until one is made. -/
  | loss (error : ServerError) (refusals : List ServerError) (connection : Nat)

namespace Setback

/-- The connection held after a setback. -/
def heldAfter (held : Nat) : Setback → Nat
  | .contention _ => held
  | .loss _ _ connection => connection

/-- The exchanges of a setback: an attempt that fails, and a new connection where one is needed. -/
def exchanges (text : String) (values : List Scalar) (held : Nat) : Setback → List Exchange
  | .contention error => [.executed held text values (.error error)]
  | .loss error refusals connection =>
      .executed held text values (.error error) :: Session.connecting refusals connection

/-- The connection held after a run of setbacks. -/
def newest (held : Nat) (setbacks : List Setback) : Nat :=
  setbacks.foldl heldAfter held

/-- The exchanges of a run of setbacks, each on the connection that the one before it left. -/
def trail (text : String) (values : List Scalar) : Nat → List Setback → List Exchange
  | _, [] => []
  | held, setback :: rest =>
      setback.exchanges text values held ++ trail text values (setback.heldAfter held) rest

theorem newest_append (held : Nat) (left right : List Setback) :
    newest held (left ++ right) = newest (newest held left) right :=
  List.foldl_append

theorem trail_append (text : String) (values : List Scalar) (held : Nat)
    (left right : List Setback) :
    trail text values held (left ++ right) =
      trail text values held left ++ trail text values (newest held left) right := by
  induction left generalizing held with
  | nil => rfl
  | cons setback rest induction =>
      simp only [List.cons_append, trail, induction, List.append_assoc]
      rfl

end Setback

/-! ## What a server does to a statement -/

/-- A server refuses attempts to connect and then makes a connection. -/
inductive Server.Connects (server : Server σ) (settings : Settings) :
    σ → List ServerError → Nat → σ → Prop where
  | made {state after : σ} {connection : Nat}
      (connected : server.connect settings state = (.ok connection, after)) :
      Connects server settings state [] connection after
  | refused {state next after : σ} {error : ServerError} {refusals : List ServerError}
      {connection : Nat} (refused : server.connect settings state = (.error error, next))
      (later : Connects server settings next refusals connection after) :
      Connects server settings state (error :: refusals) connection after

/-- An outcome from which a session does not recover. -/
def Decides (dialect : Dialect) (policy : ReconnectPolicy) : Except ServerError Answer → Prop
  | .ok _ => True
  | .error error =>
      error.failure dialect = .other ∨
        error.failure dialect = .connectionLost ∧ policy = .disabled

section Run

variable (server : Server σ) (settings : Settings) (dialect : Dialect) (policy : ReconnectPolicy)
  (text : String) (values : List Scalar)

/-- A server answers one attempt with a setback. -/
inductive Server.SetsBack (held : Nat) (state : σ) : Setback → σ → Prop where
  | contention {error : ServerError} {after : σ}
      (executed : server.execute held text values state = (.error error, after))
      (kind : error.failure dialect = .lockContention) :
      SetsBack held state (.contention error) after
  | loss {error : ServerError} {lost after : σ} {pause : Nat} {refusals : List ServerError}
      {connection : Nat} (executed : server.execute held text values state = (.error error, lost))
      (kind : error.failure dialect = .connectionLost) (unbounded : policy = .unbounded pause)
      (connects : server.Connects settings lost refusals connection after) :
      SetsBack held state (.loss error refusals connection) after

/-- A server answers attempts with a run of setbacks. -/
inductive Server.Delays : Nat → σ → List Setback → σ → Prop where
  | nil (held : Nat) (state : σ) : Delays held state [] state
  | cons {held : Nat} {state next after : σ} {setback : Setback} {rest : List Setback}
      (first : server.SetsBack settings dialect policy text values held state setback next)
      (later : Delays (setback.heldAfter held) next rest after) :
      Delays held state (setback :: rest) after

end Run

section Run

variable {server : Server σ} {settings : Settings} {dialect : Dialect} {policy : ReconnectPolicy}
  {text : String} {values : List Scalar}

/-- A run of setbacks starts with any of its beginnings. -/
theorem Server.Delays.left {held : Nat} {state after : σ} {before rest : List Setback}
    (delays : server.Delays settings dialect policy text values held state (before ++ rest)
      after) :
    ∃ next, server.Delays settings dialect policy text values held state before next := by
  induction before generalizing held state with
  | nil => exact ⟨state, .nil held state⟩
  | cons setback before induction =>
      cases delays with
      | cons first later =>
          obtain ⟨next, delayed⟩ := induction later
          exact ⟨next, .cons first delayed⟩

/-- Refusals are bounded, so a connection is made in the end. -/
theorem Server.exists_connects (server : Server σ) (settings : Settings) (state : σ) :
    ∃ refusals connection after, server.Connects settings state refusals connection after ∧
      server.unrest after ≤ server.unrest state := by
  induction bound : server.unrest state using Nat.strongRecOn generalizing state with
  | ind bound induction =>
      subst bound
      rcases asked : server.connect settings state with ⟨error | connection, next⟩
      · have lower := server.unrest_refused asked
        obtain ⟨refusals, connection, after, connects, bounded⟩ := induction _ lower next rfl
        exact ⟨_, _, _, .refused asked connects, Nat.le_trans bounded (Nat.le_of_lt lower)⟩
      · exact ⟨[], connection, next, .made asked, server.unrest_connected asked⟩

/-- Setbacks are bounded, so an outcome ends their run. -/
theorem Server.exists_delays (server : Server σ) (settings : Settings) (dialect : Dialect)
    (policy : ReconnectPolicy) (text : String) (values : List Scalar) (held : Nat) (state : σ) :
    ∃ setbacks after, server.Delays settings dialect policy text values held state setbacks after ∧
      Decides dialect policy
        (server.execute (Setback.newest held setbacks) text values after).1 := by
  induction bound : server.unrest state using Nat.strongRecOn generalizing held state with
  | ind bound induction =>
      subst bound
      rcases asked : server.execute held text values state with ⟨error | answer, next⟩
      · have lower : error.failure dialect ≠ .other → _ := server.unrest_failed asked
        cases kind : error.failure dialect with
        | other =>
            exact ⟨[], state, .nil held state, by simp [Setback.newest, asked, Decides, kind]⟩
        | lockContention =>
            obtain ⟨setbacks, after, delays, decides⟩ :=
              induction _ (lower (by simp [kind])) held next rfl
            exact ⟨.contention error :: setbacks, after, .cons (.contention asked kind) delays,
              decides⟩
        | connectionLost =>
            cases chosen : policy with
            | disabled =>
                exact ⟨[], state, .nil held state,
                  by simp [Setback.newest, asked, Decides, kind]⟩
            | unbounded pause =>
                subst chosen
                obtain ⟨refusals, connection, made, connects, bounded⟩ :=
                  server.exists_connects settings next
                have fewer := Nat.lt_of_le_of_lt bounded (lower (by simp [kind]))
                obtain ⟨setbacks, after, delays, decides⟩ := induction _ fewer connection made rfl
                exact ⟨.loss error refusals connection :: setbacks, after,
                  .cons (.loss asked kind rfl connects) delays, decides⟩
      · exact ⟨[], state, .nil held state, by simp [Setback.newest, asked, Decides]⟩

end Run

namespace Session

/-! ## Runs of a statement -/

/-- The session of a run behind some setbacks: it is still outside a transaction, on the newest
connection and with the id that it began with, and the run goes on from it. -/
structure Underway (server : Server σ) (text : String) (values : List Scalar)
    (session : Session (σ × List Exchange)) (setbacks : List Setback)
    (now : Session (σ × List Exchange)) : Prop where
  settings_eq : now.settings = session.settings
  dialect_eq : now.dialect = session.dialect
  policy_eq : now.policy = session.policy
  connection_eq : now.connection = Setback.newest session.connection setbacks
  depth_eq : now.depth = 0
  insertId_eq : now.insertId? = session.insertId?
  exchanges_eq : now.exchanges =
    session.exchanges ++ Setback.trail text values session.connection setbacks
  persist_eq : persist server.logged text values false session =
    persist server.logged text values false now

section Runs

variable {server : Server σ} {text : String} {values : List Scalar}
  {session now later : Session (σ × List Exchange)} {left right : List Setback}

theorem Underway.start (closed : session.depth = 0) :
    Underway server text values session [] session :=
  ⟨rfl, rfl, rfl, rfl, closed, rfl, by simp [Setback.trail], rfl⟩

theorem Underway.append (first : Underway server text values session left now)
    (second : Underway server text values now right later) :
    Underway server text values session (left ++ right) later where
  settings_eq := second.settings_eq.trans first.settings_eq
  dialect_eq := second.dialect_eq.trans first.dialect_eq
  policy_eq := second.policy_eq.trans first.policy_eq
  connection_eq := by rw [second.connection_eq, first.connection_eq, Setback.newest_append]
  depth_eq := second.depth_eq
  insertId_eq := second.insertId_eq.trans first.insertId_eq
  exchanges_eq := by
    rw [second.exchanges_eq, first.exchanges_eq, first.connection_eq, Setback.trail_append,
      List.append_assoc]
  persist_eq := first.persist_eq.trans second.persist_eq

/-- Connecting until it succeeds makes the connection that the server makes in the end. -/
theorem reconnectUntil_of_connects {settings : Settings} {refusals : List ServerError}
    {connection : Nat} {state after : σ}
    (connects : server.Connects settings state refusals connection after)
    (same : session.settings = settings) (met : session.state.1 = state) :
    reconnectUntil server.logged session =
      { session with
        connection
        state := (after, session.exchanges ++ connecting refusals connection)
        depth := 0 } := by
  induction connects generalizing session with
  | made connected =>
      subst same met
      rw [reconnectUntil_of_connected (connect_logged connected)]
      rfl
  | @refused state next after error refusals connection refused connects induction =>
      subst same met
      have noted := connect_logged refused
      have later := @induction { session with
        state := (next, session.exchanges ++ [.connected (.error error)]) } rfl rfl
      rw [reconnectUntil_of_refused noted]
      refine later.trans ?_
      simp [exchanges, connecting]

/-- One setback leaves the run underway. -/
theorem underway_of_setsBack {after : σ} {setback : Setback} (closed : session.depth = 0)
    (setsBack : server.SetsBack session.settings session.dialect session.policy text values
      session.connection session.state.1 setback after) :
    ∃ now, Underway server text values session [setback] now ∧ now.state.1 = after := by
  cases setsBack with
  | @contention error _ executed kind =>
      have attempted := attempt_of_execute (execute_logged executed)
      refine ⟨session.recorded text values (.error error)
        (after, session.exchanges ++ [.executed session.connection text values (.error error)]),
        ⟨rfl, rfl, rfl, rfl, closed, rfl, rfl, ?_⟩, rfl⟩
      simp only [persist_of_failure attempted, kind, Bool.false_eq_true, if_false]
      rfl
  | @loss error lost _ pause refusals connection executed kind unbounded connects =>
      have attempted := attempt_of_execute (execute_logged executed)
      let failed := session.recorded text values (.error error)
        (lost, session.exchanges ++ [.executed session.connection text values (.error error)])
      have replaced : reconnectUntil server.logged failed = _ :=
        reconnectUntil_of_connects connects rfl rfl
      have continued : persist server.logged text values false session =
          persist server.logged text values false (reconnectUntil server.logged failed) := by
        simp only [persist_of_failure attempted, kind, unbounded, Bool.false_eq_true, if_false]
        rfl
      refine ⟨reconnectUntil server.logged failed, ?_, by rw [replaced]⟩
      rw [replaced] at continued ⊢
      refine ⟨rfl, rfl, rfl, rfl, rfl, rfl, ?_, continued⟩
      simp [failed, exchanges, recorded, Setback.trail, Setback.exchanges]

/-- A run of setbacks leaves the run of the statement underway. -/
theorem underway_of_delays {settings : Settings} {dialect : Dialect} {policy : ReconnectPolicy}
    {held : Nat} {state after : σ} {setbacks : List Setback}
    (delays : server.Delays settings dialect policy text values held state setbacks after)
    (closed : session.depth = 0) (configured : session.settings = settings)
    (spoken : session.dialect = dialect) (chosen : session.policy = policy)
    (holds : session.connection = held) (met : session.state.1 = state) :
    ∃ now, Underway server text values session setbacks now ∧ now.state.1 = after := by
  induction delays generalizing session with
  | nil held state => exact ⟨session, .start closed, met⟩
  | @cons held state next after setback rest first _ induction =>
      subst configured spoken chosen holds met
      obtain ⟨now, begun, reached⟩ := underway_of_setsBack closed first
      obtain ⟨last, ongoing, arrived⟩ := induction begun.depth_eq begun.settings_eq
        begun.dialect_eq begun.policy_eq begun.connection_eq reached
      exact ⟨last, begun.append ongoing, arrived⟩

end Runs

/-- An outcome from which there is no recovery ends a run, and is reported as it is. -/
theorem persist_of_decides {server : Server σ} {text : String} {values : List Scalar}
    {session : Session σ} {outcome : Except ServerError Answer} {state : σ}
    (decides : Decides session.dialect session.policy outcome)
    (executed : server.execute session.connection text values session.state = (outcome, state)) :
    persist server text values false session =
      match outcome with
      | .ok answer => (.ok answer, noteInsertId answer (session.recorded text values outcome state))
      | .error error => (.error (.server error), session.recorded text values outcome state) := by
  cases outcome with
  | ok answer => exact persist_of_answer false executed
  | error error =>
      rcases decides with other | ⟨lost, disabled⟩
      · exact persist_of_other false executed other
      · exact persist_of_loss_disabled false executed lost disabled

/-! ## Calls -/

/-- What a call gives to its caller. -/
inductive Reply where
  /-- The number of rows affected or returned. -/
  | count (rows : Nat)
  | cursor (cursor : Cursor)
  /-- A row, and the cursor that it was read from. -/
  | row (row? : Option Row) (cursor : Cursor)
  /-- Whether a text was sent for a level. -/
  | level (sent : Bool)

namespace Call

/-- A call, and what it gives to its caller. -/
def reply (server : Server σ) (call : Call) (session : Session σ) :
    Except SessionError Reply × Session σ :=
  match call with
  | .exec sql params => given .count (Session.exec server sql params session)
  | .query sql params => given .cursor (Session.query server sql params session)
  | .reexecute cursor =>
      let (result, renewed, after) := Cursor.reexecute server (cursor, session)
      (result.map fun _ => .cursor renewed, after)
  | .read cursor index =>
      let (result, left, after) := Cursor.read server index (cursor, session)
      (result.map fun row? => .row row? left, after)
  | .begin nesting => given .level (Session.begin server nesting session)
  | .finish way nesting => given .level (Session.finish server way nesting session)
where
  /-- A value made into a reply. -/
  given {α : Type} (form : α → Reply) (outcome : Except SessionError α × Session σ) :
      Except SessionError Reply × Session σ :=
    (outcome.1.map form, outcome.2)

/-- What a call makes of the answer to its statement. -/
def replyTo (answer : Answer) : Call → Reply
  | .exec _ _ => .count answer.rowCount
  | .query sql params => .cursor (.ofAnswer answer sql params)
  | .reexecute cursor => .cursor (.ofAnswer answer cursor.sql cursor.params)
  | .read cursor index =>
      let (row?, left) :=
        ((Cursor.ofAnswer answer cursor.sql cursor.params).seek cursor.position).take index
      .row row? left
  | .begin _ | .finish _ _ => .level true

/-- The session that a call outside a transaction leaves after the run of its statement. -/
def leave (ran : Except SessionError Answer × Session σ) : Call → Session σ
  | .begin _ => opened 1 ran
  | _ => ran.2

theorem exchanges_leave (call : Call)
    (ran : Except SessionError Answer × Session (σ × List Exchange)) :
    (call.leave ran).exchanges = ran.2.exchanges := by
  rcases ran with ⟨error | answer, after⟩ <;> cases call <;> rfl

theorem insertId_leave (call : Call) (ran : Except SessionError Answer × Session σ) :
    (call.leave ran).insertId? = ran.2.insertId? := by
  rcases ran with ⟨error | answer, after⟩ <;> cases call <;> rfl

/-- A call performed is the call without what it gives to its caller. -/
theorem perform_eq_reply (server : Server σ) (call : Call) (session : Session σ) :
    call.perform server session =
      ((call.reply server session).1.map fun _ => (), (call.reply server session).2) := by
  have mapped : ∀ {α : Type} (form : α → Reply) (outcome : Except SessionError α × Session σ),
      perform.done outcome =
        ((reply.given form outcome).1.map fun _ => (), (reply.given form outcome).2) := by
    rintro α form ⟨error | value, after⟩ <;> rfl
  cases call with
  | exec sql params => exact mapped _ _
  | query sql params => exact mapped _ _
  | begin nesting => exact mapped _ _
  | finish way nesting => exact mapped _ _
  | reexecute cursor =>
      simp only [perform, perform.done, reading, reply]
      rcases Cursor.reexecute server (cursor, session) with ⟨error | value, left, after⟩ <;> rfl
  | read cursor index =>
      simp only [perform, perform.done, reading, reply]
      rcases Cursor.read server index (cursor, session) with ⟨error | value, left, after⟩ <;> rfl

end Call

/-- Outside a transaction a text with its parameters bound is run until an outcome decides. -/
theorem run_of_bind {server : Server σ} {sql text : String} {params : Params}
    {values : List Scalar} {session : Session σ} (closed : session.depth = 0)
    (bound : (params.bind session.dialect sql).toOption = some (text, values)) :
    run server sql params session = persist server text values false session := by
  rw [run, runAs_of_bind bound]
  simp [inTransaction, closed]

/-- Outside a transaction a call comes to one run of its statement, and its reply to the answer. -/
theorem reply_of_statement {server : Server σ} {call : Call} {session : Session σ} {text : String}
    {values : List Scalar} {ran : Except SessionError Answer × Session σ}
    (closed : session.depth = 0) (sent : call.statement? session = some (text, values))
    (runs : persist server text values false session = ran) :
    call.reply server session = (ran.1.map call.replyTo, call.leave ran) := by
  obtain ⟨result, after⟩ := ran
  cases call with
  | exec sql params =>
      have mapped : Session.exec server sql params session = _ :=
        bind_pure (run server sql params) Answer.rowCount session
      rw [run_of_bind closed sent, runs] at mapped
      rw [Call.reply, mapped]
      cases result <;> rfl
  | query sql params =>
      have mapped : Session.query server sql params session = _ :=
        bind_pure (run server sql params) (Cursor.ofAnswer · sql params) session
      rw [run_of_bind closed sent, runs] at mapped
      rw [Call.reply, mapped]
      cases result <;> rfl
  | reexecute cursor =>
      simp only [Call.reply, Cursor.reexecute, run_of_bind closed sent, runs]
      cases result <;> rfl
  | read cursor index =>
      rw [Call.statement?] at sent
      split at sent
      · next again =>
        simp only [Call.reply, Cursor.read_of_fresh again.1, Cursor.read.readAnew, if_pos again.2,
          Cursor.reexecute, run_of_bind closed sent, runs]
        cases result <;> rfl
      · simp at sent
  | begin nesting =>
      have begun := beginText?_outermost session.dialect nesting
      rw [Call.statement?, closed, begun] at sent
      obtain ⟨rfl, rfl⟩ := Prod.mk.inj (Option.some.inj sent)
      have mapped : Session.begin server nesting session = _ :=
        begin_of_text (by rw [closed]; exact begun)
      have outside : session.inTransaction = false := by simp [inTransaction, closed]
      simp only [outside, closed, runs] at mapped
      rw [Call.reply, mapped]
      cases result <;> rfl
  | finish way nesting => simp [Call.statement?, closed] at sent

/-- What a server does to a statement: setbacks, and an outcome from which the session does not
recover. -/
def Meets (server : Server σ) (session : Session (σ × List Exchange)) (text : String)
    (values : List Scalar) (setbacks : List Setback) (outcome : Except ServerError Answer) : Prop :=
  ∃ last, server.Delays session.settings session.dialect session.policy text values
      session.connection session.state.1 setbacks last ∧
    (server.execute (Setback.newest session.connection setbacks) text values last).1 = outcome ∧
    Decides session.dialect session.policy outcome

/-- What a call outside a transaction comes to once its statement met setbacks and an outcome. -/
structure Returned (server : Server σ) (call : Call) (session : Session (σ × List Exchange))
    (text : String) (values : List Scalar) (setbacks : List Setback)
    (outcome : Except ServerError Answer) (result : Except SessionError Reply)
    (after : Session (σ × List Exchange)) : Prop where
  /-- The statement is sent once for each setback and once for the outcome. -/
  exchanges_eq : after.exchanges =
    session.exchanges ++ Setback.trail text values session.connection setbacks ++
      [.executed (Setback.newest session.connection setbacks) text values outcome]
  /-- The outcome is returned as it is. -/
  result_eq : result = (outcome.mapError .server).map call.replyTo
  /-- A level is open only if the call opens one and succeeds. -/
  depth_eq : after.depth = match call, outcome with
    | .begin _, .ok _ => 1
    | _, _ => 0
  /-- Only an answer changes the id of the last insertion. -/
  insertId_eq : after.insertId? = match outcome with
    | .ok answer => answer.insertId?.or session.insertId?
    | .error _ => session.insertId?
  /-- Between the attempts no level is open. -/
  underway : ∀ before, before <+: setbacks → ∃ now, Underway server text values session before now

/-- Every server answers the statement of a call outside a transaction with a finite run of setbacks
and an outcome. Whatever they are, the call sends the statement once for each of them, always on the
newest connection, connects again after every loss and only then, and returns the outcome. -/
theorem returned_of_meets (server : Server σ) (call : Call) {session : Session (σ × List Exchange)}
    (closed : session.depth = 0) {text : String} {values : List Scalar}
    (sent : call.statement? session = some (text, values)) :
    (∃ setbacks outcome, Meets server session text values setbacks outcome) ∧
      ∀ setbacks outcome, Meets server session text values setbacks outcome →
        Returned server call session text values setbacks outcome
          (call.reply server.logged session).1 (call.reply server.logged session).2 := by
  constructor
  · obtain ⟨setbacks, last, delays, decides⟩ := server.exists_delays session.settings
      session.dialect session.policy text values session.connection session.state.1
    exact ⟨setbacks, _, last, delays, rfl, decides⟩
  · rintro setbacks outcome ⟨last, delays, answered, decides⟩
    obtain ⟨now, underway, reached⟩ := underway_of_delays delays closed rfl rfl rfl rfl rfl
    rw [← reached, ← underway.connection_eq] at answered
    rw [← underway.dialect_eq, ← underway.policy_eq] at decides
    have executed := execute_logged (Prod.ext answered rfl)
    have runs := underway.persist_eq.trans (persist_of_decides decides executed)
    have replied := reply_of_statement closed sent runs
    have prefixes : ∀ before, before <+: setbacks →
        ∃ now, Underway server text values session before now := by
      rintro before ⟨rest, rfl⟩
      obtain ⟨next, delayed⟩ := delays.left
      obtain ⟨now, ongoing, -⟩ := underway_of_delays delayed closed rfl rfl rfl rfl rfl
      exact ⟨now, ongoing⟩
    rw [replied]
    refine ⟨?_, ?_, ?_, ?_, prefixes⟩
    · rw [Call.exchanges_leave, ← underway.exchanges_eq, ← underway.connection_eq]
      cases outcome <;> rfl
    · cases outcome <;> rfl
    · have still := underway.depth_eq
      cases outcome <;> cases call <;> first | exact still | rfl
    · rw [Call.insertId_leave, ← underway.insertId_eq]
      cases outcome <;> rfl

/-- A lock, a lost connection with a refusal before the next one, and an answer: three attempts. -/
theorem returned_of_contention_and_loss :
    let locked : ServerError := ⟨some "1213", "Deadlock found", false⟩
    let gone : ServerError := .ofTransport "gone"
    let refused : ServerError := .ofTransport "connection refused"
    let tape : Tape := ⟨[.error refused, .ok 8],
      [.error locked, .error gone, .ok (.affected 1 (some 5))]⟩
    let session : Session (Tape × List Exchange) :=
      { settings := { driver := "mysql" }, dialect := .mysql, state := (tape, []), connection := 7,
        depth := 0, policy := .unbounded 3, insertId? := none, journal? := none }
    let call : Call := .exec "INSERT INTO t (a) VALUES (:a)" (.named [("a", .int 1)])
    let sql := "INSERT INTO t (a) VALUES (?)"
    let replied := call.reply Tape.server.logged session
    replied.1 = .ok (.count 1) ∧ replied.2.depth = 0 ∧ replied.2.insertId? = some 5 ∧
      replied.2.exchanges =
        [.executed 7 sql [.int 1] (.error locked), .executed 7 sql [.int 1] (.error gone),
          .connected (.error refused), .connected (.ok 8),
          .executed 8 sql [.int 1] (.ok (.affected 1 (some 5)))] := by
  intro locked gone refused tape session call sql replied
  have sent : call.statement? session = some (sql, [.int 1]) := by decide +kernel
  have meets : Meets Tape.server session sql [.int 1]
      [.contention locked, .loss gone [refused] 8] (.ok (.affected 1 (some 5))) := by
    refine ⟨⟨[], [.ok (.affected 1 (some 5))]⟩, ?_, rfl, trivial⟩
    refine .cons (.contention rfl (by decide)) (.cons (.loss rfl (by decide) rfl ?_) (.nil _ _))
    exact .refused rfl (.made rfl)
  have returned := (returned_of_meets Tape.server call rfl sent).2 _ _ meets
  exact ⟨returned.result_eq, returned.depth_eq, returned.insertId_eq, returned.exchanges_eq⟩

end Session

end SqlClient
