import SqlClient.Proofs.Exchange
import SqlClient.Session.Query

/-!
# Lost transactions

Inside a transaction a statement is sent once. Its failure may end the transaction, and then the call
says so; a call never says so of a transaction that was not open.
-/

namespace SqlClient

namespace Session

variable {σ : Type}

/-! ## Calls -/

/-- A call that may send a statement of its own. -/
inductive Call where
  | exec (sql : String) (params : Params)
  | query (sql : String) (params : Params)
  /-- The statement of a cursor, run again. -/
  | reexecute (cursor : Cursor)
  /-- A row of a cursor, for which its statement may be run again. -/
  | read (cursor : Cursor) (index : Nat)
  | begin (nesting : Bool)
  | finish (way : Finish) (nesting : Bool)

/-- What comes of a call, without its value. -/
def Call.perform (server : Server σ) (call : Call) (session : Session σ) :
    Except SessionError Unit × Session σ :=
  match call with
  | .exec sql params => done (Session.exec server sql params session)
  | .query sql params => done (Session.query server sql params session)
  | .reexecute cursor => done (reading (Cursor.reexecute server) cursor session)
  | .read cursor index => done (reading (Cursor.read server index) cursor session)
  | .begin nesting => done (Session.begin server nesting session)
  | .finish way nesting => done (Session.finish server way nesting session)
where
  /-- A result without its value. -/
  done {α : Type} (outcome : Except SessionError α × Session σ) :
      Except SessionError Unit × Session σ :=
    (outcome.1.map fun _ => (), outcome.2)

/-- The text and the values that a call sends, if it sends any. -/
def Call.statement? (session : Session σ) : Call → Option (String × List Scalar)
  | .exec sql params => (params.bind session.dialect sql).toOption
  | .query sql params => (params.bind session.dialect sql).toOption
  | .reexecute cursor => (cursor.params.bind session.dialect cursor.sql).toOption
  | .read cursor index =>
      if cursor.cached?.map Prod.fst ≠ some index ∧ index < cursor.consumed then
        (cursor.params.bind session.dialect cursor.sql).toOption
      else none
  | .begin nesting =>
      (beginText? session.dialect (session.depth + 1) nesting).map fun text => (text, [])
  | .finish way nesting =>
      if session.depth = 0 then none
      else (way.text? session.depth nesting).map fun text => (text, [])

/-- What comes of a statement sent inside a transaction: its answer, the exchanges after it, and the
result and the depth of its call. -/
inductive Ending (dialect : Dialect) (policy : ReconnectPolicy) (connection : Nat) :
    Except ServerError Answer → List Exchange → Except SessionError Unit → Nat → Prop where
  | answered (answer : Answer) (depth : Nat) :
      Ending dialect policy connection (.ok answer) [] (.ok ()) depth
  | contention {error : ServerError} (kind : error.failure dialect = .lockContention)
      (answer : Except ServerError Answer) :
      Ending dialect policy connection (.error error) [.executed connection "ROLLBACK" [] answer]
        (.error (.transactionLost .contention error)) 0
  | replaced {error : ServerError} (kind : error.failure dialect = .connectionLost) {pause : Nat}
      (unbounded : policy = .unbounded pause) (refusals : List ServerError) (replacement : Nat) :
      Ending dialect policy connection (.error error) (connecting refusals replacement)
        (.error (.transactionLost .reconnect error)) 0
  | disconnected {error : ServerError} (kind : error.failure dialect = .connectionLost)
      (disabled : policy = .disabled) (depth : Nat) :
      Ending dialect policy connection (.error error) [] (.error (.server error)) depth
  | failed {error : ServerError} (kind : error.failure dialect = .other) (depth : Nat) :
      Ending dialect policy connection (.error error) [] (.error (.server error)) depth

section Ending

variable {dialect : Dialect} {policy : ReconnectPolicy} {connection depth : Nat}
  {answer : Except ServerError Answer} {later : List Exchange}

/-- An answer says nothing about the depth. -/
theorem Ending.of_answer (ending : Ending dialect policy connection answer later (.ok ()) depth)
    (other : Nat) : Ending dialect policy connection answer later (.ok ()) other := by
  cases ending with
  | answered answer => exact .answered answer other

/-- A connection that is lost and replaced takes the transaction with it. -/
theorem Ending.lost_of_replaced {error : ServerError} {result : Except SessionError Unit}
    {pause : Nat}
    (ending : Ending dialect (.unbounded pause) connection (.error error) later result depth)
    (kind : error.failure dialect = .connectionLost) :
    result = .error (.transactionLost .reconnect error) := by
  cases ending with
  | contention other => simp [kind] at other
  | replaced => rfl
  | disconnected _ disabled => simp at disabled
  | failed other => simp [kind] at other

theorem Ending.depth_of_lost {reason : LossReason} {source : ServerError}
    (ending : Ending dialect policy connection answer later
      (.error (.transactionLost reason source)) depth) : depth = 0 := by
  cases ending <;> rfl

end Ending

/-- A statement was sent once, and what came after it. -/
def SentOnce (server : Server σ) (session : Session (σ × List Exchange)) (text : String)
    (values : List Scalar) (result : Except SessionError Unit)
    (after : Session (σ × List Exchange)) : Prop :=
  ∃ later, after.exchanges = session.exchanges ++ .executed session.connection text values
      (server.execute session.connection text values session.state.1).1 :: later ∧
    Ending session.dialect session.policy session.connection
      (server.execute session.connection text values session.state.1).1 later result after.depth

/-! ## One statement -/

/-- Inside a transaction a text is sent once. -/
theorem sentOnce_persist (server : Server σ) (session : Session (σ × List Exchange)) (text : String)
    (values : List Scalar) :
    SentOnce server session text values
      ((persist server.logged text values true session).1.map fun _ => ())
      (persist server.logged text values true session).2 := by
  generalize asked : server.execute session.connection text values session.state.1 = answered
  obtain ⟨answer, state⟩ := answered
  have executed := execute_logged asked
  rw [SentOnce, asked]
  cases answer with
  | ok answer =>
      rw [persist_of_answer true executed]
      exact ⟨[], rfl, .answered answer _⟩
  | error error =>
      cases kind : error.failure session.dialect with
      | other =>
          rw [persist_of_other true executed kind]
          exact ⟨[], rfl, .failed kind _⟩
      | lockContention =>
          rw [persist_of_contention executed kind]
          obtain ⟨answer, noted, closed⟩ := abandon_logged server
            (session.recorded text values (.error error)
              (state, session.state.2 ++ [.executed session.connection text values (.error error)]))
          refine ⟨[.executed session.connection "ROLLBACK" [] answer], ?_, ?_⟩
          · rw [noted]
            simp [exchanges, recorded]
          · rw [closed]
            exact .contention kind answer
      | connectionLost =>
          cases policy : session.policy with
          | disabled =>
              rw [persist_of_loss_disabled true executed kind policy]
              exact ⟨[], rfl, .disconnected kind rfl _⟩
          | unbounded pause =>
              rw [persist_of_loss_unbounded executed kind policy]
              obtain ⟨refusals, connection, noted, -, closed⟩ := reconnectUntil_logged server
                (session.recorded text values (.error error)
                  (state, session.state.2 ++
                    [.executed session.connection text values (.error error)]))
              refine ⟨connecting refusals connection, ?_, ?_⟩
              · rw [noted]
                simp [exchanges, recorded]
              · rw [closed]
                exact .replaced kind rfl refusals connection

/-- Outside a transaction none is lost. -/
theorem not_lost_persist (server : Server σ) (text : String) (values : List Scalar)
    (session : Session σ) (reason : LossReason) (source : ServerError) :
    (persist server text values false session).1 ≠ .error (.transactionLost reason source) := by
  generalize outside : false = inTransaction
  fun_induction persist server text values inTransaction session with
  | case1 => simp
  | case2 => simp
  | case3 => simp at outside
  | case4 inside session error after attempted kind retried induction => exact induction rfl
  | case5 => simp
  | case6 => simp at outside
  | case7 inside session error after attempted kind pause policy retried induction =>
      exact induction rfl

/-! ## All calls -/

/-- A call that comes to one run of a text: the server is left in the same state, the results are
the same, and so are the depths of a failure. -/
def RunsOnce (server : Server σ) (call : Call) (session : Session σ) (text : String)
    (values : List Scalar) : Prop :=
  ∃ depth, let ran := persist server text values session.inTransaction { session with depth }
    (call.perform server session).1 = (ran.1.map fun _ => ()) ∧
      (call.perform server session).2.state = ran.2.state ∧
      ∀ error, ran.1 = .error error → (call.perform server session).2.depth = ran.2.depth

theorem runAs_of_bind {server : Server σ} {inTransaction : Bool} {sql text : String}
    {params : Params} {values : List Scalar} {session : Session σ}
    (bound : (params.bind session.dialect sql).toOption = some (text, values)) :
    runAs server inTransaction sql params session =
      persist server text values inTransaction session := by
  unfold runAs
  cases bind : params.bind session.dialect sql with
  | error unbound =>
      rw [bind] at bound
      simp [Except.toOption] at bound
  | ok pair =>
      rw [bind] at bound
      obtain rfl := Option.some.inj bound
      rfl

/-- A call followed by nothing but a change of its value. -/
theorem bind_pure {α β : Type} (action : Action σ α) (form : α → β) (session : Session σ) :
    (action >>= fun value => pure (form value)) session =
      ((action session).1.map form, (action session).2) := by
  change ExceptT.bindCont (fun value => (pure (form value) : Action σ β)) (action session).1
    (action session).2 = _
  cases (action session).1 <;> rfl

/-- A call that is a run of a text, whatever it makes of the answer. -/
theorem runsOnce_of_run {server : Server σ} {call : Call} {session : Session σ} {sql text : String}
    {params : Params} {values : List Scalar}
    (bound : (params.bind session.dialect sql).toOption = some (text, values))
    (same : call.perform server session =
      ((run server sql params session).1.map fun _ => (), (run server sql params session).2)) :
    RunsOnce server call session text values := by
  rw [run, runAs_of_bind bound] at same
  have after := congrArg Prod.snd same
  exact ⟨session.depth, congrArg Prod.fst same, congrArg Session.state after,
    fun _ _ => congrArg Session.depth after⟩

theorem perform_exec (server : Server σ) (sql : String) (params : Params) (session : Session σ) :
    Call.perform server (.exec sql params) session =
      ((run server sql params session).1.map fun _ => (), (run server sql params session).2) := by
  have mapped : Session.exec server sql params session = ((run server sql params session).1.map
      Answer.rowCount, (run server sql params session).2) :=
    bind_pure (run server sql params) Answer.rowCount session
  rw [Call.perform, Call.perform.done, mapped]
  cases (run server sql params session).1 <;> rfl

theorem perform_query (server : Server σ) (sql : String) (params : Params) (session : Session σ) :
    Call.perform server (.query sql params) session =
      ((run server sql params session).1.map fun _ => (), (run server sql params session).2) := by
  have mapped : Session.query server sql params session = ((run server sql params session).1.map
      (Cursor.ofAnswer · sql params), (run server sql params session).2) :=
    bind_pure (run server sql params) (Cursor.ofAnswer · sql params) session
  rw [Call.perform, Call.perform.done, mapped]
  cases (run server sql params session).1 <;> rfl

theorem perform_reexecute (server : Server σ) (cursor : Cursor) (session : Session σ) :
    Call.perform server (.reexecute cursor) session =
      ((run server cursor.sql cursor.params session).1.map fun _ => (),
        (run server cursor.sql cursor.params session).2) := by
  rw [Call.perform, Call.perform.done, reading, Cursor.reexecute]
  rcases run server cursor.sql cursor.params session with ⟨error | answer, after⟩ <;> rfl

/-- Reading a row that was passed runs the statement again. -/
theorem perform_read {server : Server σ} {cursor : Cursor} {index : Nat} {session : Session σ}
    (fresh : cursor.cached?.map Prod.fst ≠ some index) (behind : index < cursor.consumed) :
    Call.perform server (.read cursor index) session =
      Call.perform server (.reexecute cursor) session := by
  rw [perform_reexecute, Call.perform, Call.perform.done, reading, Cursor.read_of_fresh fresh,
    Cursor.read.readAnew, if_pos behind, Cursor.reexecute]
  rcases run server cursor.sql cursor.params session with ⟨error | answer, after⟩ <;> rfl

theorem runsOnce_begin {server : Server σ} {session : Session σ} {text : String} {nesting : Bool}
    (sent : beginText? session.dialect (session.depth + 1) nesting = some text) :
    RunsOnce server (.begin nesting) session text [] := by
  have inside : decide (session.depth ≠ 0) = session.inTransaction := by
    rw [inTransaction, decide_eq_decide]
    exact Nat.pos_iff_ne_zero.symm
  refine ⟨session.depth, ?_⟩
  simp only [Call.perform, Call.perform.done, begin, sent, inside, runAs, Params.bind]
  rcases persist server text [] session.inTransaction session with ⟨error | answer, after⟩
  · exact ⟨rfl, rfl, fun _ _ => rfl⟩
  · exact ⟨rfl, rfl, fun _ failed => by simp at failed⟩

theorem runsOnce_finish {server : Server σ} {session : Session σ} {text : String} {way : Finish}
    {nesting : Bool} (opened : session.depth ≠ 0)
    (sent : way.text? session.depth nesting = some text) :
    RunsOnce server (.finish way nesting) session text [] := by
  obtain ⟨depth, same⟩ := Nat.exists_eq_succ_of_ne_zero opened
  have inside : session.inTransaction = true := by simp [inTransaction, same]
  refine ⟨depth, ?_⟩
  rw [same] at sent
  simp only [Call.perform, Call.perform.done, finish, same, sent, inside, runAs, Params.bind]
  rcases persist server text [] true { session with depth } with ⟨error | answer, after⟩
  · exact ⟨rfl, rfl, fun _ _ => rfl⟩
  · exact ⟨rfl, rfl, fun _ failed => by simp at failed⟩

/-- A call that sends a text comes to one run of it. -/
theorem runsOnce_of_statement (server : Server σ) {call : Call} {session : Session σ}
    {text : String} {values : List Scalar}
    (sent : call.statement? session = some (text, values)) :
    RunsOnce server call session text values := by
  cases call with
  | exec sql params =>
      exact runsOnce_of_run sent (perform_exec server sql params session)
  | query sql params =>
      exact runsOnce_of_run sent (perform_query server sql params session)
  | reexecute cursor =>
      exact runsOnce_of_run sent (perform_reexecute server cursor session)
  | read cursor index =>
      rw [Call.statement?] at sent
      split at sent
      · next again =>
        exact runsOnce_of_run sent
          ((perform_read again.1 again.2).trans (perform_reexecute server cursor session))
      · simp at sent
  | begin nesting =>
      obtain ⟨text', found, same⟩ := Option.map_eq_some_iff.1 sent
      obtain ⟨rfl, rfl⟩ := Prod.mk.inj same
      exact runsOnce_begin found
  | finish way nesting =>
      rw [Call.statement?] at sent
      split at sent
      · simp at sent
      · next opened =>
        obtain ⟨text', found, same⟩ := Option.map_eq_some_iff.1 sent
        obtain ⟨rfl, rfl⟩ := Prod.mk.inj same
        exact runsOnce_finish opened found

/-- Reading a row that is kept, or was not passed yet, sends nothing. -/
theorem perform_read_of_kept {server : Server σ} {cursor : Cursor} {index : Nat}
    {session : Session σ}
    (kept : ¬(cursor.cached?.map Prod.fst ≠ some index ∧ index < cursor.consumed)) :
    Call.perform server (.read cursor index) session = (.ok (), session) := by
  have given : ∃ row? after, Cursor.read server index (cursor, session) =
      (.ok row?, after, session) := by
    by_cases fresh : cursor.cached?.map Prod.fst ≠ some index
    · have ahead : ¬index < cursor.consumed := fun behind => kept ⟨fresh, behind⟩
      rw [Cursor.read_of_fresh fresh, Cursor.read.readAnew, if_neg ahead]
      exact ⟨_, _, rfl⟩
    · obtain ⟨⟨held, row⟩, cached, rfl⟩ := Option.map_eq_some_iff.1 (Classical.not_not.1 fresh)
      exact ⟨some row, cursor, Cursor.read_of_cached cached⟩
  obtain ⟨row?, after, done⟩ := given
  rw [Call.perform, Call.perform.done, reading, done]
  rfl

theorem not_lost_map {α : Type} {result : Except SessionError α} {reason : LossReason}
    {source : ServerError} (other : result ≠ .error (.transactionLost reason source)) :
    (result.map fun _ => ()) ≠ .error (.transactionLost reason source) := by
  cases result with
  | error error => simpa [Except.map] using other
  | ok value => simp [Except.map]

/-- A call that sends nothing loses no transaction. -/
theorem not_lost_of_no_statement {server : Server σ} {call : Call} {session : Session σ}
    (silent : call.statement? session = none) (reason : LossReason) (source : ServerError) :
    (call.perform server session).1 ≠ .error (.transactionLost reason source) := by
  have unbound : ∀ {sql params}, (params.bind session.dialect sql).toOption = none →
      (run server sql params session).1 ≠ .error (.transactionLost reason source) := by
    intro sql params missing
    rw [run, runAs]
    cases bind : params.bind session.dialect sql with
    | error name => simp
    | ok pair => simp [bind, Except.toOption] at missing
  cases call with
  | exec sql params =>
      rw [perform_exec]
      exact not_lost_map (unbound silent)
  | query sql params =>
      rw [perform_query]
      exact not_lost_map (unbound silent)
  | reexecute cursor =>
      rw [perform_reexecute]
      exact not_lost_map (unbound silent)
  | read cursor index =>
      rw [Call.statement?] at silent
      split at silent
      · next again =>
        rw [perform_read again.1 again.2, perform_reexecute]
        exact not_lost_map (unbound silent)
      · next kept =>
        rw [perform_read_of_kept kept]
        simp
  | begin nesting =>
      rw [Call.statement?, Option.map_eq_none_iff] at silent
      simp [Call.perform, Call.perform.done, begin, silent, Except.map]
  | finish way nesting =>
      rw [Call.statement?] at silent
      split at silent
      · next closed =>
        simp [Call.perform, Call.perform.done, finish, closed, Except.map]
      · next opened =>
        obtain ⟨depth, same⟩ := Nat.exists_eq_succ_of_ne_zero opened
        rw [Option.map_eq_none_iff, same] at silent
        simp [Call.perform, Call.perform.done, finish, same, silent, Except.map]

/-- What a call sends inside a transaction is sent once, on the connection held. Its failure ends the
transaction after a rollback or on a new connection, or is reported as it is. A transaction that a
call reports as lost was open before it and is not open after it. -/
theorem sentOnce_and_lost (server : Server σ) (call : Call)
    (session : Session (σ × List Exchange)) :
    (0 < session.depth → ∀ text values, call.statement? session = some (text, values) →
      SentOnce server session text values (call.perform server.logged session).1
        (call.perform server.logged session).2) ∧
    ∀ reason source,
      (call.perform server.logged session).1 = .error (.transactionLost reason source) →
        0 < session.depth ∧ (call.perform server.logged session).2.depth = 0 := by
  have once : 0 < session.depth → ∀ text values, call.statement? session = some (text, values) →
      SentOnce server session text values (call.perform server.logged session).1
        (call.perform server.logged session).2 := by
    intro opened text values sent
    obtain ⟨depth, result, state, closed⟩ := runsOnce_of_statement server.logged sent
    have inside : session.inTransaction = true := by simpa [inTransaction] using opened
    rw [inside] at result state closed
    obtain ⟨later, noted, ending⟩ := sentOnce_persist server { session with depth } text values
    refine ⟨later, (congrArg Prod.snd state).trans noted, ?_⟩
    rw [result]
    cases ran : (persist server.logged text values true { session with depth }).1 with
    | error error =>
        rw [closed error ran]
        simpa only [ran] using ending
    | ok answer =>
        rw [ran] at ending
        exact ending.of_answer _
  refine ⟨once, ?_⟩
  intro reason source lost
  cases sent : call.statement? session with
  | none => exact absurd lost (not_lost_of_no_statement sent reason source)
  | some statement =>
      obtain ⟨text, values⟩ := statement
      by_cases opened : 0 < session.depth
      · obtain ⟨later, -, ending⟩ := once opened text values sent
        rw [lost] at ending
        exact ⟨opened, ending.depth_of_lost⟩
      · obtain ⟨depth, result, -⟩ := runsOnce_of_statement server.logged sent
        have outside : session.inTransaction = false := by simpa [inTransaction] using opened
        rw [result, outside] at lost
        exact absurd lost (not_lost_map (not_lost_persist _ _ _ _ _ _))

/-- A commit whose connection is lost, with two refusals before the next connection. -/
theorem sentOnce_commit_of_loss :
    let gone : ServerError := .ofTransport "gone"
    let tape : Tape := ⟨[.error gone, .error gone, .ok 8], [.error gone]⟩
    let session : Session (Tape × List Exchange) :=
      { settings := { driver := "mysql" }, dialect := .mysql, state := (tape, []), connection := 7,
        depth := 1, policy := .unbounded 3, insertId? := none, journal? := none }
    let after := Call.perform Tape.server.logged (.finish .commit true) session
    after.1 = .error (.transactionLost .reconnect gone) ∧ after.2.depth = 0 ∧
      SentOnce Tape.server session "COMMIT" [] after.1 after.2 := by
  intro gone tape session after
  obtain ⟨once, lost⟩ := sentOnce_and_lost Tape.server (.finish .commit true) session
  have sent : SentOnce Tape.server session "COMMIT" [] after.1 after.2 :=
    once (by decide) "COMMIT" [] rfl
  have failed : after.1 = .error (.transactionLost .reconnect gone) := by
    obtain ⟨later, -, ending⟩ := sent
    exact ending.lost_of_replaced rfl
  exact ⟨failed, (lost .reconnect gone failed).2, sent⟩

end Session

end SqlClient
