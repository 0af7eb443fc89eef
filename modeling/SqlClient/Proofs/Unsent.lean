import Mathlib.Data.List.Basic
import SqlClient.Proofs.LostTransaction

/-!
# Statements that are not sent

What a session runs is prepared before anything is sent: a statement has to be of the dialect of
the session, it is rendered, and its parameters are bound. An error of the preparation leaves the
session as it was. Every other error is an answer to the prepared text.
-/

namespace SqlClient

/-- An error of a statement or of its parameters. -/
def SessionError.Unsent : SessionError → Prop
  | .statement _ | .missingParameter _ => True
  | _ => False

/-- The failure of the server behind an error. -/
def SessionError.source? : SessionError → Option ServerError
  | .server source | .transactionLost _ source => some source
  | _ => none

theorem SessionError.Unsent.source?_eq {error : SessionError} (unsent : error.Unsent) :
    error.source? = none := by
  cases error <;> first | rfl | exact unsent.elim

namespace Session

variable {σ : Type}

/-! ## Requests -/

/-- A call that runs what the caller gives. -/
inductive Request where
  /-- A built statement. -/
  | execute (statement : Statement)
  | query (sql : String) (params : Params)
  | exec (sql : String) (params : Params)

namespace Request

/-- What comes of a request, without its value. -/
def perform (server : Server σ) (session : Session σ) :
    Request → Except SessionError Unit × Session σ
  | .execute statement => Call.perform.done (Session.execute server statement session)
  | .query sql params => Call.perform server (.query sql params) session
  | .exec sql params => Call.perform server (.exec sql params) session

/-- The text and the values to send for a request, or why there are none. -/
def prepare (dialect : Dialect) : Request → Except SessionError (String × List Scalar)
  | .execute statement => do
      if statement.dialect ≠ dialect then
        .error (.statement (.foreign (.statement statement.dialect dialect)))
      let sql ← statement.render.mapError .statement
      bound sql statement.params
  | .query sql params | .exec sql params => bound sql params
where
  /-- A text with its parameters bound. -/
  bound (sql : String) (params : Params) : Except SessionError (String × List Scalar) :=
    (params.bind dialect sql).mapError fun unbound => .missingParameter unbound.name

variable {dialect : Dialect} {error : SessionError}

theorem unsent_of_bound {sql : String} {params : Params}
    (failed : prepare.bound dialect sql params = .error error) : error.Unsent := by
  rw [prepare.bound] at failed
  cases bind : params.bind dialect sql with
  | error unbound =>
      rw [bind] at failed
      cases failed
      trivial
  | ok pair => simp [bind, Except.mapError] at failed

/-- What goes wrong in the preparation is wrong with the statement or its parameters. -/
theorem unsent_of_prepare {request : Request} (failed : request.prepare dialect = .error error) :
    error.Unsent := by
  cases request with
  | execute statement =>
      rw [prepare] at failed
      split at failed
      · cases failed
        trivial
      · cases rendered : statement.render with
        | error cause =>
            rw [rendered] at failed
            cases failed
            trivial
        | ok sql =>
            rw [rendered] at failed
            exact unsent_of_bound failed
  | query sql params => exact unsent_of_bound failed
  | exec sql params => exact unsent_of_bound failed

/-- A text with its parameters is bound and then run. -/
theorem run_eq (server : Server σ) (sql : String) (params : Params) (session : Session σ) :
    ((run server sql params session).1.map fun _ => (), (run server sql params session).2) =
      match prepare.bound session.dialect sql params with
      | .error error => (.error error, session)
      | .ok (text, values) =>
          Call.perform.done (persist server text values session.inTransaction session) := by
  rw [run, runAs, prepare.bound]
  cases params.bind session.dialect sql <;> rfl

/-- A request is prepared, and what was prepared is run. -/
theorem perform_eq (server : Server σ) (request : Request) (session : Session σ) :
    request.perform server session =
      match request.prepare session.dialect with
      | .error error => (.error error, session)
      | .ok (text, values) =>
          Call.perform.done (persist server text values session.inTransaction session) := by
  cases request with
  | query sql params => exact (perform_query server sql params session).trans (run_eq ..)
  | exec sql params => exact (perform_exec server sql params session).trans (run_eq ..)
  | execute statement =>
      rw [perform, Session.execute, prepare]
      by_cases same : statement.dialect = session.dialect
      · rw [if_pos same, if_neg (not_not_intro same)]
        cases statement.render with
        | error cause => rfl
        | ok sql => exact (perform_query server sql statement.params session).trans (run_eq ..)
      · rw [if_neg same, if_pos same]
        rfl

end Request

/-! ## Attempts -/

/-- A text is sent, first on the connection held, and among the answers to it is a failure. -/
def Attempted (text : String) (values : List Scalar) (source : ServerError)
    (session after : Session (σ × List Exchange)) : Prop :=
  ∃ answer later, after.exchanges =
      session.exchanges ++ .executed session.connection text values answer :: later ∧
    ∃ held, .executed held text values (.error source) ∈
      Exchange.executed session.connection text values answer :: later

section Attempted

variable {server : Server σ} {text : String} {values : List Scalar} {source : ServerError}
  {session failed after : Session (σ × List Exchange)} {later : List Exchange}

theorem exchanges_of_attempt {result : Except ServerError Answer}
    (attempted : attempt server.logged text values session = (result, after)) :
    after.exchanges = session.exchanges ++ [.executed session.connection text values result] := by
  obtain ⟨rfl, rfl⟩ := Prod.mk.inj attempted
  rfl

/-- The last attempt of a run failed. -/
theorem Attempted.last
    (attempted : attempt server.logged text values session = (.error source, failed))
    (noted : after.exchanges = failed.exchanges ++ later) :
    Attempted text values source session after := by
  refine ⟨.error source, later, ?_, session.connection, List.mem_cons_self⟩
  rw [noted, exchanges_of_attempt attempted, List.append_assoc]
  rfl

/-- A failed attempt was followed by others, maybe on a new connection. -/
theorem Attempted.again {error : ServerError} {next : Session (σ × List Exchange)}
    (attempted : attempt server.logged text values session = (.error error, failed))
    (noted : next.exchanges = failed.exchanges ++ later)
    (ended : Attempted text values source next after) :
    Attempted text values source session after := by
  obtain ⟨answer, rest, exchanged, held, told⟩ := ended
  refine ⟨.error error, later ++ .executed next.connection text values answer :: rest, ?_, held,
    List.mem_cons_of_mem _ (List.mem_append_right later told)⟩
  rw [exchanged, noted, exchanges_of_attempt attempted]
  simp

end Attempted

/-- A run that fails reports an answer to its text. -/
theorem attempted_of_persist {server : Server σ} {text : String} {values : List Scalar}
    {inTransaction : Bool} {session after : Session (σ × List Exchange)} {error : SessionError}
    (failed : persist server.logged text values inTransaction session = (.error error, after)) :
    ∃ source, error.source? = some source ∧ Attempted text values source session after := by
  fun_induction persist server.logged text values inTransaction session with
  | case1 => cases failed
  | case2 inside session source last attempted =>
      cases failed
      exact ⟨source, rfl, .last attempted (List.append_nil _).symm⟩
  | case3 session source last attempted =>
      cases failed
      obtain ⟨answer, noted, -⟩ := abandon_logged server last
      exact ⟨source, rfl, .last attempted noted⟩
  | case4 inside session source next attempted kind outside induction =>
      obtain ⟨told, reported, ended⟩ := induction failed
      exact ⟨told, reported, .again attempted (List.append_nil _).symm ended⟩
  | case5 inside session source last attempted =>
      cases failed
      exact ⟨source, rfl, .last attempted (List.append_nil _).symm⟩
  | case6 session source last attempted =>
      cases failed
      obtain ⟨refusals, connection, noted, -⟩ := reconnectUntil_logged server last
      exact ⟨source, rfl, .last attempted noted⟩
  | case7 inside session source next attempted kind pause policy outside induction =>
      obtain ⟨told, reported, ended⟩ := induction failed
      obtain ⟨refusals, connection, noted, -⟩ := reconnectUntil_logged server next
      exact ⟨told, reported, .again attempted noted ended⟩

/-- A call fails with its value left out as it fails with it. -/
theorem eq_of_done {α : Type} {outcome : Except SessionError α × Session σ} {error : SessionError}
    {after : Session σ} (failed : Call.perform.done outcome = (.error error, after)) :
    outcome = (.error error, after) := by
  rcases outcome with ⟨cause | value, last⟩ <;> cases failed
  rfl

/-- A request that fails for its statement or its parameters leaves the session as it was, with
nothing asked of the server. Every other failure is an answer of the server to the prepared text. -/
theorem unsent_or_attempted (server : Server σ) (request : Request)
    (session : Session (σ × List Exchange)) {error : SessionError}
    {after : Session (σ × List Exchange)}
    (failed : request.perform server.logged session = (.error error, after)) :
    (error.Unsent → request.prepare session.dialect = .error error ∧ after = session) ∧
      (∀ source, error.source? = some source →
        ∃ text values, request.prepare session.dialect = .ok (text, values) ∧
          Attempted text values source session after) ∧
      (error.Unsent ∨ ∃ source, error.source? = some source) := by
  cases prepared : request.prepare session.dialect with
  | error cause =>
      have unsent := Request.unsent_of_prepare prepared
      simp only [Request.perform_eq, prepared] at failed
      cases failed
      refine ⟨fun _ => ⟨rfl, rfl⟩, fun source told => ?_, Or.inl unsent⟩
      rw [unsent.source?_eq] at told
      cases told
  | ok pair =>
      obtain ⟨text, values⟩ := pair
      simp only [Request.perform_eq, prepared] at failed
      obtain ⟨source, told, attempted⟩ := attempted_of_persist (eq_of_done failed)
      refine ⟨fun unsent => ?_, fun other same => ?_, Or.inr ⟨source, told⟩⟩
      · rw [unsent.source?_eq] at told
        cases told
      · obtain rfl := Option.some.inj (told.symm.trans same)
        exact ⟨text, values, rfl, attempted⟩

/-- A lock that is held, and then a table that is not there: the text is sent twice and the second
answer is returned. A name without a value is returned with nothing sent. -/
theorem attempted_of_missing_table :
    let locked : ServerError := ⟨some "1213", "Deadlock found", false⟩
    let missing : ServerError := ⟨some "1146", "Table 't' doesn't exist", false⟩
    let session : Session (Tape × List Exchange) :=
      { settings := { driver := "mysql" }, dialect := .mysql,
        state := (⟨[], [.error locked, .error missing]⟩, []), connection := 7, depth := 0,
        policy := .disabled, insertId? := none, journal? := none }
    let request := fun name =>
      Request.query "SELECT a FROM t WHERE a = :a" (.named [(name, .int 1)])
    (∃ after, (request "a").perform Tape.server.logged session = (.error (.server missing), after) ∧
        Attempted "SELECT a FROM t WHERE a = ?" [.int 1] missing session after) ∧
      (request "b").perform Tape.server.logged session =
        (.error (.missingParameter "a"), session) := by
  intro locked missing session request
  have prepared : (request "a").prepare session.dialect =
      .ok ("SELECT a FROM t WHERE a = ?", [.int 1]) := by decide +kernel
  have unprepared : (request "b").prepare session.dialect = .error (.missingParameter "a") := by
    decide +kernel
  have contention : locked.failure session.dialect = .lockContention := by decide
  have final : missing.failure session.dialect = .other := by decide
  have ran : ∃ after, persist Tape.server.logged "SELECT a FROM t WHERE a = ?" [.int 1] false
      session = (.error (.server missing), after) := by
    rw [persist_of_failure (attempt_of_execute rfl)]
    simp only [contention]
    exact ⟨_, persist_of_other false rfl final⟩
  obtain ⟨after, ran⟩ := ran
  have failed : (request "a").perform Tape.server.logged session =
      (.error (.server missing), after) := by
    simp only [Request.perform_eq, prepared]
    exact congrArg Call.perform.done ran
  have refused : (request "b").perform Tape.server.logged session =
      (.error (.missingParameter "a"), session) := by
    simp only [Request.perform_eq, unprepared]
  obtain ⟨text, values, same, attempted⟩ :=
    (unsent_or_attempted Tape.server _ session failed).2.1 missing rfl
  obtain ⟨rfl, rfl⟩ := Prod.mk.inj (Except.ok.inj (prepared.symm.trans same))
  exact ⟨⟨after, failed, attempted⟩, refused⟩

end Session

end SqlClient
