import SqlClient.Proofs.OwnLevel
import SqlClient.Proofs.Savepoint

/-!
# Courses of a session

What a run of a text and a call of a session may come to, on any server, and the sessions that calls
in any order lead to. A property of sessions that no single call breaks holds along every course,
also inside the bodies of transactions.
-/

namespace SqlClient

namespace Session

variable {σ : Type}

/-! ## Runs of a text -/

/-- What comes of a run that its first attempt settles. -/
inductive Settled (server : Server σ) (text : String) (values : List Scalar)
    (session : Session σ) : Except SessionError Answer × Session σ → Prop where
  | answered {answer : Answer} {state : σ}
      (executed : server.execute session.connection text values session.state =
        (.ok answer, state)) :
      Settled server text values session
        (.ok answer, noteInsertId answer (session.recorded text values (.ok answer) state))
  /-- A failure that is reported as it is. -/
  | failed {error : ServerError} {state : σ}
      (executed : server.execute session.connection text values session.state =
        (.error error, state))
      (final : error.failure session.dialect = .other ∨
        error.failure session.dialect = .connectionLost) :
      Settled server text values session
        (.error (.server error), session.recorded text values (.error error) state)

/-- What comes of a run inside a transaction: it is settled, or the transaction is given up. -/
inductive RunInside (server : Server σ) (text : String) (values : List Scalar)
    (session : Session σ) : Except SessionError Answer × Session σ → Prop where
  | settled {ran : Except SessionError Answer × Session σ}
      (settled : Settled server text values session ran) :
      RunInside server text values session ran
  | abandoned {error : ServerError} {state : σ}
      (executed : server.execute session.connection text values session.state =
        (.error error, state)) :
      RunInside server text values session
        (.error (.transactionLost .contention error),
          abandon server (session.recorded text values (.error error) state))
  | replaced {error : ServerError} {state : σ}
      (executed : server.execute session.connection text values session.state =
        (.error error, state)) :
      RunInside server text values session
        (.error (.transactionLost .reconnect error),
          reconnectUntil server (session.recorded text values (.error error) state))

section Runs

variable {server : Server σ} {text : String} {values : List Scalar} {session : Session σ}

theorem runInside_persist (server : Server σ) (text : String) (values : List Scalar)
    (session : Session σ) :
    RunInside server text values session (persist server text values true session) := by
  generalize executed : server.execute session.connection text values session.state = answered
  obtain ⟨answer, state⟩ := answered
  cases answer with
  | ok answer =>
      rw [persist_of_answer true executed]
      exact .settled (.answered executed)
  | error error =>
      cases kind : error.failure session.dialect with
      | other =>
          rw [persist_of_other true executed kind]
          exact .settled (.failed executed (Or.inl kind))
      | lockContention =>
          rw [persist_of_contention executed kind]
          exact .abandoned executed
      | connectionLost =>
          cases policy : session.policy with
          | disabled =>
              rw [persist_of_loss_disabled true executed kind policy]
              exact .settled (.failed executed (Or.inr kind))
          | unbounded pause =>
              rw [persist_of_loss_unbounded executed kind policy]
              exact .replaced executed

/-- An attempt is one statement on the connection held. -/
theorem execute_of_attempt {result : Except ServerError Answer} {after : Session σ}
    (attempted : attempt server text values session = (result, after)) :
    ∃ state, server.execute session.connection text values session.state = (result, state) ∧
      after = session.recorded text values result state := by
  have same : attempt server text values session = (_, session.recorded text values _ _) :=
    attempt_of_execute rfl
  rw [attempted] at same
  obtain ⟨answered, rfl⟩ := Prod.mk.inj same
  exact ⟨_, Prod.ext answered.symm rfl, by rw [answered]⟩

/-- Outside a transaction the last attempt settles a run. What every failed attempt and every new
connection keep holds of the session that makes it. -/
theorem settled_persist {P : Session σ → Prop}
    (failed : ∀ {session error state}, P session →
      server.execute session.connection text values session.state = (.error error, state) →
        P (session.recorded text values (.error error) state))
    (replaced : ∀ {session}, P session → P (reconnectUntil server session)) (start : P session) :
    ∃ last, P last ∧
      Settled server text values last (persist server text values false session) := by
  generalize outside : false = inTransaction
  fun_induction persist server text values inTransaction session with
  | case1 inside session answer after attempted =>
      obtain ⟨state, executed, rfl⟩ := execute_of_attempt attempted
      exact ⟨session, start, .answered executed⟩
  | case2 inside session error after attempted kind =>
      obtain ⟨state, executed, rfl⟩ := execute_of_attempt attempted
      exact ⟨session, start, .failed executed (Or.inl kind)⟩
  | case3 => simp at outside
  | case4 inside session error after attempted kind retried induction =>
      obtain ⟨state, executed, rfl⟩ := execute_of_attempt attempted
      exact induction (failed start executed) rfl
  | case5 inside session error after attempted kind policy =>
      obtain ⟨state, executed, rfl⟩ := execute_of_attempt attempted
      exact ⟨session, start, .failed executed (Or.inr kind)⟩
  | case6 => simp at outside
  | case7 inside session error after attempted kind pause policy retried induction =>
      obtain ⟨state, executed, rfl⟩ := execute_of_attempt attempted
      exact induction (replaced (failed start executed)) rfl

theorem Settled.same {ran : Except SessionError Answer × Session σ}
    (settled : Settled server text values session ran) :
    ran.2.dialect = session.dialect ∧ ran.2.depth = session.depth := by
  cases settled <;> exact ⟨rfl, rfl⟩

theorem dialect_reconnectUntil (server : Server σ) (session : Session σ) :
    (reconnectUntil server session).dialect = session.dialect := by
  fun_induction reconnectUntil server session with
  | case1 => rfl
  | case2 _ _ _ _ ih => exact ih

/-- Outside a transaction a run is settled on a session that is outside a transaction too. -/
theorem settled_outside (server : Server σ) (text : String) (values : List Scalar)
    {session : Session σ} (closed : session.depth = 0) :
    ∃ last : Session σ, (last.dialect = session.dialect ∧ last.depth = 0) ∧
      Settled server text values last (persist server text values false session) := by
  apply settled_persist
  · intro last error state same _
    exact same
  · intro last same
    exact ⟨(dialect_reconnectUntil server last).trans same.1, depth_reconnectUntil server last⟩
  · exact ⟨rfl, closed⟩

end Runs

/-! ## Calls -/

/-- The session after a run, with a level open if the run succeeded. -/
def opened (level : Nat) : Except SessionError Answer × Session σ → Session σ
  | (.ok _, after) => { after with depth := level }
  | (.error _, after) => after

/-- A text that leaves an open transaction open. -/
def KeepsOpen (plain : String → Prop) (text : String) : Prop :=
  plain text ∨ text ≠ "COMMIT" ∧ text ≠ "ROLLBACK"

/-- What a call leaves of a session, where the texts of callers are plain. -/
inductive Effect (server : Server σ) (plain : String → Prop) (session : Session σ) :
    Session σ → Prop where
  /-- Nothing is sent; levels are counted, but not the outermost. -/
  | silent {depth : Nat} (same : depth = 0 ↔ session.depth = 0) :
      Effect server plain session { session with depth }
  /-- A text of the caller outside a transaction. -/
  | outside {text : String} {values : List Scalar} (asked : plain text)
      (closed : session.depth = 0) :
      Effect server plain session (persist server text values false session).2
  /-- The outermost level is opened, or fails to open. -/
  | begun (closed : session.depth = 0) :
      Effect server plain session
        (opened 1 (persist server session.dialect.beginText [] false session))
  /-- A text inside a transaction is answered, or its failure is reported as it is. -/
  | inside {text : String} {values : List Scalar} {result : Except ServerError Answer} {state : σ}
      {depth : Nat} {insertId? : Option Int64} (within : 0 < session.depth)
      (keeps : KeepsOpen plain text)
      (executed : server.execute session.connection text values session.state = (result, state))
      (deep : 0 < depth) :
      Effect server plain session
        { session.recorded text values result state with depth, insertId? }
  /-- The outermost level is finished; the text for it is answered or fails. -/
  | finished {way : Finish} {result : Except ServerError Answer} {state : σ}
      {insertId? : Option Int64} (outermost : session.depth = 1)
      (executed : server.execute session.connection (way.levelText 0) [] session.state =
        (result, state))
      (final : ∀ error, result = .error error → error.failure session.dialect = .other ∨
        error.failure session.dialect = .connectionLost) :
      Effect server plain session
        { session.recorded (way.levelText 0) [] result state with depth := 0, insertId? }
  /-- The transaction is given up and rolled back. -/
  | abandoned {text : String} {values : List Scalar} {error : ServerError} {state : σ}
      {depth : Nat} (within : 0 < session.depth)
      (executed : server.execute session.connection text values session.state =
        (.error error, state)) :
      Effect server plain session
        (abandon server { session.recorded text values (.error error) state with depth })
  /-- The transaction is given up with its connection. -/
  | replaced {text : String} {values : List Scalar} {error : ServerError} {state : σ}
      {depth : Nat} (within : 0 < session.depth)
      (executed : server.execute session.connection text values session.state =
        (.error error, state)) :
      Effect server plain session
        (reconnectUntil server { session.recorded text values (.error error) state with depth })

section Calls

variable {server : Server σ} {plain : String → Prop} {session : Session σ} {text : String}
  {values : List Scalar}

/-- A text that keeps the transaction open and is run at some depth inside it. -/
theorem effect_of_runInside {depth level : Nat} (within : 0 < session.depth)
    (keeps : KeepsOpen plain text) (lowered : 0 < depth) (raised : 0 < level)
    {ran : Except SessionError Answer × Session σ}
    (run : RunInside server text values { session with depth } ran) :
    Effect server plain session ran.2 ∧ Effect server plain session (opened level ran) := by
  cases run with
  | settled settled =>
      cases settled with
      | answered executed =>
          exact ⟨.inside within keeps executed lowered, .inside within keeps executed raised⟩
      | failed executed =>
          exact ⟨.inside within keeps executed lowered, .inside within keeps executed lowered⟩
  | abandoned executed => exact ⟨.abandoned within executed, .abandoned within executed⟩
  | replaced executed => exact ⟨.replaced within executed, .replaced within executed⟩

/-- The text of the outermost level, run below it. -/
theorem effect_of_outermost {way : Finish} (outermost : session.depth = 1)
    {ran : Except SessionError Answer × Session σ}
    (run : RunInside server (way.levelText 0) [] { session with depth := 0 } ran) :
    Effect server plain session ran.2 := by
  have within : 0 < session.depth := outermost ▸ Nat.one_pos
  cases run with
  | settled settled =>
      cases settled with
      | answered executed => exact .finished outermost executed (by simp)
      | failed executed final =>
          refine .finished outermost executed fun error same => ?_
          rw [← Except.error.inj same]
          exact final
  | abandoned executed => exact .abandoned within executed
  | replaced executed => exact .replaced within executed

/-- A text of the caller, run with its parameters bound. -/
theorem effect_run {sql : String} {params : Params}
    (asked : ∀ text values, params.bind session.dialect sql = .ok (text, values) → plain text) :
    Effect server plain session (run server sql params session).2 := by
  cases bound : params.bind session.dialect sql with
  | error unbound =>
      rw [run, runAs, bound]
      exact .silent Iff.rfl
  | ok pair =>
      obtain ⟨text, values⟩ := pair
      rw [run, runAs, bound]
      by_cases closed : session.depth = 0
      · rw [show session.inTransaction = false by simp [inTransaction, closed]]
        exact .outside (asked text values bound) closed
      · have within : 0 < session.depth := Nat.pos_of_ne_zero closed
        rw [show session.inTransaction = true by simp [inTransaction, within]]
        exact (effect_of_runInside within (Or.inl (asked text values bound)) within within
          (runInside_persist server text values session)).1

theorem keepsOpen_append {opening : String} (name : String)
    (different : ∀ text ∈ ["COMMIT", "ROLLBACK"], ¬opening.toList <+: text.toList) :
    KeepsOpen plain (opening ++ name) := by
  simp only [List.forall_mem_cons] at different
  exact Or.inr ⟨Control.append_ne different.1 name, Control.append_ne different.2.1 name⟩

/-- Opening a level with a text comes to one run of it. -/
theorem begin_of_text {nesting : Bool}
    (sent : beginText? session.dialect (session.depth + 1) nesting = some text) :
    let ran := persist server text [] session.inTransaction session
    begin server nesting session = (ran.1.map fun _ => true, opened (session.depth + 1) ran) := by
  intro ran
  have inside : decide (session.depth ≠ 0) = session.inTransaction := by
    rw [inTransaction, decide_eq_decide]
    exact Nat.pos_iff_ne_zero.symm
  simp only [begin, sent, inside, runAs, Params.bind]
  rcases same : ran with ⟨error | answer, after⟩
  all_goals
    rw [show persist server text [] session.inTransaction session = _ from same]
    rfl

theorem beginText?_outermost (dialect : Dialect) (nesting : Bool) :
    beginText? dialect 1 nesting = some dialect.beginText :=
  rfl

theorem effect_begin (nesting : Bool) :
    Effect server plain session (begin server nesting session).2 := by
  by_cases closed : session.depth = 0
  · have sent : beginText? session.dialect (session.depth + 1) nesting =
        some session.dialect.beginText := by
      rw [closed, beginText?_outermost]
    have outside : session.inTransaction = false := by simp [inTransaction, closed]
    rw [begin_of_text sent, outside, closed]
    exact .begun closed
  · have within : 0 < session.depth := Nat.pos_of_ne_zero closed
    have inside : session.inTransaction = true := by simp [inTransaction, within]
    cases nesting with
    | false =>
        have silent : beginText? session.dialect (session.depth + 1) false = none := by
          simp [beginText?, closed]
        simp only [begin, silent]
        exact .silent (by simp [closed])
    | true =>
        have sent : beginText? session.dialect (session.depth + 1) true =
            some ("SAVEPOINT " ++ savepoint (session.depth + 1)) := by
          simp [beginText?, closed]
        rw [begin_of_text sent, inside]
        exact (effect_of_runInside within (keepsOpen_append _ (by decide)) within
          (Nat.succ_pos _) (runInside_persist server _ [] session)).2

/-- Finishing a level with a text comes to one run of it at the depth below. -/
theorem finish_of_text {way : Finish} {nesting : Bool} {depth : Nat}
    (level : session.depth = depth + 1) (sent : way.text? (depth + 1) nesting = some text) :
    (finish server way nesting session).2 =
      (persist server text [] true { session with depth }).2 := by
  simp only [finish, level, sent, runAs, Params.bind]
  rcases persist server text [] true { session with depth } with ⟨error | answer, after⟩ <;> rfl

theorem Finish.text?_outermost (way : Finish) (nesting : Bool) :
    way.text? 1 nesting = some (way.levelText 0) := by
  cases way <;> rfl

/-- The text of a level inside another one, if it has one, keeps the transaction open. -/
theorem Finish.keepsOpen_text {way : Finish} {nesting : Bool} {depth : Nat}
    (sent : way.text? (depth + 2) nesting = some text) : KeepsOpen plain text := by
  have inner : depth + 2 ≠ 1 := by omega
  cases nesting with
  | false => cases way <;> simp [text?, inner] at sent
  | true =>
      cases way with
      | commit =>
          simp only [text?, inner, if_false, if_true, Option.some.injEq] at sent
          rw [← sent]
          exact keepsOpen_append _ (by decide)
      | rollback =>
          simp only [text?, inner, if_false, if_true, Option.some.injEq] at sent
          rw [← sent]
          exact keepsOpen_append _ (by decide)

theorem effect_finish (way : Finish) (nesting : Bool) :
    Effect server plain session (finish server way nesting session).2 := by
  match level : session.depth with
  | 0 =>
      simp only [finish, level]
      exact .silent Iff.rfl
  | 1 =>
      rw [finish_of_text level (way.text?_outermost nesting)]
      exact effect_of_outermost level (runInside_persist server _ [] _)
  | depth + 2 =>
      have within : 0 < session.depth := level ▸ Nat.succ_pos _
      cases sent : way.text? (depth + 2) nesting with
      | none =>
          simp only [finish, level, sent]
          exact .silent (by simp [level])
      | some text =>
          rw [finish_of_text level sent]
          exact (effect_of_runInside within (Finish.keepsOpen_text sent) (Nat.succ_pos _)
            (Nat.succ_pos depth) (runInside_persist server text [] _)).1

/-- The texts of the caller that a call sends are plain. -/
def Call.Asks (plain : String → Prop) (session : Session σ) : Call → Prop
  | .exec sql params | .query sql params =>
      ∀ text values, params.bind session.dialect sql = .ok (text, values) → plain text
  | .reexecute cursor | .read cursor _ =>
      ∀ text values, cursor.params.bind session.dialect cursor.sql = .ok (text, values) →
        plain text
  | .begin _ | .finish _ _ => True

/-- What any call leaves of a session. -/
theorem Call.effect {call : Call} (asks : call.Asks plain session) :
    Effect server plain session (call.perform server session).2 := by
  cases call with
  | exec sql params =>
      rw [perform_exec]
      exact effect_run asks
  | query sql params =>
      rw [perform_query]
      exact effect_run asks
  | reexecute cursor =>
      rw [perform_reexecute]
      exact effect_run asks
  | read cursor index =>
      by_cases again : cursor.cached?.map Prod.fst ≠ some index ∧ index < cursor.consumed
      · rw [perform_read again.1 again.2, perform_reexecute]
        exact effect_run asks
      · rw [perform_read_of_kept again]
        exact .silent Iff.rfl
  | begin nesting => exact effect_begin nesting
  | finish way nesting => exact effect_finish way nesting

end Calls

/-! ## Courses -/

/-- One session leads to another by calls in any order, where the texts of callers are plain. The
body of a transaction may be anything that goes through calls of the session. -/
inductive Reaches (server : Server σ) (plain : String → Prop) : Session σ → Session σ → Prop where
  | start (session : Session σ) : Reaches server plain session session
  | call {before session : Session σ} (reached : Reaches server plain before session) (call : Call)
      (asks : call.Asks plain session) :
      Reaches server plain before (call.perform server session).2
  | reconnect {before session : Session σ} (reached : Reaches server plain before session) :
      Reaches server plain before (Session.reconnect server session).2
  | setPolicy {before session : Session σ} (reached : Reaches server plain before session)
      (policy : ReconnectPolicy) : Reaches server plain before (session.setPolicy policy)
  | transaction {before session : Session σ} (reached : Reaches server plain before session)
      {α : Type} {body : Action σ α}
      (calls : ∀ issued entered, Session.begin server true session = (.ok issued, entered) →
        Reaches server plain entered (body entered).2) :
      Reaches server plain before (Session.transaction server body session).2

/-- A session starts once its driver name tells a dialect and the server connects. -/
theorem start_of_connect {server : Server σ} {settings : Settings} {dialect : Dialect}
    {state after : σ} {connection : Nat}
    (named : Dialect.ofDriverName? settings.driver = some dialect)
    (connected : server.connect settings state = (.ok connection, after)) :
    start server settings state =
      .ok { settings, dialect, state := after, connection, depth := 0, policy := .disabled,
            insertId? := none, journal? := none } := by
  simp only [start, Settings.dialect, named, connected]

/-- A session starts on the connection that the server made, without levels. -/
theorem connect_of_start {server : Server σ} {settings : Settings} {state : σ}
    {session : Session σ} (started : start server settings state = .ok session) :
    server.connect settings state = (.ok session.connection, session.state) ∧
      session.depth = 0 := by
  rw [start] at started
  split at started
  · simp at started
  · split at started
    · simp at started
    · next connection after connected =>
      obtain rfl := Except.ok.inj started
      exact ⟨connected, rfl⟩

/-- The body of a transaction is followed by the end of its level, or by nothing. -/
theorem transaction_cases {α : Type} (server : Server σ) (body : Action σ α)
    {session entered : Session σ} {issued : Bool}
    (begun : begin server true session = (.ok issued, entered)) :
    (∃ way, (transaction server body session).2 = (finish server way true (body entered).2).2) ∨
      (transaction server body session).2 = (body entered).2 := by
  rcases returned : body entered with ⟨error | value, left⟩
  · by_cases kept : 0 < left.depth ∧ error.isTransactionLost = false
    · exact Or.inl ⟨.rollback, by rw [transaction_of_error begun returned kept.1 kept.2]⟩
    · refine Or.inr ?_
      simp only [transaction, begun, returned]
      rw [if_neg (by simpa using kept)]
  · exact Or.inl ⟨.commit, by rw [transaction_of_ok begun returned]⟩

/-- What no call breaks holds along every course. -/
theorem Reaches.keeps {server : Server σ} {plain : String → Prop} {P : Session σ → Prop}
    (effect : ∀ {session after}, Effect server plain session after → P session → P after)
    (reconnect : ∀ {session}, P session → P (Session.reconnect server session).2)
    (setPolicy : ∀ {session} policy, P session → P (session.setPolicy policy))
    {before after : Session σ} (reached : Reaches server plain before after) (start : P before) :
    P after := by
  induction reached with
  | start => exact start
  | call _ call asks induction => exact effect (Call.effect asks) (induction start)
  | reconnect _ induction => exact reconnect (induction start)
  | setPolicy _ policy induction => exact setPolicy policy (induction start)
  | @transaction before session _ α body _ induction inner =>
      have holds := induction start
      have begun : P (begin server true session).2 := effect (effect_begin true) holds
      rcases opened : begin server true session with ⟨error | issued, entered⟩
      · simp only [Session.transaction, opened]
        rwa [opened] at begun
      · rw [opened] at begun
        have left : P (body entered).2 := inner issued entered opened begun
        rcases transaction_cases server body opened with ⟨way, ended⟩ | ended
        · rw [ended]
          exact effect (effect_finish way true) left
        · rwa [ended]

end Session

end SqlClient
