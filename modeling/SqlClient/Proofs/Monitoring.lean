import SqlClient.Cursor.Fetch
import SqlClient.Page
import SqlClient.Proofs.Course

/-!
# Monitoring

A session with a monitor does what it does without one, and what the monitor sees is what the
server was sent. Both are one statement: every call acts alike on a session and on the same session
with a monitor that has seen all its attempts, and leaves the two in this relation again.
-/

namespace SqlClient

/-- What a monitor sees of an exchange; it does not see attempts to connect. -/
def Exchange.event? : Exchange → Option Event
  | .connected _ => none
  | .executed _ sql values result => some ⟨sql, values, Session.outcomeOf result⟩

/-- What a monitor sees of exchanges: an event for every statement, in order. -/
def eventsOf (exchanges : List Exchange) : List Event :=
  exchanges.filterMap Exchange.event?

/-! ## Oblivious actions -/

/-- An action does the same on a state and on a view of it, and leaves a state and its view. -/
def Oblivious {S β : Type} (view : S → S) (action : S → β × S) : Prop :=
  ∀ state, action (view state) = ((action state).1, view (action state).2)

section Oblivious

variable {S α β : Type} {view : S → S}

theorem oblivious_result (view : S → S) (result : Except SessionError α) :
    Oblivious view fun state => (result, state) :=
  fun _ => rfl

theorem run_tryCatch {action : ExceptT SessionError (StateM S) α}
    {handler : SessionError → ExceptT SessionError (StateM S) α} (state : S) :
    tryCatch action handler state =
      match action state with
      | (.ok value, after) => (.ok value, after)
      | (.error error, after) => handler error after := by
  change ExceptT.tryCatch action handler state = _
  simp only [ExceptT.tryCatch, ExceptT.mk, bind, StateT.bind, pure]
  rcases action state with ⟨error | value, after⟩ <;> rfl

theorem oblivious_bind {first : ExceptT SessionError (StateM S) α}
    {next : α → ExceptT SessionError (StateM S) β} (begun : Oblivious view first)
    (continued : ∀ value, Oblivious view (next value)) : Oblivious view (first >>= next) := by
  intro state
  rw [run_bind, run_bind, begun state]
  rcases first state with ⟨error | value, after⟩
  · rfl
  · exact continued value after

theorem oblivious_tryCatch {action : ExceptT SessionError (StateM S) α}
    {handler : SessionError → ExceptT SessionError (StateM S) α} (begun : Oblivious view action)
    (handled : ∀ error, Oblivious view (handler error)) :
    Oblivious view (tryCatch action handler) := by
  intro state
  rw [run_tryCatch, run_tryCatch, begun state]
  rcases action state with ⟨error | value, after⟩
  · exact handled error after
  · rfl

end Oblivious

namespace Session

variable {σ α β : Type}

/-- The session with a monitor that has seen all statements of its server. -/
def monitored (session : Session (σ × List Exchange)) : Session (σ × List Exchange) :=
  { session with journal? := some (eventsOf session.exchanges) }

section Fields

variable (session : Session (σ × List Exchange))

@[simp] theorem settings_monitored : session.monitored.settings = session.settings := rfl

@[simp] theorem state_monitored : session.monitored.state = session.state := rfl

@[simp] theorem dialect_monitored : session.monitored.dialect = session.dialect := rfl

@[simp] theorem policy_monitored : session.monitored.policy = session.policy := rfl

@[simp] theorem depth_monitored : session.monitored.depth = session.depth := rfl

end Fields

section Attempts

variable {server : Server σ} {session : Session (σ × List Exchange)}

theorem eventsOf_connect {settings : Settings} {state after : σ × List Exchange}
    {result : Except ServerError Nat}
    (connected : server.logged.connect settings state = (result, after)) :
    eventsOf after.2 = eventsOf state.2 := by
  simp only [Server.logged, Server.noting, Prod.mk.injEq] at connected
  obtain ⟨-, rfl⟩ := connected
  simp [eventsOf, Exchange.event?]

theorem oblivious_attempt (sql : String) (values : List Scalar) :
    Oblivious monitored (attempt server.logged sql values) := by
  intro session
  simp [attempt, monitored, Server.logged, Server.noting, exchanges, eventsOf, Exchange.event?]

theorem reconnectUntil_monitored (server : Server σ) (session : Session (σ × List Exchange)) :
    reconnectUntil server.logged session.monitored =
      (reconnectUntil server.logged session).monitored := by
  fun_induction reconnectUntil server.logged session with
  | case1 session connection state connected =>
      have connected' : server.logged.connect session.monitored.settings session.monitored.state =
          (.ok connection, state) := connected
      rw [reconnectUntil_of_connected connected']
      simp only [monitored, exchanges, eventsOf_connect connected]
  | case2 session error state refused induction =>
      have refused' : server.logged.connect session.monitored.settings session.monitored.state =
          (.error error, state) := refused
      rw [reconnectUntil_of_refused refused', ← induction]
      simp only [monitored, exchanges, eventsOf_connect refused]

theorem abandon_monitored (server : Server σ) (session : Session (σ × List Exchange)) :
    abandon server.logged session.monitored = (abandon server.logged session).monitored :=
  congrArg Prod.snd (oblivious_attempt "ROLLBACK" [] { session with depth := 0 })

theorem attempt_monitored {sql : String} {values : List Scalar}
    {result : Except ServerError Answer} {after : Session (σ × List Exchange)}
    (attempted : attempt server.logged sql values session = (result, after)) :
    attempt server.logged sql values session.monitored = (result, after.monitored) := by
  rw [oblivious_attempt sql values session, attempted]

theorem oblivious_persist (server : Server σ) (sql : String) (values : List Scalar)
    (inside : Bool) : Oblivious monitored (persist server.logged sql values inside) := by
  intro session
  fun_induction persist server.logged sql values inside session with
  | case1 inside session answer after attempted =>
      rw [persist, attempt_monitored attempted]
      rfl
  | case2 inside session error after attempted kind =>
      simp only [persist_of_failure (attempt_monitored attempted), dialect_monitored, kind]
  | case3 session error after attempted kind =>
      simp only [persist_of_failure (attempt_monitored attempted), dialect_monitored, kind,
        abandon_monitored, if_true]
  | case4 inside session error after attempted kind retried induction =>
      simp only [persist_of_failure (attempt_monitored attempted), dialect_monitored, kind, retried]
      exact induction
  | case5 inside session error after attempted kind policy =>
      simp only [persist_of_failure (attempt_monitored attempted), dialect_monitored, kind,
        policy_monitored, policy]
  | case6 session error after attempted kind pause policy =>
      simp only [persist_of_failure (attempt_monitored attempted), dialect_monitored, kind,
        policy_monitored, policy, reconnectUntil_monitored, if_true]
  | case7 inside session error after attempted kind pause policy retried induction =>
      simp only [persist_of_failure (attempt_monitored attempted), dialect_monitored, kind,
        policy_monitored, policy, reconnectUntil_monitored, retried]
      exact induction

end Attempts

/-! ## Calls -/

section Calls

variable (server : Server σ)

theorem oblivious_runAs (inside : Bool) (sql : String) (params : Params) :
    Oblivious monitored (runAs server.logged inside sql params) := by
  intro session
  simp only [runAs, dialect_monitored]
  cases params.bind session.dialect sql with
  | error unbound => rfl
  | ok pair => exact oblivious_persist server pair.1 pair.2 inside session

theorem oblivious_run (sql : String) (params : Params) :
    Oblivious monitored (run server.logged sql params) :=
  fun session => oblivious_runAs server session.inTransaction sql params session

theorem oblivious_exec (sql : String) (params : Params) :
    Oblivious monitored (exec server.logged sql params) :=
  oblivious_bind (oblivious_run server sql params) fun _ => oblivious_result _ _

theorem oblivious_query (sql : String) (params : Params) :
    Oblivious monitored (query server.logged sql params) :=
  oblivious_bind (oblivious_run server sql params) fun _ => oblivious_result _ _

theorem oblivious_execute (statement : Statement) :
    Oblivious monitored (execute server.logged statement) := by
  intro session
  unfold execute
  rw [dialect_monitored]
  by_cases same : statement.dialect = session.dialect
  · rw [if_pos same, if_pos same]
    cases statement.render with
    | error error => rfl
    | ok sql => exact oblivious_query server sql statement.params session
  · rw [if_neg same, if_neg same]

theorem oblivious_begin (nesting : Bool) : Oblivious monitored (begin server.logged nesting) := by
  intro session
  unfold begin
  rw [dialect_monitored, depth_monitored]
  dsimp only
  cases beginText? session.dialect (session.depth + 1) nesting with
  | none => rfl
  | some text =>
      generalize decide (session.depth ≠ 0) = inside
      simp only [oblivious_runAs server inside text .none session]
      rcases runAs server.logged inside text .none session with ⟨_ | _, after⟩ <;> rfl

theorem oblivious_finish (way : Finish) (nesting : Bool) :
    Oblivious monitored (finish server.logged way nesting) := by
  intro session
  unfold finish
  rw [depth_monitored]
  match session.depth with
  | 0 => rfl
  | depth + 1 =>
      dsimp only
      cases way.text? (depth + 1) nesting with
      | none => rfl
      | some text =>
          have lowered := oblivious_runAs server true text .none { session with depth }
          simp only [show { session.monitored with depth } =
            monitored { session with depth } from rfl, lowered]
          rcases runAs server.logged true text .none { session with depth } with ⟨_ | _, after⟩
          all_goals rfl

theorem oblivious_transaction {body : Action (σ × List Exchange) α}
    (inner : Oblivious monitored body) : Oblivious monitored (transaction server.logged body) := by
  intro session
  simp only [transaction, oblivious_begin server true session]
  rcases begin server.logged true session with ⟨error | issued, entered⟩
  · rfl
  · simp only [inner entered]
    rcases body entered with ⟨error | value, left⟩
    · dsimp only
      rw [depth_monitored]
      by_cases kept : 0 < left.depth ∧ !error.isTransactionLost
      · rw [if_pos kept, if_pos kept]
        simp only [rollback, oblivious_finish server .rollback true left]
      · rw [if_neg kept, if_neg kept]
    · simp only [commit, oblivious_finish server .commit true left]
      rcases finish server.logged .commit true left with ⟨_ | _, after⟩ <;> rfl

theorem oblivious_reconnect : Oblivious monitored (reconnect server.logged) := by
  intro session
  simp only [reconnect, settings_monitored, state_monitored]
  rcases connected : server.logged.connect session.settings session.state with ⟨_ | _, state⟩
  · simp only [monitored, exchanges, eventsOf_connect connected]
  · simp only [monitored, exchanges, eventsOf_connect connected]

end Calls

end Session

/-! ## Calls of cursors -/

namespace Cursor

variable {σ α β : Type}

/-- A cursor with its session monitored. -/
def monitored (state : Cursor × Session (σ × List Exchange)) :
    Cursor × Session (σ × List Exchange) :=
  (state.1, state.2.monitored)

section Calls

variable (server : Server σ)

theorem oblivious_reexecute : Oblivious monitored (reexecute server.logged) := by
  rintro ⟨cursor, session⟩
  simp only [monitored, reexecute, Session.oblivious_run server cursor.sql cursor.params session]
  rcases Session.run server.logged cursor.sql cursor.params session with ⟨_ | _, after⟩ <;> rfl

theorem readAnew_monitored (index : Nat) (cursor : Cursor)
    (session : Session (σ × List Exchange)) :
    read.readAnew server.logged index cursor session.monitored =
      ((read.readAnew server.logged index cursor session).1,
        monitored (read.readAnew server.logged index cursor session).2) := by
  unfold read.readAnew
  by_cases taken : index < cursor.consumed
  · have again := oblivious_reexecute server (cursor, session)
    rw [if_pos taken, if_pos taken]
    simp only [monitored] at again
    simp only [again]
    rcases reexecute server.logged (cursor, session) with ⟨_ | _, renewed, after⟩ <;> rfl
  · rw [if_neg taken, if_neg taken]
    rfl

theorem oblivious_read (index : Nat) : Oblivious monitored (read server.logged index) := by
  rintro ⟨cursor, session⟩
  unfold read
  simp only [monitored]
  cases cursor.cached? with
  | none => exact readAnew_monitored server index cursor session
  | some cached =>
      obtain ⟨held, row⟩ := cached
      by_cases same : held = index
      · simp only [if_pos same]
      · simp only [if_neg same]
        exact readAnew_monitored server index cursor session

theorem oblivious_current : Oblivious monitored (current server.logged) :=
  fun state => oblivious_read server state.1.position state

theorem oblivious_next : Oblivious monitored (next server.logged) := by
  intro state
  simp only [next, oblivious_current server state]
  rcases current server.logged state with ⟨_ | _ | row, cursor, session⟩ <;> rfl

theorem oblivious_rowAt (index : Nat) : Oblivious monitored (rowAt server.logged index) := by
  rintro ⟨cursor, session⟩
  cases known : cursor.hasRow index with
  | false => simp [rowAt, monitored, known]
  | true => simpa [rowAt, monitored, known] using oblivious_read server index (cursor, session)

theorem oblivious_first : Oblivious monitored (first server.logged) :=
  fun state => oblivious_next server (state.1.seek 0, state.2)

theorem oblivious_last : Oblivious monitored (last server.logged) := by
  rintro ⟨cursor, session⟩
  simp only [monitored, last]
  cases cursor.rowCount with
  | zero => rfl
  | succ count => exact oblivious_next server (cursor.seek count, session)

theorem collect_eq {τ : Type} (server : Server τ) (step : Row → Except SessionError α)
    (state : Cursor × Session τ) :
    collect server step state =
      match next server state with
      | (.error error, after) => (.error error, after)
      | (.ok none, after) => (.ok [], after)
      | (.ok (some row), after) =>
          match step row with
          | .error error => (.error error, after)
          | .ok value =>
              match collect server step after with
              | (.error error, after) => (.error error, after)
              | (.ok values, after) => (.ok (value :: values), after) := by
  rw [collect]
  split
  · next found => rw [found]
  · next found => rw [found]
  · next row after found =>
    rw [found]
    dsimp only
    cases step row with
    | error error => rfl
    | ok value => rcases collect server step after with ⟨_ | _, left⟩ <;> rfl

theorem next_monitored {state after : Cursor × Session (σ × List Exchange)}
    {result : Except SessionError (Option Row)}
    (found : next server.logged state = (result, after)) :
    next server.logged (monitored state) = (result, monitored after) := by
  rw [oblivious_next server state, found]

theorem oblivious_collect (step : Row → Except SessionError α) :
    Oblivious monitored (collect server.logged step) := by
  intro state
  fun_induction collect server.logged step state with
  | case1 state error after found => rw [collect_eq, next_monitored server found]
  | case2 state after found => rw [collect_eq, next_monitored server found]
  | case3 state row after found error refused =>
      rw [collect_eq, next_monitored server found]
      simp only [refused]
  | case4 state row after found value made error left failed induction =>
      rw [failed] at induction
      rw [collect_eq, next_monitored server found]
      simp only [made, induction]
  | case5 state row after found value made values left collected induction =>
      rw [collected] at induction
      rw [collect_eq, next_monitored server found]
      simp only [made, induction]

theorem oblivious_fetchAll : Oblivious monitored (fetchAll server.logged) :=
  oblivious_collect server .ok

theorem oblivious_toMaps : Oblivious monitored (toMaps server.logged) := by
  rintro ⟨cursor, session⟩
  have fetched := oblivious_fetchAll server (cursor.seek 0, session)
  simp only [monitored] at fetched
  simp only [monitored, toMaps, fetched]
  rcases fetchAll server.logged (cursor.seek 0, session) with ⟨_ | _, after⟩ <;> rfl

theorem oblivious_fetchInto (α : Type) [FromRow α] :
    Oblivious monitored (fetchInto server.logged α) := by
  refine oblivious_bind (oblivious_next server) fun row? => ?_
  cases row? with
  | none => exact oblivious_result _ _
  | some row => exact oblivious_bind (oblivious_result _ _) fun _ => oblivious_result _ _

theorem oblivious_fetchAllInto (α : Type) [FromRow α] :
    Oblivious monitored (fetchAllInto server.logged α) :=
  oblivious_bind (oblivious_fetchAll server) fun _ => oblivious_result _ _

theorem oblivious_fetchKeyed (grouping : Grouping) :
    Oblivious monitored (fetchKeyed server.logged grouping) := by
  unfold fetchKeyed
  split
  · exact oblivious_result _ _
  · exact oblivious_bind (oblivious_collect server grouping.place) fun _ => oblivious_result _ _

theorem oblivious_fetch (request : FetchRequest) :
    Oblivious monitored (fetch server.logged request) := by
  cases request with
  | single => exact oblivious_bind (oblivious_next server) fun _ => oblivious_result _ _
  | all => exact oblivious_bind (oblivious_fetchAll server) fun _ => oblivious_result _ _
  | keyed grouping =>
      exact oblivious_bind (oblivious_fetchKeyed server grouping) fun _ => oblivious_result _ _
  | column column =>
      refine oblivious_bind (oblivious_next server) fun row? => ?_
      cases row? with
      | none => exact oblivious_result _ _
      | some row => exact oblivious_bind (oblivious_result _ _) fun _ => oblivious_result _ _

end Calls

/-- What a cursor is used for: calls one after the other, where a later call may depend on what the
earlier ones gave, whether they succeeded or failed. -/
inductive Uses {τ : Type} (server : Server τ) : {α : Type} → Action τ α → Prop where
  | reexecute : Uses server (Cursor.reexecute server)
  | current : Uses server (Cursor.current server)
  | next : Uses server (Cursor.next server)
  | rowAt (index : Nat) : Uses server (Cursor.rowAt server index)
  | first : Uses server (Cursor.first server)
  | last : Uses server (Cursor.last server)
  | seek (index : Nat) :
      Uses server fun (cursor, session) => (.ok (), cursor.seek index, session)
  | fetchAll : Uses server (Cursor.fetchAll server)
  | toMaps : Uses server (Cursor.toMaps server)
  | fetchInto (α : Type) [FromRow α] : Uses server (Cursor.fetchInto server α)
  | fetchAllInto (α : Type) [FromRow α] : Uses server (Cursor.fetchAllInto server α)
  | fetch (request : FetchRequest) : Uses server (Cursor.fetch server request)
  /-- Anything that the cursor tells without reading a row. -/
  | look {α : Type} (view : Cursor → α) :
      Uses server fun (cursor, session) => (.ok (view cursor), cursor, session)
  | result {α : Type} (result : Except SessionError α) : Uses server fun state => (result, state)
  | bind {α β : Type} {first : Action τ α} {next : α → Action τ β} (begun : Uses server first)
      (continued : ∀ value, Uses server (next value)) : Uses server (first >>= next)
  | tryCatch {α : Type} {action : Action τ α} {handler : SessionError → Action τ α}
      (begun : Uses server action) (handled : ∀ error, Uses server (handler error)) :
      Uses server (tryCatch action handler)

theorem Uses.oblivious {server : Server σ} {action : Action (σ × List Exchange) α}
    (uses : Uses server.logged action) : Oblivious monitored action := by
  induction uses with
  | reexecute => exact oblivious_reexecute server
  | current => exact oblivious_current server
  | next => exact oblivious_next server
  | rowAt index => exact oblivious_rowAt server index
  | first => exact oblivious_first server
  | last => exact oblivious_last server
  | seek index => exact fun _ => rfl
  | fetchAll => exact oblivious_fetchAll server
  | toMaps => exact oblivious_toMaps server
  | fetchInto α => exact oblivious_fetchInto server α
  | fetchAllInto α => exact oblivious_fetchAllInto server α
  | fetch request => exact oblivious_fetch server request
  | look view => exact fun _ => rfl
  | result result => exact oblivious_result _ result
  | bind _ _ begun continued => exact oblivious_bind begun continued
  | tryCatch _ _ begun handled => exact oblivious_tryCatch begun handled

end Cursor

/-! ## Sessions -/

namespace Session

variable {σ α : Type}

section Queries

variable (server : Server σ)

theorem oblivious_reading {action : Cursor.Action (σ × List Exchange) α}
    (oblivious : Oblivious Cursor.monitored action) (cursor : Cursor) :
    Oblivious monitored (reading action cursor) := by
  intro session
  have read := oblivious (cursor, session)
  simp only [Cursor.monitored] at read
  simp only [reading, read]
  rcases action (cursor, session) with ⟨result, cursor, after⟩
  rfl

theorem oblivious_selectRow (sql : String) (params : Params) :
    Oblivious monitored (selectRow server.logged sql params) :=
  oblivious_bind (oblivious_query server sql params)
    (oblivious_reading (Cursor.oblivious_next server))

theorem oblivious_selectAll (sql : String) (params : Params) :
    Oblivious monitored (selectAll server.logged sql params) :=
  oblivious_bind (oblivious_query server sql params)
    (oblivious_reading (Cursor.oblivious_fetchAll server))

theorem oblivious_selectStatement (statement : Statement) :
    Oblivious monitored (selectStatement server.logged statement) :=
  oblivious_bind (oblivious_execute server statement)
    (oblivious_reading (Cursor.oblivious_fetchAll server))

theorem oblivious_lastInsertId (table? column? : Option String) :
    Oblivious monitored (lastInsertId server.logged table? column?) := by
  intro session
  have got (session : Session (σ × List Exchange)) :
      (get : Action (σ × List Exchange) _) session = (.ok session, session) := rfl
  rw [lastInsertId, bind_of_ok (got session), bind_of_ok (got session.monitored),
    dialect_monitored]
  cases insertIdQuery? session.dialect table? column? with
  | none => rfl
  | some asked =>
      exact oblivious_bind (oblivious_selectRow server asked.1 asked.2)
        (fun _ => oblivious_result _ _) session

theorem oblivious_page (paginator : Paginator) :
    Oblivious monitored (paginator.fetch server.logged) := by
  refine oblivious_bind (oblivious_selectStatement server _) fun counts => ?_
  dsimp only
  cases paginator.window? (Paginator.total counts) with
  | none => exact oblivious_result _ _
  | some window =>
      have rows : Oblivious monitored (paginator.windowRows server.logged window) :=
        oblivious_bind (oblivious_selectStatement server _) fun _ => oblivious_result _ _
      exact oblivious_bind rows fun _ => oblivious_result _ _

end Queries

/-- What a session is used for: calls of the session, of its cursors and of paginators one after
the other, where a later call may depend on what the earlier ones gave, whether they succeeded or
failed. The body of a transaction is such a use too. -/
inductive Uses {τ : Type} (server : Server τ) : {α : Type} → Action τ α → Prop where
  | exec (sql : String) (params : Params) : Uses server (Session.exec server sql params)
  | query (sql : String) (params : Params) : Uses server (Session.query server sql params)
  | execute (statement : Statement) : Uses server (Session.execute server statement)
  | selectRow (sql : String) (params : Params) : Uses server (Session.selectRow server sql params)
  | selectAll (sql : String) (params : Params) : Uses server (Session.selectAll server sql params)
  | lastInsertId (table? column? : Option String) :
      Uses server (Session.lastInsertId server table? column?)
  | begin (nesting : Bool) : Uses server (Session.begin server nesting)
  | commit (nesting : Bool) : Uses server (Session.commit server nesting)
  | rollback (nesting : Bool) : Uses server (Session.rollback server nesting)
  | transaction {α : Type} {body : Action τ α} (inner : Uses server body) :
      Uses server (Session.transaction server body)
  | reconnect : Uses server (Session.reconnect server)
  | setPolicy (policy : ReconnectPolicy) :
      Uses server fun session => (.ok (), session.setPolicy policy)
  | page (paginator : Paginator) : Uses server (paginator.fetch server)
  | reading {α : Type} {action : Cursor.Action τ α} (uses : Cursor.Uses server action)
      (cursor : Cursor) : Uses server (Session.reading action cursor)
  /-- Anything that the session tells of itself. -/
  | look {α : Type} (view : Settings → Dialect → Nat → α) :
      Uses server fun session =>
        (.ok (view session.settings session.dialect session.depth), session)
  | result {α : Type} (result : Except SessionError α) :
      Uses server fun session => (result, session)
  | bind {α β : Type} {first : Action τ α} {next : α → Action τ β} (begun : Uses server first)
      (continued : ∀ value, Uses server (next value)) : Uses server (first >>= next)
  | tryCatch {α : Type} {action : Action τ α} {handler : SessionError → Action τ α}
      (begun : Uses server action) (handled : ∀ error, Uses server (handler error)) :
      Uses server (tryCatch action handler)

theorem Uses.oblivious {server : Server σ} {action : Action (σ × List Exchange) α}
    (uses : Uses server.logged action) : Oblivious monitored action := by
  induction uses with
  | exec sql params => exact oblivious_exec server sql params
  | query sql params => exact oblivious_query server sql params
  | execute statement => exact oblivious_execute server statement
  | selectRow sql params => exact oblivious_selectRow server sql params
  | selectAll sql params => exact oblivious_selectAll server sql params
  | lastInsertId table? column? => exact oblivious_lastInsertId server table? column?
  | begin nesting => exact oblivious_begin server nesting
  | commit nesting => exact oblivious_finish server .commit nesting
  | rollback nesting => exact oblivious_finish server .rollback nesting
  | transaction _ inner => exact oblivious_transaction server inner
  | reconnect => exact oblivious_reconnect server
  | setPolicy policy => exact fun _ => rfl
  | page paginator => exact oblivious_page server paginator
  | reading uses cursor => exact oblivious_reading uses.oblivious cursor
  | look view => exact fun _ => rfl
  | result result => exact oblivious_result _ result
  | bind _ _ begun continued => exact oblivious_bind begun continued
  | tryCatch _ _ begun handled => exact oblivious_tryCatch begun handled

/-- A monitor installed on a new session has seen all its statements, for there are none. -/
theorem installMonitor_of_start {server : Server σ} {settings : Settings} {state : σ}
    {session : Session (σ × List Exchange)}
    (started : start server.logged settings (state, []) = .ok session) :
    session.installMonitor = session.monitored := by
  rw [start] at started
  split at started
  · simp at started
  · split at started
    · simp at started
    · next connection after connected =>
      obtain rfl := Except.ok.inj started
      have seen : eventsOf after.2 = [] := eventsOf_connect connected
      simp only [installMonitor, monitored, exchanges, seen]

/-- A monitor installed on a new session sees one event for every statement that is sent, in the
order of sending, with its text, its values and what came of this very attempt; and whatever the
session is used for, each call gives the same and leaves the same session and the same exchanges
with the server as without the monitor. -/
theorem events_of_uses {server : Server σ} {settings : Settings} {state : σ}
    {session : Session (σ × List Exchange)} {action : Action (σ × List Exchange) α}
    (started : start server.logged settings (state, []) = .ok session)
    (uses : Uses server.logged action) :
    let plain := action session
    let watched := action session.installMonitor
    watched.2.journal? = some (eventsOf watched.2.exchanges) ∧ watched.1 = plain.1 ∧
      watched.2 = { plain.2 with journal? := watched.2.journal? } := by
  intro plain watched
  have both : watched = (plain.1, plain.2.monitored) := by
    change action session.installMonitor = _
    rw [installMonitor_of_start started]
    exact uses.oblivious session
  rw [both]
  exact ⟨rfl, rfl, rfl⟩

/-- A policy, a statement, a transaction whose failure is passed over, and a cursor that goes back
to its first row. -/
def errand {τ : Type} (server : Server τ) : Action τ (Option Row) := do
  (fun session => (.ok (), session.setPolicy (.unbounded 0)) : Action τ Unit)
  let _ ← exec server "UPDATE t SET a = ?" (.positional [.int 1])
  let _ ← tryCatch (transaction server (exec server "DELETE FROM t" .none)) fun _ => pure 0
  let cursor ← query server "SELECT a FROM t" .none
  reading (do let _ ← Cursor.next server; let _ ← Cursor.next server; Cursor.first server) cursor

theorem uses_errand {τ : Type} (server : Server τ) : Uses server (errand server) := by
  refine .bind (.setPolicy _) fun _ => .bind (.exec _ _) fun _ =>
    .bind (.tryCatch (.transaction (.exec _ _)) ?_) fun _ =>
      .bind (.query _ _) fun cursor => .reading ?_ cursor
  · exact fun _ => .result _
  · exact .bind .next fun _ => .bind .next fun _ => .first

/-- Contention before and inside a transaction, where the rollback fails, and a connection that is
lost and replaced: everything that is sent is seen. -/
theorem events_of_errand :
    let locked : ServerError := ⟨some "40P01", "deadlock detected", false⟩
    let gone : ServerError := .ofTransport "gone"
    let rows : Answer := ⟨["a"], [[.int 1], [.int 2]], 2, none⟩
    let tape : Tape :=
      ⟨[.ok 1, .error gone, .ok 2], [.error locked, .ok (.affected 3 none), .ok (.affected 0 none),
        .error locked, .error gone, .error gone, .ok rows, .ok rows]⟩
    let settings : Settings := { driver := "pgsql" }
    let action := errand Tape.server.logged
    ∃ session, start Tape.server.logged settings (tape, []) = .ok session ∧
      Uses Tape.server.logged action ∧
      (action session.installMonitor).2.journal? = some
        [⟨"UPDATE t SET a = $1", [.int 1], .error "[40P01] deadlock detected"⟩,
          ⟨"UPDATE t SET a = $1", [.int 1], .affected 3⟩, ⟨"BEGIN", [], .affected 0⟩,
          ⟨"DELETE FROM t", [], .error "[40P01] deadlock detected"⟩,
          ⟨"ROLLBACK", [], .error "gone"⟩, ⟨"SELECT a FROM t", [], .error "gone"⟩,
          ⟨"SELECT a FROM t", [], .rows 2⟩, ⟨"SELECT a FROM t", [], .rows 2⟩] ∧
      (action session.installMonitor).1 = (action session).1 ∧
      (action session.installMonitor).2 =
        { (action session).2 with
          journal? := some (eventsOf (action session.installMonitor).2.exchanges) } := by
  intro locked gone rows tape settings action
  have uses : Uses Tape.server.logged action := uses_errand Tape.server.logged
  have started : start Tape.server.logged settings (tape, []) = .ok
      { settings, dialect := .postgres, connection := 1, depth := 0, policy := .disabled
        state := (⟨[.error gone, .ok 2], tape.answers⟩, [.connected (.ok 1)])
        insertId? := none, journal? := none } :=
    start_of_connect (by decide) rfl
  obtain ⟨seen, same, session⟩ := events_of_uses started uses
  refine ⟨_, started, uses, by decide +kernel, same, ?_⟩
  rw [seen] at session
  exact session

end Session

end SqlClient
