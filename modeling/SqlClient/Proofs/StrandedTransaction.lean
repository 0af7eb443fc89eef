import SqlClient.Proofs.OpenTransaction

/-!
# Stranded transactions

A session that counts no levels has left no transaction open on its connection, so that it can begin
another one. The one way to strand a transaction is a commit that the server refuses: the level
counts as finished then, although the server has not finished it.
-/

namespace SqlClient

variable {σ : Type}

/-! ## Servers with transactions -/

/-- What a server promises about the transactions of its connections. Texts of callers are plain,
and some errors tell that a transaction is still open. -/
structure Server.Transacts (server : Server σ) (dialect : Dialect) (plain : String → Prop)
    (holds : σ → Nat → Prop) (tellsOpen : ServerError → Prop) : Prop where
  /-- A new connection holds no transaction. -/
  connected : ∀ {settings state connection after},
    server.connect settings state = (.ok connection, after) → ¬holds after connection
  refused : ∀ {settings state error after},
    server.connect settings state = (.error error, after) →
      ∀ connection, holds after connection ↔ holds state connection
  /-- A lost connection takes its transaction with it. -/
  lost : ∀ {connection text values state error after},
    server.execute connection text values state = (.error error, after) →
      error.failure dialect = .connectionLost → ¬holds after connection
  /-- Every other failure leaves the transaction as it was. -/
  failed : ∀ {connection text values state error after},
    server.execute connection text values state = (.error error, after) →
      error.failure dialect ≠ .connectionLost →
        (holds after connection ↔ holds state connection)
  plain : ∀ {connection text values state answer after},
    server.execute connection text values state = (.ok answer, after) → plain text →
      (holds after connection ↔ holds state connection)
  ended : ∀ {connection text values state answer after},
    server.execute connection text values state = (.ok answer, after) →
      text = "COMMIT" ∨ text = "ROLLBACK" → ¬holds after connection
  /-- A begin is refused for an open transaction only where there is one. -/
  begun : ∀ {connection values state error after},
    server.execute connection dialect.beginText values state = (.error error, after) →
      tellsOpen error → holds state connection

/-- A statement that failed, and its failure. -/
def Exchange.failed? : Exchange → Option (String × ServerError)
  | .executed _ text _ (.error error) => some (text, error)
  | _ => none

namespace Session

/-- The statements that failed, and their failures. -/
def failures (session : Session (σ × List Exchange)) : List (String × ServerError) :=
  session.exchanges.filterMap Exchange.failed?

/-- No rollback failed, and no commit was refused. -/
structure Finishes (dialect : Dialect) (failures : List (String × ServerError)) : Prop where
  rolledBack : ∀ error, ("ROLLBACK", error) ∉ failures
  committed : ∀ error, ("COMMIT", error) ∈ failures → error.failure dialect ≠ .other

theorem Finishes.mono {dialect : Dialect} {fewer more : List (String × ServerError)}
    (finishes : Finishes dialect more) (among : fewer ⊆ more) : Finishes dialect fewer :=
  ⟨fun error member => finishes.rolledBack error (among member),
    fun error member => finishes.committed error (among member)⟩

section Notes

variable {server : Server σ} {plain : String → Prop} {text : String} {values : List Scalar}
  {session after : Session (σ × List Exchange)}

theorem failures_of_exchanges {later : List Exchange}
    (longer : after.exchanges = session.exchanges ++ later) :
    after.failures = session.failures ++ later.filterMap Exchange.failed? := by
  rw [failures, longer, List.filterMap_append]
  rfl

theorem failures_subset {later : List Exchange}
    (longer : after.exchanges = session.exchanges ++ later) :
    session.failures ⊆ after.failures := by
  rw [failures_of_exchanges longer]
  exact List.subset_append_left _ _

/-- A failure is among the failures after it. -/
theorem mem_failures_recorded {error : ServerError} {state : σ × List Exchange}
    (executed : server.logged.execute session.connection text values session.state =
      (.error error, state)) :
    (text, error) ∈ (session.recorded text values (.error error) state).failures := by
  have longer : (session.recorded text values (.error error) state).exchanges =
      session.exchanges ++ [.executed session.connection text values (.error error)] :=
    exchanges_of_execute executed
  rw [failures_of_exchanges longer]
  exact List.mem_append_right _ (by simp [Exchange.failed?])

theorem failures_subset_replaced (server : Server σ) (session : Session (σ × List Exchange)) :
    session.failures ⊆ (reconnectUntil server.logged session).failures := by
  obtain ⟨refusals, connection, noted, -, -⟩ := reconnectUntil_logged server session
  exact failures_subset noted

theorem Settled.failures_subset {ran : Except SessionError Answer × Session (σ × List Exchange)}
    (settled : Settled server.logged text values session ran) :
    session.failures ⊆ ran.2.failures := by
  cases settled with
  | answered executed => exact Session.failures_subset (exchanges_of_execute executed)
  | failed executed => exact Session.failures_subset (exchanges_of_execute executed)

/-- Runs outside a transaction take no failure back. -/
theorem failures_subset_persist (server : Server σ) (text : String) (values : List Scalar)
    (session : Session (σ × List Exchange)) :
    session.failures ⊆ (persist server.logged text values false session).2.failures := by
  have kept : ∃ last : Session (σ × List Exchange), session.failures ⊆ last.failures ∧
      Settled server.logged text values last (persist server.logged text values false session) := by
    apply settled_persist
    · intro last error state before executed
      exact List.Subset.trans before (Session.failures_subset (exchanges_of_execute executed))
    · intro last before
      exact List.Subset.trans before (failures_subset_replaced server last)
    · exact List.Subset.refl _
  obtain ⟨last, before, settled⟩ := kept
  exact List.Subset.trans before settled.failures_subset

theorem failures_opened (level : Nat)
    (ran : Except SessionError Answer × Session (σ × List Exchange)) :
    (opened level ran).failures = ran.2.failures := by
  rcases ran with ⟨error | answer, after⟩ <;> rfl

/-- No call takes a failure back. -/
theorem Effect.failures_subset (effect : Effect server.logged plain session after) :
    session.failures ⊆ after.failures := by
  by_cases within : 0 < session.depth
  · obtain ⟨later, longer, -⟩ := effect.sent_on within
    exact Session.failures_subset longer
  · cases effect with
    | silent => exact List.Subset.refl _
    | outside => exact failures_subset_persist server _ _ session
    | begun =>
        rw [failures_opened]
        exact failures_subset_persist server _ _ session
    | inside inside | abandoned inside | replaced inside => exact absurd inside within
    | finished outermost => exact absurd (outermost ▸ Nat.one_pos) within

end Notes

/-! ## Sessions without levels -/

/-- A session outside a transaction whose connection holds none. -/
structure Idle (dialect : Dialect) (holds : σ → Nat → Prop)
    (session : Session (σ × List Exchange)) : Prop where
  dialect_eq : session.dialect = dialect
  closed : session.depth = 0
  nothing : ¬holds session.state.1 session.connection

section Idle

variable {server : Server σ} {dialect : Dialect} {plain : String → Prop} {holds : σ → Nat → Prop}
  {tellsOpen : ServerError → Prop} {text : String} {values : List Scalar}
  {session : Session (σ × List Exchange)}

/-- What is executed on the server with notes is executed on the server. -/
theorem execute_of_logged {connection : Nat} {result : Except ServerError Answer}
    {state after : σ × List Exchange}
    (executed : server.logged.execute connection text values state = (result, after)) :
    server.execute connection text values state.1 = (result, after.1) := by
  simp only [Server.logged, Server.noting, Prod.mk.injEq] at executed
  obtain ⟨rfl, rfl⟩ := executed
  rfl

theorem connect_of_logged {settings : Settings} {result : Except ServerError Nat}
    {state after : σ × List Exchange}
    (connected : server.logged.connect settings state = (result, after)) :
    server.connect settings state.1 = (result, after.1) := by
  simp only [Server.logged, Server.noting, Prod.mk.injEq] at connected
  obtain ⟨rfl, rfl⟩ := connected
  rfl

theorem failures_subset_refused {error : ServerError} {state : σ × List Exchange}
    (refused : server.logged.connect session.settings session.state = (.error error, state)) :
    session.failures ⊆ { session with state }.failures := by
  simp only [Server.logged, Server.noting, Prod.mk.injEq] at refused
  obtain ⟨-, rfl⟩ := refused
  exact failures_subset rfl

variable (promises : server.Transacts dialect plain holds tellsOpen)

include promises

/-- A connection made after a loss holds no transaction. -/
theorem not_holds_replaced (session : Session (σ × List Exchange)) :
    ¬holds (reconnectUntil server.logged session).state.1
      (reconnectUntil server.logged session).connection := by
  fun_induction reconnectUntil server.logged session with
  | case1 session connection state connected =>
      exact promises.connected (connect_of_logged connected)
  | case2 session error state refused induction => exact induction

/-- A failed statement leaves an idle session idle. -/
theorem Idle.failed (idle : Idle dialect holds session) {error : ServerError}
    {state : σ × List Exchange}
    (executed : server.logged.execute session.connection text values session.state =
      (.error error, state)) :
    Idle dialect holds (session.recorded text values (.error error) state) := by
  refine ⟨idle.dialect_eq, idle.closed, ?_⟩
  have failed := execute_of_logged executed
  by_cases lost : error.failure dialect = .connectionLost
  · exact promises.lost failed lost
  · exact fun held => idle.nothing ((promises.failed failed lost).1 held)

theorem Idle.replaced (idle : Idle dialect holds session) :
    Idle dialect holds (reconnectUntil server.logged session) :=
  ⟨(dialect_reconnectUntil _ session).trans idle.dialect_eq, depth_reconnectUntil _ session,
    not_holds_replaced promises session⟩

/-- The last attempt of an idle session is made by an idle session. -/
theorem Idle.settled (idle : Idle dialect holds session) (text : String) (values : List Scalar) :
    ∃ last, Idle dialect holds last ∧
      Settled server.logged text values last (persist server.logged text values false session) :=
  settled_persist (fun idle executed => idle.failed promises executed)
    (fun idle => idle.replaced promises) idle

/-- A plain text leaves an idle session idle. -/
theorem Idle.outside (idle : Idle dialect holds session) (asked : plain text)
    (values : List Scalar) :
    Idle dialect holds (persist server.logged text values false session).2 := by
  obtain ⟨last, same, settled⟩ := idle.settled promises text values
  generalize persist server.logged text values false session = ran at settled
  cases settled with
  | answered executed =>
      refine ⟨same.dialect_eq, same.closed, fun held => same.nothing ?_⟩
      exact (promises.plain (execute_of_logged executed) asked).1 held
  | failed executed => exact same.failed promises executed

/-- A begin that fails leaves an idle session idle. -/
theorem Idle.begun (idle : Idle dialect holds session) {after : Session (σ × List Exchange)}
    (ran : opened 1 (persist server.logged dialect.beginText [] false session) = after)
    (closed : after.depth = 0) : ¬holds after.state.1 after.connection := by
  obtain ⟨last, same, settled⟩ := idle.settled promises dialect.beginText []
  generalize persist server.logged dialect.beginText [] false session = begun at settled ran
  subst ran
  cases settled with
  | answered => simp [opened] at closed
  | failed executed => exact (same.failed promises executed).nothing

/-- The begin of an idle session is not refused for an open transaction. -/
theorem Idle.begin_ne (idle : Idle dialect holds session) (nesting : Bool) {error : ServerError}
    (refused : (begin server.logged nesting session).1 = .error (.server error)) :
    ¬tellsOpen error := by
  obtain ⟨rfl, closed, -⟩ := id idle
  have sent : beginText? session.dialect (session.depth + 1) nesting =
      some session.dialect.beginText := by
    rw [closed, beginText?_outermost]
  have outside : session.inTransaction = false := by simp [inTransaction, closed]
  obtain ⟨last, same, settled⟩ := idle.settled promises session.dialect.beginText []
  rw [begin_of_text sent, outside] at refused
  generalize persist server.logged session.dialect.beginText [] false session = ran
    at settled refused
  cases settled with
  | answered => simp [Except.map] at refused
  | failed executed =>
      obtain rfl := by simpa [Except.map] using refused
      exact fun tells => same.nothing (promises.begun (execute_of_logged executed) tells)

end Idle

/-! ## Courses -/

/-- A session that counts no levels holds no transaction, if nothing kept a level from its end. -/
structure Unstranded (dialect : Dialect) (holds : σ → Nat → Prop)
    (session : Session (σ × List Exchange)) : Prop where
  dialect_eq : session.dialect = dialect
  nothing : Finishes dialect session.failures → session.depth = 0 →
    ¬holds session.state.1 session.connection

section Courses

variable {server : Server σ} {dialect : Dialect} {plain : String → Prop} {holds : σ → Nat → Prop}
  {tellsOpen : ServerError → Prop} {session after : Session (σ × List Exchange)}

theorem Unstranded.idle (unstranded : Unstranded dialect holds session)
    (finishes : Finishes dialect session.failures) (closed : session.depth = 0) :
    Idle dialect holds session :=
  ⟨unstranded.dialect_eq, closed, unstranded.nothing finishes closed⟩

variable (promises : server.Transacts dialect plain holds tellsOpen)

include promises

/-- The rollback of a transaction that is given up ends it, unless it fails. -/
theorem not_holds_abandoned (session : Session (σ × List Exchange))
    (finishes : Finishes dialect (abandon server.logged session).failures) :
    ¬holds (abandon server.logged session).state.1 (abandon server.logged session).connection := by
  let closed : Session (σ × List Exchange) := { session with depth := 0 }
  rcases executed : server.logged.execute closed.connection "ROLLBACK" [] closed.state with
    ⟨error | answer, state⟩
  · have done : abandon server.logged session =
        closed.recorded "ROLLBACK" [] (.error error) state :=
      congrArg Prod.snd (attempt_of_execute executed)
    rw [done] at finishes
    exact absurd (mem_failures_recorded executed) (finishes.rolledBack error)
  · have done : abandon server.logged session = closed.recorded "ROLLBACK" [] (.ok answer) state :=
      congrArg Prod.snd (attempt_of_execute executed)
    rw [done]
    exact promises.ended (execute_of_logged executed) (Or.inr rfl)

/-- The text of the outermost level ends the transaction, unless it fails. -/
theorem not_holds_finished {way : Finish} {result : Except ServerError Answer}
    {state : σ × List Exchange} (same : session.dialect = dialect)
    (executed : server.logged.execute session.connection (way.levelText 0) [] session.state =
      (result, state))
    (final : ∀ error, result = .error error → error.failure session.dialect = .other ∨
      error.failure session.dialect = .connectionLost)
    (finishes : Finishes dialect (session.recorded (way.levelText 0) [] result state).failures) :
    ¬holds state.1 session.connection := by
  subst same
  cases result with
  | ok answer =>
      have ends : way.levelText 0 = "COMMIT" ∨ way.levelText 0 = "ROLLBACK" := by
        cases way
        · exact Or.inl rfl
        · exact Or.inr rfl
      exact promises.ended (execute_of_logged executed) ends
  | error error =>
      have failed := mem_failures_recorded executed
      rcases final error rfl with other | lost
      · cases way with
        | commit => exact absurd other (finishes.committed error failed)
        | rollback => exact absurd failed (finishes.rolledBack error)
      · exact promises.lost (execute_of_logged executed) lost

/-- No call strands a transaction. -/
theorem Unstranded.effect (effect : Effect server.logged plain session after)
    (unstranded : Unstranded dialect holds session) : Unstranded dialect holds after := by
  have before := fun finishes : Finishes dialect after.failures =>
    finishes.mono effect.failures_subset
  obtain rfl := unstranded.dialect_eq
  cases effect with
  | silent same =>
      exact ⟨rfl, fun finishes closed => unstranded.nothing (before finishes) (same.1 closed)⟩
  | @outside text values asked closed =>
      obtain ⟨last, ⟨same, -⟩, settled⟩ := settled_outside server.logged text values closed
      refine ⟨settled.same.1.trans same, fun finishes _ => ?_⟩
      exact ((unstranded.idle (before finishes) closed).outside promises asked values).nothing
  | begun closed =>
      obtain ⟨last, ⟨same, outside⟩, settled⟩ :=
        settled_outside server.logged session.dialect.beginText [] closed
      refine ⟨(anchored_of_begun same outside settled).dialect_eq, fun finishes finished => ?_⟩
      exact (unstranded.idle (before finishes) closed).begun promises rfl finished
  | inside within keeps executed deep =>
      exact ⟨rfl, fun _ closed => absurd closed (Nat.pos_iff_ne_zero.1 deep)⟩
  | finished outermost executed final =>
      refine ⟨rfl, fun finishes _ => ?_⟩
      have ended := not_holds_finished promises rfl executed final finishes
      exact ended
  | abandoned => exact ⟨rfl, fun finishes _ => not_holds_abandoned promises _ finishes⟩
  | replaced =>
      exact ⟨dialect_reconnectUntil _ _, fun _ _ => not_holds_replaced promises _⟩

/-- A new connection holds no transaction, and one that is refused changes none. -/
theorem Unstranded.reconnect (unstranded : Unstranded dialect holds session) :
    Unstranded dialect holds (Session.reconnect server.logged session).2 := by
  obtain ⟨rfl, nothing⟩ := unstranded
  rcases connected : server.logged.connect session.settings session.state with
    ⟨error | connection, state⟩
  · rw [Session.reconnect, connected]
    refine ⟨rfl, fun finishes closed held => ?_⟩
    have before := finishes.mono (failures_subset_refused connected)
    exact nothing before closed
      ((promises.refused (connect_of_logged connected) session.connection).1 held)
  · rw [Session.reconnect, connected]
    exact ⟨rfl, fun _ _ => promises.connected (connect_of_logged connected)⟩

theorem unstranded_of_start {settings : Settings} {state : σ × List Exchange}
    (started : start server.logged settings state = .ok session)
    (same : session.dialect = dialect) : Unstranded dialect holds session :=
  ⟨same, fun _ _ => promises.connected (connect_of_logged (connect_of_start started).1)⟩

end Courses

end Session

/-! ## A server with faults -/

/-- A failure that is not the fault of a session. -/
inductive Fault where
  /-- A lock is held by another session. -/
  | contention
  /-- A deferred constraint does not hold. -/
  | constraint
  /-- The connection is gone. -/
  | loss
  deriving DecidableEq

def Fault.error : Fault → ServerError
  | .contention => ⟨some "5", "database is locked", false⟩
  | .constraint => ⟨some "787", "FOREIGN KEY constraint failed", false⟩
  | .loss => .ofTransport "disk I/O error"

/-- A server as far as the transactions of its connections go. -/
structure Engine where
  /-- The number of connections made. -/
  made : Nat := 0
  /-- The connections that hold a transaction. -/
  busy : List Nat := []
  /-- What befalls the statements to come, in order. -/
  faults : List (Option Fault) := []

namespace Engine

/-- A transaction is refused because one is open. -/
def alreadyOpen : ServerError :=
  ⟨some "1", "cannot start a transaction within a transaction", false⟩

/-- A transaction cannot be finished because none is open. -/
def noneOpen : ServerError :=
  ⟨some "1", "no transaction is active", false⟩

/-- The engine without the transaction of a connection. -/
def close (connection : Nat) (engine : Engine) : Engine :=
  { engine with busy := engine.busy.filter (· ≠ connection) }

/-- A statement that nothing befalls. -/
def apply (connection : Nat) (text : String) (engine : Engine) :
    Except ServerError Answer × Engine :=
  match Control.ofText? text with
  | some .start =>
      if connection ∈ engine.busy then (.error alreadyOpen, engine)
      else (.ok (.affected 0 none), { engine with busy := connection :: engine.busy })
  | some .commit | some .rollback =>
      if connection ∈ engine.busy then (.ok (.affected 0 none), engine.close connection)
      else (.error noneOpen, engine)
  | _ => (.ok (.affected 1 none), engine)

def execute (connection : Nat) (text : String) (engine : Engine) :
    Except ServerError Answer × Engine :=
  match engine.faults with
  | [] => engine.apply connection text
  | none :: rest => { engine with faults := rest }.apply connection text
  | some .loss :: rest => (.error Fault.loss.error, { engine with faults := rest }.close connection)
  | some fault :: rest => (.error fault.error, { engine with faults := rest })

theorem apply_error {connection : Nat} {text : String} {engine after : Engine}
    {error : ServerError} (failed : engine.apply connection text = (.error error, after)) :
    after = engine ∧ (error = alreadyOpen ∧ connection ∈ engine.busy ∨ error = noneOpen) := by
  unfold apply at failed
  split at failed
  · split at failed
    · next held =>
      obtain ⟨rfl, rfl⟩ := by simpa using failed
      exact ⟨rfl, Or.inl ⟨rfl, held⟩⟩
    · simp at failed
  · split at failed
    · simp at failed
    · obtain ⟨rfl, rfl⟩ := by simpa using failed
      exact ⟨rfl, Or.inr rfl⟩
  · split at failed
    · simp at failed
    · obtain ⟨rfl, rfl⟩ := by simpa using failed
      exact ⟨rfl, Or.inr rfl⟩
  · simp at failed

/-- How a statement fails: something befalls it, or it is against the rules. -/
inductive Fails (connection : Nat) (engine : Engine) : ServerError → Engine → Prop where
  | lost {rest : List (Option Fault)} (next : engine.faults = some .loss :: rest) :
      Fails connection engine Fault.loss.error ({ engine with faults := rest }.close connection)
  | befallen {fault : Fault} {rest : List (Option Fault)}
      (next : engine.faults = some fault :: rest) (other : fault ≠ .loss) :
      Fails connection engine fault.error { engine with faults := rest }
  | refused {error : ServerError} {after : Engine} (same : after.busy = engine.busy)
      (against : error = alreadyOpen ∧ connection ∈ engine.busy ∨ error = noneOpen) :
      Fails connection engine error after

theorem fails_of_execute {connection : Nat} {text : String} {engine after : Engine}
    {error : ServerError} (failed : engine.execute connection text = (.error error, after)) :
    Fails connection engine error after := by
  unfold execute at failed
  split at failed
  · obtain ⟨rfl, against⟩ := apply_error failed
    exact .refused rfl against
  · obtain ⟨rfl, against⟩ := apply_error failed
    exact .refused rfl against
  · next rest next =>
    obtain ⟨rfl, rfl⟩ := by simpa using failed
    exact .lost next
  · next fault rest other next =>
    obtain ⟨rfl, rfl⟩ := by simpa using failed
    exact .befallen next other

/-- A statement that is answered is one that nothing befell. -/
theorem apply_of_execute {connection : Nat} {text : String} {engine after : Engine}
    {answer : Answer} (answered : engine.execute connection text = (.ok answer, after)) :
    ∃ rest, { engine with faults := rest }.apply connection text = (.ok answer, after) := by
  unfold execute at answered
  split at answered
  · exact ⟨engine.faults, answered⟩
  · exact ⟨_, answered⟩
  · simp at answered
  · simp at answered

theorem failure_refused {error : ServerError} (dialect : Dialect)
    (against : error = alreadyOpen ∨ error = noneOpen) : error.failure dialect = .other := by
  rcases against with rfl | rfl <;> cases dialect <;> decide +kernel

theorem not_mem_close (connection : Nat) (engine : Engine) :
    connection ∉ (engine.close connection).busy := by
  simp [close]

/-- The server of engines. -/
def server : Server Engine where
  connect _ engine :=
    (.ok (engine.made + 1), { engine.close (engine.made + 1) with made := engine.made + 1 })
  execute connection text _ engine := engine.execute connection text
  unrest engine := engine.faults.length
  unrest_connected := by
    intro _ engine _ _ connected
    obtain ⟨-, rfl⟩ := Prod.mk.inj connected
    exact Nat.le_refl _
  unrest_refused := by simp
  unrest_failed := by
    intro connection text _ engine error after dialect failed recoverable
    cases fails_of_execute failed with
    | lost next => simp [next, close]
    | befallen next => simp [next]
    | refused _ against =>
        exact absurd (failure_refused dialect (against.imp_left And.left)) recoverable

/-- The server of engines keeps transactions as SQLite does. -/
theorem transacts :
    server.Transacts .sqlite (fun text => Control.ofText? text = none)
      (fun engine connection => connection ∈ engine.busy) (· = alreadyOpen) where
  connected := by
    intro _ engine _ _ connected
    obtain ⟨same, rfl⟩ := Prod.mk.inj connected
    obtain rfl := Except.ok.inj same
    exact not_mem_close _ engine
  refused := by
    intro _ _ _ _ refused
    simp [server] at refused
  lost := by
    intro connection text _ engine error after failed lost
    cases fails_of_execute failed with
    | lost next => exact not_mem_close connection _
    | @befallen fault _ _ other =>
        cases fault with
        | loss => exact absurd rfl other
        | contention => exact absurd lost (by decide +kernel)
        | constraint => exact absurd lost (by decide +kernel)
    | refused _ against =>
        rw [failure_refused .sqlite (against.imp_left And.left)] at lost
        simp at lost
  failed := by
    intro connection text _ engine error after failed kept
    cases fails_of_execute failed with
    | lost next => exact absurd (by decide +kernel) kept
    | befallen => rfl
    | refused same => rw [same]
  plain := by
    intro connection text _ engine answer after answered plain
    obtain ⟨rest, applied⟩ := apply_of_execute answered
    simp only [apply, plain, Prod.mk.injEq] at applied
    obtain ⟨-, rfl⟩ := applied
    rfl
  ended := by
    intro connection text _ engine answer after answered ends
    obtain ⟨rest, applied⟩ := apply_of_execute answered
    have asked : Control.ofText? text = some .commit ∨ Control.ofText? text = some .rollback := by
      rcases ends with rfl | rfl
      · exact Or.inl rfl
      · exact Or.inr rfl
    rcases asked with asked | asked
    all_goals
      simp only [apply, asked] at applied
      split at applied
      · obtain ⟨-, rfl⟩ := Prod.mk.inj applied
        exact not_mem_close connection _
      · simp at applied
  begun := by
    intro connection _ engine error after failed tells
    cases fails_of_execute failed with
    | lost => exact absurd tells (by decide)
    | @befallen fault => cases fault <;> exact absurd tells (by decide)
    | refused _ against =>
        obtain ⟨-, held⟩ | rfl := against
        · exact held
        · exact absurd tells (by decide)

end Engine

namespace Session

/-- Along every course of a session on such a server, if no rollback failed and no commit was
refused, then a session that counts no levels holds no transaction on its connection, and its next
begin is not refused for one that is still open. -/
theorem not_holds_of_reaches {server : Server σ} {settings : Settings} {state : σ}
    {session after : Session (σ × List Exchange)} {plain : String → Prop}
    {holds : σ → Nat → Prop} {tellsOpen : ServerError → Prop}
    (promises : server.Transacts session.dialect plain holds tellsOpen)
    (started : start server.logged settings (state, []) = .ok session)
    (reached : Reaches server.logged plain session after)
    (rolledBack : ∀ error, ("ROLLBACK", error) ∉ after.failures)
    (committed : ∀ error, ("COMMIT", error) ∈ after.failures →
      error.failure session.dialect ≠ .other) (closed : after.depth = 0) :
    ¬holds after.state.1 after.connection ∧
      ∀ nesting error, (begin server.logged nesting after).1 = .error (.server error) →
        ¬tellsOpen error := by
  have unstranded : Unstranded session.dialect holds after :=
    reached.keeps (fun effect kept => kept.effect promises effect)
      (fun kept => kept.reconnect promises) (fun _ kept => ⟨kept.dialect_eq, kept.nothing⟩)
      (unstranded_of_start promises started rfl)
  have idle := unstranded.idle ⟨rolledBack, committed⟩ closed
  exact ⟨idle.nothing, fun nesting error refused => idle.begin_ne promises nesting refused⟩

/-- A new session on an engine that befalls its statements with faults. -/
def facing (faults : List (Option Fault)) : Session (Engine × List Exchange) :=
  { settings := { driver := "sqlite" }, dialect := .sqlite
    state := ({ made := 1, faults }, [.connected (.ok 1)]), connection := 1, depth := 0
    policy := .disabled, insertId? := none, journal? := none }

theorem start_facing (faults : List (Option Fault)) :
    start Engine.server.logged { driver := "sqlite" } ({ faults }, []) = .ok (facing faults) :=
  start_of_connect (by decide +kernel) rfl

/-- The body of a transaction with one insertion. -/
def inserting : Action (Engine × List Exchange) Nat :=
  exec Engine.server.logged "INSERT INTO child (parent_id) VALUES (7)" .none

theorem asks_inserting (session : Session (Engine × List Exchange)) :
    Call.Asks (fun text => Control.ofText? text = none) session
      (.exec "INSERT INTO child (parent_id) VALUES (7)" .none) := by
  rintro text values ⟨⟩
  decide

theorem reaches_transaction (faults : List (Option Fault)) :
    Reaches Engine.server.logged (fun text => Control.ofText? text = none) (facing faults)
      (transaction Engine.server.logged inserting (facing faults)).2 := by
  refine (Reaches.start (facing faults)).transaction fun issued entered _ => ?_
  exact (Reaches.start entered).call _ (asks_inserting entered)

/-- A transaction whose commit meets contention and is rolled back. -/
theorem not_holds_of_reaches_contention :
    let session := facing [none, none, some .contention]
    let after := (transaction Engine.server.logged inserting session).2
    after.failures = [("COMMIT", Fault.contention.error)] ∧ after.depth = 0 ∧
      after.connection ∉ after.state.1.busy ∧
      ∀ nesting error, (begin Engine.server.logged nesting after).1 = .error (.server error) →
        error ≠ Engine.alreadyOpen := by
  intro session after
  have told : after.failures = [("COMMIT", Fault.contention.error)] := by decide +kernel
  have closed : after.depth = 0 := by decide +kernel
  have rolledBack : ∀ error, ("ROLLBACK", error) ∉ after.failures := by simp [told]
  have committed : ∀ error, ("COMMIT", error) ∈ after.failures →
      error.failure .sqlite ≠ .other := by
    intro error member
    obtain rfl : error = Fault.contention.error := by simpa [told] using member
    decide +kernel
  exact ⟨told, closed, not_holds_of_reaches Engine.transacts (start_facing _)
    (reaches_transaction _) rolledBack committed closed⟩

/-- A commit that is refused for a deferred constraint leaves its transaction open on the server,
where the session counts no level any more, and the next begin is refused. -/
theorem refused_commit_strands :
    let plain : String → Prop := fun text => Control.ofText? text = none
    let session := facing [none, none, some .constraint]
    let after := (transaction Engine.server.logged inserting session).2
    Engine.server.Transacts .sqlite plain (fun engine connection => connection ∈ engine.busy)
        (· = Engine.alreadyOpen) ∧
      start Engine.server.logged { driver := "sqlite" }
        ({ faults := [none, none, some .constraint] }, []) = .ok session ∧
      Reaches Engine.server.logged plain session after ∧
      after.failures = [("COMMIT", Fault.constraint.error)] ∧ after.depth = 0 ∧
      after.connection ∈ after.state.1.busy ∧
      (begin Engine.server.logged true after).2.failures =
        [("COMMIT", Fault.constraint.error), ("BEGIN", Engine.alreadyOpen)] :=
  ⟨Engine.transacts, start_facing _, reaches_transaction _, by decide +kernel, by decide +kernel,
    by decide +kernel, by decide +kernel⟩

end Session

end SqlClient
