import SqlClient.Proofs.Exchange
import SqlClient.Proofs.Savepoint

/-!
# Nested transactions

Levels of transactions on a server with savepoints are a stack of snapshots: rolling a level back
brings back the data from before it. Savepoints that were rolled back to stay behind on the server
and their names are used again. What keeps the levels apart is that above the savepoint of an open
level no other one has its name.
-/

namespace SqlClient

namespace Nesting

open Session

variable {δ : Type}

/-! ## Calls and the stack of snapshots -/

/-- A call that opens a level, writes or finishes a level. -/
inductive Call where
  | begin (nesting : Bool)
  | write (sql : String) (params : Params)
  | finish (way : Finish) (nesting : Bool)

/-- A database with every text that it was sent, and the database that the text met. -/
abbrev Watched (δ : Type) : Type :=
  Database δ × List (Database δ × String)

/-- The server with savepoints, watched. -/
def server (write : String → List Scalar → δ → Answer × δ) : Server (Watched δ) :=
  (Database.server write).watched

/-- The session after a call. -/
def Call.perform {σ : Type} (server : Server σ) : Call → Session σ → Session σ
  | .begin nesting, session => (Session.begin server nesting session).2
  | .write sql params, session => (Session.exec server sql params session).2
  | .finish way nesting, session => (Session.finish server way nesting session).2

/-- The session after calls in order. -/
def perform {σ : Type} (server : Server σ) (calls : List Call) (session : Session σ) : Session σ :=
  calls.foldl (fun session call => call.perform server session) session

/-- An open level. -/
structure Level (δ : Type) where
  /-- It was opened with nesting. -/
  nesting : Bool
  /-- The data from before it, if a text was sent for it. -/
  saved? : Option δ

/-- The data after a level is finished: a rollback brings back the snapshot, if there is one. -/
def Level.restored (level : Level δ) : Finish → δ → δ
  | .commit, data => data
  | .rollback, data => level.saved?.getD data

/-- Data with open levels, the innermost first. -/
structure Stack (δ : Type) where
  data : δ
  levels : List (Level δ)

/-- The stack after a call. -/
def Call.step (write : String → List Scalar → δ → Answer × δ) (dialect : Dialect) :
    Call → Stack δ → Stack δ
  | .begin nesting, stack =>
      let saved? := if stack.levels.isEmpty || nesting then some stack.data else none
      { stack with levels := ⟨nesting, saved?⟩ :: stack.levels }
  | .write sql params, stack =>
      match params.bind dialect sql with
      | .ok (text, values) => { stack with data := (write text values stack.data).2 }
      | .error _ => stack
  | .finish way _, stack =>
      match stack.levels with
      | [] => stack
      | level :: rest => ⟨level.restored way stack.data, rest⟩

/-- The stack after calls in order. -/
def steps (write : String → List Scalar → δ → Answer × δ) (dialect : Dialect) (calls : List Call)
    (stack : Stack δ) : Stack δ :=
  calls.foldl (fun stack call => call.step write dialect stack) stack

/-- A call fits open levels with given flags: a level is finished with the flag that it was opened
with, and what writes asks nothing of the transactions. -/
def Call.Fits (dialect : Dialect) (flags : List Bool) : Call → Prop
  | .begin _ => True
  | .write sql params => ∀ text values, params.bind dialect sql = .ok (text, values) →
      Control.ofText? text = none
  | .finish _ nesting => ∀ flag ∈ flags.head?, nesting = flag

/-- The flags of the levels that are open after a call. -/
def Call.flags (flags : List Bool) : Call → List Bool
  | .begin nesting => nesting :: flags
  | .write _ _ => flags
  | .finish _ _ => flags.tail

/-- Calls that all fit, from open levels with given flags on. -/
def Matched (dialect : Dialect) : List Bool → List Call → Prop
  | _, [] => True
  | flags, call :: rest => call.Fits dialect flags ∧ Matched dialect (call.flags flags) rest

/-! ## Levels on a server -/

theorem savepoint_injective {left right : Nat} (same : savepoint left = savepoint right) :
    left = right := by
  have digits : toString left = toString right := by
    simpa [savepoint, String.append_right_inj] using same
  exact Nat.repr_injective digits

/-- Levels that a server holds with the start of its transaction and its savepoints. -/
inductive Holds : List (Level δ) → Option δ → List (String × δ) → Prop where
  /-- Nothing is open. -/
  | closed : Holds [] none []
  /-- The outermost level is the transaction; it does not look at savepoints. -/
  | outer (nesting : Bool) (start : δ) (savepoints : List (String × δ)) :
      Holds [⟨nesting, some start⟩] (some start) savepoints
  /-- A level without nesting leaves no trace. -/
  | counted {levels : List (Level δ)} {start? : Option δ} {savepoints : List (String × δ)}
      (inside : levels ≠ []) (rest : Holds levels start? savepoints) :
      Holds (⟨false, none⟩ :: levels) start? savepoints
  /-- A level with nesting has a savepoint, above which no other one has its name. -/
  | nested {levels : List (Level δ)} {start? : Option δ} {above below : List (String × δ)}
      (inside : levels ≠ []) (rest : Holds levels start? below) (saved : δ)
      (others : ∀ entry ∈ above, entry.1 ≠ savepoint (levels.length + 1)) :
      Holds (⟨true, some saved⟩ :: levels) start?
        (above ++ (savepoint (levels.length + 1), saved) :: below)

theorem Holds.isSome_start {levels : List (Level δ)} {start? : Option δ}
    {savepoints : List (String × δ)} (holds : Holds levels start? savepoints) :
    start?.isSome = !levels.isEmpty := by
  induction holds with
  | closed => rfl
  | outer => rfl
  | counted inside _ induction =>
      rw [induction]
      simp [inside]
  | nested inside _ _ _ induction =>
      rw [induction]
      simp [inside]

/-- A new savepoint opens a level with nesting. -/
theorem Holds.nest {levels : List (Level δ)} {start? : Option δ} {savepoints : List (String × δ)}
    (holds : Holds levels start? savepoints) (inside : levels ≠ []) (saved : δ) :
    Holds (⟨true, some saved⟩ :: levels) start?
      ((savepoint (levels.length + 1), saved) :: savepoints) := by
  have nothing : ∀ entry ∈ ([] : List (String × δ)),
      entry.1 ≠ savepoint (levels.length + 1) := by simp
  exact .nested inside holds saved nothing

/-- A further savepoint hides none of a level outside it. -/
theorem Holds.push {levels : List (Level δ)} {start? : Option δ} {savepoints : List (String × δ)}
    (holds : Holds levels start? savepoints) (inside : levels ≠ []) {level : Nat}
    (deeper : levels.length < level) (saved : δ) :
    Holds levels start? ((savepoint level, saved) :: savepoints) := by
  induction holds with
  | closed => contradiction
  | outer nesting start savepoints => exact .outer nesting start _
  | counted inside' rest induction =>
      rw [List.length_cons] at deeper
      exact .counted inside' (induction inside' (by omega))
  | @nested levels start? above below inside' rest own others induction =>
      rw [List.length_cons] at deeper
      have fresh : ∀ entry ∈ (savepoint level, saved) :: above,
          entry.1 ≠ savepoint (levels.length + 1) := by
        rw [List.forall_mem_cons]
        refine ⟨?_, others⟩
        intro same
        have := savepoint_injective same
        omega
      exact .nested inside' rest own fresh

/-- A level is finished by nothing, or by a text that the rules allow. -/
theorem Holds.finish {level : Level δ} {rest : List (Level δ)} {database : Database δ}
    (holds : Holds (level :: rest) database.start? database.savepoints) (way : Finish) :
    (way.text? (rest.length + 1) level.nesting = none ∧ level.saved? = none ∧
      Holds rest database.start? database.savepoints) ∨
    ∃ text control after, way.text? (rest.length + 1) level.nesting = some text ∧
      Control.ofText? text = some control ∧
      (∀ name ∈ control.savepoint?, database.HasSavepoint name) ∧
      database.apply control = some after ∧ after.data = level.restored way database.data ∧
      Holds rest after.start? after.savepoints := by
  obtain ⟨data, start?, savepoints⟩ := database
  cases holds with
  | outer nesting start =>
      right
      cases way with
      | commit =>
          exact ⟨"COMMIT", .commit, ⟨data, none, []⟩, rfl, rfl, by simp [Control.savepoint?], rfl,
            rfl, .closed⟩
      | rollback =>
          exact ⟨"ROLLBACK", .rollback, ⟨start, none, []⟩, rfl, rfl, by simp [Control.savepoint?],
            rfl, rfl, .closed⟩
  | counted inside holds' =>
      left
      refine ⟨?_, rfl, holds'⟩
      cases way <;> simp [Finish.text?, inside]
  | @nested _ _ above below inside holds' saved others =>
      right
      have newest := Database.since_append others saved below
      have known : ∀ name ∈ some (savepoint (rest.length + 1)), Database.HasSavepoint
          ⟨data, start?, above ++ (savepoint (rest.length + 1), saved) :: below⟩ name := by
        rintro name ⟨⟩
        exact ⟨saved, by simp⟩
      cases way with
      | commit =>
          refine ⟨_, .release (savepoint (rest.length + 1)), ⟨data, start?, below⟩, ?_,
            Control.ofText?_release _, known, Database.apply_release newest, rfl, holds'⟩
          simp [Finish.text?, inside]
      | rollback =>
          refine ⟨_, .restore (savepoint (rest.length + 1)), ⟨saved, start?,
            (savepoint (rest.length + 1), saved) :: below⟩, ?_, Control.ofText?_restore _, known,
            Database.apply_restore newest, rfl, holds'.push inside (Nat.lt_succ_self _) saved⟩
          simp [Finish.text?, inside]

/-! ## Steps -/

section Steps

variable {write : String → List Scalar → δ → Answer × δ} {dialect : Dialect}
  {session : Session (Watched δ)} {stack : Stack δ}

/-- A session and its server that hold a stack. Every text that was sent met the savepoint that it is
about. -/
structure Mirrors (dialect : Dialect) (session : Session (Watched δ)) (stack : Stack δ) :
    Prop where
  dialect_eq : session.dialect = dialect
  depth_eq : session.depth = stack.levels.length
  data_eq : session.state.1.data = stack.data
  levels : Holds stack.levels session.state.1.start? session.state.1.savepoints
  known : ∀ sent ∈ session.state.2, sent.1.Knows sent.2

/-- The flags of the open levels. -/
def Stack.flags (stack : Stack δ) : List Bool :=
  stack.levels.map Level.nesting

theorem flags_step (write : String → List Scalar → δ → Answer × δ) (dialect : Dialect) (call : Call)
    (stack : Stack δ) : (call.step write dialect stack).flags = call.flags stack.flags := by
  cases call with
  | begin nesting => rfl
  | write sql params =>
      rw [Call.step]
      split <;> rfl
  | finish way nesting =>
      obtain ⟨data, levels⟩ := stack
      cases levels <;> rfl

/-- The state of the server once a session has sent it a text. -/
def told (session : Session (Watched δ)) (text : String) (after : Database δ) : Watched δ :=
  (after, session.state.2 ++ [(session.state.1, text)])

/-- A further text that meets its savepoint. -/
theorem Mirrors.known_told (mirrors : Mirrors dialect session stack) {text : String}
    (knows : session.state.1.Knows text) (after : Database δ) :
    ∀ sent ∈ (told session text after).2, sent.1.Knows sent.2 := by
  rw [told, List.forall_mem_append, List.forall_mem_singleton]
  exact ⟨mirrors.known, knows⟩

/-- A control that the rules allow is run. -/
theorem runAs_control (write : String → List Scalar → δ → Answer × δ)
    (session : Session (Watched δ)) {text : String} {control : Control}
    {after : Database δ} (asked : Control.ofText? text = some control)
    (allowed : session.state.1.apply control = some after) (inTransaction : Bool) :
    runAs (server write) inTransaction text .none session =
      (.ok (.affected 0 none), noteInsertId (.affected 0 none)
        (session.recorded text [] (.ok (.affected 0 none)) (told session text after))) := by
  have executed : (Database.server write).execute session.connection text [] session.state.1 =
      (.ok (.affected 0 none), after) := by
    simp only [Database.server, asked, allowed]
  exact runAs_of_answer rfl (execute_watched executed) inTransaction

theorem begin_of_control (write : String → List Scalar → δ → Answer × δ) {nesting : Bool}
    {text : String} {control : Control} {after : Database δ}
    (sent : beginText? session.dialect (session.depth + 1) nesting = some text)
    (asked : Control.ofText? text = some control)
    (allowed : session.state.1.apply control = some after) :
    ∃ later, Session.begin (server write) nesting session = (.ok true, later) ∧
      later.dialect = session.dialect ∧ later.depth = session.depth + 1 ∧
      later.state = told session text after := by
  have done : Session.begin (server write) nesting session =
      (.ok true, { noteInsertId (.affected 0 none)
        (session.recorded text [] (.ok (.affected 0 none)) (told session text after)) with
          depth := session.depth + 1 }) := by
    simp only [Session.begin, sent, runAs_control write session asked allowed]
  exact ⟨_, done, rfl, rfl, rfl⟩

theorem finish_of_control (write : String → List Scalar → δ → Answer × δ) {way : Finish}
    {nesting : Bool} {depth : Nat} {text : String} {control : Control} {after : Database δ}
    (opened : session.depth = depth + 1) (sent : way.text? (depth + 1) nesting = some text)
    (asked : Control.ofText? text = some control)
    (allowed : session.state.1.apply control = some after) :
    ∃ later, Session.finish (server write) way nesting session = (.ok true, later) ∧
      later.dialect = session.dialect ∧ later.depth = depth ∧
      later.state = told session text after := by
  let lowered : Session (Watched δ) := { session with depth }
  have ran : runAs (server write) true text .none lowered =
      (.ok (.affected 0 none), noteInsertId (.affected 0 none)
        (lowered.recorded text [] (.ok (.affected 0 none)) (told session text after))) :=
    runAs_control write lowered asked allowed true
  have done : Session.finish (server write) way nesting session =
      (.ok true, noteInsertId (.affected 0 none)
        (lowered.recorded text [] (.ok (.affected 0 none)) (told session text after))) := by
    simp only [Session.finish, opened, sent, lowered] at ran ⊢
    rw [ran]
  exact ⟨_, done, rfl, rfl, rfl⟩

/-- A text that is no control writes. -/
theorem exec_write (write : String → List Scalar → δ → Answer × δ) {sql text : String}
    {params : Params} {values : List Scalar}
    (bound : params.bind session.dialect sql = .ok (text, values))
    (plain : Control.ofText? text = none) :
    ∃ rows after, exec (server write) sql params session = (.ok rows, after) ∧
      after.dialect = session.dialect ∧ after.depth = session.depth ∧
      after.state = told session text
        { session.state.1 with data := (write text values session.state.1.data).2 } := by
  have executed : (Database.server write).execute session.connection text values session.state.1 =
      (.ok (write text values session.state.1.data).1,
        { session.state.1 with data := (write text values session.state.1.data).2 }) := by
    simp only [Database.server, plain]
  have ran := runAs_of_answer bound (execute_watched executed) session.inTransaction
  exact ⟨_, _, bind_of_ok ran, rfl, rfl, rfl⟩

/-- The outermost level starts the transaction of the server. -/
theorem Mirrors.begin_outermost (mirrors : Mirrors dialect session stack)
    (outermost : stack.levels = []) (nesting : Bool) :
    Mirrors dialect (Call.perform (server write) (.begin nesting) session)
      (Call.step write dialect (.begin nesting) stack) := by
  have depth : session.depth = 0 := by rw [mirrors.depth_eq, outermost, List.length_nil]
  have idle : session.state.1.start? = none := by
    have started := mirrors.levels.isSome_start
    rw [outermost] at started
    simpa using started
  have sent : beginText? session.dialect (session.depth + 1) nesting =
      some session.dialect.beginText := by
    rw [depth, beginText?, if_pos rfl]
  have asked := Control.ofText?_beginText session.dialect
  have allowed : session.state.1.apply .start =
      some { session.state.1 with start? := some session.state.1.data, savepoints := [] } := by
    simp [Database.apply, Database.isOpen, idle]
  have knows : session.state.1.Knows session.dialect.beginText :=
    Database.knows_of_control asked (by simp [Control.savepoint?])
  obtain ⟨later, begun, dialect', depth', state'⟩ := begin_of_control write sent asked allowed
  rw [Call.perform, begun, Call.step, outermost]
  refine ⟨dialect'.trans mirrors.dialect_eq, ?_, ?_, ?_, ?_⟩
  · rw [depth', depth, List.length_singleton]
  · rw [state', told, mirrors.data_eq]
  · rw [state', told, mirrors.data_eq]
    exact .outer nesting stack.data []
  · rw [state']
    exact mirrors.known_told knows _

theorem Mirrors.depth_ne_zero (mirrors : Mirrors dialect session stack)
    (inside : stack.levels ≠ []) : session.depth ≠ 0 := by
  rw [mirrors.depth_eq]
  simpa using inside

/-- A level inside another one that is opened without nesting only counts. -/
theorem Mirrors.begin_counted (mirrors : Mirrors dialect session stack)
    (inside : stack.levels ≠ []) :
    Mirrors dialect (Call.perform (server write) (.begin false) session)
      (Call.step write dialect (.begin false) stack) := by
  have silent : beginText? session.dialect (session.depth + 1) false = none := by
    simp [beginText?, mirrors.depth_ne_zero inside]
  have counted : Session.begin (server write) false session =
      (.ok false, { session with depth := session.depth + 1 }) := by
    simp only [Session.begin, silent]
  rw [Call.perform, counted, Call.step]
  refine ⟨mirrors.dialect_eq, congrArg (· + 1) mirrors.depth_eq, mirrors.data_eq, ?_,
    mirrors.known⟩
  simpa [inside] using mirrors.levels.counted inside

/-- A level inside another one that is opened with nesting is a savepoint. -/
theorem Mirrors.begin_nested (mirrors : Mirrors dialect session stack)
    (inside : stack.levels ≠ []) :
    Mirrors dialect (Call.perform (server write) (.begin true) session)
      (Call.step write dialect (.begin true) stack) := by
  have nonzero := mirrors.depth_ne_zero inside
  have isOpen : session.state.1.isOpen = true := by
    rw [Database.isOpen, mirrors.levels.isSome_start]
    simpa using inside
  have sent : beginText? session.dialect (session.depth + 1) true =
      some ("SAVEPOINT " ++ savepoint (session.depth + 1)) := by
    simp [beginText?, nonzero]
  have asked := Control.ofText?_save (savepoint (session.depth + 1))
  have allowed : session.state.1.apply (.save (savepoint (session.depth + 1))) =
      some { session.state.1 with
        savepoints := (savepoint (session.depth + 1), session.state.1.data) ::
          session.state.1.savepoints } := by
    rw [Database.apply, if_pos isOpen]
  have knows : session.state.1.Knows ("SAVEPOINT " ++ savepoint (session.depth + 1)) :=
    Database.knows_of_control asked (by simp [Control.savepoint?])
  obtain ⟨later, begun, dialect', depth', state'⟩ := begin_of_control write sent asked allowed
  rw [Call.perform, begun, Call.step]
  refine ⟨dialect'.trans mirrors.dialect_eq, ?_, ?_, ?_, ?_⟩
  · rw [depth', mirrors.depth_eq, List.length_cons]
  · rw [state', told, mirrors.data_eq]
  · rw [state', told, mirrors.data_eq, mirrors.depth_eq]
    simpa [inside] using mirrors.levels.nest inside stack.data
  · rw [state']
    exact mirrors.known_told knows _

theorem Mirrors.step_begin (mirrors : Mirrors dialect session stack) (nesting : Bool) :
    Mirrors dialect (Call.perform (server write) (.begin nesting) session)
      (Call.step write dialect (.begin nesting) stack) := by
  by_cases outermost : stack.levels = []
  · exact mirrors.begin_outermost outermost nesting
  · cases nesting with
    | false => exact mirrors.begin_counted outermost
    | true => exact mirrors.begin_nested outermost

theorem Mirrors.step_write (mirrors : Mirrors dialect session stack) {sql : String} {params : Params}
    (fits : Call.Fits dialect stack.flags (.write sql params)) :
    Mirrors dialect (Call.perform (server write) (.write sql params) session)
      (Call.step write dialect (.write sql params) stack) := by
  obtain rfl := mirrors.dialect_eq
  rw [Call.perform, Call.step]
  cases bound : params.bind session.dialect sql with
  | error unbound =>
      have refused : exec (server write) sql params session =
          (.error (.missingParameter unbound.name), session) := by
        apply bind_of_error
        rw [run, runAs, bound]
      rw [refused]
      exact mirrors
  | ok pair =>
      obtain ⟨text, values⟩ := pair
      have plain := fits text values bound
      obtain ⟨rows, after, done, dialect', depth', state'⟩ := exec_write write bound plain
      rw [done]
      refine ⟨dialect', depth'.trans mirrors.depth_eq, ?_, ?_, ?_⟩
      · simp only [state', told, mirrors.data_eq]
      · simpa only [state', told] using mirrors.levels
      · rw [state']
        exact mirrors.known_told (Database.knows_of_plain plain) _

theorem Mirrors.step_finish (mirrors : Mirrors dialect session stack) {way : Finish} {nesting : Bool}
    (fits : Call.Fits dialect stack.flags (.finish way nesting)) :
    Mirrors dialect (Call.perform (server write) (.finish way nesting) session)
      (Call.step write dialect (.finish way nesting) stack) := by
  obtain ⟨data, levels⟩ := stack
  have opened := mirrors.depth_eq
  cases levels with
  | nil =>
      have refused : Session.finish (server write) way nesting session =
          (.error .noActiveTransaction, session) := by
        rw [List.length_nil] at opened
        simp only [Session.finish, opened]
      rw [Call.perform, refused]
      exact mirrors
  | cons level rest =>
      obtain rfl : nesting = level.nesting := fits level.nesting rfl
      rw [List.length_cons] at opened
      rcases mirrors.levels.finish way with ⟨silent, unsaved, holds⟩ | ⟨text, control, after, sent,
        asked, known, allowed, restored, holds⟩
      · have counted : Session.finish (server write) way level.nesting session =
            (.ok false, { session with depth := rest.length }) := by
          simp only [Session.finish, opened, silent]
        rw [Call.perform, counted]
        refine ⟨mirrors.dialect_eq, rfl, ?_, holds, mirrors.known⟩
        cases way with
        | commit => exact mirrors.data_eq
        | rollback =>
            rw [mirrors.data_eq]
            simp [Call.step, Level.restored, unsaved]
      · obtain ⟨later, done, dialect', depth', state'⟩ :=
          finish_of_control write opened sent asked allowed
        rw [Call.perform, done]
        refine ⟨dialect'.trans mirrors.dialect_eq, depth', ?_, ?_, ?_⟩
        · rw [state', told, restored, mirrors.data_eq]
          rfl
        · rw [state', told]
          exact holds
        · rw [state']
          exact mirrors.known_told (Database.knows_of_control asked known) after

/-- One call that fits keeps a session and a stack alike. -/
theorem Mirrors.step (write : String → List Scalar → δ → Answer × δ)
    (mirrors : Mirrors dialect session stack) {call : Call}
    (fits : call.Fits dialect stack.flags) :
    Mirrors dialect (call.perform (server write) session)
      (call.step write dialect stack) := by
  cases call with
  | begin nesting => exact mirrors.step_begin nesting
  | write sql params => exact mirrors.step_write fits
  | finish way nesting => exact mirrors.step_finish fits

end Steps

/-! ## Runs -/

section Runs

variable {dialect : Dialect}

theorem Mirrors.steps (write : String → List Scalar → δ → Answer × δ)
    {session : Session (Watched δ)} {stack : Stack δ} {calls : List Call}
    (mirrors : Mirrors dialect session stack) (matched : Matched dialect stack.flags calls) :
    Mirrors dialect (perform (server write) calls session)
      (steps write dialect calls stack) := by
  induction calls generalizing session stack with
  | nil => exact mirrors
  | cons call rest induction =>
      obtain ⟨fits, later⟩ := matched
      exact induction (mirrors.step write fits) (by rwa [flags_step])

/-- Calls that finish every level with the flag that it was opened with come to what they do on a
stack of snapshots, and every savepoint that a text is about exists when the text is sent. -/
theorem perform_eq_steps (write : String → List Scalar → δ → Answer × δ)
    {session : Session (Watched δ)} {data : δ} (closed : session.depth = 0)
    (idle : session.state = (⟨data, none, []⟩, [])) {calls : List Call}
    (matched : Matched session.dialect [] calls) :
    let after := perform (server write) calls session
    let stack := steps write session.dialect calls ⟨data, []⟩
    after.depth = stack.levels.length ∧ after.state.1.data = stack.data ∧
      after.state.1.isOpen = !stack.levels.isEmpty ∧
      ∀ database text, (database, text) ∈ after.state.2 → database.Knows text := by
  have start : Mirrors session.dialect session ⟨data, []⟩ := by
    refine ⟨rfl, closed, ?_, ?_, ?_⟩
    · rw [idle]
    · rw [idle]
      exact .closed
    · simp [idle]
  intro after stack
  have whole : Mirrors session.dialect after stack := start.steps write matched
  exact ⟨whole.depth_eq, whole.data_eq, whole.levels.isSome_start,
    fun database text sent => whole.known (database, text) sent⟩

/-- A savepoint that was rolled back to stays behind and its name is used again. -/
theorem perform_reused_name :
    let write : String → List Scalar → List String → Answer × List String :=
      fun text _ data => (.affected 1 none, data ++ [text])
    let session : Session (Watched (List String)) :=
      { settings := { driver := "pgsql" }, dialect := .postgres, state := (⟨[], none, []⟩, []),
        connection := 1, depth := 0, policy := .disabled, insertId? := none, journal? := none }
    let calls : List Call :=
      [.begin false, .write "INSERT 1" .none, .begin true, .write "INSERT 2" .none, .begin false,
        .write "INSERT 3" .none, .finish .rollback false, .finish .rollback true, .begin true,
        .write "INSERT 4" .none, .finish .commit true]
    let after := perform (server write) calls session
    Matched .postgres [] calls ∧ after.depth = 1 ∧
      after.state.1.data = ["INSERT 1", "INSERT 4"] ∧ after.state.1.isOpen = true ∧
      ∀ database text, (database, text) ∈ after.state.2 → database.Knows text := by
  intro write session calls after
  have plain : ∀ sql, Control.ofText? sql = none → ∀ flags,
      Call.Fits .postgres flags (.write sql .none) := by
    rintro sql other flags text values ⟨⟩
    exact other
  have matched : Matched .postgres [] calls := by
    refine ⟨trivial, plain _ (by decide) _, trivial, plain _ (by decide) _, trivial,
      plain _ (by decide) _, ?_, ?_, trivial, plain _ (by decide) _, ?_, trivial⟩ <;>
      simp [Call.Fits, Call.flags]
  have closed : session.depth = 0 := rfl
  exact ⟨matched, perform_eq_steps write closed rfl matched⟩

end Runs

end Nesting

end SqlClient
