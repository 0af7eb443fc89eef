import Mathlib.Logic.Function.Iterate
import SqlClient.Cursor.Fetch
import SqlClient.Proofs.Forward

/-!
# Rereading

A cursor runs its statement again for a row that was passed and is not kept, and for nothing else.
Every operation on a cursor is a course of readings, moves and runs on request. As long as no
reading of a course goes back, except to the row read last, the server is asked nothing for it.
-/

namespace SqlClient

namespace Cursor

variable {σ : Type}

/-! ## Readings -/

/-- What an operation does, apart from moving the position. -/
inductive Step where
  /-- An index is read, and its row is found or not. -/
  | read (index : Nat) (row? : Option Row)
  /-- The statement is run on request, and answered or not. -/
  | rerun (answered : Bool)
  deriving DecidableEq

def Step.isRerun : Step → Bool
  | .read _ _ => false
  | .rerun _ => true

/-- The reading of an index. -/
def readStep (server : Server σ) (index : Nat) (state : Cursor × Session σ) : Step :=
  .read index (read server index state).1.toOption.join

/-- The readings from the position on, to the end or to the first error of a step. -/
def collectSteps {α : Type} (server : Server σ) (step : Row → Except SessionError α)
    (state : Cursor × Session σ) : List Step :=
  readStep server state.1.position state ::
    match _found : next server state with
    | (.ok (some row), after) =>
        match step row with
        | .ok _ => collectSteps server step after
        | .error _ => []
    | _ => []
termination_by (state.1.detours, state.1.answer.rows.length)
decreasing_by exact ahead_of_next _found

/-- An operation on a cursor: a call, or rows made into other values. -/
inductive Operation where
  | perform (call : Call)
  | fetch (request : FetchRequest)
  | fetchInto (α : Type) [FromRow α]
  | fetchAllInto (α : Type) [FromRow α]

/-- What a call does, in order. -/
def Call.steps (server : Server σ) (call : Call) (state : Cursor × Session σ) : List Step :=
  match call with
  | .next | .current => [readStep server state.1.position state]
  | .rowAt index => if state.1.hasRow index then [readStep server index state] else []
  | .first => [readStep server 0 (state.1.seek 0, state.2)]
  | .last =>
      match state.1.rowCount with
      | 0 => []
      | count + 1 => [readStep server count (state.1.seek count, state.2)]
  | .seek _ | .rewind => []
  | .fetchAll => collectSteps server .ok state
  | .toMaps => collectSteps server .ok (state.1.seek 0, state.2)
  | .reexecute => [.rerun (Cursor.reexecute server state).1.isOk]

namespace Operation

/-- The cursor and its session after an operation. -/
def after (server : Server σ) (operation : Operation) (state : Cursor × Session σ) :
    Cursor × Session σ :=
  match operation with
  | .perform call => (call.perform server state).2
  | .fetch request => (Cursor.fetch server request state).2
  | @fetchInto α _ => (Cursor.fetchInto server α state).2
  | @fetchAllInto α _ => (Cursor.fetchAllInto server α state).2

/-- What an operation does, in order. -/
def steps (server : Server σ) (operation : Operation) (state : Cursor × Session σ) : List Step :=
  match operation with
  | .perform call => call.steps server state
  | .fetch .single | .fetch (.column _) | @fetchInto _ _ =>
      [readStep server state.1.position state]
  | .fetch .all | @fetchAllInto _ _ => collectSteps server .ok state
  | .fetch (.keyed grouping) =>
      if grouping.columns.isEmpty then [] else collectSteps server grouping.place state

end Operation

/-- The cursor and its session after operations in order. -/
def afterAll (server : Server σ) (operations : List Operation) (state : Cursor × Session σ) :
    Cursor × Session σ :=
  operations.foldl (fun state operation => operation.after server state) state

/-- What operations in order do. -/
def allSteps (server : Server σ) : List Operation → Cursor × Session σ → List Step
  | [], _ => []
  | operation :: rest, state =>
      operation.steps server state ++ allSteps server rest (operation.after server state)

/-! ## Courses -/

/-- A cursor and its session lead to others by readings, moves and runs on request. -/
inductive Course (server : Server σ) (start : Cursor × Session σ) :
    List Step → Cursor × Session σ → Prop where
  | start : Course server start [] start
  | seek {steps : List Step} {cursor : Cursor} {session : Session σ}
      (course : Course server start steps (cursor, session)) (index : Nat) :
      Course server start steps (cursor.seek index, session)
  | read {steps : List Step} {state : Cursor × Session σ} (course : Course server start steps state)
      (index : Nat) :
      Course server start (steps ++ [readStep server index state])
        (Cursor.read server index state).2
  | rerun {steps : List Step} {state : Cursor × Session σ}
      (course : Course server start steps state) :
      Course server start (steps ++ [.rerun (reexecute server state).1.isOk])
        (reexecute server state).2

section Course

variable {server : Server σ} {start middle finish : Cursor × Session σ}

theorem Course.append {left right : List Step} (first : Course server start left middle)
    (second : Course server middle right finish) :
    Course server start (left ++ right) finish := by
  induction second with
  | start => rwa [List.append_nil]
  | seek _ index induction => exact induction.seek index
  | read _ index induction =>
      rw [← List.append_assoc]
      exact induction.read index
  | rerun _ induction =>
      rw [← List.append_assoc]
      exact induction.rerun

theorem course_read (server : Server σ) (index : Nat) (state : Cursor × Session σ) :
    Course server state [readStep server index state] (read server index state).2 :=
  Course.start.read index

theorem course_next (server : Server σ) (state : Cursor × Session σ) :
    Course server state [readStep server state.1.position state] (next server state).2 := by
  have course := course_read server state.1.position state
  rw [next]
  split
  · next row cursor session found =>
    rw [show read server state.1.position state = (.ok (some row), cursor, session) from found]
      at course
    exact course.seek _
  · exact course

/-- What is collected begins with the next row, and goes on behind it as the step says. -/
theorem collectSteps_eq {α : Type} (server : Server σ) (step : Row → Except SessionError α)
    (state : Cursor × Session σ) :
    collectSteps server step state =
      readStep server state.1.position state ::
        match next server state with
        | (.ok (some row), after) =>
            match step row with
            | .ok _ => collectSteps server step after
            | .error _ => []
        | _ => [] := by
  rw [collectSteps]
  congr 1
  split
  · next row after found => rw [found]
  · next other =>
    split
    · next row after found => exact absurd found (other row after)
    · rfl

theorem course_collect {α : Type} (server : Server σ) (step : Row → Except SessionError α)
    (state : Cursor × Session σ) :
    Course server state (collectSteps server step state) (collect server step state).2 := by
  have course := course_next server
  fun_induction collect server step state with
  | case1 state error after found =>
      simpa [collectSteps_eq server step state, found] using course state
  | case2 state after found =>
      simpa [collectSteps_eq server step state, found] using course state
  | case3 state row after found error refused =>
      simpa [collectSteps_eq server step state, found, refused] using course state
  | case4 state row after found value made error left failed induction =>
      rw [failed] at induction
      have first := course state
      rw [found] at first
      simpa [collectSteps_eq server step state, found, made] using first.append induction
  | case5 state row after found value made values left collected induction =>
      rw [collected] at induction
      have first := course state
      rw [found] at first
      simpa [collectSteps_eq server step state, found, made] using first.append induction

/-- A call followed by something that leaves the state alone. -/
theorem snd_bind {S α β : Type} {action : ExceptT SessionError (StateM S) α}
    {next : α → ExceptT SessionError (StateM S) β}
    (still : ∀ value state, (next value state).2 = state) (state : S) :
    ((action >>= next) state).2 = (action state).2 := by
  rw [run_bind]
  rcases action state with ⟨error | value, after⟩
  · rfl
  · exact still value after

theorem Call.course (server : Server σ) (call : Call) (state : Cursor × Session σ) :
    Course server state (call.steps server state) (call.perform server state).2 := by
  obtain ⟨cursor, session⟩ := state
  have rewound : Course server (cursor, session) [] (cursor.seek 0, session) := Course.start.seek 0
  cases call with
  | next => exact course_next server (cursor, session)
  | current => exact course_read server cursor.position (cursor, session)
  | rowAt index =>
      simp only [Call.steps, perform, Action.giving, Cursor.rowAt]
      split
      · exact course_read server index (cursor, session)
      · exact .start
  | first => exact rewound.append (course_next server _)
  | last =>
      simp only [Call.steps, perform, Action.giving, Cursor.last]
      cases cursor.rowCount with
      | zero => exact .start
      | succ count => exact (Course.start.seek count).append (course_next server _)
  | seek index => exact .seek .start index
  | rewind => exact rewound
  | fetchAll => exact course_collect server .ok (cursor, session)
  | toMaps =>
      have fetched := rewound.append (course_collect server .ok _)
      simp only [Call.steps, perform, Action.giving, Cursor.toMaps, Cursor.fetchAll]
      rcases collected : collect server .ok (cursor.seek 0, session) with ⟨error | rows, after⟩
      all_goals
        rw [collected] at fetched
        exact fetched
  | reexecute => exact Course.start.rerun

theorem Operation.course (server : Server σ) (operation : Operation) (state : Cursor × Session σ) :
    Course server state (operation.steps server state) (operation.after server state) := by
  have next := course_next server state
  have all := course_collect server .ok state
  cases operation with
  | perform call => exact call.course server state
  | fetch request =>
      cases request with
      | single =>
          rw [after, Cursor.fetch, snd_bind fun _ _ => rfl]
          exact next
      | all =>
          rw [after, Cursor.fetch, snd_bind fun _ _ => rfl]
          exact all
      | keyed grouping =>
          rw [after, Cursor.fetch, snd_bind fun _ _ => rfl, fetchKeyed]
          rw [steps]
          split
          · exact .start
          · rw [snd_bind fun _ _ => rfl]
            exact course_collect server grouping.place state
      | column column =>
          rw [after, Cursor.fetch, snd_bind]
          · exact next
          · intro row? state
            cases row? with
            | none => rfl
            | some row => exact snd_bind (fun _ _ => rfl) state
  | @fetchInto α _ =>
      rw [after, Cursor.fetchInto, snd_bind]
      · exact next
      · intro row? state
        cases row? with
        | none => rfl
        | some row => exact snd_bind (fun _ _ => rfl) state
  | @fetchAllInto α _ =>
      rw [after, Cursor.fetchAllInto, snd_bind fun _ _ => rfl]
      exact all

theorem course_allSteps (server : Server σ) (operations : List Operation)
    (state : Cursor × Session σ) :
    Course server state (allSteps server operations state) (afterAll server operations state) := by
  induction operations generalizing state with
  | nil => exact .start
  | cons operation rest induction => exact (operation.course server state).append (induction _)

end Course

/-! ## Readings that do not go back -/

/-- How far readings have come. -/
structure Mark where
  /-- The highest index read. -/
  reached : Nat := 0
  /-- The index of the row read last. -/
  held? : Option Nat := none

namespace Mark

/-- The mark behind a step; an answered run begins anew. -/
def after (mark : Mark) : Step → Mark
  | .read index row? => ⟨max mark.reached index, if row?.isSome then some index else mark.held?⟩
  | .rerun true => {}
  | .rerun false => mark

/-- A step does not go back behind the mark, except to the row read last. -/
def Admits (mark : Mark) : Step → Prop
  | .read index _ => mark.reached ≤ index ∨ mark.held? = some index
  | .rerun _ => True

instance (mark : Mark) : (step : Step) → Decidable (mark.Admits step)
  | .read index _ => inferInstanceAs (Decidable (mark.reached ≤ index ∨ mark.held? = some index))
  | .rerun _ => inferInstanceAs (Decidable True)

end Mark

/-- No step goes back: the indexes read never decrease, except to the row read last. -/
def Onward : Mark → List Step → Prop
  | _, [] => True
  | mark, step :: rest => mark.Admits step ∧ Onward (mark.after step) rest

instance decidableOnward : (mark : Mark) → (steps : List Step) → Decidable (Onward mark steps)
  | _, [] => .isTrue trivial
  | mark, step :: rest =>
      have := decidableOnward (mark.after step) rest
      inferInstanceAs (Decidable (mark.Admits step ∧ Onward (mark.after step) rest))

theorem onward_append_singleton {mark : Mark} {steps : List Step} {step : Step} :
    Onward mark (steps ++ [step]) ↔
      Onward mark steps ∧ (steps.foldl Mark.after mark).Admits step := by
  induction steps generalizing mark with
  | nil => simp [Onward]
  | cons first rest induction => simp [Onward, induction, and_assoc]

/-- A cursor that was read onward to a mark: it took no row behind the highest index, and the row of
that index only if it was read last. -/
structure Fits (mark : Mark) (cursor : Cursor) : Prop where
  held_eq : cursor.cached?.map Prod.fst = mark.held?
  consumed_le : cursor.consumed ≤ mark.reached + 1
  tip : cursor.consumed = mark.reached + 1 → mark.held? = some mark.reached

theorem fits_ofAnswer (answer : Answer) (sql : String) (params : Params) :
    Fits {} (ofAnswer answer sql params) :=
  ⟨rfl, Nat.zero_le _, fun taken => by simp [ofAnswer] at taken⟩

section Fits

variable {server : Server σ} {mark : Mark} {cursor : Cursor} {index : Nat}

theorem Fits.atHand (fits : Fits mark cursor)
    (admits : mark.reached ≤ index ∨ mark.held? = some index) : cursor.AtHand index := by
  rcases admits with onward | held
  · by_cases reached : cursor.consumed ≤ index
    · exact .inr reached
    · have bound := fits.consumed_le
      obtain rfl : index = mark.reached := by omega
      exact .inl (fits.held_eq.trans (fits.tip (by omega)))
  · exact .inl (fits.held_eq.trans held)

/-- Reading the kept row once more takes nothing. -/
theorem Fits.keep (fits : Fits mark cursor) (held : mark.held? = some index) (row : Row) :
    Fits (mark.after (.read index (some row))) cursor := by
  have bound := fits.consumed_le
  refine ⟨fits.held_eq.trans held, ?_, fun all => ?_⟩
  · simp only [Mark.after]
    omega
  · simp only [Mark.after] at all ⊢
    have same := held.symm.trans (fits.tip (by omega))
    rw [Option.some.inj same, Nat.max_self]
    rfl

/-- Reading a row ahead takes the rows up to it. -/
theorem Fits.take (fits : Fits mark cursor) (reached : cursor.consumed ≤ index) :
    Fits (mark.after (.read index (cursor.take index).1)) (cursor.take index).2 := by
  rcases given : (cursor.take index).1 with _ | row
  · obtain ⟨cached, fewer⟩ := after_take_none reached given
    refine ⟨by rw [cached]; exact fits.held_eq, ?_, fun all => ?_⟩
    · simp only [Mark.after]
      omega
    · simp only [Mark.after] at all
      omega
  · obtain ⟨cached, passed, -⟩ := after_take given
    refine ⟨by rw [cached]; rfl, ?_, fun all => ?_⟩
    · simp only [Mark.after]
      omega
    · simp only [Mark.after] at all ⊢
      have tip : index = max mark.reached index := by omega
      rw [← tip]
      rfl

/-- A reading that does not go back leaves the session alone, and the cursor fits the next mark. -/
theorem Fits.read {session : Session σ} (fits : Fits mark cursor)
    (admits : mark.Admits (readStep server index (cursor, session))) :
    Fits (mark.after (readStep server index (cursor, session)))
        (Cursor.read server index (cursor, session)).2.1 ∧
      (Cursor.read server index (cursor, session)).2.2 = session := by
  rcases read_of_atHand server (fits.atHand admits) with ⟨row, cached, kept⟩ | ⟨reached, taken⟩
  · have held : mark.held? = some index := by rw [← fits.held_eq, cached]; rfl
    rw [readStep, kept session]
    exact ⟨fits.keep held row, rfl⟩
  · rw [readStep, taken session]
    exact ⟨fits.take reached, rfl⟩

end Fits

/-! ## Runs of the statement -/

/-- The session after a statement was run, whether it was answered or not. -/
def rerun (server : Server σ) (sql : String) (params : Params) (session : Session σ) : Session σ :=
  (Session.run server sql params session).2

section Runs

variable {server : Server σ} {start finish : Cursor × Session σ} {steps : List Step}

theorem reexecute_eq (server : Server σ) (cursor : Cursor) (session : Session σ) :
    reexecute server (cursor, session) =
      match Session.run server cursor.sql cursor.params session with
      | (.error error, after) => (.error error, cursor, after)
      | (.ok answer, after) => (.ok (), ofAnswer answer cursor.sql cursor.params, after) :=
  rfl

theorem statement_take (cursor : Cursor) (index : Nat) :
    (cursor.take index).2.sql = cursor.sql ∧ (cursor.take index).2.params = cursor.params := by
  simp only [take]
  split <;> exact ⟨rfl, rfl⟩

/-- A course keeps the statement of its cursor. -/
theorem Course.statement (course : Course server start steps finish) :
    finish.1.sql = start.1.sql ∧ finish.1.params = start.1.params := by
  induction course with
  | start => exact ⟨rfl, rfl⟩
  | seek _ index induction => exact induction
  | @read _ state _ index induction =>
      obtain ⟨cursor, session⟩ := state
      by_cases atHand : cursor.AtHand index
      · rcases read_of_atHand server atHand with ⟨row, -, kept⟩ | ⟨-, taken⟩
        · rwa [kept]
        · rw [taken, (statement_take cursor index).1, (statement_take cursor index).2]
          exact induction
      · rw [(read_of_not_atHand server session atHand).2.2]
        rcases Session.run server cursor.sql cursor.params session with ⟨error | answer, after⟩
        · exact induction
        · simp only [statement_take]
          exact induction
  | @rerun _ state _ induction =>
      obtain ⟨cursor, session⟩ := state
      rw [reexecute_eq]
      rcases Session.run server cursor.sql cursor.params session with ⟨error | answer, after⟩ <;>
        exact induction

/-- Along a course without a reading that goes back, the statement is run on request only. -/
theorem Fits.course {mark : Mark} (course : Course server start steps finish)
    (fits : Fits mark start.1) (onward : Onward mark steps) :
    Fits (steps.foldl Mark.after mark) finish.1 ∧
      finish.2 = (rerun server start.1.sql start.1.params)^[steps.countP Step.isRerun] start.2 := by
  induction course with
  | start => exact ⟨fits, rfl⟩
  | seek _ index induction =>
      obtain ⟨before, alone⟩ := induction onward
      exact ⟨⟨before.held_eq, before.consumed_le, before.tip⟩, alone⟩
  | @read steps state _ index induction =>
      obtain ⟨earlier, admits⟩ := onward_append_singleton.1 onward
      obtain ⟨before, same⟩ := induction earlier
      obtain ⟨fitting, alone⟩ := before.read admits
      rw [List.foldl_append, List.countP_append]
      exact ⟨fitting, alone.trans same⟩
  | @rerun steps state course induction =>
      obtain ⟨before, same⟩ := induction (onward_append_singleton.1 onward).1
      obtain ⟨sql, params⟩ := course.statement
      obtain ⟨cursor, session⟩ := state
      have once (answered : Bool) : [Step.rerun answered].countP Step.isRerun = 1 := rfl
      rw [List.foldl_append, List.countP_append, once, Function.iterate_succ_apply', ← same, rerun,
        ← sql, ← params, reexecute_eq]
      rcases Session.run server cursor.sql cursor.params session with ⟨error | answer, after⟩
      · exact ⟨before, rfl⟩
      · exact ⟨fits_ofAnswer answer cursor.sql cursor.params, rfl⟩

end Runs

/-! ## Rows taken from an answer -/

/-- A cursor over a statement and its session, with the answer that the statement got last and the
index of the row that was read last of it. -/
inductive Drawn (server : Server σ) (sql : String) (params : Params) :
    Answer → Option Nat → Cursor × Session σ → Prop where
  | answered {session after : Session σ} {answer : Answer}
      (ran : Session.run server sql params session = (.ok answer, after)) :
      Drawn server sql params answer none (ofAnswer answer sql params, after)
  | seek {given : Answer} {last? : Option Nat} {cursor : Cursor} {session : Session σ}
      (drawn : Drawn server sql params given last? (cursor, session)) (index : Nat) :
      Drawn server sql params given last? (cursor.seek index, session)
  /-- An index is read without a run. -/
  | read {given : Answer} {last? : Option Nat} {cursor after : Cursor} {session : Session σ}
      {index : Nat} {row? : Option Row}
      (drawn : Drawn server sql params given last? (cursor, session))
      (found : Cursor.read server index (cursor, session) = (.ok row?, after, session)) :
      Drawn server sql params given (if row?.isSome then some index else last?) (after, session)
  /-- An index is read after one run, of its answer. -/
  | reread {given answer : Answer} {last? : Option Nat} {cursor after : Cursor}
      {session rest : Session σ} {index : Nat} {row? : Option Row}
      (drawn : Drawn server sql params given last? (cursor, session))
      (ran : Session.run server sql params session = (.ok answer, rest))
      (found : Cursor.read server index (cursor, session) = (.ok row?, after, rest)) :
      Drawn server sql params answer (if row?.isSome then some index else none) (after, rest)
  /-- A run fails. -/
  | refused {given : Answer} {last? : Option Nat} {cursor : Cursor} {session rest : Session σ}
      {error : SessionError} (drawn : Drawn server sql params given last? (cursor, session))
      (ran : Session.run server sql params session = (.error error, rest)) :
      Drawn server sql params given last? (cursor, rest)

/-- The number of rows of an answer that a cursor has taken. -/
def taken (given : Answer) (cursor : Cursor) : Nat :=
  given.rows.length - cursor.answer.rows.length

/-- What a cursor tells of the answer that it is drawn from. -/
structure Tells (given : Answer) (last? : Option Nat) (cursor : Cursor) : Prop where
  held_eq : cursor.cached?.map Prod.fst = last?
  rows_eq : cursor.consumed + cursor.answer.rows.length = given.rows.length

theorem tells_ofAnswer (answer : Answer) (sql : String) (params : Params) :
    Tells answer none (ofAnswer answer sql params) :=
  ⟨rfl, Nat.zero_add _⟩

section Tells

variable {given : Answer} {last? : Option Nat} {cursor : Cursor}

/-- Taking rows up to an index moves them from the rest of the answer to those consumed. -/
theorem Tells.take (tells : Tells given last? cursor) (index : Nat) :
    Tells given (if (cursor.take index).1.isSome then some index else last?)
      (cursor.take index).2 := by
  have whole := tells.rows_eq
  rcases dropped : cursor.answer.rows.drop (index - cursor.consumed) with _ | ⟨values, rest⟩
  · simp only [Cursor.take, dropped]
    exact ⟨tells.held_eq, whole⟩
  · have ahead := congrArg List.length dropped
    simp only [List.length_drop, List.length_cons] at ahead
    simp only [Cursor.take, dropped]
    refine ⟨rfl, ?_⟩
    simp only
    omega

theorem Tells.seek (tells : Tells given last? cursor) (index : Nat) :
    Tells given last? (cursor.seek index) :=
  ⟨tells.held_eq, tells.rows_eq⟩

/-- The rows passed that are not kept are those below the number of rows taken, but the last. -/
theorem Tells.not_atHand_iff (tells : Tells given last? cursor) (index : Nat) :
    ¬cursor.AtHand index ↔ index < taken given cursor ∧ last? ≠ some index := by
  rw [taken, ← tells.rows_eq, Nat.add_sub_cancel, AtHand, tells.held_eq, not_or, Nat.not_le,
    and_comm]

end Tells

section Drawn

variable {server : Server σ} {sql : String} {params : Params} {given : Answer} {last? : Option Nat}
  {cursor : Cursor} {session : Session σ}

/-- Some answer is the last one, and the cursor tells of it. -/
def Follows (server : Server σ) (sql : String) (params : Params) (state : Cursor × Session σ) :
    Prop :=
  ∃ given last?, Drawn server sql params given last? state ∧ Tells given last? state.1

theorem Drawn.follows_read (drawn : Drawn server sql params given last? (cursor, session))
    (tells : Tells given last? cursor) (same : cursor.sql = sql ∧ cursor.params = params)
    (index : Nat) : Follows server sql params (Cursor.read server index (cursor, session)).2 := by
  obtain ⟨rfl, rfl⟩ := same
  by_cases atHand : cursor.AtHand index
  · rcases read_of_atHand server atHand with ⟨row, cached, kept⟩ | ⟨-, found⟩
    · rw [kept session]
      exact ⟨given, some index, drawn.read (kept session), by rw [cached]; rfl, tells.rows_eq⟩
    · rw [found session]
      exact ⟨given, _, drawn.read (found session), tells.take index⟩
  · have found := (read_of_not_atHand server session atHand).2.2
    rcases ran : Session.run server cursor.sql cursor.params session with ⟨error | answer, rest⟩
    · rw [ran] at found
      rw [found]
      exact ⟨given, last?, drawn.refused ran, tells⟩
    · rw [ran] at found
      rw [found]
      exact ⟨answer, _, drawn.reread ran found,
        ((tells_ofAnswer answer cursor.sql cursor.params).seek cursor.position).take index⟩

theorem Drawn.follows_reexecute (drawn : Drawn server sql params given last? (cursor, session))
    (tells : Tells given last? cursor) (same : cursor.sql = sql ∧ cursor.params = params) :
    Follows server sql params (reexecute server (cursor, session)).2 := by
  obtain ⟨rfl, rfl⟩ := same
  rw [reexecute_eq]
  rcases ran : Session.run server cursor.sql cursor.params session with ⟨error | answer, rest⟩
  · exact ⟨given, last?, drawn.refused ran, tells⟩
  · exact ⟨answer, none, .answered ran, tells_ofAnswer answer cursor.sql cursor.params⟩

theorem Follows.course {start finish : Cursor × Session σ} {steps : List Step}
    (course : Course server start steps finish)
    (follows : Follows server start.1.sql start.1.params start) :
    Follows server start.1.sql start.1.params finish := by
  induction course with
  | start => exact follows
  | seek _ index induction =>
      obtain ⟨given, last?, drawn, tells⟩ := induction
      exact ⟨given, last?, drawn.seek index, tells.seek index⟩
  | read course index induction =>
      obtain ⟨given, last?, drawn, tells⟩ := induction
      exact drawn.follows_read tells course.statement index
  | rerun course induction =>
      obtain ⟨given, last?, drawn, tells⟩ := induction
      exact drawn.follows_reexecute tells course.statement

/-- One reading runs the statement once for a row that was passed and is not kept, and not at all
for every other row. -/
theorem Tells.session_read (tells : Tells given last? cursor) (index : Nat) :
    (Cursor.read server index (cursor, session)).2.2 =
      if index < taken given cursor ∧ last? ≠ some index then
        rerun server cursor.sql cursor.params session
      else session := by
  have passed := tells.not_atHand_iff index
  by_cases atHand : cursor.AtHand index
  · obtain ⟨row?, after, done⟩ := offline_read server atHand
    rw [if_neg fun behind => passed.2 behind atHand, done]
  · rw [if_pos (passed.1 atHand), (read_of_not_atHand server session atHand).2.2, rerun]
    rcases Session.run server cursor.sql cursor.params session with ⟨error | answer, rest⟩ <;> rfl

end Drawn

/-- A query runs its statement. After it, operations that read onward run the statement again only
on request: otherwise the session stays what the query left. After any operations, reading an index
runs the statement at most once, and just if the index is below the number of rows taken from the
answer got last and is not the index of the row read last. -/
theorem reruns_of_query {server : Server σ} {session after : Session σ} {sql : String}
    {params : Params} {cursor : Cursor}
    (queried : Session.query server sql params session = (.ok cursor, after))
    (operations : List Operation) :
    let steps := allSteps server operations (cursor, after)
    let left := afterAll server operations (cursor, after)
    (Onward {} steps →
      left.2 = (rerun server sql params)^[steps.countP Step.isRerun + 1] session) ∧
      ∃ given last?, Drawn server sql params given last? left ∧
        ∀ index, (Cursor.read server index left).2.2 =
          if index < taken given left.1 ∧ last? ≠ some index then rerun server sql params left.2
          else left.2 := by
  intro steps left
  have course : Course server (cursor, after) steps left := course_allSteps server operations _
  rw [Session.query, run_bind] at queried
  rcases ran : Session.run server sql params session with ⟨error | answer, rest⟩
  · rw [ran] at queried
    cases queried
  · rw [ran] at queried
    cases queried
    constructor
    · intro onward
      rw [((fits_ofAnswer answer sql params).course course onward).2, Function.iterate_succ_apply,
        rerun, ran]
      rfl
    · have follows : Follows server sql params (ofAnswer answer sql params, after) :=
        ⟨answer, none, .answered ran, tells_ofAnswer answer sql params⟩
      obtain ⟨given, last?, drawn, tells⟩ := follows.course course
      obtain ⟨sameSql, sameParams⟩ := course.statement
      refine ⟨given, last?, drawn, fun index => ?_⟩
      rw [tells.session_read index, sameSql, sameParams]
      rfl

/-- An insertion that returns its rows is sent once, though rows are skipped to, read twice and
asked for behind the end. -/
theorem reruns_of_query_returning :
    let sql := "INSERT INTO t (a) VALUES (1), (2), (3) RETURNING id"
    let row (id : Int64) : Row := ⟨["id"], [.int id]⟩
    let script : Script :=
      { responses := [⟨"INSERT", .ofRows ["id"] [[.int 1], [.int 2], [.int 3]]⟩] }
    let session : Session Script :=
      { settings := { driver := "sqlite" }, dialect := .sqlite, state := script, connection := 1,
        depth := 0, policy := .disabled, insertId? := none, journal? := none }
    let operations : List Operation :=
      [.perform .next, .perform (.rowAt 1), .fetch .single, .perform (.seek 7), .fetchInto Row,
        .perform (.rowAt 1)]
    ∃ cursor after, Session.query Script.server sql .none session = (.ok cursor, after) ∧
      allSteps Script.server operations (cursor, after) =
        [.read 0 (some (row 1)), .read 1 (some (row 2)), .read 1 (some (row 2)), .read 7 none,
          .read 1 (some (row 2))] ∧
      Onward {} (allSteps Script.server operations (cursor, after)) ∧
      (afterAll Script.server operations (cursor, after)).2 =
        (rerun Script.server sql .none)^[1] session ∧
      (afterAll Script.server operations (cursor, after)).2.state.log = [⟨1, sql, []⟩] := by
  intro sql row script session operations
  let answer : Answer := .ofRows ["id"] [[.int 1], [.int 2], [.int 3]]
  have executed : Script.server.execute 1 sql [] script =
      (.ok answer, script.note ⟨1, sql, []⟩) := by
    have answered : script.answerOf sql = answer := by decide
    rw [← answered]
    rfl
  let after : Session Script := { session with state := script.note ⟨1, sql, []⟩ }
  have bound : Params.none.bind session.dialect sql = .ok (sql, []) := rfl
  have ran : Session.run Script.server sql .none session = (.ok answer, after) :=
    Session.runAs_of_answer bound executed false
  have queried : Session.query Script.server sql .none session =
      (.ok (ofAnswer answer sql .none), after) := Session.bind_of_ok ran
  have told : allSteps Script.server operations (ofAnswer answer sql .none, after) =
      [.read 0 (some (row 1)), .read 1 (some (row 2)), .read 1 (some (row 2)), .read 7 none,
        .read 1 (some (row 2))] := rfl
  have onward :
      Onward {} (allSteps Script.server operations (ofAnswer answer sql .none, after)) := by
    rw [told]
    decide
  have once := (reruns_of_query queried operations).1 onward
  refine ⟨_, _, queried, told, onward, once, ?_⟩
  rw [once]
  change (Session.run Script.server sql .none session).2.state.log = _
  rw [ran]
  rfl

end Cursor

end SqlClient
