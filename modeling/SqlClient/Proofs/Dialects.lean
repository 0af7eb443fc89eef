import SqlClient.Proofs.Agreement
import SqlClient.Proofs.Truncation

/-!
# Dialects

Selections inside a statement have to be of its dialect. A selection read from is checked when it
is added, one in a condition when the condition is rendered, and neither check looks further down.
This file lays out the checks of a rendering in their order and shows that together with those of
the calls they reach every selection at any depth.
-/

namespace SqlClient

/-! ## Selections inside -/

mutual

/-- The selections that stand in a condition, in order. -/
def Condition.selects : Condition → List Select
  | .leaf _ _ operand => Operand.selects operand
  | .group _ members => Condition.allSelects members
  | .raw _ => []

/-- The selections that stand in several conditions. -/
def Condition.allSelects : List Condition → List Select
  | [] => []
  | member :: rest => member.selects ++ Condition.allSelects rest

/-- The selections that stand in an operand. -/
def Operand.selects : Operand → List Select
  | .subquery select => [select]
  | .nested condition => Condition.selects condition
  | .none => []
  | .value _ => []
  | .list _ => []
  | .column _ => []

end

/-- The selection that a source reads from. -/
def Source.select? : Source → Option Select
  | .table _ => none
  | .subquery select _ => some select

/-- The selections that stand in the conditions of joins. -/
def joinSelects (joins : List Join) : List Select :=
  joins.flatMap fun join => join.condition.selects

/-- The selections that stand in a selection, not those inside them. -/
def Select.selects (select : Select) : List Select :=
  select.sources.filterMap Source.select? ++ joinSelects select.joins ++ select.filter.selects ++
    select.having.selects

/-- The selections that stand in a statement, not those inside them. -/
def Statement.selects : Statement → List Select
  | .select selection => selection.selects
  | .insert _ => []
  | .update change => joinSelects change.joins ++ change.filter.selects
  | .delete removal => joinSelects removal.joins ++ removal.filter.selects

/-- A selection is one of some selections or stands in one of them, at any depth. -/
inductive Within (inner : Select) : List Select → Prop where
  | here {selects : List Select} (member : inner ∈ selects) : Within inner selects
  | deeper {selects : List Select} {outer : Select} (member : outer ∈ selects)
      (within : Within inner outer.selects) : Within inner selects

theorem Within.mono {inner : Select} {selects others : List Select}
    (within : Within inner selects) (subset : selects ⊆ others) : Within inner others := by
  cases within with
  | here member => exact .here (subset member)
  | deeper member within => exact .deeper (subset member) within

mutual

theorem Condition.selects_eq_atoms : (condition : Condition) →
    condition.selects = condition.atoms.flatMap Condition.selects
  | .leaf column operator operand => by simp [Condition.atoms]
  | .group connective members => by
      rw [Condition.atoms, Condition.selects]
      exact Condition.allSelects_eq_atoms members
  | .raw sql => by
      rw [Condition.atoms, Condition.selects]
      split <;> simp [Condition.selects]

theorem Condition.allSelects_eq_atoms : (members : List Condition) →
    Condition.allSelects members = (Condition.allAtoms members).flatMap Condition.selects
  | [] => by simp [Condition.allSelects, Condition.allAtoms]
  | member :: rest => by
      rw [Condition.allSelects, Condition.allAtoms, List.flatMap_append,
        ← Condition.selects_eq_atoms member, ← Condition.allSelects_eq_atoms rest]

end

/-- A condition joined to another one keeps its selections, even where the joined one is dropped or
merged into a group. -/
@[simp] theorem Condition.selects_push (condition : Condition) (connective : Connective)
    (other : Condition) :
    (condition.push connective other).selects = condition.selects ++ other.selects := by
  rw [selects_eq_atoms, atoms_push, List.flatMap_append, ← selects_eq_atoms, ← selects_eq_atoms]

/-- An empty condition holds no selections. -/
theorem Condition.selects_of_isEmpty {condition : Condition} (empty : condition.isEmpty = true) :
    condition.selects = [] := by
  rw [selects_eq_atoms, condition.atoms_eq_nil_iff.2 empty, List.flatMap_nil]

/-! ## Checks -/

/-- A check of a rendering passes or fails. -/
abbrev Check := Except StatementError Unit

/-- A step of a rendering as a check: what matters is only whether it succeeds. -/
def check {α : Type} (step : Except StatementError α) : Check :=
  step.map fun _ => ()

/-- Checks in order, up to the first one that fails. -/
def passAll : List Check → Check
  | [] => .ok ()
  | first :: rest => first >>= fun _ => passAll rest

section Checks

variable {α β : Type}

@[simp] theorem check_ok (value : α) : check (.ok value) = .ok () := rfl

@[simp] theorem check_error (error : StatementError) :
    check (.error error : Except StatementError α) = .error error := rfl

@[simp] theorem ok_bind (value : α) (next : α → Except StatementError β) :
    (.ok value >>= next) = next value := rfl

@[simp] theorem error_bind (error : StatementError) (next : α → Except StatementError β) :
    ((.error error : Except StatementError α) >>= next) = .error error := rfl

@[simp] theorem check_bind (step : Except StatementError α) (next : α → Except StatementError β) :
    check (step >>= next) = step >>= fun value => check (next value) := by
  cases step <;> rfl

@[simp] theorem check_seq (step : Except StatementError α) (rest : Except StatementError β) :
    (check step >>= fun _ => rest) = step >>= fun _ => rest := by
  cases step <;> rfl

@[simp] theorem check_check (step : Except StatementError α) : check (check step) = check step := by
  cases step <;> rfl

theorem check_eq_ok {step : Except StatementError α} :
    check step = .ok () ↔ ∃ value, step = .ok value := by
  cases step <;> simp

theorem check_eq_error {step : Except StatementError α} {error : StatementError} :
    check step = .error error ↔ step = .error error := by
  cases step <;> simp

theorem bind_check (step : Except StatementError α) :
    (step >>= fun _ => (.ok () : Check)) = check step := by
  cases step <;> rfl

@[simp] theorem passAll_nil : passAll [] = .ok () := rfl

@[simp] theorem passAll_cons (first : Check) (rest : List Check) :
    passAll (first :: rest) = first >>= fun _ => passAll rest := rfl

@[simp] theorem passAll_append (left right : List Check) :
    passAll (left ++ right) = passAll left >>= fun _ => passAll right := by
  induction left with
  | nil => rfl
  | cons first rest ih => rw [List.cons_append, passAll_cons, passAll_cons, ih, bind_assoc]

/-- A step fails by a check among checks: with the refusal of that check, or with the one of a check
before it. -/
def FailsBy (checks : List Check) (refusal : StatementError) (step : Except StatementError α) :
    Prop :=
  ∃ earlier later error, checks = earlier ++ .error refusal :: later ∧ step = .error error ∧
    (error = refusal ∨ .error error ∈ earlier)

/-- Checks one of which fails do not pass. -/
theorem failsBy_of_mem {checks : List Check} {refusal : StatementError}
    {step : Except StatementError α} (same : check step = passAll checks)
    (member : .error refusal ∈ checks) : FailsBy checks refusal step := by
  obtain ⟨earlier, later, rfl⟩ := List.append_of_mem member
  have stops : ∀ earlier : List Check, ∃ error,
      passAll (earlier ++ .error refusal :: later) = .error error ∧
        (error = refusal ∨ .error error ∈ earlier) := by
    intro earlier
    induction earlier with
    | nil => exact ⟨refusal, rfl, .inl rfl⟩
    | cons first rest ih =>
        cases first with
        | error failure => exact ⟨failure, rfl, .inr (by simp)⟩
        | ok _ =>
            obtain ⟨error, stopped, origin⟩ := ih
            exact ⟨error, stopped, origin.imp_right (List.mem_cons_of_mem _)⟩
  obtain ⟨error, stopped, origin⟩ := stops earlier
  exact ⟨earlier, later, error, rfl, check_eq_error.1 (same.trans stopped), origin⟩

end Checks

/-- A selection inside a statement is of the dialect of the statement. -/
def sameDialect (inner outer : Dialect) : Check :=
  if inner ≠ outer then .error (.foreign (.subquery inner outer)) else .ok ()

mutual

/-- The checks of a rendered condition, in order. -/
def Condition.checks (dialect : Dialect) : Condition → List Check
  | .raw _ => []
  | .group _ members => Condition.allChecks dialect members
  | .leaf column operator operand =>
      check (refuse (Identifier.protectedText dialect column)) ::
        Operand.checks dialect column operator operand

/-- The checks of several rendered conditions. -/
def Condition.allChecks (dialect : Dialect) : List Condition → List Check
  | [] => []
  | member :: rest => Condition.checks dialect member ++ Condition.allChecks dialect rest

/-- The checks of the rendered right-hand side of a comparison. -/
def Operand.checks (dialect : Dialect) (column : String) (operator : Operator) :
    Operand → List Check
  | .none => []
  | .value (.scalar .null) =>
      [if operator.nullTest?.isSome then .ok () else .error (.nullComparison column operator)]
  | .value (.scalar _) => []
  | .value (.verbatim _) => []
  | .list exprs => [if exprs.isEmpty then .error (.invalid (.emptyList column)) else .ok ()]
  | .column other => [check (refuse (Identifier.protectedText dialect other))]
  | .subquery select => sameDialect select.dialect dialect :: Select.checks select
  | .nested condition => Condition.checks dialect condition

/-- The checks of a rendered join: those of its condition. -/
def Join.checks (dialect : Dialect) : Join → List Check
  | ⟨_, _, condition⟩ => Condition.checks dialect condition

/-- The checks of rendered joins. -/
def Join.allChecks (dialect : Dialect) : List Join → List Check
  | [] => []
  | join :: rest => Join.checks dialect join ++ Join.allChecks dialect rest

/-- The checks of a rendered source. Its dialect is not among them. -/
def Source.checks : Source → List Check
  | .table _ => []
  | .subquery select _ => Select.checks select

/-- The checks of rendered sources. -/
def Source.allChecks : List Source → List Check
  | [] => []
  | source :: rest => Source.checks source ++ Source.allChecks rest

/-- The checks of a rendered selection. -/
def Select.checks : Select → List Check
  | ⟨dialect, distinct, opening?, columns, sources, joins, filter, groupBy, having, orderBy,
      limit?, offset?, lock?, binds⟩ =>
      [if sources.isEmpty then .error (.missing .selectSource) else .ok (),
        check (refuse (Select.mergeBinds
          ⟨dialect, distinct, opening?, columns, sources, joins, filter, groupBy, having, orderBy,
            limit?, offset?, lock?, binds⟩ [])),
        check (protectAll dialect columns)] ++
      Source.allChecks sources ++ Join.allChecks dialect joins ++
      Condition.checks dialect filter ++ [check (termClause dialect "GROUP BY" groupBy)] ++
      Condition.checks dialect having ++
      [check (termClause dialect "ORDER BY" orderBy), check (lockClause dialect lock?)]

end

/-- The checks of a rendered update. -/
def Update.checks (update : Update) : List Check :=
  [if update.table?.isNone then .error (.missing .table) else .ok (),
    check (refuse update.mergedBinds), check update.effectiveAssignments] ++
  Join.allChecks update.dialect update.joins ++
  [check (update.effectiveAssignments >>= fun assignments =>
    assignments.mapM (Assignment.render update.dialect))] ++
  update.filter.checks update.dialect ++
  [check (termClause update.dialect "ORDER BY" update.orderBy)]

/-- The checks of a rendered deletion. Emptied tables have no conditions to check. -/
def Delete.checks (delete : Delete) : List Check :=
  [if delete.tables.isEmpty then .error (.missing .deleteSource) else .ok (),
    check (refuse delete.mergedBinds)] ++
  if delete.isTruncation then []
  else
    Join.allChecks delete.dialect delete.joins ++ delete.filter.checks delete.dialect ++
    [check (termClause delete.dialect "ORDER BY" delete.orderBy)]

/-- The checks of a rendered statement. -/
def Statement.checks : Statement → List Check
  | .select selection => selection.checks
  | .insert insertion => [check insertion.render]
  | .update change => change.checks
  | .delete removal => removal.checks

mutual

theorem Condition.check_render (dialect : Dialect) : (condition : Condition) →
    check (condition.render dialect) = passAll (condition.checks dialect)
  | .raw sql => by simp [Condition.render, Condition.checks]
  | .group connective members => by
      simp [Condition.render, Condition.checks, ← Condition.check_renderAll dialect members,
        bind_check]
  | .leaf column operator operand => by
      simp [Condition.render, Condition.checks,
        ← Operand.check_render dialect column operator operand, bind_check]

theorem Condition.check_renderAll (dialect : Dialect) : (members : List Condition) →
    check (Condition.renderAll dialect members) = passAll (Condition.allChecks dialect members)
  | [] => by simp [Condition.renderAll, Condition.allChecks]
  | member :: rest => by
      simp [Condition.renderAll, Condition.allChecks, ← Condition.check_render dialect member,
        ← Condition.check_renderAll dialect rest, bind_check]

theorem Operand.check_render (dialect : Dialect) (column : String) (operator : Operator) :
    (operand : Operand) → check (operand.render dialect column operator) =
      passAll (operand.checks dialect column operator)
  | .none => by simp [Operand.render, Operand.checks]
  | .value (.verbatim sql) => by simp [Operand.render, Operand.checks]
  | .value (.scalar scalar) => by
      cases scalar <;> simp [Operand.render, Operand.checks]
      cases operator.nullTest? <;> simp
  | .list [] => by simp [Operand.render, Operand.checks]
  | .list (expr :: exprs) => by simp [Operand.render, Operand.checks]
  | .column other => by simp [Operand.render, Operand.checks, bind_check]
  | .subquery select => by
      simp only [Operand.render, Operand.checks, sameDialect, passAll_cons,
        ← Select.check_render select]
      split <;> simp [bind_check]
  | .nested condition => by
      simp [Operand.render, Operand.checks, ← Condition.check_render dialect condition, bind_check]

theorem Join.check_render (dialect : Dialect) : (join : Join) →
    check (join.render dialect) = passAll (join.checks dialect)
  | ⟨kind, source, condition⟩ => by
      simp [Join.render, Join.checks, ← Condition.check_render dialect condition, bind_check]

theorem Join.check_renderAll (dialect : Dialect) : (joins : List Join) →
    check (Join.renderAll dialect joins) = passAll (Join.allChecks dialect joins)
  | [] => by simp [Join.renderAll, Join.allChecks]
  | join :: rest => by
      simp [Join.renderAll, Join.allChecks, ← Join.check_render dialect join,
        ← Join.check_renderAll dialect rest, bind_check]

theorem Source.check_render (dialect : Dialect) : (source : Source) →
    check (source.render dialect) = passAll source.checks
  | .table identifier => by simp [Source.render, Source.checks]
  | .subquery select label? => by
      simp [Source.render, Source.checks, ← Select.check_render select, bind_check]

theorem Source.check_renderAll (dialect : Dialect) : (sources : List Source) →
    check (Source.renderAll dialect sources) = passAll (Source.allChecks sources)
  | [] => by simp [Source.renderAll, Source.allChecks]
  | source :: rest => by
      simp [Source.renderAll, Source.allChecks, ← Source.check_render dialect source,
        ← Source.check_renderAll dialect rest, bind_check]

/-- A selection is rendered if its checks pass, and fails with the first one that does not. -/
theorem Select.check_render : (select : Select) → check select.render = passAll select.checks
  | ⟨dialect, distinct, opening?, columns, sources, joins, filter, groupBy, having, orderBy,
      limit?, offset?, lock?, binds⟩ => by
      simp only [Select.render, Select.checks]
      split <;>
        simp [← Source.check_renderAll dialect sources,
          ← Join.check_renderAll dialect joins,
          ← Condition.check_render dialect filter,
          ← Condition.check_render dialect having, bind_check]

end

theorem Update.check_render (update : Update) : check update.render = passAll update.checks := by
  rw [Update.render, Update.checks]
  cases update.table? with
  | none => simp
  | some table =>
      cases update.effectiveAssignments <;>
        simp [← Join.check_renderAll update.dialect update.joins,
          ← Condition.check_render update.dialect update.filter]

theorem Delete.check_render (delete : Delete) : check delete.render = passAll delete.checks := by
  rw [Delete.render, Delete.checks]
  split
  · simp
  · split <;>
      simp [← Join.check_renderAll delete.dialect delete.joins,
        ← Condition.check_render delete.dialect delete.filter, bind_check]

theorem Statement.check_render : (statement : Statement) →
    check statement.render = passAll statement.checks
  | .select selection => selection.check_render
  | .insert insertion => by simp [render, checks, bind_check]
  | .update change => change.check_render
  | .delete removal => removal.check_render

/-! ## Calls -/

/-- A call that builds a selection. -/
inductive Select.Call where
  | distinct (wanted : Bool)
  | opening (text : String)
  | columns (lists : List String)
  | table (name : String) (label? : Option String)
  | select (inner : Select) (label? : Option String)
  | join (kind : JoinKind) (table : String) (condition : Condition)
  | filter (connective : Connective) (condition : Condition)
  | groupBy (lists : List String)
  | having (condition : Condition)
  | orderBy (lists : List String)
  | clearOrderBy
  | limit (count offset : Nat)
  | clearLimit
  | forUpdate (locked : Bool)
  | sharedLock (locked : Bool)
  | bind (name : String) (value : Scalar)

namespace Select

/-- The selection after a call, unless the call is refused. -/
def Call.perform : Call → Select → Except StatementError Select
  | .distinct wanted, current => .ok (current.setDistinct wanted)
  | .opening text, current => .ok (current.setOpening text)
  | .columns lists, current => .ok (current.setColumns lists)
  | .table name label?, current => current.addTable name label?
  | .select inner label?, current => current.addSelect inner label?
  | .join kind name condition, current => current.addJoin kind name condition
  | .filter connective condition, current => .ok (current.addFilter connective condition)
  | .groupBy lists, current => .ok (current.setGroupBy lists)
  | .having condition, current => .ok (current.addHaving condition)
  | .orderBy lists, current => .ok (current.setOrderBy lists)
  | .clearOrderBy, current => .ok current.clearOrderBy
  | .limit count offset, current => .ok (current.setLimit count offset)
  | .clearLimit, current => .ok current.clearLimit
  | .forUpdate locked, current => .ok (current.setForUpdate locked)
  | .sharedLock locked, current => current.setSharedLock locked
  | .bind name value, current => current.bind name value

/-- The selections that a call gives. -/
def Call.selects : Call → List Select
  | .select inner _ => [inner]
  | .join _ _ condition => condition.selects
  | .filter _ condition => condition.selects
  | .having condition => condition.selects
  | _ => []

/-- The selection after calls in order, if none of them is refused. -/
def perform : List Call → Select → Except StatementError Select
  | [], select => .ok select
  | call :: calls, select => do perform calls (← call.perform select)

end Select

namespace Update

/-- A call that builds an update. -/
inductive Call where
  | table (name : String)
  | texts (given : List String)
  | assign (column : String) (expr : Expr)
  | assignAll (pairs : List (String × Expr))
  | join (kind : JoinKind) (table : String) (condition : Condition)
  | filter (connective : Connective) (condition : Condition)
  | orderBy (lists : List String)
  | limit (count : Nat)
  | bind (name : String) (value : Scalar)

/-- The update after a call, unless the call is refused. -/
def Call.perform : Call → Update → Except StatementError Update
  | .table name, update => update.setTable name
  | .texts given, update => .ok (update.addTexts given)
  | .assign column expr, update => .ok (update.assign column expr)
  | .assignAll pairs, update => .ok (update.assignAll pairs)
  | .join kind name condition, update => update.addJoin kind name condition
  | .filter connective condition, update => .ok (update.addFilter connective condition)
  | .orderBy lists, update => update.setOrderBy lists
  | .limit count, update => update.setLimit count
  | .bind name value, update => update.bind name value

/-- The selections that a call gives. -/
def Call.selects : Call → List Select
  | .join _ _ condition => condition.selects
  | .filter _ condition => condition.selects
  | _ => []

/-- The update after calls in order, if none of them is refused. -/
def perform : List Call → Update → Except StatementError Update
  | [], update => .ok update
  | call :: calls, update => do perform calls (← call.perform update)

end Update

/-- The selections that a call gives. -/
def Delete.Call.selects : Delete.Call → List Select
  | .join _ _ condition => condition.selects
  | .filter _ condition => condition.selects
  | _ => []

/-- The selections that a statement reads from. -/
def Statement.sources : Statement → List Select
  | .select selection => selection.sources.filterMap Source.select?
  | _ => []

/-- A statement grows into another one of its dialect by selections given to calls. None is lost,
and only those of its dialect are read from. -/
structure Statement.Grows (statement : Statement) (given : List Select) (after : Statement) :
    Prop where
  dialect : after.dialect = statement.dialect
  selects : ∀ inner, inner ∈ after.selects ↔ inner ∈ statement.selects ∨ inner ∈ given
  sources : ∀ inner ∈ after.sources, inner ∈ statement.sources ∨ inner.dialect = statement.dialect

namespace Statement

variable {statement middle after : Statement} {given later : List Select}

theorem Grows.trans (grows : statement.Grows given middle) (further : middle.Grows later after) :
    statement.Grows (given ++ later) after := by
  refine ⟨further.dialect.trans grows.dialect, ?_, ?_⟩
  · intro inner
    rw [further.selects, grows.selects, List.mem_append, or_assoc]
  · intro inner read
    obtain read | same := further.sources inner read
    · exact grows.sources inner read
    · exact .inr (same.trans grows.dialect)

/-- A statement of the same dialect and sources with further selections. -/
theorem grows_of_more (dialect : after.dialect = statement.dialect)
    (sources : after.sources = statement.sources)
    (selects : ∀ inner, inner ∈ after.selects ↔ inner ∈ statement.selects ∨ inner ∈ given) :
    statement.Grows given after :=
  ⟨dialect, selects, fun _ read => .inl (sources ▸ read)⟩

/-- A statement of the same dialect and selections. -/
theorem grows_of_same (dialect : after.dialect = statement.dialect)
    (selects : after.selects = statement.selects) (sources : after.sources = statement.sources) :
    statement.Grows [] after :=
  grows_of_more dialect sources fun inner => by simp [selects]

theorem Grows.refl (statement : Statement) : statement.Grows [] statement :=
  grows_of_same rfl rfl rfl

/-- Calls that each let a statement grow by what they give do so one after the other. -/
theorem grows_of_calls {κ σ : Type} {wrap : σ → Statement} {given : κ → List Select}
    {perform : κ → σ → Except StatementError σ} {performAll : List κ → σ → Except StatementError σ}
    (none : ∀ state, performAll [] state = .ok state)
    (next : ∀ call calls state, performAll (call :: calls) state =
      perform call state >>= performAll calls)
    (each : ∀ call state after, perform call state = .ok after →
      (wrap state).Grows (given call) (wrap after))
    (calls : List κ) {state after : σ} (performed : performAll calls state = .ok after) :
    (wrap state).Grows (calls.flatMap given) (wrap after) := by
  induction calls generalizing state with
  | nil =>
      obtain rfl := Except.ok.inj ((none state).symm.trans performed)
      exact .refl _
  | cons call calls ih =>
      rw [next] at performed
      obtain ⟨middle, called, performed⟩ := bind_eq_ok.1 performed
      exact (each call state middle called).trans (ih performed)

end Statement

open Statement (grows_of_more grows_of_same grows_of_calls)

theorem joinSelects_append {dialect : Dialect} {kind : JoinKind} {table : String}
    {condition : Condition} {join : Join} {joins : List Join}
    (accepted : Join.ofTable dialect kind table condition = .ok join) :
    joinSelects (joins ++ [join]) = joinSelects joins ++ condition.selects := by
  obtain ⟨identifier, -, made⟩ := bind_eq_ok.1 accepted
  obtain rfl := Except.ok.inj made
  simp [joinSelects]

theorem filterMap_select?_subquery (select : Select) (label? : Option String) :
    [Source.subquery select label?].filterMap Source.select? = [select] := rfl

theorem Select.Call.grows (call : Call) {select after : Select}
    (performed : call.perform select = .ok after) :
    (Statement.select select).Grows call.selects (.select after) := by
  cases call with
  | distinct | opening | columns | groupBy | orderBy | clearOrderBy | limit | clearLimit
  | forUpdate =>
      obtain rfl := Except.ok.inj performed
      exact grows_of_same rfl rfl rfl
  | sharedLock locked =>
      simp only [perform, setSharedLock] at performed
      split at performed
      · split at performed
        · simp at performed
        · obtain rfl := Except.ok.inj performed
          exact grows_of_same rfl rfl rfl
      · split at performed <;> obtain rfl := Except.ok.inj performed
        · exact grows_of_same rfl rfl rfl
        · exact .refl _
  | bind name value =>
      obtain ⟨binds, -, changed⟩ := bind_eq_ok.1 performed
      obtain rfl := Except.ok.inj changed
      exact grows_of_same rfl rfl rfl
  | table name label? =>
      obtain ⟨identifier, -, changed⟩ := bind_eq_ok.1 performed
      obtain rfl := Except.ok.inj changed
      apply grows_of_same <;>
        simp [Statement.dialect, Statement.selects, Select.selects, Statement.sources,
          Source.select?]
  | select inner label? =>
      simp only [perform, addSelect] at performed
      split at performed
      · simp at performed
      · next same =>
        obtain rfl := Except.ok.inj performed
        refine ⟨rfl, ?_, ?_⟩
        · intro other
          simp only [Statement.selects, Select.selects, selects, List.filterMap_append,
            filterMap_select?_subquery, List.mem_append]
          grind
        · intro other read
          simp only [Statement.sources, List.filterMap_append, filterMap_select?_subquery,
            List.mem_append, List.mem_singleton] at read
          obtain read | rfl := read
          · exact .inl read
          · exact .inr (not_not.1 same)
  | join kind name condition =>
      obtain ⟨join, joined, changed⟩ := bind_eq_ok.1 performed
      obtain rfl := Except.ok.inj changed
      refine grows_of_more rfl rfl fun inner => ?_
      simp only [Statement.selects, Select.selects, selects, joinSelects_append joined,
        List.mem_append]
      grind
  | filter connective condition =>
      obtain rfl := Except.ok.inj performed
      refine grows_of_more rfl rfl fun inner => ?_
      simp only [Statement.selects, Select.selects, selects, addFilter, Condition.selects_push,
        List.mem_append]
      grind
  | having condition =>
      obtain rfl := Except.ok.inj performed
      refine grows_of_more rfl rfl fun inner => ?_
      simp only [Statement.selects, Select.selects, selects, addHaving, Condition.selects_push,
        List.mem_append, or_assoc]

theorem Update.assignAll_eq (pairs : List (String × Expr)) (update : Update) :
    ∃ assignments, update.assignAll pairs = { update with assignments } := by
  induction pairs generalizing update with
  | nil => exact ⟨update.assignments, rfl⟩
  | cons pair rest ih => exact ih (update.assign pair.1 pair.2)

theorem Update.Call.grows (call : Call) {update after : Update}
    (performed : call.perform update = .ok after) :
    (Statement.update update).Grows call.selects (.update after) := by
  cases call with
  | texts | assign =>
      obtain rfl := Except.ok.inj performed
      exact grows_of_same rfl rfl rfl
  | assignAll pairs =>
      obtain ⟨assignments, assigned⟩ := update.assignAll_eq pairs
      obtain rfl := Except.ok.inj performed
      rw [assigned]
      exact grows_of_same rfl rfl rfl
  | table | orderBy | limit | bind =>
      obtain ⟨_, -, changed⟩ := bind_eq_ok.1 performed
      obtain rfl := Except.ok.inj changed
      exact grows_of_same rfl rfl rfl
  | join kind name condition =>
      obtain ⟨_, -, performed⟩ := bind_eq_ok.1 performed
      obtain ⟨join, joined, changed⟩ := bind_eq_ok.1 performed
      obtain rfl := Except.ok.inj changed
      refine grows_of_more rfl rfl fun inner => ?_
      simp only [Statement.selects, selects, joinSelects_append joined, List.mem_append]
      grind
  | filter connective condition =>
      obtain rfl := Except.ok.inj performed
      refine grows_of_more rfl rfl fun inner => ?_
      simp only [Statement.selects, selects, addFilter, Condition.selects_push, List.mem_append,
        or_assoc]

theorem Delete.Call.grows (call : Call) {delete after : Delete}
    (performed : call.perform delete = .ok after) :
    (Statement.delete delete).Grows call.selects (.delete after) := by
  cases call with
  | truncates =>
      obtain rfl := Except.ok.inj performed
      exact grows_of_same rfl rfl rfl
  | table | order | limit | bind =>
      obtain ⟨_, -, changed⟩ := bind_eq_ok.1 performed
      obtain rfl := Except.ok.inj changed
      exact grows_of_same rfl rfl rfl
  | join kind name condition =>
      obtain ⟨_, -, performed⟩ := bind_eq_ok.1 performed
      obtain ⟨join, joined, changed⟩ := bind_eq_ok.1 performed
      obtain rfl := Except.ok.inj changed
      refine grows_of_more rfl rfl fun inner => ?_
      simp only [Statement.selects, selects, joinSelects_append joined, List.mem_append]
      grind
  | filter connective condition =>
      obtain rfl := Except.ok.inj performed
      refine grows_of_more rfl rfl fun inner => ?_
      simp only [Statement.selects, selects, addFilter, Condition.selects_push, List.mem_append,
        or_assoc]

/-! ## Built statements -/

/-- The calls in order that build a statement of a kind and a dialect. -/
inductive Recipe where
  | select (dialect : Dialect) (calls : List Select.Call)
  | update (dialect : Dialect) (calls : List Update.Call)
  | delete (dialect : Dialect) (calls : List Delete.Call)

namespace Recipe

def dialect : Recipe → Dialect
  | .select dialect _ => dialect
  | .update dialect _ => dialect
  | .delete dialect _ => dialect

/-- The statement before the calls. -/
def start : Recipe → Statement
  | .select dialect _ => .select (.empty dialect)
  | .update dialect _ => .update (.empty dialect)
  | .delete dialect _ => .delete (.empty dialect)

/-- The statement after the calls, unless one of them is refused. -/
def statement : Recipe → Except StatementError Statement
  | .select dialect calls => (Select.perform calls (.empty dialect)).map .select
  | .update dialect calls => (Update.perform calls (.empty dialect)).map .update
  | .delete dialect calls => (Delete.perform calls (.empty dialect)).map .delete

/-- The selections that the calls give. -/
def selects : Recipe → List Select
  | .select _ calls => calls.flatMap Select.Call.selects
  | .update _ calls => calls.flatMap Update.Call.selects
  | .delete _ calls => calls.flatMap Delete.Call.selects

theorem grows {recipe : Recipe} {statement : Statement}
    (built : recipe.statement = .ok statement) : recipe.start.Grows recipe.selects statement := by
  cases recipe with
  | select dialect calls =>
      obtain ⟨select, performed, rfl⟩ := map_eq_ok.1 built
      exact grows_of_calls (fun _ => rfl) (fun _ _ _ => rfl) (fun call _ _ => call.grows) calls
        performed
  | update dialect calls =>
      obtain ⟨update, performed, rfl⟩ := map_eq_ok.1 built
      exact grows_of_calls (fun _ => rfl) (fun _ _ _ => rfl) (fun call _ _ => call.grows) calls
        performed
  | delete dialect calls =>
      obtain ⟨delete, performed, rfl⟩ := map_eq_ok.1 built
      exact grows_of_calls (fun _ => rfl) (fun _ _ _ => rfl) (fun call _ _ => call.grows) calls
        performed

/-- A built statement holds exactly the selections that were given, and reads only from those of
its dialect. -/
theorem selects_of_statement {recipe : Recipe} {statement : Statement}
    (built : recipe.statement = .ok statement) :
    statement.dialect = recipe.dialect ∧
      (∀ inner, inner ∈ statement.selects ↔ inner ∈ recipe.selects) ∧
      ∀ inner ∈ statement.sources, inner.dialect = statement.dialect := by
  obtain ⟨dialect, selects, sources⟩ := grows built
  have nothing : recipe.start.selects = [] ∧ recipe.start.sources = [] ∧
      recipe.start.dialect = recipe.dialect := by
    cases recipe <;> exact ⟨rfl, rfl, rfl⟩
  rw [nothing.2.2] at dialect
  refine ⟨dialect, ?_, ?_⟩
  · simpa [nothing.1] using selects
  · simpa [nothing.2, dialect] using sources

end Recipe

/-- Calls build a selection, and all selections given to them are built by calls as well. -/
inductive Select.Built : Select → Prop where
  | calls (dialect : Dialect) (calls : List Call) {select : Select}
      (inside : ∀ inner ∈ calls.flatMap Call.selects, Built inner)
      (performed : perform calls (.empty dialect) = .ok select) : Built select

theorem Select.Built.parts {select : Select} (built : select.Built) :
    (∀ inner ∈ select.selects, inner.Built) ∧
      ∀ inner ∈ select.sources.filterMap Source.select?, inner.dialect = select.dialect := by
  cases built with
  | calls dialect calls inside performed =>
      have made : (Recipe.select dialect calls).statement = .ok (.select select) :=
        map_eq_ok.2 ⟨select, performed, rfl⟩
      obtain ⟨-, selects, sources⟩ := Recipe.selects_of_statement made
      exact ⟨fun inner member => inside inner ((selects inner).1 member), sources⟩

/-! ## Checked selections -/

/-- Checks guard selections: one of another dialect fails a check, and the checks of each selection
are among them. -/
def Guards (dialect : Dialect) (checks : List Check) (selects : List Select) : Prop :=
  ∀ inner ∈ selects, inner.checks ⊆ checks ∧ (inner.dialect ≠ dialect →
    .error (.foreign (.subquery inner.dialect dialect)) ∈ checks)

section Guards

variable {dialect : Dialect} {checks others : List Check} {selects : List Select}

theorem guards_nil : Guards dialect checks [] := by
  simp [Guards]

theorem Guards.mono (guards : Guards dialect checks selects) (subset : checks ⊆ others) :
    Guards dialect others selects := by
  intro inner member
  obtain ⟨inside, other⟩ := guards inner member
  exact ⟨List.Subset.trans inside subset, fun differs => subset (other differs)⟩

theorem Guards.append {further : List Select} (guards : Guards dialect checks selects)
    (also : Guards dialect checks further) : Guards dialect checks (selects ++ further) := by
  intro inner member
  obtain member | member := List.mem_append.1 member
  · exact guards inner member
  · exact also inner member

mutual

theorem Condition.guards (dialect : Dialect) : (condition : Condition) →
    Guards dialect (condition.checks dialect) condition.selects
  | .raw sql => by
      rw [Condition.selects]
      exact guards_nil
  | .group connective members => by
      rw [Condition.checks, Condition.selects]
      exact Condition.allGuards dialect members
  | .leaf column operator operand => by
      rw [Condition.checks, Condition.selects]
      exact (Operand.guards dialect column operator operand).mono (List.subset_cons_self ..)

theorem Condition.allGuards (dialect : Dialect) : (members : List Condition) →
    Guards dialect (Condition.allChecks dialect members) (Condition.allSelects members)
  | [] => by
      rw [Condition.allSelects]
      exact guards_nil
  | member :: rest => by
      rw [Condition.allChecks, Condition.allSelects]
      exact ((Condition.guards dialect member).mono (List.subset_append_left ..)).append
        ((Condition.allGuards dialect rest).mono (List.subset_append_right ..))

theorem Operand.guards (dialect : Dialect) (column : String) (operator : Operator) :
    (operand : Operand) →
      Guards dialect (operand.checks dialect column operator) operand.selects
  | .none | .value _ | .list _ | .column _ => by
      rw [Operand.selects]
      exact guards_nil
  | .subquery select => by
      rw [Operand.checks, Operand.selects]
      intro inner member
      obtain rfl := List.mem_singleton.1 member
      refine ⟨List.subset_cons_self .., fun differs => ?_⟩
      simp [sameDialect, differs]
  | .nested condition => by
      rw [Operand.checks, Operand.selects]
      exact Condition.guards dialect condition

end

theorem Join.allGuards (dialect : Dialect) (joins : List Join) :
    Guards dialect (Join.allChecks dialect joins) (joinSelects joins) := by
  induction joins with
  | nil => exact guards_nil
  | cons join rest ih =>
      obtain ⟨kind, source, condition⟩ := join
      rw [Join.allChecks, Join.checks, joinSelects, List.flatMap_cons]
      exact ((condition.guards dialect).mono (List.subset_append_left ..)).append
        (ih.mono (List.subset_append_right ..))

/-- Sources are not checked any more, so they have to be of the dialect already. -/
theorem Source.allGuards (sources : List Source)
    (same : ∀ inner ∈ sources.filterMap Source.select?, inner.dialect = dialect) :
    Guards dialect (Source.allChecks sources) (sources.filterMap Source.select?) := by
  induction sources with
  | nil => exact guards_nil
  | cons source rest ih =>
      rw [Source.allChecks]
      cases source with
      | table identifier => exact (ih same).mono (List.subset_append_right ..)
      | subquery select label? =>
          obtain ⟨here, later⟩ := List.forall_mem_cons.1 same
          intro inner member
          obtain rfl | member := List.mem_cons.1 member
          · rw [Source.checks]
            exact ⟨List.subset_append_left .., fun differs => absurd here differs⟩
          · exact ((ih later).mono (List.subset_append_right ..)) inner member

/-- The checks of a selection guard all selections in it, given that it reads only from those of
its dialect. -/
theorem Select.guards (select : Select)
    (same : ∀ inner ∈ select.sources.filterMap Source.select?, inner.dialect = select.dialect) :
    Guards select.dialect select.checks select.selects := by
  obtain ⟨dialect, distinct, opening?, columns, sources, joins, filter, groupBy, having, orderBy,
    limit?, offset?, lock?, binds⟩ := select
  rw [Select.checks]
  refine (((?_ : Guards dialect _ _).append ?_).append ?_).append ?_
  · exact (Source.allGuards sources same).mono (by grind)
  · exact (Join.allGuards dialect joins).mono (by grind)
  · exact (filter.guards dialect).mono (by grind)
  · exact (having.guards dialect).mono (by grind)

theorem Statement.guards (statement : Statement)
    (same : ∀ inner ∈ statement.sources, inner.dialect = statement.dialect) :
    Guards statement.dialect statement.checks statement.selects := by
  cases statement with
  | select selection => exact selection.guards same
  | insert insertion => exact guards_nil
  | update change =>
      rw [selects, checks, Update.checks]
      refine Guards.append ?_ ?_
      · exact (Join.allGuards change.dialect change.joins).mono (by grind)
      · exact (change.filter.guards change.dialect).mono (by grind)
  | delete removal =>
      rw [selects, checks, Delete.checks]
      by_cases emptied : removal.isTruncation = true
      -- No condition is rendered here, and none of them holds a selection.
      · have unscoped : removal.filter.isEmpty = true ∧ removal.joins = [] := by
          simp only [Delete.isTruncation, Delete.isUnscoped, Bool.and_eq_true,
            List.isEmpty_iff] at emptied
          exact ⟨emptied.1.1.2.1.1.1, emptied.1.1.2.1.2⟩
        rw [unscoped.2, Condition.selects_of_isEmpty unscoped.1]
        exact guards_nil
      · rw [if_neg emptied]
        refine Guards.append ?_ ?_
        · exact (Join.allGuards removal.dialect removal.joins).mono (by grind)
        · exact (removal.filter.guards removal.dialect).mono (by grind)

/-- Where checks guard built selections, one of another dialect at any depth means that a check of
the dialect fails: that of the outermost such selection around it. -/
theorem Guards.exists_foreign {inner : Select} (guards : Guards dialect checks selects)
    (built : ∀ inner ∈ selects, inner.Built) (within : Within inner selects)
    (differs : inner.dialect ≠ dialect) :
    ∃ other, other ≠ dialect ∧ .error (.foreign (.subquery other dialect)) ∈ checks := by
  induction within generalizing checks with
  | here member => exact ⟨inner.dialect, differs, (guards inner member).2 differs⟩
  | @deeper _ outer member within ih =>
      obtain ⟨inside, other⟩ := guards outer member
      by_cases same : outer.dialect = dialect
      -- The checks of the outer selection are those of the same dialect, so the search goes on.
      · obtain ⟨parts, sources⟩ := (built outer member).parts
        have guarded := outer.guards sources
        rw [same] at guarded
        exact ih (guarded.mono inside) parts
      · exact ⟨outer.dialect, same, other same⟩

end Guards

theorem Select.perform_append (before after : List Call) (select : Select) :
    perform (before ++ after) select = perform before select >>= perform after := by
  induction before generalizing select with
  | nil => rfl
  | cons call before ih =>
      rw [List.cons_append, perform, perform, bind_assoc]
      exact bind_congr fun next => ih next

/-- The selections a statement was built over are the ones its rendering guards, so a foreign one
among them at any depth is met by one of its checks. -/
theorem Recipe.failsBy_of_statement {recipe : Recipe} {statement : Statement} {inner : Select}
    (built : ∀ inner ∈ recipe.selects, inner.Built) (accepted : recipe.statement = .ok statement)
    (within : Within inner recipe.selects) (differs : inner.dialect ≠ recipe.dialect) :
    ∃ other, other ≠ recipe.dialect ∧
      FailsBy statement.checks (.foreign (.subquery other recipe.dialect)) statement.render := by
  obtain ⟨dialect, selects, sources⟩ := selects_of_statement accepted
  have guards := statement.guards sources
  rw [dialect] at guards
  have inside : Within inner statement.selects :=
    within.mono fun inner member => (selects inner).2 member
  obtain ⟨other, foreign, member⟩ := guards.exists_foreign
    (fun inner member => built inner ((selects inner).1 member)) inside differs
  exact ⟨other, foreign, failsBy_of_mem statement.check_render member⟩

/-- A rendered statement has only selections of its dialect inside, at any depth. One of another
dialect makes a call fail or else the rendering: with the refusal of a selection of another dialect,
or with an error that comes before it. -/
theorem Recipe.dialect_of_within {recipe : Recipe}
    (built : ∀ inner ∈ recipe.selects, inner.Built) :
    (∀ statement sql, recipe.statement = .ok statement → statement.render = .ok sql →
      statement.dialect = recipe.dialect ∧
        ∀ inner, Within inner statement.selects → inner.dialect = statement.dialect) ∧
    (∀ inner, Within inner recipe.selects → inner.dialect ≠ recipe.dialect →
      (∃ error, recipe.statement = .error error) ∨
        ∃ statement other, recipe.statement = .ok statement ∧ other ≠ recipe.dialect ∧
          FailsBy statement.checks (.foreign (.subquery other recipe.dialect)) statement.render) ∧
    (∀ dialect before inner label? after,
      recipe = .select dialect (before ++ .select inner label? :: after) →
        inner.dialect ≠ dialect → ∃ error, recipe.statement = .error error ∧
          (error = .foreign (.subquery inner.dialect dialect) ∨
            Select.perform before (.empty dialect) = .error error)) := by
  refine ⟨?_, ?_, ?_⟩
  · intro statement sql accepted rendered
    obtain ⟨dialect, selects, -⟩ := selects_of_statement accepted
    refine ⟨dialect, fun inner within => ?_⟩
    by_contra differs
    rw [dialect] at differs
    obtain ⟨-, -, -, -, error, -, failed, -⟩ := failsBy_of_statement built accepted
      (within.mono fun inner member => (selects inner).1 member) differs
    simp [rendered] at failed
  · intro inner within differs
    cases accepted : recipe.statement with
    | error error => exact .inl ⟨error, rfl⟩
    | ok statement =>
        obtain ⟨other, foreign, failed⟩ := failsBy_of_statement built accepted within differs
        exact .inr ⟨statement, other, rfl, foreign, failed⟩
  · rintro dialect before inner label? after rfl differs
    rw [statement, Select.perform_append]
    cases accepted : Select.perform before (.empty dialect) with
    | error error => exact ⟨error, rfl, .inr rfl⟩
    | ok select =>
        have same : select.dialect = dialect := by
          have made : (Recipe.select dialect before).statement = .ok (.select select) :=
            map_eq_ok.2 ⟨select, accepted, rfl⟩
          exact (selects_of_statement made).1
        refine ⟨_, ?_, .inl rfl⟩
        rw [ok_bind, Select.perform, Select.Call.perform, Select.addSelect, same, if_pos differs]
        rfl

/-- A deletion of a dialect with a selection of a dialect to be chosen two levels down. -/
def nestedRecipe (innermost : Dialect) : Recipe :=
  let read : Source := .table (.ofLetter 'u')
  let inner : Select := { Select.empty innermost with sources := [read] }
  let outer : Select :=
    { Select.empty .mysql with sources := [read], having := .inSelect "z" inner }
  .delete .mysql
    [.table "t" none, .filter .or (.leaf "x" .isIn (.nested (.inSelect "y" outer)))]

theorem built_nestedRecipe (innermost : Dialect) :
    ∀ inner ∈ (nestedRecipe innermost).selects, inner.Built := by
  have named (dialect : Dialect) : protectTable dialect "u" none = .ok (.ofLetter 'u') := by
    cases dialect <;> decide +kernel
  intro outer member
  obtain rfl := List.mem_singleton.1 member
  refine .calls .mysql [.table "u" none, .having (.inSelect "z" _)] ?_
    (bind_eq_ok.2 ⟨_, bind_eq_ok.2 ⟨_, named .mysql, rfl⟩, rfl⟩)
  intro inner member
  obtain rfl := List.mem_singleton.1 member
  exact .calls innermost [.table "u" none] (by simp [Select.Call.selects])
    (bind_eq_ok.2 ⟨_, bind_eq_ok.2 ⟨_, named innermost, rfl⟩, rfl⟩)

theorem Recipe.dialect_of_within_nestedRecipe :
    (∃ statement, (nestedRecipe .mysql).statement = .ok statement ∧
      statement.render = .ok ("DELETE FROM \x60t\x60 WHERE \x60x\x60 IN (\x60y\x60 IN " ++
        "(SELECT * FROM \x60u\x60 HAVING \x60z\x60 IN (SELECT * FROM \x60u\x60)))") ∧
      ∀ inner, Within inner statement.selects → inner.dialect = .mysql) ∧
    (∃ statement other, (nestedRecipe .sqlite).statement = .ok statement ∧ other ≠ .mysql ∧
      FailsBy statement.checks (.foreign (.subquery other .mysql)) statement.render) ∧
    ((nestedRecipe .sqlite).statement >>= Statement.render) =
      .error (.foreign (.subquery .sqlite .mysql)) := by
  refine ⟨?_, ?_, by decide +kernel⟩
  · have done : ((nestedRecipe .mysql).statement >>= Statement.render) =
        .ok ("DELETE FROM \x60t\x60 WHERE \x60x\x60 IN (\x60y\x60 IN " ++
          "(SELECT * FROM \x60u\x60 HAVING \x60z\x60 IN (SELECT * FROM \x60u\x60)))") := by
      decide +kernel
    obtain ⟨statement, accepted, rendered⟩ := bind_eq_ok.1 done
    obtain ⟨dialect, same⟩ :=
      (dialect_of_within (built_nestedRecipe .mysql)).1 statement _ accepted rendered
    exact ⟨statement, accepted, rendered, fun inner within => (same inner within).trans dialect⟩
  · obtain ⟨made, accepted⟩ : ∃ made, (nestedRecipe .sqlite).statement = .ok made :=
      check_eq_ok.1 (by decide +kernel)
    have failed := (dialect_of_within (built_nestedRecipe .sqlite)).2.1 _
      (.deeper (.head _) (.here (.head _))) (by decide)
    obtain ⟨error, refused⟩ | failed := failed
    · simp [accepted] at refused
    · exact failed

end SqlClient
