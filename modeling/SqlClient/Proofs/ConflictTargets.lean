import SqlClient.Proofs.Agreement
import SqlClient.Proofs.ValueSets

/-!
# Conflict targets

What an insertion into PostgreSQL does with conflicting rows is written in one clause, which names
the columns or the constraint that a conflict is told by. An upsert names either of them. An
insertion that skips conflicting rows names columns only: in place of a constraint it skips the rows
of any conflict.
-/

namespace SqlClient

namespace ConflictTarget

/-- There is a column to tell a conflict by, or a name of a constraint that is not blank. -/
def IsFilled : ConflictTarget → Prop
  | .columns names => names ≠ []
  | .constraint name => Text.isAllBlank name = false

/-- The text of a target: columns in parentheses, or a constraint by its name. -/
def text (dialect : Dialect) : ConflictTarget → Except StatementError String
  | .columns names => (protectAll dialect names).map Insert.tuple
  | .constraint name => .ok ("ON CONSTRAINT " ++ dialect.quoteName (Text.trim name))

end ConflictTarget

namespace Insert

variable {insert : Insert} {target : ConflictTarget} {columns : List String} {sql : String}

/-- Conflicting rows are updated, because that was asked for or in the place of a replacement. -/
def Updates (insert : Insert) : Prop :=
  insert.updates? ≠ none ∨ insert.replaces = true

/-- What is done with a conflicting row. -/
def resolution (insert : Insert) (columns : List String) : Except StatementError String :=
  if insert.upserts then do
    let pairs ← insert.updatePairs columns
    .ok (" DO UPDATE SET " ++ commaList (← pairs.mapM (assignment insert.dialect)))
  else .ok " DO NOTHING"

/-- The insertion that leaves conflicts to the server. -/
def unguarded (insert : Insert) : Insert :=
  { insert with replaces := false, ignores := false, updates? := none }

/-- A clause names a target and what is done with the rows that it matches. -/
def Names (insert : Insert) (target : ConflictTarget) (conflict : String) : Prop :=
  ∃ named resolved, target.text insert.dialect = .ok named ∧
    insert.effectiveColumns.bind insert.resolution = .ok resolved ∧
    conflict = " ON CONFLICT " ++ named ++ resolved

theorem upserts_iff (postgres : insert.dialect = .postgres) :
    insert.upserts = true ↔ insert.Updates := by
  simp [upserts, Updates, postgres, Dialect.replaceOpening?, Option.isSome_iff_ne_none]

theorem opening_eq (postgres : insert.dialect = .postgres) : insert.opening = "INSERT INTO" := by
  unfold opening
  rw [postgres]
  split
  · rfl
  · split <;> rfl

/-- The words before the assignments of an upsert name its target, of either kind. -/
theorem upsertOpening_eq (postgres : insert.dialect = .postgres)
    (given : insert.target? = some target) (filled : target.IsFilled) :
    insert.upsertOpening = (target.text insert.dialect).map fun named =>
      " ON CONFLICT " ++ named ++ " DO UPDATE SET " := by
  unfold upsertOpening
  rw [postgres, given]
  cases target with
  | columns names =>
      have some : names.isEmpty = false := List.isEmpty_eq_false_iff.2 filled
      simp only [Dialect.upsertForm, some, Bool.false_eq_true, if_false, ConflictTarget.text]
      cases protectAll .postgres names with
      | error cause => rfl
      | ok texts =>
          change Except.ok (" ON CONFLICT (" ++ commaList texts ++ ") DO UPDATE SET ") =
            Except.ok (" ON CONFLICT " ++ tuple texts ++ " DO UPDATE SET ")
          simp [tuple, ← String.toList_inj]
  | constraint name =>
      have visible : Text.isAllBlank name = false := filled
      simp [Dialect.upsertForm, visible, ConflictTarget.text, Except.map, ← String.toList_inj]

theorem names_of_updates (postgres : insert.dialect = .postgres)
    (given : insert.target? = some target) (filled : target.IsFilled) (updates : insert.Updates)
    {conflict : String} (effective : insert.effectiveColumns = .ok columns)
    (written : insert.conflictText columns = .ok conflict) : insert.Names target conflict := by
  have upserts := (upserts_iff postgres).2 updates
  unfold conflictText at written
  rw [if_pos upserts, upsertOpening_eq postgres given filled] at written
  simp only [bind_eq_ok, map_eq_ok, Except.ok.injEq] at written
  obtain ⟨_, ⟨named, names, rfl⟩, pairs, paired, assignments, assigned, rfl⟩ := written
  have resolved : insert.resolution columns =
      .ok (" DO UPDATE SET " ++ commaList assignments) := by
    rw [resolution, if_pos upserts]
    exact bind_eq_ok.2 ⟨pairs, paired, bind_eq_ok.2 ⟨assignments, assigned, rfl⟩⟩
  refine ⟨named, _, names, bind_eq_ok.2 ⟨columns, effective, resolved⟩, ?_⟩
  simp only [String.append_assoc]

theorem ignoreClause?_eq (postgres : insert.dialect = .postgres) (updates : ¬insert.Updates)
    (skips : insert.ignores = true) : insert.ignoreClause? = some "ON CONFLICT DO NOTHING" := by
  have kept : insert.replaces = false := by
    simpa using fun replaces => updates (.inr replaces)
  simp [ignoreClause?, kept, skips, postgres, Dialect.ignoreForm]

/-- An insertion that skips conflicting rows names the columns that they are told by. -/
theorem names_of_columns (postgres : insert.dialect = .postgres) {names : List String}
    (given : insert.target? = some (.columns names)) (filled : names ≠ [])
    (updates : ¬insert.Updates) (skips : insert.ignores = true) {conflict : String}
    (effective : insert.effectiveColumns = .ok columns)
    (written : insert.conflictText columns = .ok conflict) :
    insert.Names (.columns names) conflict := by
  have upserts := (not_congr (upserts_iff postgres)).2 updates
  obtain ⟨name, rest, rfl⟩ := List.exists_cons_of_ne_nil filled
  unfold conflictText at written
  rw [if_neg upserts, ignoreClause?_eq postgres updates skips, given] at written
  obtain ⟨texts, protects, same⟩ := bind_eq_ok.1 written
  obtain rfl := Except.ok.inj same
  refine ⟨tuple texts, " DO NOTHING", map_eq_ok.2 ⟨texts, protects, rfl⟩,
    bind_eq_ok.2 ⟨columns, effective, if_neg upserts⟩, ?_⟩
  simp [tuple, ← String.toList_inj]

/-- A constraint is not named where conflicting rows are skipped. -/
theorem conflictText_of_constraint (postgres : insert.dialect = .postgres) {name : String}
    (given : insert.target? = some (.constraint name)) (updates : ¬insert.Updates)
    (skips : insert.ignores = true) :
    insert.conflictText columns = .ok " ON CONFLICT DO NOTHING" := by
  have upserts := (not_congr (upserts_iff postgres)).2 updates
  unfold conflictText
  rw [if_neg upserts, ignoreClause?_eq postgres updates skips, given]
  rfl

theorem not_names_constraint (insert : Insert) (name : String) :
    ¬insert.Names (.constraint name) " ON CONFLICT DO NOTHING" := by
  rintro ⟨named, resolved, names, -, same⟩
  obtain rfl := Except.ok.inj names
  simp [← String.toList_inj] at same

/-- An insertion has the text that it has without a conflict clause, with the clause behind its
values. -/
theorem exists_conflict (postgres : insert.dialect = .postgres)
    (rendered : insert.render = .ok sql) :
    ∃ columns conflict body returned, insert.effectiveColumns = .ok columns ∧
      insert.conflictText columns = .ok conflict ∧
      protectAll insert.dialect insert.returning = .ok returned ∧
      insert.unguarded.render = .ok (body ++ clause "RETURNING" (commaList returned)) ∧
      sql = body ++ conflict ++ clause "RETURNING" (commaList returned) := by
  obtain ⟨table, columns, names, conflict, returned, named, effective, written, guarded, returning,
    rfl⟩ := render_eq_ok_iff.1 rendered
  refine ⟨columns, conflict, _, returned, effective, guarded, returning,
    render_eq_ok_iff.2 ⟨table, columns, names, "", returned, named, effective, written, ?_,
      returning, ?_⟩, rfl⟩
  · simp [conflictText, upserts, ignoreClause?, unguarded]
  · rw [String.append_empty, opening_eq postgres]
    rfl

/-- An insertion into PostgreSQL with a target has a clause behind its values that names the target
and says what is done with the rows that it matches, however updating, replacing and skipping were
asked for together, just if conflicting rows are updated or the target has columns. A constraint
beside which conflicting rows are skipped is left out, and the rows of any conflict are skipped. -/
theorem names_iff_of_render (postgres : insert.dialect = .postgres)
    (given : insert.target? = some target) (filled : target.IsFilled)
    (asked : insert.Updates ∨ insert.ignores = true) (rendered : insert.render = .ok sql) :
    ∃ body conflict returned, protectAll insert.dialect insert.returning = .ok returned ∧
      insert.unguarded.render = .ok (body ++ clause "RETURNING" (commaList returned)) ∧
      sql = body ++ conflict ++ clause "RETURNING" (commaList returned) ∧
      (insert.Names target conflict ↔ insert.Updates ∨ ∃ names, target = .columns names) ∧
      (¬insert.Names target conflict → conflict = " ON CONFLICT DO NOTHING") := by
  obtain ⟨columns, conflict, body, returned, effective, guarded, returning, bare, whole⟩ :=
    exists_conflict postgres rendered
  refine ⟨body, conflict, returned, returning, bare, whole, ?_⟩
  by_cases updates : insert.Updates
  · have names := names_of_updates postgres given filled updates effective guarded
    exact ⟨iff_of_true names (.inl updates), fun unnamed => absurd names unnamed⟩
  · have skips := asked.resolve_left updates
    cases target with
    | columns wanted =>
        have names := names_of_columns postgres given filled updates skips effective guarded
        exact ⟨iff_of_true names (.inr ⟨wanted, rfl⟩), fun unnamed => absurd names unnamed⟩
    | constraint name =>
        rw [conflictText_of_constraint postgres given updates skips] at guarded
        obtain rfl := Except.ok.inj guarded
        refine ⟨iff_of_false (not_names_constraint insert name) ?_, fun _ => rfl⟩
        rintro (again | ⟨names, ⟨⟩⟩)
        exact updates again

/-- An insertion of one row, with what is asked for on account of conflicting rows. -/
def guardedRow (replaces ignores : Bool) (target : ConflictTarget) (returning : List String) :
    Insert :=
  { empty .postgres with
    table? := some (.ofLetter 't')
    columns := ["id"], rows := [[.scalar (.int 1)]]
    replaces, ignores, target? := some target, returning }

/-- A replacement that asks for skipping as well, beside a constraint, and an insertion that skips
rows beside two columns. -/
theorem names_iff_of_render_guardedRow :
    let key := ConflictTarget.constraint " t key "
    let pair := ConflictTarget.columns ["id", "t.at"]
    let replaced := guardedRow true true key ["id"]
    let skipped := guardedRow false true pair []
    let replacedText := "INSERT INTO \"t\" (\"id\") VALUES (1) " ++
      "ON CONFLICT ON CONSTRAINT \"t key\" DO UPDATE SET \"id\" = 1 RETURNING \"id\""
    let skippedText := "INSERT INTO \"t\" (\"id\") VALUES (1) " ++
      "ON CONFLICT (\"id\", \"t\".\"at\") DO NOTHING"
    key.IsFilled ∧ replaced.Updates ∧ replaced.render = .ok replacedText ∧
      pair.IsFilled ∧ ¬skipped.Updates ∧ skipped.render = .ok skippedText ∧
      (∃ conflict, replaced.Names key conflict) ∧ ∃ conflict, skipped.Names pair conflict := by
  intro key pair replaced skipped replacedText skippedText
  have keyed : key.IsFilled := by
    change Text.isAllBlank " t key " = false
    decide
  have paired : pair.IsFilled := List.cons_ne_nil _ _
  have updates : replaced.Updates := .inr rfl
  have skips : ¬skipped.Updates := by
    rintro (updates | replaces)
    · exact updates rfl
    · cases replaces
  have replacing : replaced.render = .ok replacedText := by decide +kernel
  have skipping : skipped.render = .ok skippedText := by decide +kernel
  obtain ⟨-, onKey, -, -, -, -, names, -⟩ :=
    names_iff_of_render rfl rfl keyed (.inl updates) replacing
  obtain ⟨-, onPair, -, -, -, -, lists, -⟩ :=
    names_iff_of_render rfl rfl paired (.inr rfl) skipping
  exact ⟨keyed, updates, replacing, paired, skips, skipping, ⟨onKey, names.2 (.inl updates)⟩,
    ⟨onPair, lists.2 (.inr ⟨_, rfl⟩)⟩⟩

/-- An upsert names the constraint of its target. Where conflicting rows are skipped, the columns of
a target are named and its constraint is not. -/
theorem skipping_drops_constraint :
    (guardedRow false true (.constraint "t_pkey") []).render =
        .ok "INSERT INTO \"t\" (\"id\") VALUES (1) ON CONFLICT DO NOTHING" ∧
      (guardedRow false true (.columns ["id"]) []).render =
        .ok "INSERT INTO \"t\" (\"id\") VALUES (1) ON CONFLICT (\"id\") DO NOTHING" ∧
      (guardedRow true true (.constraint "t_pkey") []).render =
        .ok ("INSERT INTO \"t\" (\"id\") VALUES (1) " ++
          "ON CONFLICT ON CONSTRAINT \"t_pkey\" DO UPDATE SET \"id\" = 1") := by
  decide +kernel

end Insert

end SqlClient
