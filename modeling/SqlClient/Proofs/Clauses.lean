import SqlClient.Proofs.Truncation

/-!
# Clauses

A statement has a clause for a condition if the condition has a text. Everything else that depends
on the condition is decided from its tree. The two agree: of an empty condition nothing is written,
no keyword either, and any other condition that can be written has a text behind its keyword.
-/

namespace SqlClient

/-! ## Bindings of empty conditions -/

mutual

/-- An empty condition has no bindings. -/
theorem Condition.mergeBinds_of_isEmpty (binds : Binds) : (condition : Condition) →
    condition.isEmpty = true → condition.mergeBinds binds = .ok binds
  | .raw sql, _ => by rw [Condition.mergeBinds]
  | .group connective members, empty => by
      rw [Condition.isEmpty] at empty
      rw [Condition.mergeBinds, Condition.mergeAll_of_allEmpty binds members empty]
  | .leaf column operator operand, empty => by simp [Condition.isEmpty] at empty

theorem Condition.mergeAll_of_allEmpty (binds : Binds) : (members : List Condition) →
    Condition.allEmpty members = true → Condition.mergeAll members binds = .ok binds
  | [], _ => by rw [Condition.mergeAll]
  | member :: rest, empty => by
      rw [Condition.allEmpty, Bool.and_eq_true] at empty
      rw [Condition.mergeAll, Condition.mergeBinds_of_isEmpty binds member empty.1]
      exact Condition.mergeAll_of_allEmpty binds rest empty.2

end

theorem Condition.isEmpty_empty : Condition.empty.isEmpty = true := rfl

/-! ## Selections -/

namespace Select

/-- The text of a selection up to its joins. -/
def head (select : Select) : Except StatementError String := do
  let columns ← protectAll select.dialect select.columns
  let sources ← Source.renderAll select.dialect select.sources
  let joins ← Join.renderAll select.dialect select.joins
  .ok ("SELECT " ++ (if select.distinct then "DISTINCT " else "") ++
    (select.opening?.map fun text => Text.trim text ++ " ").getD "" ++
    (if select.columns.isEmpty then "*" else commaList columns) ++
    " FROM " ++ commaList sources ++ joins)

/-- The text of a selection from its ordering on. -/
def tail (select : Select) : Except StatementError String := do
  let order ← termClause select.dialect "ORDER BY" select.orderBy
  let lock ← lockClause select.dialect select.lock?
  .ok (order ++ windowClause select.limit? select.offset? ++ lock)

/-- A rendered selection, cut around its two conditions. -/
theorem render_eq_ok {select : Select} {sql : String} (rendered : select.render = .ok sql) :
    ∃ head filter groups having tail,
      select.head = .ok head ∧ select.filter.render select.dialect = .ok filter ∧
      termClause select.dialect "GROUP BY" select.groupBy = .ok groups ∧
      select.having.render select.dialect = .ok having ∧ select.tail = .ok tail ∧
      sql = head ++ clause "WHERE" filter ++ groups ++ clause "HAVING" having ++ tail := by
  obtain ⟨dialect, distinct, opening?, columns, sources, joins, filter, groupBy, having, orderBy,
    limit?, offset?, lock?, binds⟩ := select
  rw [Select.render] at rendered
  split at rendered
  · simp at rendered
  · simp only [bind_eq_ok, Except.ok.injEq] at rendered
    obtain ⟨_, -, columnTexts, written, sourceTexts, read, joinText, joined, filterText, filtered,
      groupText, grouped, havingText, had, orderText, ordered, lockText, locked, rfl⟩ := rendered
    refine ⟨_, filterText, groupText, havingText, _,
      bind_eq_ok.2 ⟨columnTexts, written, bind_eq_ok.2 ⟨sourceTexts, read,
        bind_eq_ok.2 ⟨joinText, joined, rfl⟩⟩⟩, filtered, grouped, had,
      bind_eq_ok.2 ⟨orderText, ordered, bind_eq_ok.2 ⟨lockText, locked, rfl⟩⟩, ?_⟩
    simp only [String.append_assoc]

/-- Only what a condition renders to and what is bound in it matters to a selection. -/
theorem render_of_empty (select : Select) {condition : Condition}
    (empty : condition.isEmpty = true) :
    Select.render { select with filter := condition } =
        Select.render { select with filter := .empty } ∧
      Select.render { select with having := condition } =
        Select.render { select with having := .empty } := by
  constructor <;>
    simp only [Select.render, Select.mergeBinds, Condition.mergeBinds_of_isEmpty _ _ empty,
      Condition.mergeBinds_of_isEmpty _ _ Condition.isEmpty_empty,
      Condition.render_of_isEmpty _ empty, Condition.render_of_isEmpty _ Condition.isEmpty_empty]

end Select

/-! ## Updates -/

namespace Update

/-- The text of an update up to its assignments. -/
def head (update : Update) : Except StatementError String :=
  match update.table? with
  | none => .error (.missing .table)
  | some table => do
      let assignments ← update.effectiveAssignments
      let joins ← Join.renderAll update.dialect update.joins
      let texts ← assignments.mapM (Assignment.render update.dialect)
      .ok ("UPDATE " ++ table.render update.dialect ++ joins ++ " SET " ++ commaList texts)

/-- A rendered update, cut around its condition. -/
theorem render_eq_ok {update : Update} {sql : String} (rendered : update.render = .ok sql) :
    ∃ head filter order, update.head = .ok head ∧
      update.filter.render update.dialect = .ok filter ∧
      termClause update.dialect "ORDER BY" update.orderBy = .ok order ∧
      sql = head ++ clause "WHERE" filter ++ order ++ limitClause update.limit? := by
  rw [render] at rendered
  cases named : update.table? with
  | none => simp [named] at rendered
  | some table =>
      simp only [named, bind_eq_ok, Except.ok.injEq] at rendered
      obtain ⟨_, -, assignments, assigned, joins, joined, texts, written, filter, filtered, order,
        ordered, rfl⟩ := rendered
      rw [head, named]
      exact ⟨_, filter, order, bind_eq_ok.2 ⟨assignments, assigned, bind_eq_ok.2 ⟨joins, joined,
        bind_eq_ok.2 ⟨texts, written, rfl⟩⟩⟩, filtered, ordered, rfl⟩

end Update

/-! ## Places of conditions -/

/-- A place of a condition in a statement. -/
inductive Site where
  /-- The condition on the rows of a selection. -/
  | selected (select : Select)
  /-- The condition on the groups of a selection. -/
  | grouped (select : Select)
  | updated (update : Update)
  | deleted (delete : Delete)
  /-- The condition of a joined table. -/
  | joined (dialect : Dialect) (kind : JoinKind) (source : Identifier)

namespace Site

def dialect : Site → Dialect
  | .selected select => select.dialect
  | .grouped select => select.dialect
  | .updated update => update.dialect
  | .deleted delete => delete.dialect
  | .joined dialect _ _ => dialect

/-- The text of the statement with a condition in the place. -/
def render : Site → Condition → Except StatementError String
  | .selected select, condition => Select.render { select with filter := condition }
  | .grouped select, condition => Select.render { select with having := condition }
  | .updated update, condition => Update.render { update with filter := condition }
  | .deleted delete, condition => Delete.render { delete with filter := condition }
  | .joined dialect kind source, condition => Join.render dialect ⟨kind, source, condition⟩

/-- What is written for a condition with a text. -/
def clause : Site → String → String
  | .grouped _, text => " HAVING " ++ text
  | .joined _ _ _, text => " ON (" ++ text ++ ")"
  | _, text => " WHERE " ++ text

/-- The statement is one that empties whole tables. -/
def Empties (site : Site) (sql : String) : Prop :=
  ∃ delete, site = .deleted delete ∧ sql = delete.truncationText

/-- In every text of the statement, the same text stands around the clause of the condition, which is
missing for a condition without a text. -/
def Encloses (site : Site) (before after : String) : Prop :=
  ∀ condition sql, site.render condition = .ok sql →
    (condition.isEmpty = true ∧ site.Empties sql) ∨
      ∃ text, condition.render site.dialect = .ok text ∧
        sql = before ++ (if text = "" then "" else site.clause text) ++ after

theorem exists_encloses (site : Site) : ∃ before after, site.Encloses before after := by
  cases site with
  | selected select =>
      refine ⟨shown select.head, shown (termClause select.dialect "GROUP BY" select.groupBy) ++
        SqlClient.clause "HAVING" (shown (select.having.render select.dialect)) ++
          shown select.tail, fun condition sql rendered => .inr ?_⟩
      obtain ⟨head, filter, groups, having, tail, opened, filtered, grouped, had, closed, rfl⟩ :=
        Select.render_eq_ok rendered
      refine ⟨filter, filtered, ?_⟩
      change select.head = .ok head at opened
      change select.tail = .ok tail at closed
      dsimp only at grouped had
      rw [opened, grouped, had, closed]
      simp only [shown, String.append_assoc]
      rfl
  | grouped select =>
      refine ⟨shown select.head ++ SqlClient.clause "WHERE"
        (shown (select.filter.render select.dialect)) ++
          shown (termClause select.dialect "GROUP BY" select.groupBy), shown select.tail,
        fun condition sql rendered => .inr ?_⟩
      obtain ⟨head, filter, groups, having, tail, opened, filtered, grouped, had, closed, rfl⟩ :=
        Select.render_eq_ok rendered
      refine ⟨having, had, ?_⟩
      change select.head = .ok head at opened
      change select.tail = .ok tail at closed
      dsimp only at grouped filtered
      rw [opened, grouped, filtered, closed]
      rfl
  | updated update =>
      refine ⟨shown update.head, shown (termClause update.dialect "ORDER BY" update.orderBy) ++
        limitClause update.limit?, fun condition sql rendered => .inr ?_⟩
      obtain ⟨head, filter, order, opened, filtered, ordered, rfl⟩ := Update.render_eq_ok rendered
      refine ⟨filter, filtered, ?_⟩
      change update.head = .ok head at opened
      dsimp only at ordered
      rw [opened, ordered]
      simp only [shown, String.append_assoc]
      rfl
  | deleted delete =>
      refine ⟨delete.opening ++ shown (Join.renderAll delete.dialect delete.joins),
        shown (termClause delete.dialect "ORDER BY" delete.orderBy) ++ limitClause delete.limit?,
        fun condition sql rendered => ?_⟩
      obtain ⟨emptied, rfl⟩ | ⟨-, joins, filter, order, joined, filtered, ordered, rfl⟩ :=
        Delete.render_eq_ok rendered
      · refine .inl ⟨?_, delete, rfl, rfl⟩
        simp only [Delete.isTruncation, Delete.isUnscoped, Bool.and_eq_true] at emptied
        exact emptied.1.1.2.1.1.1
      · refine .inr ⟨filter, filtered, ?_⟩
        dsimp only at joined ordered
        rw [joined, ordered]
        simp only [shown, String.append_assoc]
        rfl
  | joined dialect kind source =>
      refine ⟨" " ++ kind.sql ++ " " ++ source.render dialect, "",
        fun condition sql rendered => .inr ?_⟩
      simp only [render, Join.render, bind_eq_ok, Except.ok.injEq] at rendered
      obtain ⟨text, written, rfl⟩ := rendered
      exact ⟨text, written, (String.append_empty).symm⟩

/-- An empty condition leaves the statement as it is without any. -/
theorem render_of_empty (site : Site) {condition : Condition} (empty : condition.isEmpty = true) :
    site.render condition = site.render .empty := by
  have written : condition.render site.dialect = .ok "" :=
    Condition.render_of_isEmpty condition empty
  have unwritten : Condition.empty.render site.dialect = .ok "" :=
    Condition.render_of_isEmpty .empty Condition.isEmpty_empty
  cases site with
  | selected select => exact (select.render_of_empty empty).1
  | grouped select => exact (select.render_of_empty empty).2
  | updated update =>
      simp only [dialect] at written unwritten
      simp only [render, Update.render, Update.mergedBinds, statementBinds, Condition.mergeAll,
        Condition.mergeBinds_of_isEmpty _ _ empty, Condition.mergeBinds_of_isEmpty _ .empty rfl,
        Update.effectiveAssignments, written, unwritten]
  | deleted delete =>
      simp only [dialect] at written unwritten
      simp only [render, Delete.render, Delete.mergedBinds, statementBinds, Condition.mergeAll,
        Condition.mergeBinds_of_isEmpty _ _ empty, Condition.mergeBinds_of_isEmpty _ .empty rfl,
        Delete.isTruncation, Delete.isUnscoped, Delete.truncationText, Delete.opening, empty,
        Condition.isEmpty_empty, written, unwritten]
  | joined dialect kind source =>
      simp only [Site.dialect] at written unwritten
      simp only [render, Join.render, written, unwritten]

end Site

/-- A condition is empty exactly if it is written as nothing. In every place, an empty condition
leaves the statement as it is without any, and the text of any other condition that can be written
stands there in a clause of its own, with the same text around it. -/
theorem Condition.isEmpty_iff_unwritten (dialect : Dialect) :
    (∀ condition : Condition, condition.isEmpty = true ↔ condition.render dialect = .ok "") ∧
      ∀ site : Site, site.dialect = dialect →
        (∀ condition, condition.isEmpty = true → site.render condition = site.render .empty) ∧
          ∃ before after,
            (∀ sql, site.render .empty = .ok sql → sql = before ++ after ∨ site.Empties sql) ∧
              ∀ condition sql, condition.isEmpty = false → site.render condition = .ok sql →
                ∃ text, text ≠ "" ∧ condition.render dialect = .ok text ∧
                  sql = before ++ site.clause text ++ after := by
  refine ⟨fun condition => condition.isEmpty_iff_render, ?_⟩
  rintro site rfl
  refine ⟨fun condition => site.render_of_empty, ?_⟩
  obtain ⟨before, after, encloses⟩ := site.exists_encloses
  refine ⟨before, after, fun sql rendered => ?_, fun condition sql filled rendered => ?_⟩
  · obtain ⟨-, emptied⟩ | ⟨text, written, rfl⟩ := encloses .empty sql rendered
    · exact .inr emptied
    · rw [Condition.render_of_isEmpty .empty rfl, Except.ok.injEq] at written
      rw [if_pos written.symm, String.append_empty]
      exact .inl rfl
  · obtain ⟨empty, -⟩ | ⟨text, written, rfl⟩ := encloses condition sql rendered
    · simp [filled] at empty
    · have visible : text ≠ "" := by
        rw [Ne, Condition.render_eq_empty condition written, filled]
        exact Bool.false_ne_true
      exact ⟨text, visible, written, by rw [if_neg visible]⟩

/-- Groups with nothing but blanks in them, and beside them a raw text, as conditions on the groups
of a selection. -/
theorem Condition.isEmpty_iff_unwritten_blank :
    let blank : Condition := .group .and [.raw " \t", .group .or [.raw "", .group .and []]]
    let filled : Condition := .group .or [blank, .raw " COUNT(*) > 1 "]
    let table : Identifier := { name := .path ⟨["t"], by decide, by decide⟩ }
    let site : Site := .grouped { Select.empty .postgres with
      sources := [.table table], groupBy := ["a"], orderBy := ["a DESC"] }
    let bare := "SELECT * FROM \"t\" GROUP BY \"a\" ORDER BY \"a\" DESC"
    let sql := "SELECT * FROM \"t\" GROUP BY \"a\" HAVING COUNT(*) > 1 ORDER BY \"a\" DESC"
    blank.isEmpty = true ∧ site.render blank = .ok bare ∧
      filled.isEmpty = false ∧ site.render filled = .ok sql ∧
      ∃ before after text, bare = before ++ after ∧ filled.render .postgres = .ok text ∧
        sql = before ++ (" HAVING " ++ text) ++ after := by
  intro blank filled table site bare sql
  have without : site.render .empty = .ok bare := by decide +kernel
  have rendered : site.render filled = .ok sql := by decide +kernel
  obtain ⟨-, sites⟩ := isEmpty_iff_unwritten .postgres
  obtain ⟨same, before, after, unwritten, written⟩ := sites site rfl
  have empty : blank.isEmpty = true := by decide +kernel
  have present : filled.isEmpty = false := by decide +kernel
  obtain ⟨text, -, shows, cut⟩ := written filled sql present rendered
  obtain whole | ⟨delete, other, -⟩ := unwritten bare without
  · exact ⟨empty, (same blank empty).trans without, present, rendered, before, after, text, whole,
      shows, cut⟩
  · simp [site] at other

end SqlClient
