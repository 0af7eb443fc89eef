import Mathlib.Data.List.Forall2
import Mathlib.Data.List.Induction
import SqlClient.Proofs.Precedence
import SqlClient.Statement.Delete

/-!
# Truncation

Whether a deletion empties its tables is decided from its condition as a tree, and whether it has a
condition from the text of that tree. Both come from the same parts: the comparisons and the raw
texts that are not blank, which every growth of the tree keeps in order.
-/

namespace SqlClient

/-! ## Terms -/

/-- Lists without terms: there is nothing but blanks between their commas. -/
def Termless (lists : List String) : Prop :=
  ∀ list ∈ lists, ∀ char ∈ list.toList, char = ',' ∨ Text.isBlank char = true

theorem splitChars_blank_iff (separator : Char) (chars : List Char) :
    (∀ piece ∈ Text.splitChars separator chars, ∀ char ∈ piece, Text.isBlank char = true) ↔
      ∀ char ∈ chars, char = separator ∨ Text.isBlank char = true := by
  induction chars with
  | nil => simp [Text.splitChars]
  | cons head rest ih =>
      by_cases same : head = separator
      · simp [Text.splitChars, same, ih]
      · simp only [Text.splitChars, List.forall_mem_cons, same, false_or, ← ih]
        cases Text.splitChars separator rest with
        | nil => simp
        | cons piece pieces => simp [and_assoc]

theorem trim_ofList_eq_empty (chars : List Char) :
    Text.trim (String.ofList chars) = "" ↔ ∀ char ∈ chars, Text.isBlank char = true := by
  simp [trim_eq_empty, Text.isAllBlank]

/-- A list has no terms if it is blank but for commas; an expression always is a term. -/
theorem splitTerms_eq_nil_iff (lists : List String) : splitTerms lists = [] ↔ Termless lists := by
  simp only [splitTerms, List.flatMap_eq_nil_iff, List.filter_eq_nil_iff, Termless]
  apply forall₂_congr
  intro list _
  by_cases expression : Identifier.isExpression list = true
  · have bracket : '(' ∈ list.toList := by simpa [Identifier.isExpression] using expression
    have filled : ¬∀ char ∈ list.toList, Text.isBlank char = true := by
      intro blank
      exact absurd (blank '(' bracket) (by decide)
    have term : ¬∀ char ∈ list.toList, char = ',' ∨ Text.isBlank char = true := by
      intro blank
      exact absurd (blank '(' bracket) (by decide)
    simp only [expression, if_true, List.map_singleton, List.forall_mem_singleton, ne_eq,
      decide_not, Bool.not_eq_true', decide_eq_false_iff_not, not_not, trim_eq_empty,
      Text.isAllBlank, List.all_eq_true, filled, term]
  · rw [← splitChars_blank_iff]
    simp [expression, Text.splitOn, trim_ofList_eq_empty]

/-! ## Atoms -/

mutual

/-- The comparisons and the raw texts of a condition that are not blank, in order. -/
def Condition.atoms : Condition → List Condition
  | .leaf column operator operand => [.leaf column operator operand]
  | .group _ members => Condition.allAtoms members
  | .raw sql => if Text.isAllBlank sql then [] else [.raw sql]

/-- The atoms of several conditions in order. -/
def Condition.allAtoms : List Condition → List Condition
  | [] => []
  | member :: rest => member.atoms ++ Condition.allAtoms rest

end

mutual

theorem Condition.atoms_eq_nil_iff : (condition : Condition) →
    (condition.atoms = [] ↔ condition.isEmpty = true)
  | .leaf column operator operand => by simp [Condition.atoms, Condition.isEmpty]
  | .group connective members => by
      rw [Condition.atoms, Condition.isEmpty]
      exact Condition.allAtoms_eq_nil_iff members
  | .raw sql => by simp [Condition.atoms, Condition.isEmpty]

theorem Condition.allAtoms_eq_nil_iff : (members : List Condition) →
    (Condition.allAtoms members = [] ↔ Condition.allEmpty members = true)
  | [] => by simp [Condition.allAtoms, Condition.allEmpty]
  | member :: rest => by
      rw [Condition.allAtoms, Condition.allEmpty, List.append_eq_nil_iff, Bool.and_eq_true,
        member.atoms_eq_nil_iff, Condition.allAtoms_eq_nil_iff rest]

end

namespace Condition

theorem allAtoms_append (left right : List Condition) :
    allAtoms (left ++ right) = allAtoms left ++ allAtoms right := by
  induction left with
  | nil => rfl
  | cons member rest ih => rw [List.cons_append, allAtoms, allAtoms, ih, List.append_assoc]

/-- However a condition is put into another one, the atoms of both stay in order. -/
theorem atoms_push (condition : Condition) (connective : Connective) (other : Condition) :
    (condition.push connective other).atoms = condition.atoms ++ other.atoms := by
  obtain ⟨nothing, same⟩ | ⟨-, ⟨nothing, same⟩ | ⟨-, ⟨members, rfl, same⟩ | same⟩⟩ :=
    push_cases condition connective other
  · rw [same, other.atoms_eq_nil_iff.2 nothing, List.append_nil]
  · rw [same, condition.atoms_eq_nil_iff.2 nothing, List.nil_append]
  · simp [same, atoms, allAtoms, allAtoms_append]
  · simp [same, atoms, allAtoms]

theorem atoms_accumulated (given : List (Connective × Condition)) :
    (accumulated given).atoms = given.flatMap fun pair => pair.2.atoms := by
  induction given using List.reverseRecOn with
  | nil => rfl
  | append_singleton given last ih =>
      rw [accumulated_append, atoms_push, ih, List.flatMap_append]
      simp

end Condition

/-! ## Texts of atoms -/

/-- Texts that stand in a text one after the other, with anything around them. -/
inductive Strung : List String → String → Prop where
  | none (text : String) : Strung [] text
  | next (gap text : String) {rest : List String} {tail : String} (later : Strung rest tail) :
      Strung (text :: rest) (gap ++ text ++ tail)

namespace Strung

variable {texts others : List String} {text other : String}

theorem behind (strung : Strung texts text) (before : String) : Strung texts (before ++ text) := by
  cases strung with
  | none => exact .none _
  | next gap first later =>
      have grown := next (before ++ gap) first later
      simpa only [String.append_assoc] using grown

theorem append (strung : Strung texts text) (further : Strung others other) :
    Strung (texts ++ others) (text ++ other) := by
  induction strung with
  | none text => exact further.behind text
  | next gap first later ih =>
      have grown := next gap first ih
      rw [List.cons_append]
      simpa only [String.append_assoc] using grown

theorem before (strung : Strung texts text) (after : String) : Strung texts (text ++ after) := by
  simpa using strung.append (.none after)

theorem single (text : String) : Strung [text] text := by
  simpa using next "" text (.none "")

end Strung

/-- A condition and the text it renders to, which is not empty. -/
def Condition.Renders (dialect : Dialect) (condition : Condition) (text : String) : Prop :=
  condition.render dialect = .ok text ∧ text ≠ ""

section Texts

variable {dialect : Dialect}

theorem joinMembers_strung {connective : Connective} {texts pieces : List String}
    (strung : Strung pieces (connective.sql.intercalate texts)) :
    Strung pieces (joinMembers connective texts) := by
  match texts with
  | [] => simpa [joinMembers] using strung
  | [single] => simpa [joinMembers] using strung
  | first :: second :: rest =>
      rw [joinMembers.eq_3 connective _ (by simp) (by simp)]
      exact (strung.behind "(").before ")"

mutual

/-- The texts of all atoms stand in the text of a condition, in their order. -/
theorem Condition.strung_render {text : String} : (condition : Condition) →
    condition.render dialect = .ok text →
      ∃ texts, List.Forall₂ (Renders dialect) condition.atoms texts ∧ Strung texts text
  | .raw sql, rendered => by
      by_cases blank : Text.isAllBlank sql = true
      · refine ⟨[], ?_, .none text⟩
        simp [Condition.atoms, blank]
      · refine ⟨[text], ?_, .single text⟩
        have filled : text ≠ "" := by
          rw [Ne, Condition.render_eq_empty _ rendered]
          exact blank
        have atom : (Condition.raw sql).atoms = [.raw sql] := by simp [Condition.atoms, blank]
        rw [atom]
        exact .cons ⟨rendered, filled⟩ .nil
  | .leaf column operator operand, rendered => by
      have filled : text ≠ "" := by
        rw [Ne, Condition.render_eq_empty _ rendered]
        simp [Condition.isEmpty]
      exact ⟨[text], .cons ⟨rendered, filled⟩ .nil, .single text⟩
  | .group connective members, rendered => by
      simp only [Condition.render, bind_eq_ok, Except.ok.injEq] at rendered
      obtain ⟨texts, each, rfl⟩ := rendered
      obtain ⟨pieces, renders, strung⟩ := Condition.strung_renderAll connective members each
      exact ⟨pieces, renders, joinMembers_strung strung⟩

theorem Condition.strung_renderAll {texts : List String} (connective : Connective) :
    (members : List Condition) → Condition.renderAll dialect members = .ok texts →
      ∃ pieces, List.Forall₂ (Renders dialect) (Condition.allAtoms members) pieces ∧
        Strung pieces (connective.sql.intercalate (texts.filter (· ≠ "")))
  | [], rendered => by
      simp only [Condition.renderAll, Except.ok.injEq] at rendered
      exact ⟨[], .nil, .none _⟩
  | member :: rest, rendered => by
      simp only [Condition.renderAll, bind_eq_ok, Except.ok.injEq] at rendered
      obtain ⟨text, written, others, remaining, rfl⟩ := rendered
      obtain ⟨here, renders, first⟩ := Condition.strung_render member written
      obtain ⟨later, renders', strung⟩ := Condition.strung_renderAll connective rest remaining
      refine ⟨here ++ later, List.rel_append renders renders', ?_⟩
      by_cases nothing : text = ""
      · have strung' := first.append strung
        rw [nothing, String.empty_append] at strung'
        rwa [nothing, List.filter_cons_of_neg (by simp)]
      · rw [List.filter_cons_of_pos (by simpa using nothing)]
        cases kept : others.filter (· ≠ "") with
        | nil =>
            rw [kept] at strung
            simpa using first.append strung
        | cons second remaining =>
            rw [String.intercalate_cons_cons, String.append_assoc, ← kept]
            exact first.append (strung.behind connective.sql)

end

mutual

theorem Condition.render_of_isEmpty : (condition : Condition) → condition.isEmpty = true →
    condition.render dialect = .ok ""
  | .raw sql, empty => by
      rw [Condition.isEmpty, ← trim_eq_empty] at empty
      rw [Condition.render, empty]
  | .group connective members, empty => by
      rw [Condition.isEmpty] at empty
      obtain ⟨texts, rendered, blank⟩ := Condition.renderAll_of_allEmpty members empty
      have nothing : texts.filter (· ≠ "") = [] := by simpa using blank
      refine bind_eq_ok.2 ⟨texts, rendered, ?_⟩
      rw [nothing, joinMembers]
  | .leaf column operator operand, empty => by simp [Condition.isEmpty] at empty

theorem Condition.renderAll_of_allEmpty : (members : List Condition) →
    Condition.allEmpty members = true →
      ∃ texts, Condition.renderAll dialect members = .ok texts ∧ ∀ text ∈ texts, text = ""
  | [], _ => ⟨[], by rw [Condition.renderAll], by simp⟩
  | member :: rest, empty => by
      rw [Condition.allEmpty, Bool.and_eq_true] at empty
      obtain ⟨texts, rendered, blank⟩ := Condition.renderAll_of_allEmpty rest empty.2
      refine ⟨"" :: texts, ?_, by simpa using blank⟩
      exact bind_eq_ok.2 ⟨"", Condition.render_of_isEmpty member empty.1,
        bind_eq_ok.2 ⟨texts, rendered, rfl⟩⟩

end

/-- A condition is empty exactly if it renders to nothing. -/
theorem Condition.isEmpty_iff_render (condition : Condition) :
    condition.isEmpty = true ↔ condition.render dialect = .ok "" := by
  constructor
  · exact Condition.render_of_isEmpty condition
  · intro rendered
    exact (Condition.render_eq_empty condition rendered).1 rfl

end Texts

namespace Delete

/-! ## Calls -/

/-- A call that builds a deletion. -/
inductive Call where
  | table (name : String) (label? : Option String)
  | truncates (wanted : Bool)
  | join (kind : JoinKind) (table : String) (condition : Condition)
  | filter (connective : Connective) (condition : Condition)
  | order (lists : List String)
  | limit (count : Nat)
  | bind (name : String) (value : Scalar)

namespace Call

/-- The deletion after a call, unless the call is refused. -/
def perform : Call → Delete → Except StatementError Delete
  | .table name label?, delete => delete.addTable name label?
  | .truncates wanted, delete => .ok (delete.setTruncates wanted)
  | .join kind name condition, delete => delete.addJoin kind name condition
  | .filter connective added, delete => .ok (delete.addFilter connective added)
  | .order lists, delete => delete.setOrderBy lists
  | .limit count, delete => delete.setLimit count
  | .bind name value, delete => delete.bind name value

@[simp] def isTable : Call → Bool
  | .table _ _ => true
  | _ => false

@[simp] def isJoin : Call → Bool
  | .join _ _ _ => true
  | _ => false

/-- What a call says about emptying whole tables. -/
@[simp] def truncates? : Call → Option Bool
  | .truncates wanted => some wanted
  | _ => none

/-- The condition that a call gives, with the connective before it. -/
@[simp] def filter? : Call → Option (Connective × Condition)
  | .filter connective condition => some (connective, condition)
  | _ => none

/-- The ordering lists that a call gives. -/
@[simp] def order? : Call → Option (List String)
  | .order lists => some lists
  | _ => none

/-- The limit that a call gives. -/
@[simp] def limit? : Call → Option Nat
  | .limit count => some count
  | _ => none

end Call

/-- The deletion after calls in order, if none of them is refused. -/
def perform : List Call → Delete → Except StatementError Delete
  | [], delete => .ok delete
  | call :: calls, delete => do perform calls (← call.perform delete)

/-- The conditions that calls give, in order. -/
def filters (calls : List Call) : List (Connective × Condition) :=
  calls.filterMap Call.filter?

/-- The last of what calls give of a kind. -/
def latest? {α : Type} (kind : Call → Option α) (calls : List Call) : Option α :=
  (calls.filterMap kind).getLast?

theorem filterMap_append_single {α : Type} (kind : Call → Option α) (calls : List Call)
    (call : Call) :
    (calls ++ [call]).filterMap kind = calls.filterMap kind ++ (kind call).toList := by
  cases given : kind call <;> simp [given]

@[simp] theorem filters_append (calls : List Call) (call : Call) :
    filters (calls ++ [call]) = filters calls ++ call.filter?.toList :=
  filterMap_append_single Call.filter? calls call

@[simp] theorem latest?_append {α : Type} (kind : Call → Option α) (calls : List Call)
    (call : Call) : latest? kind (calls ++ [call]) = (kind call).or (latest? kind calls) := by
  rw [latest?, filterMap_append_single]
  cases given : kind call <;> simp [latest?]

/-- A deletion has what calls gave: the tables, joins and conditions of all of them, and the last
of everything else. -/
structure Follows (dialect : Dialect) (calls : List Call) (delete : Delete) : Prop where
  dialect : delete.dialect = dialect
  tables : delete.tables.length = calls.countP Call.isTable
  truncates : delete.truncates = (latest? Call.truncates? calls).getD false
  joins : delete.joins.length = calls.countP Call.isJoin
  filter : delete.filter = Condition.accumulated (filters calls)
  orderBy : delete.orderBy = splitTerms ((latest? Call.order? calls).getD [])
  limit : delete.limit? = (latest? Call.limit? calls).filter (· ≠ 0)

theorem follows_empty (dialect : Dialect) : Follows dialect [] (empty dialect) :=
  ⟨rfl, rfl, rfl, rfl, rfl, rfl, rfl⟩

section Runs

variable {dialect : Dialect} {before : List Call} {delete after : Delete}

/-- A call adds its part, or puts it in the place of the last one. -/
theorem Follows.call {call : Call} (follows : Follows dialect before delete)
    (accepted : call.perform delete = .ok after) : Follows dialect (before ++ [call]) after := by
  obtain ⟨same, tables, truncates, joins, filter, orderBy, limit⟩ := follows
  cases call with
  | table name label? =>
      obtain ⟨identifier, -, changed⟩ := bind_eq_ok.1 accepted
      obtain rfl := Except.ok.inj changed
      constructor <;> simp [*]
  | truncates wanted =>
      obtain rfl := Except.ok.inj accepted
      constructor <;> simp [setTruncates, *]
  | join kind name condition =>
      obtain ⟨_, -, accepted⟩ := bind_eq_ok.1 accepted
      obtain ⟨join, -, changed⟩ := bind_eq_ok.1 accepted
      obtain rfl := Except.ok.inj changed
      constructor <;> simp [*]
  | filter connective condition =>
      obtain rfl := Except.ok.inj accepted
      constructor <;> simp [addFilter, *]
  | order lists =>
      obtain ⟨_, -, changed⟩ := bind_eq_ok.1 accepted
      obtain rfl := Except.ok.inj changed
      constructor <;> simp [*]
  | limit count =>
      obtain ⟨_, -, changed⟩ := bind_eq_ok.1 accepted
      obtain rfl := Except.ok.inj changed
      constructor <;> simp [Option.filter, *]
  | bind name value =>
      obtain ⟨binds, -, changed⟩ := bind_eq_ok.1 accepted
      obtain rfl := Except.ok.inj changed
      constructor <;> simp [*]

theorem Follows.calls {calls : List Call} (follows : Follows dialect before delete)
    (accepted : perform calls delete = .ok after) : Follows dialect (before ++ calls) after := by
  induction calls generalizing before delete with
  | nil =>
      obtain rfl := Except.ok.inj accepted
      simpa using follows
  | cons call calls ih =>
      obtain ⟨next, called, rested⟩ := bind_eq_ok.1 accepted
      have later := ih (follows.call called) rested
      rwa [List.append_assoc, List.singleton_append] at later

theorem follows_of_perform {calls : List Call}
    (accepted : perform calls (empty dialect) = .ok delete) : Follows dialect calls delete :=
  (follows_empty dialect).calls accepted

end Runs

/-! ## Emptied tables -/

/-- Calls ask for tables to be emptied and nothing in the dialect or in the calls is against it. -/
structure Empties (dialect : Dialect) (calls : List Call) : Prop where
  asked : latest? Call.truncates? calls = some true
  possible : dialect.hasTruncate = true
  together : calls.countP Call.isTable = 1 ∨ dialect.truncatesMany = true
  unfiltered : ∀ filter ∈ filters calls, filter.2.render dialect = .ok ""
  unjoined : ∀ call ∈ calls, call.isJoin = false
  unordered : ∀ lists, latest? Call.order? calls = some lists → Termless lists
  unlimited : ∀ count, latest? Call.limit? calls = some count → count = 0

theorem Follows.isTruncation_iff {dialect : Dialect} {calls : List Call} {delete : Delete}
    (follows : Follows dialect calls delete) (some : delete.tables ≠ []) :
    delete.isTruncation = true ↔ Empties dialect calls := by
  obtain ⟨same, tables, truncates, joins, filter, orderBy, limit⟩ := follows
  have filters_iff : delete.filter.isEmpty = true ↔
      ∀ filter ∈ filters calls, filter.2.render dialect = .ok "" := by
    rw [filter, Condition.isEmpty_accumulated_iff]
    exact forall₂_congr fun given _ => given.2.isEmpty_iff_render
  have joins_iff : delete.joins = [] ↔ ∀ call ∈ calls, call.isJoin = false := by
    rw [← List.length_eq_zero_iff, joins, List.countP_eq_zero]
    simp
  have order_iff : delete.orderBy = [] ↔
      ∀ lists, latest? Call.order? calls = Option.some lists → Termless lists := by
    rw [orderBy, splitTerms_eq_nil_iff]
    cases latest? Call.order? calls <;> simp [Termless]
  have limit_iff : delete.limit? = none ↔
      ∀ count, latest? Call.limit? calls = Option.some count → count = 0 := by
    rw [limit]
    cases latest? Call.limit? calls <;> simp [Option.filter]
  have asked_iff : delete.truncates = true ↔ latest? Call.truncates? calls = Option.some true := by
    rw [truncates]
    cases latest? Call.truncates? calls <;> simp
  have tables_iff : delete.tables.length ≤ 1 ↔ calls.countP Call.isTable = 1 := by
    have present := List.length_pos_iff.2 some
    omega
  simp only [isTruncation, isUnscoped, Bool.and_eq_true, Bool.or_eq_true, List.isEmpty_iff,
    Option.isNone_iff_eq_none, decide_eq_true_eq, filters_iff, joins_iff, order_iff, limit_iff,
    asked_iff, tables_iff, same]
  constructor
  · rintro ⟨⟨⟨asked, ⟨⟨unfiltered, unordered⟩, unjoined⟩, unlimited⟩, possible⟩, together⟩
    exact ⟨asked, possible, together, unfiltered, unjoined, unordered, unlimited⟩
  · rintro ⟨asked, possible, together, unfiltered, unjoined, unordered, unlimited⟩
    exact ⟨⟨⟨asked, ⟨⟨unfiltered, unordered⟩, unjoined⟩, unlimited⟩, possible⟩, together⟩

/-- A rendered deletion: the tables are emptied, or it is cut around its condition. -/
theorem render_eq_ok {delete : Delete} {sql : String} (rendered : delete.render = .ok sql) :
    (delete.isTruncation = true ∧ sql = delete.truncationText) ∨
      delete.isTruncation = false ∧ ∃ joins filter order,
        Join.renderAll delete.dialect delete.joins = .ok joins ∧
        delete.filter.render delete.dialect = .ok filter ∧
        termClause delete.dialect "ORDER BY" delete.orderBy = .ok order ∧
        sql = delete.opening ++ joins ++ clause "WHERE" filter ++ order ++
          limitClause delete.limit? := by
  unfold render at rendered
  split at rendered
  · simp at rendered
  · obtain ⟨_, -, rendered⟩ := bind_eq_ok.1 rendered
    split at rendered
    · next emptied => exact .inl ⟨emptied, (Except.ok.inj rendered).symm⟩
    · next kept =>
      simp only [bind_eq_ok, Except.ok.injEq] at rendered
      obtain ⟨joins, joined, filter, filtered, order, ordered, rfl⟩ := rendered
      exact .inr ⟨by simpa using kept, joins, filter, order, joined, filtered, ordered, rfl⟩

/-- What is rendered of a deletion. -/
theorem render_cases {delete : Delete} {sql : String} (rendered : delete.render = .ok sql) :
    delete.tables ≠ [] ∧
      ((delete.isTruncation = true ∧ ∃ rest, sql = "TRUNCATE " ++ rest) ∨
        (delete.isTruncation = false ∧ ∃ before text after,
          delete.filter.render delete.dialect = .ok text ∧
            sql = "DELETE " ++ before ++ clause "WHERE" text ++ after)) := by
  have present : delete.tables ≠ [] := by
    rintro none
    simp [render, none] at rendered
  refine ⟨present, ?_⟩
  obtain ⟨emptied, rfl⟩ | ⟨kept, joins, text, order, -, filtered, -, rfl⟩ := render_eq_ok rendered
  · refine .inl ⟨emptied, ?_⟩
    unfold truncationText
    cases delete.dialect with
    | mysql => exact ⟨_, rfl⟩
    | postgres => exact ⟨_, String.append_assoc⟩
    | sqlite => exact ⟨_, rfl⟩
  · obtain ⟨rest, opened⟩ : ∃ rest, delete.opening = "DELETE " ++ rest := by
      unfold opening
      split
      · exact ⟨"FROM " ++ commaList (delete.tables.map (Identifier.render delete.dialect)), rfl⟩
      · exact ⟨_, by rw [String.append_assoc, String.append_assoc]⟩
    refine .inr ⟨kept, rest ++ joins, text, order ++ limitClause delete.limit?, filtered, ?_⟩
    simp only [opened, String.append_assoc]

/-- Accepted calls empty the tables exactly if they ask for that, the dialect can do it for their
tables and none of them keeps a row from being deleted. Otherwise rows are deleted, and the text
of every comparison that was given stands in the condition on them. -/
theorem scope_of_perform {dialect : Dialect} {calls : List Call} {delete : Delete} {sql : String}
    (accepted : perform calls (empty dialect) = .ok delete) (rendered : delete.render = .ok sql) :
    ((∃ rest, sql = "TRUNCATE " ++ rest) ↔ Empties dialect calls) ∧
      (¬Empties dialect calls → ∃ rest, sql = "DELETE " ++ rest) ∧
      ((∃ filter ∈ filters calls, filter.2.render dialect ≠ .ok "") →
        ∃ before text after, sql = before ++ " WHERE " ++ text ++ after ∧
          (Condition.accumulated (filters calls)).Renders dialect text ∧
          ∃ texts, List.Forall₂ (Condition.Renders dialect)
            ((filters calls).flatMap fun filter => filter.2.atoms) texts ∧ Strung texts text) := by
  have follows := follows_of_perform accepted
  obtain ⟨present, ⟨emptied, rest, rfl⟩ | ⟨kept, before, text, after, filtered, rfl⟩⟩ :=
    render_cases rendered
  · have empties : Empties dialect calls := (follows.isTruncation_iff present).1 emptied
    refine ⟨⟨fun _ => empties, fun _ => ⟨rest, rfl⟩⟩, fun other => absurd empties other, ?_⟩
    rintro ⟨filter, member, filled⟩
    exact absurd (empties.unfiltered filter member) filled
  · have kept' : ¬Empties dialect calls := by
      rw [← follows.isTruncation_iff present, kept]
      simp
    rw [follows.dialect, follows.filter] at filtered
    have opened : "DELETE " ++ before ++ clause "WHERE" text ++ after =
        "DELETE " ++ (before ++ clause "WHERE" text ++ after) := by
      simp only [String.append_assoc]
    refine ⟨⟨?_, fun empties => absurd empties kept'⟩, fun _ => ⟨_, opened⟩, ?_⟩
    · rintro ⟨rest, same⟩
      have letters := congrArg String.toList (opened.symm.trans same)
      simp at letters
    · rintro ⟨filter, member, filled⟩
      have some : text ≠ "" := by
        rw [Ne, Condition.render_eq_empty _ filtered, Condition.isEmpty_accumulated_iff]
        intro none
        exact filled ((Condition.isEmpty_iff_render _).1 (none filter member))
      obtain ⟨texts, renders, strung⟩ := Condition.strung_render _ filtered
      rw [Condition.atoms_accumulated] at renders
      refine ⟨"DELETE " ++ before, text, after, ?_, ⟨filtered, some⟩, texts, renders, strung⟩
      rw [clause, if_neg some]
      simp only [String.append_assoc]
      rfl

/-- Calls that empty a table although some of them have conditions, terms and limits, none of which
is one in the end; with another condition they delete rows. -/
theorem scope_of_perform_mysql :
    let blank : List Call :=
      [.truncates false, .table "t" none, .filter .and (.raw " "), .order ["id"], .limit 5,
        .filter .or (.group .and [.raw "", .group .or []]), .order [" ,"], .limit 0,
        .truncates true]
    let filtered : List Call :=
      blank ++ [.filter .or (.group .or [.raw " x > 1 ", .raw "\t"]),
        .filter .or (.eq "y" (.param "n"))]
    Empties .mysql blank ∧ ¬Empties .mysql filtered ∧
      (∃ delete, perform filtered (empty .mysql) = .ok delete ∧
        delete.render = .ok "DELETE FROM \x60t\x60 WHERE (x > 1 OR \x60y\x60 = :n)") ∧
      ∃ text texts, Strung texts text ∧
        List.Forall₂ (Condition.Renders .mysql)
          [.raw " x > 1 ", .leaf "y" .eq (.value (.param "n"))] texts := by
  intro blank filtered
  have emptied : (perform blank (empty .mysql) >>= render) = .ok "TRUNCATE \x60t\x60" := by
    decide +kernel
  have deleted : (perform filtered (empty .mysql) >>= render) =
      .ok "DELETE FROM \x60t\x60 WHERE (x > 1 OR \x60y\x60 = :n)" := by
    decide +kernel
  obtain ⟨delete, accepted, rendered⟩ := bind_eq_ok.1 emptied
  obtain ⟨delete', accepted', rendered'⟩ := bind_eq_ok.1 deleted
  have empties : Empties .mysql blank :=
    (scope_of_perform accepted rendered).1.1 ⟨"\x60t\x60", rfl⟩
  obtain ⟨-, -, kept⟩ := scope_of_perform accepted' rendered'
  have given : filters filtered = filters blank ++
      [(.or, .group .or [.raw " x > 1 ", .raw "\t"]), (.or, .eq "y" (.param "n"))] := rfl
  have filled : ∃ filter ∈ filters filtered, filter.2.render .mysql ≠ .ok "" :=
    ⟨(.or, .eq "y" (.param "n")), by simp [given], by decide +kernel⟩
  have other : ¬Empties .mysql filtered := by
    rintro all
    obtain ⟨filter, member, some⟩ := filled
    exact some (all.unfiltered filter member)
  obtain ⟨-, text, -, -, -, texts, renders, strung⟩ := kept filled
  exact ⟨empties, other, ⟨delete', accepted', rendered'⟩, text, texts, strung, renders⟩

end Delete

end SqlClient
