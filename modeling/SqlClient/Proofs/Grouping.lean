import Mathlib.Data.List.Forall2
import Mathlib.Data.String.Basic
import SqlClient.Cursor.Fetch
import SqlClient.Proofs.Attempt
import SqlClient.Script

/-!
# Grouped rows

Rows that are grouped under the values of some columns make a tree with a level for each of them.
Setting the leaf of one path keeps the tree even and leaves every other path alone, so that in the
end each path holds the last row that has it.
-/

namespace SqlClient

namespace Dictionary

variable {α : Type} {entries : Dictionary α} {key : String} {value : α}

/-- The keys increase, and so no key has two entries. -/
def Ascending (entries : Dictionary α) : Prop :=
  entries.Pairwise fun left right => left.1 < right.1

theorem insert_ne_nil (entries : Dictionary α) (key : String) (value : α) :
    entries.insert key value ≠ [] := by
  fun_cases insert entries key value <;> simp

theorem mem_of_mem_insert {entry : String × α} (member : entry ∈ entries.insert key value) :
    entry = (key, value) ∨ entry ∈ entries := by
  induction entries with
  | nil => exact .inl (by simpa [insert] using member)
  | cons head rest ih =>
      rw [insert] at member
      split at member
      · rw [List.mem_cons] at member
        exact member.imp_right (List.mem_cons_of_mem head)
      · split at member
        · rw [List.mem_cons] at member
          rcases member with rfl | later
          · exact .inr List.mem_cons_self
          · exact (ih later).imp_right (List.mem_cons_of_mem head)
        · exact List.mem_cons.1 member

theorem Ascending.insert (ascending : entries.Ascending) (key : String) (value : α) :
    (entries.insert key value).Ascending := by
  induction entries with
  | nil => simp [Dictionary.insert, Ascending]
  | cons head rest ih =>
      obtain ⟨above, later⟩ := List.pairwise_cons.1 ascending
      rw [Dictionary.insert]
      split
      · next same =>
        refine List.pairwise_cons.2 ⟨?_, later⟩
        rw [← same]
        exact above
      · next other =>
        split
        · next below =>
          refine List.pairwise_cons.2 ⟨fun entry member => ?_, ih later⟩
          rcases mem_of_mem_insert member with rfl | old
          · exact below
          · exact above entry old
        · next notBelow =>
          have first : key < head.1 := lt_of_le_of_ne (not_lt.1 notBelow) (Ne.symm other)
          refine List.pairwise_cons.2 ⟨fun entry member => ?_, ascending⟩
          rcases List.mem_cons.1 member with rfl | old
          · exact first
          · exact first.trans (above entry old)

theorem mem_of_find? (found : entries.find? key = some value) : (key, value) ∈ entries := by
  induction entries with
  | nil => cases found
  | cons head rest ih =>
      rw [find?] at found
      split at found
      · next same =>
        cases found
        rw [← same]
        exact List.mem_cons_self
      · exact List.mem_cons_of_mem head (ih found)

end Dictionary

namespace Grouped

/-! ## Paths through a tree -/

/-- The leaf at the end of a path of keys. -/
def leafAt? : List String → Grouped → Option Grouped
  | [], .nested _ => none
  | [], leaf => some leaf
  | key :: path, .nested entries => (Dictionary.find? entries key).bind (leafAt? path)
  | _ :: _, _ => none

/-- A tree with all leaves at one depth. Its keys are in order, and none of its levels is empty. -/
def Uniform : Nat → Grouped → Prop
  | 0, .nested _ => False
  | 0, _ => True
  | depth + 1, .nested entries =>
      entries ≠ [] ∧ Dictionary.Ascending entries ∧ ∀ entry ∈ entries, Uniform depth entry.2
  | _ + 1, _ => False

variable {leaf : Grouped} {depth : Nat} {entries : Dictionary Grouped} {path : List String}

theorem leafAt?_nil (isLeaf : leaf.Uniform 0) : leafAt? [] leaf = some leaf := by
  cases leaf with
  | nested entries => exact isLeaf.elim
  | row row => rfl
  | value value => rfl

/-- Leaves are found only on paths as long as the tree is deep. -/
theorem leafAt?_of_length_ne {grouped : Grouped} (uniform : grouped.Uniform depth)
    (other : path.length ≠ depth) : leafAt? path grouped = none := by
  induction path generalizing grouped depth with
  | nil =>
      obtain ⟨depth, rfl⟩ := Nat.exists_eq_succ_of_ne_zero (Ne.symm other)
      cases grouped with
      | nested entries => rfl
      | row row => exact uniform.elim
      | value value => exact uniform.elim
  | cons key path ih =>
      cases grouped with
      | row row => rfl
      | value value => rfl
      | nested entries =>
          cases depth with
          | zero => exact uniform.elim
          | succ depth =>
              rw [leafAt?, Option.bind_eq_none_iff]
              intro inner found
              exact ih (uniform.2.2 _ (Dictionary.mem_of_find? found))
                fun same => other (congrArg (· + 1) same)

/-- Entries to which a leaf of some depth can be added. -/
def Extensible (depth : Nat) (entries : Dictionary Grouped) : Prop :=
  entries = [] ∨ (nested entries).Uniform depth

theorem Extensible.insert {key : String} {value : Grouped}
    (extensible : Extensible (depth + 1) entries) (uniform : value.Uniform depth) :
    (nested (entries.insert key value)).Uniform (depth + 1) := by
  have even : Dictionary.Ascending entries ∧ ∀ entry ∈ entries, Uniform depth entry.2 := by
    rcases extensible with rfl | uniform
    · exact ⟨List.Pairwise.nil, by simp⟩
    · exact uniform.2
  refine ⟨Dictionary.insert_ne_nil entries key value, even.1.insert key value, ?_⟩
  intro entry member
  rcases Dictionary.mem_of_mem_insert member with rfl | old
  · exact uniform
  · exact even.2 entry old

theorem Extensible.entriesAt (extensible : Extensible (depth + 1) entries) (key : String) :
    Extensible depth (entriesAt entries key) := by
  unfold Grouped.entriesAt
  split
  · next inner found =>
    rcases extensible with rfl | uniform
    · cases found
    · exact .inr (uniform.2.2 _ (Dictionary.mem_of_find? found))
  · exact .inl rfl

/-- Setting a leaf keeps the tree even. -/
theorem uniform_insertPath (isLeaf : leaf.Uniform 0) (given : path ≠ [])
    (extensible : Extensible path.length entries) :
    (nested (insertPath leaf path entries)).Uniform path.length := by
  fun_induction insertPath leaf path entries with
  | case1 => exact absurd rfl given
  | case2 key entries => exact extensible.insert isLeaf
  | case3 key next path entries ih =>
      exact extensible.insert (ih (List.cons_ne_nil next path) (extensible.entriesAt key))

/-- What is found behind a key is found among the entries under it. -/
theorem leafAt?_entriesAt (entries : Dictionary Grouped) (key next : String)
    (path : List String) : leafAt? (next :: path) (nested (entriesAt entries key)) =
      leafAt? (key :: next :: path) (nested entries) := by
  rw [leafAt?, leafAt?, entriesAt]
  rcases Dictionary.find? entries key with _ | (_ | _ | inner) <;> rfl

theorem leafAt?_insertPath_of_length {wanted : List String} (isLeaf : leaf.Uniform 0)
    (given : path ≠ []) (same : wanted.length = path.length) :
    leafAt? wanted (nested (insertPath leaf path entries)) =
      if path = wanted then some leaf else leafAt? wanted (nested entries) := by
  fun_induction insertPath leaf path entries generalizing wanted with
  | case1 => exact absurd rfl given
  | case2 key entries =>
      obtain ⟨other, rfl⟩ := List.length_eq_one_iff.1 same
      by_cases found : key = other
      · simp [leafAt?, Dictionary.find?_insert, found, leafAt?_nil isLeaf]
      · simp [leafAt?, Dictionary.find?_insert, found]
  | case3 key next path entries ih =>
      match wanted with
      | [] => cases same
      | [_] => cases same
      | other :: after :: rest =>
          by_cases found : key = other
          · subst found
            rw [leafAt?, Dictionary.find?_insert, if_pos rfl, Option.bind_some,
              ih (List.cons_ne_nil next path) (Nat.succ.inj same), leafAt?_entriesAt]
            simp
          · rw [leafAt?, Dictionary.find?_insert, if_neg found, leafAt?]
            simp [found]

/-- Setting a leaf changes what is found at its path and nothing else. In a tree that is not even,
the leaf of a shorter path could be replaced by a level. -/
theorem leafAt?_insertPath (isLeaf : leaf.Uniform 0) (given : path ≠ [])
    (extensible : Extensible path.length entries) (wanted : List String) :
    leafAt? wanted (nested (insertPath leaf path entries)) =
      if path = wanted then some leaf else leafAt? wanted (nested entries) := by
  by_cases same : wanted.length = path.length
  · exact leafAt?_insertPath_of_length isLeaf given same
  · have apart : path ≠ wanted := fun eq => same (congrArg List.length eq.symm)
    have before : leafAt? wanted (nested entries) = none := by
      rcases extensible with rfl | uniform
      · cases wanted <;> rfl
      · exact leafAt?_of_length_ne uniform same
    rw [if_neg apart, before]
    exact leafAt?_of_length_ne (uniform_insertPath isLeaf given extensible) same

/-- The tree of places of which the first is set last. -/
def ofPlaces (places : List (List String × Grouped)) : Dictionary Grouped :=
  places.foldr (fun place entries => insertPath place.2 place.1 entries) []

end Grouped

namespace Grouping

variable {grouping : Grouping} {row : Row} {rows : List Row}

/-! ## What rows are asked for -/

/-- The key under which a value of a column stands. -/
def keyOf (grouping : Grouping) (column : String) (value : Scalar) : String :=
  if grouping.labelled then column ++ "_" ++ value.key else value.key

/-- The keys of a row, one for each column. -/
def path? (grouping : Grouping) (row : Row) : Option (List String) :=
  grouping.columns.mapM fun column => (row.find? column).map (grouping.keyOf column)

/-- What stays of a row: the whole of it or one value. -/
def leaf? (grouping : Grouping) (row : Row) : Option Grouped :=
  match grouping.valueColumn? with
  | some column => (row.find? column).map .value
  | none => some (.row row)

/-- The columns that the rows must have. -/
def named (grouping : Grouping) : List String :=
  grouping.columns ++ grouping.valueColumn?.toList

def Covers (grouping : Grouping) (row : Row) : Prop :=
  ∀ column ∈ grouping.named, row.find? column ≠ none

instance (grouping : Grouping) (row : Row) : Decidable (grouping.Covers row) :=
  inferInstanceAs (Decidable (∀ column ∈ grouping.named, row.find? column ≠ none))

/-- Entries are empty without rows and otherwise make an even tree with a level for each column. A
path leads to a leaf if a row has it, and the leaf is what stays of the last such row. -/
structure Holds (grouping : Grouping) (rows : List Row) (entries : Dictionary Grouped) : Prop where
  empty : rows = [] → entries = []
  uniform : rows ≠ [] → (Grouped.nested entries).Uniform grouping.columns.length
  reached_iff : ∀ path, ((Grouped.nested entries).leafAt? path).isSome ↔
    ∃ row ∈ rows, grouping.path? row = some path
  leafAt?_eq : ∀ path, (Grouped.nested entries).leafAt? path =
    (rows.reverse.find? fun row => grouping.path? row = some path).bind grouping.leaf?

/-! ## Places of rows -/

/-- A row with its path and what stays of it. -/
structure Placed (grouping : Grouping) (row : Row) (place : List String × Grouped) : Prop where
  path_eq : grouping.path? row = some place.1
  leaf_eq : grouping.leaf? row = some place.2
  length_eq : place.1.length = grouping.columns.length
  isLeaf : place.2.Uniform 0

theorem Placed.path_ne {place : List String × Grouped} (placed : grouping.Placed row place)
    (given : grouping.columns ≠ []) : place.1 ≠ [] := by
  rw [← List.length_pos_iff, placed.length_eq]
  exact List.length_pos_iff.2 given

theorem pick_name (column : String) : (ColumnRef.name column).pick row =
    match row.find? column with
    | some value => .ok value
    | none => .error (.unknownColumn column) :=
  rfl

theorem key_of_some {column : String} {value : Scalar} (found : row.find? column = some value) :
    grouping.key row column = .ok (grouping.keyOf column value) := by
  rw [key, pick_name, found]
  rfl

theorem key_of_none {column : String} (lacking : row.find? column = none) :
    grouping.key row column = .error (.unknownColumn column) := by
  rw [key, pick_name, lacking]
  rfl

theorem mapM_key {columns : List String} (found : ∀ column ∈ columns, row.find? column ≠ none) :
    ∃ path, columns.mapM (grouping.key row) = .ok path ∧ path.length = columns.length ∧
      columns.mapM (fun column => (row.find? column).map (grouping.keyOf column)) = some path := by
  induction columns with
  | nil => exact ⟨[], rfl, rfl, rfl⟩
  | cons column columns ih =>
      rw [List.forall_mem_cons] at found
      obtain ⟨value, here⟩ := Option.ne_none_iff_exists'.1 found.1
      obtain ⟨path, keys, length, later⟩ := ih found.2
      refine ⟨grouping.keyOf column value :: path, ?_, congrArg (· + 1) length, ?_⟩
      · rw [List.mapM_cons, key_of_some here, keys]
        rfl
      · rw [List.mapM_cons, here, later]
        rfl

theorem mapM_key_of_none {columns : List String}
    (lacking : ∃ column ∈ columns, row.find? column = none) :
    ∃ column ∈ columns, row.find? column = none ∧
      columns.mapM (grouping.key row) = .error (.unknownColumn column) := by
  induction columns with
  | nil => simp at lacking
  | cons column columns ih =>
      cases here : row.find? column with
      | none =>
          refine ⟨column, List.mem_cons_self, here, ?_⟩
          rw [List.mapM_cons, key_of_none here]
          rfl
      | some value =>
          obtain ⟨other, member, absent, failed⟩ := ih (by simpa [here] using lacking)
          refine ⟨other, List.mem_cons_of_mem column member, absent, ?_⟩
          rw [List.mapM_cons, key_of_some here, failed]
          rfl

theorem place_of_covers (covers : grouping.Covers row) :
    ∃ place, grouping.place row = .ok place ∧ grouping.Placed row place := by
  obtain ⟨columns, value⟩ := List.forall_mem_append.1 covers
  obtain ⟨path, keys, length, path_eq⟩ := mapM_key columns
  have kept : ∃ leaf, grouping.leaf row = .ok leaf ∧ grouping.leaf? row = some leaf ∧
      leaf.Uniform 0 := by
    unfold leaf leaf?
    cases asked : grouping.valueColumn? with
    | none => exact ⟨.row row, rfl, rfl, trivial⟩
    | some column =>
        obtain ⟨found, here⟩ := Option.ne_none_iff_exists'.1 (value column (by simp [asked]))
        refine ⟨.value found, ?_, by simp [here], trivial⟩
        simp only [pick_name, here]
        rfl
  obtain ⟨leaf, made, leaf_eq, isLeaf⟩ := kept
  refine ⟨(path, leaf), ?_, path_eq, leaf_eq, length, isLeaf⟩
  rw [place, keys, made]
  rfl

theorem exists_places (covered : ∀ row ∈ rows, grouping.Covers row) :
    ∃ places, List.Forall₂ (fun row place => grouping.place row = .ok place) rows places ∧
      List.Forall₂ grouping.Placed rows places := by
  induction rows with
  | nil => exact ⟨[], .nil, .nil⟩
  | cons row rows ih =>
      rw [List.forall_mem_cons] at covered
      obtain ⟨place, made, here⟩ := place_of_covers covered.1
      obtain ⟨places, later, placed⟩ := ih covered.2
      exact ⟨place :: places, .cons made later, .cons here placed⟩

/-- A row that lacks a column is refused with one that it lacks. -/
theorem place_of_not_covers (lacking : ¬ grouping.Covers row) :
    ∃ column ∈ grouping.named, row.find? column = none ∧
      grouping.place row = .error (.unknownColumn column) := by
  by_cases found : ∀ column ∈ grouping.columns, row.find? column ≠ none
  · obtain ⟨path, keys, -, -⟩ := mapM_key found
    have absent : ∃ column ∈ grouping.valueColumn?, row.find? column = none := by
      by_contra none
      push Not at none
      exact lacking (List.forall_mem_append.2 ⟨found, by simpa using none⟩)
    obtain ⟨column, asked, here⟩ := absent
    refine ⟨column, by simp [named, Option.mem_def.1 asked], here, ?_⟩
    rw [place, keys, leaf, Option.mem_def.1 asked]
    simp only [pick_name, here]
    rfl
  · push Not at found
    obtain ⟨column, member, here, failed⟩ := mapM_key_of_none found
    refine ⟨column, List.mem_append_left _ member, here, ?_⟩
    rw [place, failed]
    rfl

/-! ## Trees of rows -/

section Trees

variable {places : List (List String × Grouped)}

theorem leaf?_of_placed (placed : List.Forall₂ grouping.Placed rows places) :
    ∀ row ∈ rows, (grouping.leaf? row).isSome := by
  induction placed with
  | nil => simp
  | cons here rest ih => exact List.forall_mem_cons.2 ⟨by simp [here.leaf_eq], ih⟩

variable (given : grouping.columns ≠ [])

include given

theorem uniform_ofPlaces (placed : List.Forall₂ grouping.Placed rows places) :
    rows = [] ∧ Grouped.ofPlaces places = [] ∨
      (Grouped.nested (Grouped.ofPlaces places)).Uniform grouping.columns.length := by
  induction placed with
  | nil => exact .inl ⟨rfl, rfl⟩
  | @cons row place rows places here rest ih =>
      have extensible : Grouped.Extensible grouping.columns.length (Grouped.ofPlaces places) :=
        ih.imp_left And.right
      rw [← here.length_eq] at extensible ⊢
      exact .inr (Grouped.uniform_insertPath here.isLeaf (here.path_ne given) extensible)

theorem leafAt?_ofPlaces (placed : List.Forall₂ grouping.Placed rows places)
    (path : List String) : (Grouped.nested (Grouped.ofPlaces places)).leafAt? path =
      (rows.find? fun row => grouping.path? row = some path).bind grouping.leaf? := by
  induction placed with
  | nil => cases path <;> rfl
  | @cons row place rows places here rest ih =>
      have extensible : Grouped.Extensible place.1.length (Grouped.ofPlaces places) := by
        rw [here.length_eq]
        exact (uniform_ofPlaces given rest).imp_left And.right
      rw [Grouped.ofPlaces, List.foldr_cons, ← Grouped.ofPlaces,
        Grouped.leafAt?_insertPath here.isLeaf (here.path_ne given) extensible, ih,
        List.find?_cons, here.path_eq]
      by_cases same : place.1 = path
      · simp [same, here.leaf_eq]
      · simp [same]

/-- Leaves set in the order of the rows: the last row of a path comes to stand there. -/
theorem holds_ofPlaces (placed : List.Forall₂ grouping.Placed rows places) :
    grouping.Holds rows (Grouped.ofPlaces places.reverse) := by
  -- From the end of the rows, what is set last comes first.
  have newestFirst := List.forall₂_reverse_iff.2 placed
  have leafAt?_eq := leafAt?_ofPlaces given newestFirst
  refine ⟨?_, ?_, ?_, leafAt?_eq⟩
  · rintro rfl
    cases placed
    rfl
  · intro filled
    exact (uniform_ofPlaces given newestFirst).resolve_left
      fun none => filled (List.reverse_eq_nil_iff.1 none.1)
  · intro path
    rw [leafAt?_eq]
    cases found : rows.reverse.find? fun row => grouping.path? row = some path with
    | none =>
        have absent : ∀ row ∈ rows, grouping.path? row ≠ some path := by simpa using found
        simpa using absent
    | some row =>
        have member : row ∈ rows := List.mem_reverse.1 (List.mem_of_find?_eq_some found)
        have here : grouping.path? row = some path := by simpa using List.find?_some found
        exact iff_of_true (leaf?_of_placed placed row member) ⟨row, member, here⟩

end Trees

end Grouping

namespace Cursor

variable {σ : Type} {server : Server σ} {state middle last : Cursor × Session σ}
  {rows : List Row}

/-! ## Rows read one after the other -/

/-- Rows that are read from a position on, and the state behind them. -/
inductive Reads (server : Server σ) :
    Cursor × Session σ → List Row → Cursor × Session σ → Prop
  | done (state : Cursor × Session σ) : Reads server state [] state
  | row {state middle last : Cursor × Session σ} {row : Row} {rows : List Row}
      (found : next server state = (.ok (some row), middle)) (rest : Reads server middle rows last) :
      Reads server state (row :: rows) last

/-- What a step makes of all rows up to the end. -/
theorem Reads.collect_ok {α : Type} {step : Row → Except SessionError α} {values : List α}
    (reads : Reads server state rows middle)
    (each : List.Forall₂ (fun row value => step row = .ok value) rows values)
    (ended : next server middle = (.ok none, last)) :
    collect server step state = (.ok values, last) := by
  induction reads generalizing values with
  | done state =>
      cases each
      rw [collect, ended]
  | row found rest ih =>
      cases each with
      | cons made later =>
          rw [collect, found]
          dsimp only
          rw [made, ih later ended]

/-- One row that the step refuses ends the reading, whatever is behind it. -/
theorem Reads.collect_error {α : Type} {step : Row → Except SessionError α}
    (reads : Reads server state rows middle)
    (refused : ∃ row ∈ rows, ∃ error, step row = .error error) :
    ∃ row ∈ rows, ∃ error after, step row = .error error ∧
      collect server step state = (.error error, after) := by
  induction reads with
  | done state => simp at refused
  | @row state middle last row rows found rest ih =>
      cases here : step row with
      | error error =>
          refine ⟨row, List.mem_cons_self, error, middle, here, ?_⟩
          rw [collect, found]
          dsimp only
          rw [here]
      | ok value =>
          obtain ⟨other, member, error, after, failed, collected⟩ :=
            ih (by simpa [here] using refused)
          refine ⟨other, List.mem_cons_of_mem row member, error, after, failed, ?_⟩
          rw [collect, found]
          dsimp only
          rw [here, collected]

variable {grouping : Grouping}

theorem fetchKeyed_of_ok {places : List (List String × Grouped)} (given : grouping.columns ≠ [])
    (collected : collect server grouping.place state = (.ok places, last)) :
    fetchKeyed server grouping state = (.ok (Grouped.ofPlaces places.reverse), last) := by
  have filled : ¬ grouping.columns.isEmpty = true := by simpa using given
  rw [fetchKeyed, if_neg filled, Grouped.ofPlaces, List.foldr_reverse]
  exact Session.bind_of_ok collected

theorem fetchKeyed_of_error {error : SessionError} (given : grouping.columns ≠ [])
    (failed : collect server grouping.place state = (.error error, last)) :
    fetchKeyed server grouping state = (.error error, last) := by
  have filled : ¬ grouping.columns.isEmpty = true := by simpa using given
  rw [fetchKeyed, if_neg filled]
  exact Session.bind_of_error failed

/-- A row without one of the columns ends a keyed fetch with the column it lacks. -/
theorem Reads.fetch_refused (reads : Reads server state rows middle)
    (given : grouping.columns ≠ []) (lacking : ∃ row ∈ rows, ¬ grouping.Covers row) :
    ∃ row ∈ rows, ∃ column ∈ grouping.named, row.find? column = none ∧
      ∃ after, fetch server (.keyed grouping) state = (.error (.unknownColumn column), after) := by
  obtain ⟨lacks, within, uncovered⟩ := lacking
  obtain ⟨_, -, -, refused⟩ := Grouping.place_of_not_covers uncovered
  obtain ⟨row, member, error, after, failed, collected⟩ :=
    reads.collect_error ⟨lacks, within, _, refused⟩
  -- The reading may end at a row before the one that is known to lack a column.
  by_cases covers : grouping.Covers row
  · obtain ⟨place, placed, -⟩ := Grouping.place_of_covers covers
    rw [placed] at failed
    cases failed
  · obtain ⟨column, named, absent, unknown⟩ := Grouping.place_of_not_covers covers
    obtain rfl := Except.error.inj (unknown.symm.trans failed)
    exact ⟨row, member, column, named, absent, after,
      Session.bind_of_error (fetchKeyed_of_error given collected)⟩

/-- Rows that have all the columns are fetched up to the end and held by the result. -/
theorem Reads.fetch_covered (reads : Reads server state rows middle)
    (ended : next server middle = (.ok none, last)) (given : grouping.columns ≠ [])
    (covered : ∀ row ∈ rows, grouping.Covers row) :
    ∃ entries, fetch server (.keyed grouping) state = (.ok (.keyed entries), last) ∧
      grouping.Holds rows entries := by
  obtain ⟨places, made, placed⟩ := Grouping.exists_places covered
  exact ⟨Grouped.ofPlaces places.reverse,
    Session.bind_of_ok (fetchKeyed_of_ok given (reads.collect_ok made ended)),
    Grouping.holds_ofPlaces given placed⟩

/-- A keyed fetch without columns is refused before anything is read. Otherwise a row that lacks a
column makes it fail, and once the rows are read to their end, it gives the tree that holds them. -/
theorem fetch_keyed (server : Server σ) (grouping : Grouping) (state : Cursor × Session σ) :
    (grouping.columns = [] → fetch server (.keyed grouping) state =
      (.error (.invalidFetch "keyed fetch needs at least one column"), state)) ∧
    (grouping.columns ≠ [] → ∀ rows middle, Reads server state rows middle →
      ((∃ row ∈ rows, ¬ grouping.Covers row) →
        ∃ row ∈ rows, ∃ column ∈ grouping.named, row.find? column = none ∧
          ∃ after, fetch server (.keyed grouping) state =
            (.error (.unknownColumn column), after)) ∧
      ∀ last, next server middle = (.ok none, last) →
        fetchAll server state = (.ok rows, last) ∧
        ((∃ fetched after, fetch server (.keyed grouping) state = (.ok fetched, after)) ↔
          ∀ row ∈ rows, grouping.Covers row) ∧
        ((∀ row ∈ rows, grouping.Covers row) →
          ∃ entries, fetch server (.keyed grouping) state = (.ok (.keyed entries), last) ∧
            grouping.Holds rows entries)) := by
  refine ⟨fun none => ?_, fun given rows middle reads => ⟨reads.fetch_refused given, ?_⟩⟩
  · have refused : fetchKeyed server grouping state =
        (.error (.invalidFetch "keyed fetch needs at least one column"), state) := by
      rw [fetchKeyed, if_pos (List.isEmpty_iff.2 none)]
      rfl
    exact Session.bind_of_error refused
  · intro last ended
    refine ⟨reads.collect_ok (List.forall₂_same.2 fun _ _ => rfl) ended, ?_,
      reads.fetch_covered ended given⟩
    constructor
    · rintro ⟨fetched, after, succeeded⟩
      by_contra uncovered
      push Not at uncovered
      obtain ⟨_, -, _, -, -, _, failed⟩ := reads.fetch_refused given uncovered
      rw [failed] at succeeded
      cases succeeded
    · intro covered
      obtain ⟨entries, fetched, -⟩ := reads.fetch_covered ended given covered
      exact ⟨_, _, fetched⟩

/-- Three rows, two of one path, grouped by two columns and by one that they lack. -/
theorem fetch_keyed_repeated_path :
    let session : Session Script :=
      { settings := { driver := "sqlite" }, dialect := .sqlite, state := {}, connection := 1,
        depth := 0, policy := .disabled, insertId? := none, journal? := none }
    let columns := ["kind", "city", "n"]
    let rows : List Row :=
      [⟨columns, [.text "a", .text "x", .int 1]⟩, ⟨columns, [.text "b", .null, .int 2]⟩,
        ⟨columns, [.text "a", .text "x", .int 3]⟩]
    let state := (ofAnswer (.ofRows columns (rows.map Row.values)) "SELECT * FROM t" .none, session)
    let grouping : Grouping := ⟨["kind", "city"], some "n", true⟩
    ∃ middle last, Reads Script.server state rows middle ∧
      next Script.server middle = (.ok none, last) ∧ (∀ row ∈ rows, grouping.Covers row) ∧
      (∃ entries, fetch Script.server (.keyed grouping) state = (.ok (.keyed entries), last) ∧
        grouping.Holds rows entries ∧
        (Grouped.nested entries).leafAt? ["kind_a", "city_x"] = some (.value (.int 3)) ∧
        (Grouped.nested entries).leafAt? ["kind_a"] = none) ∧
      ∃ after, fetch Script.server (.keyed (.byColumn "lost")) state =
        (.error (.unknownColumn "lost"), after) := by
  intro session columns rows state grouping
  have reads : ∃ middle last, Reads Script.server state rows middle ∧
      next Script.server middle = (.ok none, last) :=
    ⟨_, _, .row rfl (.row rfl (.row rfl (.done _))), rfl⟩
  obtain ⟨middle, last, reads, ended⟩ := reads
  have covered : ∀ row ∈ rows, grouping.Covers row := by decide
  obtain ⟨-, -, holds⟩ := ((fetch_keyed Script.server grouping state).2 (by decide) rows middle
    reads).2 last ended
  obtain ⟨entries, fetched, holds⟩ := holds covered
  refine ⟨middle, last, reads, ended, covered, ⟨entries, fetched, holds, ?_, ?_⟩, ?_⟩
  · rw [holds.leafAt?_eq]
    rfl
  · rw [holds.leafAt?_eq]
    rfl
  · obtain ⟨row, -, column, named, -, refused⟩ :=
      ((fetch_keyed Script.server (.byColumn "lost") state).2 (by decide) rows middle reads).1
        (by decide)
    obtain rfl : column = "lost" := by simpa [Grouping.byColumn, Grouping.named] using named
    exact refused

end Cursor

end SqlClient
