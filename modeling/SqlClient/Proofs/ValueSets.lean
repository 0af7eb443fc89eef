import Mathlib.Data.List.Forall2
import Mathlib.Data.List.Nodup
import Mathlib.Data.List.Perm.Subperm
import SqlClient.Statement.Insert
import SqlClient.Steps

/-!
# Value sets of an insertion

A column list given after value sets brings their rows into its order, and a value set given after
a column list is brought into the order of the list. Whatever the order of the calls, each row pairs
with the columns to the entries of its value set.
-/

namespace SqlClient

/-! ## Lookups -/

section Lookups

variable {β : Type} {entries : List (String × β)}

/-- Where no key occurs twice, the entries are what is found. -/
theorem lookup_eq_some_iff_mem (distinct : (entries.map Prod.fst).Nodup) {key : String}
    {value : β} : entries.lookup key = some value ↔ (key, value) ∈ entries := by
  induction entries with
  | nil => simp
  | cons entry rest ih =>
      obtain ⟨head, held⟩ := entry
      rw [List.map_cons, List.nodup_cons] at distinct
      by_cases same : key = head
      · subst same
        have absent : (key, value) ∉ rest := fun member =>
          distinct.1 (List.mem_map.2 ⟨(key, value), member, rfl⟩)
        simp [absent, eq_comm]
      · have passed : (key == head) = false := by simpa using same
        simp [List.lookup_cons, passed, same, ih distinct.2]

/-- The order of entries does not matter where no key occurs twice. -/
theorem lookup_eq_of_perm {other : List (String × β)} (perm : entries.Perm other)
    (distinct : (entries.map Prod.fst).Nodup) (key : String) :
    entries.lookup key = other.lookup key := by
  have distinct' : (other.map Prod.fst).Nodup := (perm.map Prod.fst).nodup distinct
  apply Option.ext
  intro value
  rw [lookup_eq_some_iff_mem distinct, lookup_eq_some_iff_mem distinct', perm.mem_iff]

theorem mem_of_lookup {key : String} {value : β} (found : entries.lookup key = some value) :
    (key, value) ∈ entries := by
  obtain ⟨before, after, rfl, -⟩ := List.lookup_eq_some_iff.1 found
  simp

theorem exists_lookup_of_mem {key : String} (member : key ∈ entries.map Prod.fst) :
    ∃ value, entries.lookup key = some value := by
  cases found : entries.lookup key with
  | some value => exact ⟨value, rfl⟩
  | none =>
      obtain ⟨entry, held, rfl⟩ := List.mem_map.1 member
      simpa using List.lookup_eq_none_iff.1 found entry held

/-- As many distinct keys as there are entries, all of them found, are the keys of all entries. -/
theorem zip_perm_of_lookups {order : List String} {values : List β} (distinct : order.Nodup)
    (enough : entries.length = order.length)
    (found : List.Forall₂ (fun key value => entries.lookup key = some value) order values) :
    (order.zip values).Perm entries := by
  have keys : (order.zip values).map Prod.fst = order :=
    List.map_fst_zip (Nat.le_of_eq found.length_eq)
  have distinct' : (order.zip values).Nodup := List.Nodup.of_map Prod.fst (by rwa [keys])
  have inside : order.zip values ⊆ entries := by
    rintro ⟨key, value⟩ member
    exact mem_of_lookup (List.forall₂_zip found member)
  refine (distinct'.subperm inside).perm_of_length_le (Nat.le_of_eq ?_)
  rw [List.length_zip, ← found.length_eq, Nat.min_self, enough]

end Lookups

/-- A computation on all items comes to the list of what it comes to on each. -/
theorem forall₂_of_mapM_some {α β : Type} {step : α → Option β} {items : List α} {values : List β}
    (done : items.mapM step = some values) :
    List.Forall₂ (fun item value => step item = some value) items values := by
  induction items generalizing values with
  | nil =>
      obtain rfl : values = [] := by simpa [eq_comm] using done
      exact .nil
  | cons item rest ih =>
      simp only [List.mapM_cons, Option.bind_eq_bind, Option.bind_eq_some_iff] at done
      obtain ⟨value, here, others, later, same⟩ := done
      obtain rfl : value :: others = values := by simpa using same
      exact .cons here (ih later)

namespace Insert

/-! ## Calls -/

/-- A call that builds an insertion. -/
inductive Call where
  | table (name : String) (replaces : Bool)
  | columns (names : List String)
  | values (set : List (String × Expr))
  | updates (pairs : List (String × Expr))
  | ignores (ignored : Bool)
  | conflict (target : ConflictTarget)
  | returning (lists : List String)
  | bind (name : String) (value : Scalar)

/-- The insertion after a call, unless the call is refused. -/
def Call.perform : Call → Insert → Except StatementError Insert
  | .table name replaces, insert => insert.setTable name replaces
  | .columns names, insert => insert.setColumns names
  | .values set, insert => insert.addValues set
  | .updates pairs, insert => .ok (insert.setUpdates pairs)
  | .ignores ignored, insert => .ok (insert.setIgnores ignored)
  | .conflict target, insert => .ok (insert.setTarget target)
  | .returning lists, insert => insert.setReturning lists
  | .bind name value, insert => insert.bind name value

/-- The insertion after calls in order, if none of them is refused. -/
def perform : List Call → Insert → Except StatementError Insert
  | [], insert => .ok insert
  | call :: calls, insert => do perform calls (← call.perform insert)

/-- The value set that a call adds. -/
def Call.valueSet? : Call → Option (List (String × Expr))
  | .values set => some set
  | _ => none

/-- The value sets that calls add, in order. -/
def valueSets (calls : List Call) : List (List (String × Expr)) :=
  calls.filterMap Call.valueSet?

/-! ## Rows -/

/-- A row holds a value set: it has a value for each column, and its values are paired with the
columns as the set pairs them. -/
structure Holds (columns : List String) (row : List Expr) (set : List (String × Expr)) : Prop where
  length : row.length = columns.length
  perm : (columns.zip row).Perm set

section Rows

variable {columns order : List String} {row : List Expr} {set : List (String × Expr)}

theorem Holds.keys (holds : Holds columns row set) : (columns.zip row).map Prod.fst = columns :=
  List.map_fst_zip (Nat.le_of_eq holds.length.symm)

/-- A row pairs the columns with values as a map does that is its value set. -/
theorem Holds.lookup_eq (holds : Holds columns row set) (distinct : columns.Nodup) (name : String) :
    (columns.zip row).lookup name = set.lookup name :=
  lookup_eq_of_perm holds.perm (by rwa [holds.keys]) name

/-- The first value set gives the columns. -/
theorem holds_first (set : List (String × Expr)) :
    Holds (set.map Prod.fst) (set.map Prod.snd) set := by
  refine ⟨by simp, ?_⟩
  rw [List.zip_map']
  simp

/-- Values found under all columns, as many as the set has, are a row that holds the set. -/
theorem holds_of_lookups (distinct : columns.Nodup) (enough : set.length = columns.length)
    (found : (columns.mapM fun column => set.lookup column) = some row) :
    Holds columns row set := by
  have lookups := forall₂_of_mapM_some found
  exact ⟨lookups.length_eq.symm, zip_perm_of_lookups distinct enough lookups⟩

/-- Every column of an order that the row has is found in it. -/
theorem forall₂_align (full : row.length = columns.length)
    (known : ∀ name ∈ order, name ∈ columns) :
    List.Forall₂ (fun name value => (columns.zip row).lookup name = some value) order
      (align columns row order) := by
  induction order with
  | nil => exact .nil
  | cons name order ih =>
      have member : name ∈ (columns.zip row).map Prod.fst := by
        rw [List.map_fst_zip (Nat.le_of_eq full.symm)]
        exact known name List.mem_cons_self
      obtain ⟨value, found⟩ := exists_lookup_of_mem member
      have later := ih fun other held => known other (List.mem_cons_of_mem name held)
      simp only [align, List.filterMap_cons, found]
      exact .cons found later

/-- A row brought into another order of its columns holds the same value set. -/
theorem Holds.align (holds : Holds columns row set) (distinct : order.Nodup)
    (same : order.length = columns.length) (known : ∀ name ∈ order, name ∈ columns) :
    Holds order (align columns row order) set := by
  have lookups := forall₂_align holds.length known
  refine ⟨lookups.length_eq.symm, ?_⟩
  have enough : (columns.zip row).length = order.length := by
    rw [List.length_zip, holds.length, Nat.min_self, same]
  exact (zip_perm_of_lookups distinct enough lookups).trans holds.perm

end Rows

/-- Where no text occurs twice, none is found to. -/
theorem nodup_of_firstRepeated? {seen texts : List String}
    (fresh : firstRepeated? seen texts = none) (distinct : seen.Nodup) :
    (seen ++ texts).Nodup := by
  induction texts generalizing seen with
  | nil => simpa using distinct
  | cons text rest ih =>
      simp only [firstRepeated?] at fresh
      split at fresh
      · simp at fresh
      · next absent =>
        have grown : (seen ++ [text]).Nodup := by
          rw [List.nodup_append]
          refine ⟨distinct, List.nodup_singleton text, ?_⟩
          intro held member other single
          obtain rfl : other = text := by simpa using single
          rintro rfl
          exact absent (by simpa using member)
        simpa using ih fresh grown

/-! ## Runs -/

/-- The columns are distinct, and the rows hold value sets with entries. -/
structure Keeps (insert : Insert) (sets : List (List (String × Expr))) : Prop where
  distinct : insert.columns.Nodup
  rows : List.Forall₂ (Holds insert.columns) insert.rows sets
  filled : ∀ set ∈ sets, set ≠ []

theorem keeps_empty (dialect : Dialect) : Keeps (empty dialect) [] :=
  ⟨List.nodup_nil, .nil, by simp⟩

section Runs

variable {insert after : Insert} {sets : List (List (String × Expr))}

/-- What neither changes the columns nor the rows keeps the value sets. -/
theorem Keeps.congr (keeps : Keeps insert sets) (columns : after.columns = insert.columns)
    (rows : after.rows = insert.rows) : Keeps after sets :=
  ⟨columns ▸ keeps.distinct, columns ▸ rows ▸ keeps.rows, keeps.filled⟩

/-- Without columns there are no rows. -/
theorem Keeps.rows_eq_nil (keeps : Keeps insert sets) (bare : insert.columns = []) :
    insert.rows = [] ∧ sets = [] := by
  obtain ⟨-, rows, filled⟩ := keeps
  rw [bare] at rows
  generalize insert.rows = stored at rows
  cases rows with
  | nil => exact ⟨rfl, rfl⟩
  | cons holds _ =>
      have none := holds.perm
      rw [List.zip_nil_left] at none
      exact absurd none.nil_eq.symm (filled _ List.mem_cons_self)

/-- A column list brings the rows there are into its order. -/
theorem Keeps.setColumns {names : List String} (keeps : Keeps insert sets)
    (accepted : insert.setColumns names = .ok after) : Keeps after sets := by
  unfold Insert.setColumns at accepted
  dsimp only at accepted
  split at accepted
  · simp at accepted
  · next fresh =>
    have distinct : (names.map Text.trim).Nodup := nodup_of_firstRepeated? fresh List.nodup_nil
    split at accepted
    · next none =>
      obtain rfl := Except.ok.inj accepted
      obtain rfl : sets = [] := by simpa [List.isEmpty_iff.1 none] using keeps.rows
      exact ⟨distinct, by simp [List.isEmpty_iff.1 none], by simp⟩
    · split at accepted
      · next given =>
        obtain ⟨same, known⟩ := given
        obtain rfl := Except.ok.inj accepted
        refine ⟨distinct, ?_, keeps.filled⟩
        rw [List.forall₂_map_left_iff]
        refine keeps.rows.imp fun row set holds => holds.align distinct same ?_
        intro name member
        simpa using List.all_eq_true.1 known name member
      · simp at accepted

/-- A value set is added as a row in the order of the columns. -/
theorem Keeps.addValues {set : List (String × Expr)} (keeps : Keeps insert sets)
    (accepted : insert.addValues set = .ok after) : Keeps after (sets ++ [set]) := by
  unfold Insert.addValues at accepted
  split at accepted
  · simp at accepted
  · next given =>
    have filled : ∀ other ∈ sets ++ [set], other ≠ [] := by
      intro other member
      rcases List.mem_append.1 member with earlier | last
      · exact keeps.filled other earlier
      · obtain rfl : other = set := by simpa using last
        simpa using given
    split at accepted
    · next bare =>
      obtain ⟨stored, rfl⟩ := keeps.rows_eq_nil (List.isEmpty_iff.1 bare)
      split at accepted
      · simp at accepted
      · next fresh =>
        obtain rfl := Except.ok.inj accepted
        have distinct : (set.map Prod.fst).Nodup := nodup_of_firstRepeated? fresh List.nodup_nil
        refine ⟨distinct, ?_, filled⟩
        rw [stored]
        exact .cons (holds_first set) .nil
    · split at accepted
      · simp at accepted
      · next enough =>
        split at accepted
        · next values found =>
          obtain rfl := Except.ok.inj accepted
          have holds : Holds insert.columns values set :=
            holds_of_lookups keeps.distinct (by simpa using enough) found
          exact ⟨keeps.distinct, List.rel_append keeps.rows (.cons holds .nil), filled⟩
        · simp at accepted

/-- A call that gives neither columns nor values leaves both alone. -/
theorem Call.columns_rows_eq {call : Call} (accepted : call.perform insert = .ok after)
    (noColumns : ∀ names, call ≠ .columns names) (noValues : ∀ set, call ≠ .values set) :
    after.columns = insert.columns ∧ after.rows = insert.rows := by
  cases call with
  | columns names => exact absurd rfl (noColumns names)
  | values set => exact absurd rfl (noValues set)
  | table name replaces =>
      obtain ⟨identifier, -, same⟩ := bind_eq_ok.1 accepted
      obtain rfl := Except.ok.inj same
      exact ⟨rfl, rfl⟩
  | bind name value =>
      obtain ⟨binds, -, same⟩ := bind_eq_ok.1 accepted
      obtain rfl := Except.ok.inj same
      exact ⟨rfl, rfl⟩
  | returning lists =>
      simp only [Call.perform, setReturning] at accepted
      split at accepted
      · obtain rfl := Except.ok.inj accepted
        exact ⟨rfl, rfl⟩
      · simp at accepted
  | updates pairs =>
      obtain rfl := Except.ok.inj accepted
      exact ⟨rfl, rfl⟩
  | ignores ignored =>
      obtain rfl := Except.ok.inj accepted
      exact ⟨rfl, rfl⟩
  | conflict target =>
      obtain rfl := Except.ok.inj accepted
      exact ⟨rfl, rfl⟩

/-- A call keeps the value sets and adds its own. -/
theorem Keeps.call {call : Call} (keeps : Keeps insert sets)
    (accepted : call.perform insert = .ok after) :
    Keeps after (sets ++ call.valueSet?.toList) := by
  by_cases adds : ∃ set, call = .values set
  · obtain ⟨set, rfl⟩ := adds
    exact keeps.addValues accepted
  · have none : call.valueSet? = none := by
      cases call <;> first | rfl | exact absurd ⟨_, rfl⟩ adds
    rw [none, Option.toList_none, List.append_nil]
    by_cases orders : ∃ names, call = .columns names
    · obtain ⟨names, rfl⟩ := orders
      exact keeps.setColumns accepted
    · obtain ⟨columns, rows⟩ := Call.columns_rows_eq accepted (not_exists.1 orders)
        (not_exists.1 adds)
      exact keeps.congr columns rows

theorem Keeps.calls {calls : List Call} (keeps : Keeps insert sets)
    (accepted : perform calls insert = .ok after) : Keeps after (sets ++ valueSets calls) := by
  induction calls generalizing insert sets with
  | nil =>
      obtain rfl := Except.ok.inj accepted
      simpa [valueSets] using keeps
  | cons call calls ih =>
      obtain ⟨next, called, rested⟩ := bind_eq_ok.1 accepted
      have later := ih (keeps.call called) rested
      rw [List.append_assoc] at later
      cases adds : call.valueSet? <;> simpa [valueSets, adds] using later

end Runs

/-! ## Text -/

theorem length_protectAll {dialect : Dialect} {columns names : List String}
    (written : protectAll dialect columns = .ok names) : names.length = columns.length := by
  unfold protectAll at written
  induction columns generalizing names with
  | nil =>
      obtain rfl := Except.ok.inj written
      rfl
  | cons column columns ih =>
      simp only [List.mapM_cons, bind_eq_ok] at written
      obtain ⟨name, -, others, later, same⟩ := written
      obtain rfl := Except.ok.inj same
      simp [ih later]

/-- An insertion has a text where each of its parts has one. -/
theorem render_eq_ok_iff {insert : Insert} {sql : String} :
    insert.render = .ok sql ↔ ∃ table columns names conflict returned,
      insert.table? = some table ∧ insert.effectiveColumns = .ok columns ∧
      protectAll insert.dialect columns = .ok names ∧
      insert.conflictText columns = .ok conflict ∧
      protectAll insert.dialect insert.returning = .ok returned ∧
      sql = insert.opening ++ " " ++ table.render insert.dialect ++ " " ++ tuple names ++
        " VALUES " ++ insert.valuesText columns ++ conflict ++
        clause "RETURNING" (commaList returned) := by
  unfold render
  cases named : insert.table? with
  | none => simp
  | some table => simp [bind_eq_ok, eq_comm (b := sql)]

/-- The text of an insertion with rows: the columns in one tuple, and then one tuple a row. -/
theorem render_of_rows {insert : Insert} {sql : String} (present : insert.rows ≠ [])
    (rendered : insert.render = .ok sql) :
    ∃ table names rest, insert.table? = some table ∧
      protectAll insert.dialect insert.columns = .ok names ∧
      sql = insert.opening ++ " " ++ table.render insert.dialect ++ " " ++ tuple names ++
        " VALUES " ++
          commaList (insert.rows.map fun row => tuple (row.map (Expr.render insert.dialect))) ++
        rest := by
  obtain ⟨table, columns, names, conflict, returned, named, effective, written, -, -, rfl⟩ :=
    render_eq_ok_iff.1 rendered
  obtain rfl : insert.columns = columns := by simpa [effectiveColumns, present] using effective
  refine ⟨table, names, conflict ++ clause "RETURNING" (commaList returned), named, written, ?_⟩
  simp [valuesText, present, String.append_assoc]

/-- Texts write a value set under the texts of columns: in some order of its entries, the names of
the entries give the one and their values the other. -/
structure Writes (dialect : Dialect) (names : List String) (set : List (String × Expr))
    (texts : List String) : Prop where
  length : texts.length = names.length
  entries : ∃ entries : List (String × Expr), entries.Perm set ∧
    protectAll dialect (entries.map Prod.fst) = .ok names ∧
    texts = entries.map fun entry => entry.2.render dialect

theorem Holds.writes {dialect : Dialect} {columns names : List String} {row : List Expr}
    {set : List (String × Expr)} (holds : Holds columns row set)
    (written : protectAll dialect columns = .ok names) :
    Writes dialect names set (row.map (Expr.render dialect)) := by
  have values : (columns.zip row).map Prod.snd = row :=
    List.map_snd_zip (Nat.le_of_eq holds.length)
  refine ⟨?_, columns.zip row, holds.perm, ?_, ?_⟩
  · rw [List.length_map, holds.length, length_protectAll written]
  · rw [holds.keys, written]
  · change _ = (columns.zip row).map (Expr.render dialect ∘ Prod.snd)
    rw [← List.map_map, values]

/-- However calls with columns and calls with values follow one another, the rows hold the value
sets in order: the columns are distinct, a row has a value for each of them, and as a map from
columns to values it is the set as it was given. The text of the insertion has a tuple for each
set, under the columns of its values. -/
theorem rows_of_perform {dialect : Dialect} {calls : List Call} {insert : Insert}
    (accepted : perform calls (empty dialect) = .ok insert) :
    insert.columns.Nodup ∧
      List.Forall₂ (fun row set => Holds insert.columns row set ∧
        ∀ name, (insert.columns.zip row).lookup name = set.lookup name)
        insert.rows (valueSets calls) ∧
      ∀ sql, insert.rows ≠ [] → insert.render = .ok sql →
        ∃ table names tuples rest, insert.table? = some table ∧
          names.length = insert.columns.length ∧
          sql = insert.opening ++ " " ++ table.render insert.dialect ++ " " ++ tuple names ++
            " VALUES " ++ commaList (tuples.map tuple) ++ rest ∧
          List.Forall₂ (Writes insert.dialect names) (valueSets calls) tuples := by
  have keeps : Keeps insert (valueSets calls) := (keeps_empty dialect).calls accepted
  refine ⟨keeps.distinct, ?_, ?_⟩
  · exact keeps.rows.imp fun row set holds => ⟨holds, holds.lookup_eq keeps.distinct⟩
  · intro sql present rendered
    obtain ⟨table, names, rest, named, written, rfl⟩ := render_of_rows present rendered
    refine ⟨table, names, insert.rows.map fun row => row.map (Expr.render insert.dialect), rest,
      named, length_protectAll written, ?_, ?_⟩
    · rw [List.map_map]
      rfl
    · rw [List.forall₂_map_right_iff]
      exact (keeps.rows.imp fun row set holds => holds.writes written).flip

/-- Value sets in two orders, the last of them behind a column list. -/
theorem rows_of_perform_reordered :
    let first : List (String × Expr) := [("id", .scalar (.int 1)), ("name", .scalar (.text "a"))]
    let second : List (String × Expr) := [("name", .scalar (.text "b")), ("id", .param "n")]
    let third : List (String × Expr) := [("id", .scalar .null), ("name", .scalar (.text "c"))]
    let calls : List Call :=
      [.table "t" false, .values first, .values second, .columns [" name", "id"], .values third]
    ∃ insert, perform calls (empty .postgres) = .ok insert ∧
      insert.render =
        .ok "INSERT INTO \"t\" (\"name\", \"id\") VALUES ('a', 1), ('b', :n), ('c', NULL)" ∧
      insert.columns.Nodup ∧
      List.Forall₂ (fun row set => Holds insert.columns row set ∧
        ∀ name, (insert.columns.zip row).lookup name = set.lookup name)
        insert.rows [first, second, third] := by
  intro first second third calls
  have done : (perform calls (empty .postgres) >>= render) =
      .ok "INSERT INTO \"t\" (\"name\", \"id\") VALUES ('a', 1), ('b', :n), ('c', NULL)" := by
    decide +kernel
  obtain ⟨insert, accepted, rendered⟩ := bind_eq_ok.1 done
  obtain ⟨distinct, rows, -⟩ := rows_of_perform accepted
  exact ⟨insert, accepted, rendered, distinct, rows⟩

end Insert

end SqlClient
