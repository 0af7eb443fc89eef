import SqlClient.Row

/-!
# Access by name

The values of a row are found by the name of a column, or they are collected in a dictionary. Both
take the last column of a name, but only the dictionary looks for it among the columns that have a
value. So a name that stands again behind the last value has an entry and is not found; all other
names have an entry just if they are found, with the same value.
-/

namespace SqlClient

namespace Dictionary

variable {α : Type}

/-- Under a key stands what was set last. -/
theorem find?_foldl_insert (pairs : List (String × α)) (entries : Dictionary α) (wanted : String) :
    find? (pairs.foldl (fun entries pair => entries.insert pair.1 pair.2) entries) wanted =
      (pairs.reverse.lookup wanted).or (entries.find? wanted) := by
  induction pairs generalizing entries with
  | nil => rfl
  | cons pair pairs induction =>
      obtain ⟨key, value⟩ := pair
      have single : (entries.insert key value).find? wanted =
          (List.lookup wanted [(key, value)]).or (entries.find? wanted) := by
        rw [find?_insert]
        by_cases same : key = wanted
        · simp [same]
        · have passed : (wanted == key) = false := by simpa using Ne.symm same
          simp [List.lookup_cons, same, passed]
      rw [List.foldl_cons, induction, single, List.reverse_cons, List.lookup_append,
        Option.or_assoc]

theorem find?_ofPairs (pairs : List (String × α)) (wanted : String) :
    (ofPairs pairs).find? wanted = pairs.reverse.lookup wanted := by
  rw [ofPairs, find?_foldl_insert]
  simp [find?]

end Dictionary

namespace Row

variable {name : String} {columns : List String} {values : List Scalar}

theorem lastPosition?_eq_none_iff : lastPosition? name columns = none ↔ name ∉ columns := by
  induction columns with
  | nil => simp [lastPosition?]
  | cons column columns induction =>
      rw [lastPosition?, List.mem_cons, not_or, ← induction]
      cases lastPosition? name columns with
      | none => simp [eq_comm]
      | some position => simp

/-- The names that are paired with a value are those of the first columns, one for each value. -/
theorem mem_take_iff : name ∈ columns.take values.length ↔
    ∃ value, (name, value) ∈ columns.zip values := by
  induction columns generalizing values with
  | nil => simp
  | cons column columns induction =>
      cases values with
      | nil => simp
      | cons value values =>
          simp only [List.length_cons, List.take_succ_cons, List.mem_cons, induction,
            List.zip_cons_cons, Prod.mk.injEq, exists_or]
          simp

theorem mem_of_lastPosition? {position : Nat} (found : lastPosition? name columns = some position) :
    name ∈ columns := by
  by_cases member : name ∈ columns
  · exact member
  · simp [lastPosition?_eq_none_iff.2 member] at found

theorem lookup_eq_none_iff :
    (columns.zip values).reverse.lookup name = none ↔ name ∉ columns.take values.length := by
  rw [List.lookup_eq_none_iff, mem_take_iff, not_exists]
  constructor
  · intro apart value member
    simpa using apart (name, value) (List.mem_reverse.2 member)
  · rintro absent ⟨other, value⟩ member
    rw [bne_iff_ne]
    rintro rfl
    exact absent value (List.mem_reverse.1 member)

/-- A name is found unless it stands behind the last value, with the value that is paired with it
last. -/
theorem find?_eq (columns : List String) (values : List Scalar) (name : String) :
    find? ⟨columns, values⟩ name =
      if name ∈ columns.drop values.length then none
      else (columns.zip values).reverse.lookup name := by
  induction columns generalizing values with
  | nil => simp [find?, lastPosition?]
  | cons column columns induction =>
      cases values with
      | nil => simp [find?, get?]
      | cons value values =>
          have later := induction values
          rw [find?] at later ⊢
          rw [List.length_cons, List.drop_succ_cons, List.zip_cons_cons, List.reverse_cons,
            List.lookup_append, lastPosition?]
          cases found : lastPosition? name columns with
          | some position =>
              rw [found, Option.bind_some] at later
              change get? ⟨columns, values⟩ position = _
              rw [later]
              by_cases behind : name ∈ columns.drop values.length
              · rw [if_pos behind, if_pos behind]
              · -- the name has a value further on, which hides the one of this column
                have member := mem_of_lastPosition? found
                rw [← List.take_append_drop values.length columns, List.mem_append] at member
                have paired : (columns.zip values).reverse.lookup name ≠ none := fun none =>
                  lookup_eq_none_iff.1 none (member.resolve_right behind)
                obtain ⟨last, paired⟩ := Option.ne_none_iff_exists'.1 paired
                rw [if_neg behind, if_neg behind, paired, Option.some_or]
          | none =>
              have absent := lastPosition?_eq_none_iff.1 found
              have unpaired : (columns.zip values).reverse.lookup name = none :=
                lookup_eq_none_iff.2 fun member => absent (List.mem_of_mem_take member)
              rw [if_neg fun member => absent (List.mem_of_mem_drop member), unpaired,
                Option.none_or]
              by_cases same : column = name
              · simp [same, get?]
              · have passed : (name == column) = false := by simpa using Ne.symm same
                simp [List.lookup_cons, same, passed]

/-- A name of a column with a value that stands again behind the last value. -/
def Outlasts (row : Row) (name : String) : Prop :=
  name ∈ row.columns.take row.values.length ∧ name ∈ row.columns.drop row.values.length

instance (row : Row) (name : String) : Decidable (row.Outlasts name) :=
  inferInstanceAs (Decidable (_ ∧ _))

theorem find?_toDictionary_eq (row : Row) (name : String) :
    row.toDictionary.find? name = (row.columns.zip row.values).reverse.lookup name :=
  Dictionary.find?_ofPairs _ name

/-- The value that is found under the name of a column is the one that its entry in the dictionary
has, and there is none where there is no entry, just if the name does not stand again behind the
last value. There it has an entry and is not found. No name does so in a row with a value for each
column, and none in a row without a repeated name. -/
theorem find?_eq_find?_toDictionary_iff (row : Row) :
    (∀ name, row.find? name = row.toDictionary.find? name ↔ ¬row.Outlasts name) ∧
      (∀ name, row.Outlasts name → row.find? name = none ∧
        ∃ value, row.toDictionary.find? name = some value) ∧
      (row.columns.length ≤ row.values.length ∨ row.columns.Nodup →
        ∀ name, row.find? name = row.toDictionary.find? name) := by
  have found : ∀ name, row.find? name =
      if name ∈ row.columns.drop row.values.length then none
      else row.toDictionary.find? name := by
    intro name
    rw [find?_toDictionary_eq]
    exact find?_eq row.columns row.values name
  have entry : ∀ name, row.toDictionary.find? name = none ↔
      name ∉ row.columns.take row.values.length := by
    intro name
    rw [find?_toDictionary_eq]
    exact lookup_eq_none_iff
  have hidden : ∀ name, row.Outlasts name → row.find? name = none ∧
      ∃ value, row.toDictionary.find? name = some value := by
    rintro name ⟨valued, behind⟩
    refine ⟨by rw [found, if_pos behind], Option.ne_none_iff_exists'.1 fun none => ?_⟩
    exact (entry name).1 none valued
  have agrees : ∀ name, row.find? name = row.toDictionary.find? name ↔ ¬row.Outlasts name := by
    intro name
    constructor
    · intro same outlasts
      obtain ⟨none, value, present⟩ := hidden name outlasts
      rw [none, present] at same
      cases same
    · intro within
      rw [found]
      split
      · next behind => exact ((entry name).2 fun valued => within ⟨valued, behind⟩).symm
      · rfl
  refine ⟨agrees, hidden, ?_⟩
  rintro (enough | distinct) name
  · refine (agrees name).2 fun outlasts => ?_
    rw [Outlasts, List.drop_eq_nil_of_le enough] at outlasts
    exact List.not_mem_nil outlasts.2
  · refine (agrees name).2 fun outlasts => ?_
    rw [← List.take_append_drop row.values.length row.columns, List.nodup_append] at distinct
    exact distinct.2.2 name outlasts.1 name outlasts.2 rfl

/-- A repeated name in a row that lacks a value, and in a row that has one too many. -/
theorem find?_eq_find?_toDictionary_repeated :
    let short : Row := ⟨["id", "name", "id"], [.int 1, .text "a"]⟩
    let long : Row := ⟨["id", "id"], [.int 1, .int 2, .int 3]⟩
    short.Outlasts "id" ∧ ¬short.Outlasts "name" ∧ long.columns.length ≤ long.values.length ∧
      (short.find? "id" = none ∧ ∃ value, short.toDictionary.find? "id" = some value) ∧
      short.find? "name" = short.toDictionary.find? "name" ∧
      long.find? "id" = long.toDictionary.find? "id" ∧ long.find? "id" = some (.int 2) := by
  intro short long
  have outlasts : short.Outlasts "id" := by decide
  have within : ¬short.Outlasts "name" := by decide
  have enough : long.columns.length ≤ long.values.length := by decide
  obtain ⟨agrees, hidden, -⟩ := find?_eq_find?_toDictionary_iff short
  obtain ⟨-, -, always⟩ := find?_eq_find?_toDictionary_iff long
  exact ⟨outlasts, within, enough, hidden "id" outlasts, (agrees "name").2 within,
    always (.inl enough) "id", by decide⟩

/-- Of two columns of one name only the first has a value: the name is not found, and it has an
entry in the dictionary. -/
theorem repeated_name_hides_value :
    let row : Row := ⟨["a", "a"], [.int 1]⟩
    row.find? "a" = none ∧ row.toDictionary.find? "a" = some (.int 1) := by
  decide

end Row

end SqlClient
