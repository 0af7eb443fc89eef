import Mathlib.Data.List.Induction
import SqlClient.Statement.Delete

/-!
# Accumulation

Conditions that are joined one after the other, by the calls that build a statement or by hand. A
condition goes beside what is there, into it or in its place, and an empty one nowhere. Whatever the
tree looks like in the end, its truth is that of its conditions joined from left to right.
-/

namespace SqlClient

/-! ## Truth -/

namespace Connective

/-- The truth of two conditions joined by a connective. -/
def join : Connective → Bool → Bool → Bool
  | .and => Bool.and
  | .or => Bool.or

/-- The truth of members joined by a connective. -/
def joins : Connective → List Bool → Bool
  | .and, values => values.all id
  | .or, values => values.any id

theorem joins_singleton (connective : Connective) (value : Bool) :
    connective.joins [value] = value := by
  cases connective <;> simp [joins]

theorem joins_append_singleton (connective : Connective) (values : List Bool) (last : Bool) :
    connective.joins (values ++ [last]) = connective.join (connective.joins values) last := by
  cases connective <;> simp [joins, join]

theorem joins_pair (connective : Connective) (left right : Bool) :
    connective.joins [left, right] = connective.join left right := by
  cases connective <;> simp [joins, join]

end Connective

namespace Condition

/-- A truth for every comparison and for every raw text. -/
structure Assignment where
  leaf : String → Operator → Operand → Bool
  raw : String → Bool

mutual

/-- The truth of a condition. A group joins those of its members that are not empty. -/
def truth (given : Assignment) : Condition → Bool
  | .leaf column operator operand => given.leaf column operator operand
  | .group connective members => connective.joins (truths given members)
  | .raw sql => given.raw sql

/-- The truth of each condition that is not empty. -/
def truths (given : Assignment) : List Condition → List Bool
  | [] => []
  | member :: rest =>
      if member.isEmpty then truths given rest else truth given member :: truths given rest

end

/-- The truth of a condition; an empty one has none. -/
def truth? (given : Assignment) (condition : Condition) : Option Bool :=
  if condition.isEmpty then none else some (condition.truth given)

variable {given : Assignment}

theorem truth?_of_empty {condition : Condition} (empty : condition.isEmpty = true) :
    condition.truth? given = none :=
  if_pos empty

theorem truth?_of_filled {condition : Condition} (filled : condition.isEmpty = false) :
    condition.truth? given = some (condition.truth given) :=
  if_neg (by simp [filled])

theorem truths_append (left right : List Condition) :
    truths given (left ++ right) = truths given left ++ truths given right := by
  induction left with
  | nil => rfl
  | cons member rest ih =>
      by_cases empty : member.isEmpty = true <;> simp [truths, empty, ih]

theorem allEmpty_append (left right : List Condition) :
    allEmpty (left ++ right) = (allEmpty left && allEmpty right) := by
  induction left with
  | nil => rfl
  | cons member rest ih => rw [List.cons_append, allEmpty, allEmpty, ih, Bool.and_assoc]

/-! ## One more condition -/

/-- What becomes of a condition that is joined to another one. -/
theorem push_cases (condition : Condition) (connective : Connective) (other : Condition) :
    (other.isEmpty = true ∧ condition.push connective other = condition) ∨
      other.isEmpty = false ∧
        ((condition.isEmpty = true ∧ condition.push connective other = other) ∨
          condition.isEmpty = false ∧
            ((∃ members, condition = .group connective members ∧
                condition.push connective other = .group connective (members ++ [other])) ∨
              condition.push connective other = .group connective [condition, other])) := by
  unfold push
  split
  · next nothing => exact .inl ⟨nothing, rfl⟩
  · next some =>
    refine .inr ⟨by simpa using some, ?_⟩
    split
    · next nothing => exact .inl ⟨nothing, rfl⟩
    · next filled =>
      refine .inr ⟨by simpa using filled, ?_⟩
      split
      · next current members =>
        split
        · next same => exact .inl ⟨members, by rw [same], by rw [same]⟩
        · exact .inr rfl
      · exact .inr rfl

theorem isEmpty_push (condition : Condition) (connective : Connective) (other : Condition) :
    (condition.push connective other).isEmpty = (condition.isEmpty && other.isEmpty) := by
  obtain ⟨nothing, same⟩ | ⟨some, ⟨nothing, same⟩ | ⟨filled, ⟨members, rfl, same⟩ | same⟩⟩ :=
    push_cases condition connective other
  · rw [same, nothing, Bool.and_true]
  · rw [same, nothing, Bool.true_and]
  · rw [same, isEmpty, isEmpty, allEmpty_append, allEmpty, allEmpty, Bool.and_true]
  · rw [same, isEmpty, allEmpty, allEmpty, allEmpty, Bool.and_true]

/-- Joining two conditions joins their truths, where an empty one plays no part. -/
theorem truth?_push (condition : Condition) (connective : Connective) (other : Condition) :
    (condition.push connective other).truth? given =
      Option.merge connective.join (condition.truth? given) (other.truth? given) := by
  have both := isEmpty_push condition connective other
  obtain ⟨nothing, same⟩ | ⟨some, ⟨nothing, same⟩ | ⟨filled, shape⟩⟩ :=
    push_cases condition connective other
  · rw [same, truth?_of_empty nothing, Option.merge_none_right]
  · rw [same, truth?_of_empty nothing, Option.merge_none_left]
  · rw [some, filled] at both
    rw [truth?_of_filled both, truth?_of_filled some, truth?_of_filled filled]
    obtain ⟨members, rfl, same⟩ | same := shape
    · rw [same, truth, truth, truths_append, truths, if_neg (by simp [some]), truths,
        Connective.joins_append_singleton]
      rfl
    · rw [same, truth, truths, if_neg (by simp [filled]), truths, if_neg (by simp [some]), truths,
        Connective.joins_pair]
      rfl

/-! ## Conditions in order -/

/-- Conditions joined to one another in order, the first ones innermost. -/
def accumulated (given : List (Connective × Condition)) : Condition :=
  given.foldl (fun condition pair => condition.push pair.1 pair.2) empty

@[simp] theorem accumulated_append (given : List (Connective × Condition)) (connective : Connective)
    (condition : Condition) :
    accumulated (given ++ [(connective, condition)]) =
      (accumulated given).push connective condition := by
  simp [accumulated]

theorem isEmpty_accumulated_iff (given : List (Connective × Condition)) :
    (accumulated given).isEmpty = true ↔ ∀ pair ∈ given, pair.2.isEmpty = true := by
  induction given using List.reverseRecOn with
  | nil => simp [accumulated, empty, isEmpty, allEmpty]
  | append_singleton given last ih =>
      rw [accumulated_append, isEmpty_push, Bool.and_eq_true, ih]
      simp [or_imp, forall_and]

/-- The truth of conditions joined from left to right. Those that are empty are left out; if all of
them are, there is none. -/
def leftTruth (given : Assignment) (pairs : List (Connective × Condition)) : Option Bool :=
  (pairs.filter fun pair => !pair.2.isEmpty).foldl
    (fun before? pair => Option.merge pair.1.join before? (some (pair.2.truth given))) none

theorem leftTruth_append (pairs : List (Connective × Condition)) (connective : Connective)
    (condition : Condition) :
    leftTruth given (pairs ++ [(connective, condition)]) =
      Option.merge connective.join (leftTruth given pairs) (condition.truth? given) := by
  by_cases nothing : condition.isEmpty = true
  · simp [leftTruth, nothing, truth?_of_empty nothing]
  · simp [leftTruth, nothing, truth?_of_filled (by simpa using nothing)]

theorem truth?_accumulated (pairs : List (Connective × Condition)) :
    (accumulated pairs).truth? given = leftTruth given pairs := by
  induction pairs using List.reverseRecOn with
  | nil => rfl
  | append_singleton pairs last ih => rw [accumulated_append, truth?_push, ih, leftTruth_append]

-- A later AND joins all that is there, also where SQL would bind it to the last condition only.
example : accumulated [(.and, .raw "a"), (.or, .raw "b"), (.or, .raw " "), (.and, .raw "c")] =
    .group .and [.group .or [.raw "a", .raw "b"], .raw "c"] := by
  rfl

/-- A condition joined to another one by the call that is named for the connective. -/
def joinBy (condition : Condition) : Connective → Condition → Condition
  | .and, other => condition.and other
  | .or, other => condition.or other

theorem foldl_joinBy (pairs : List (Connective × Condition)) :
    pairs.foldl (fun condition pair => condition.joinBy pair.1 pair.2) empty =
      accumulated pairs := by
  have joined : ∀ (condition : Condition) (pair : Connective × Condition),
      condition.joinBy pair.1 pair.2 = condition.push pair.1 pair.2 := by
    rintro condition ⟨_ | _, other⟩ <;> rfl
  simp only [joined, accumulated]

/-- However conditions are joined in order, by hand or in a statement, the truth that comes out is
that of the conditions joined from left to right without the empty ones, for every truth of the
comparisons and the raw texts. Only empty conditions make an empty one. -/
theorem leftTruth_of_joined (given : Assignment) (pairs : List (Connective × Condition)) :
    let grown := pairs.foldl (fun condition pair => condition.joinBy pair.1 pair.2) empty
    grown.truth? given = leftTruth given pairs ∧
      (grown.isEmpty = true ↔ ∀ pair ∈ pairs, pair.2.isEmpty = true) ∧
      ∀ dialect : Dialect,
        (pairs.foldl (fun select pair => select.addFilter pair.1 pair.2)
          (Select.empty dialect)).filter = grown ∧
        (pairs.foldl (fun update pair => update.addFilter pair.1 pair.2)
          (Update.empty dialect)).filter = grown ∧
        (pairs.foldl (fun delete pair => delete.addFilter pair.1 pair.2)
          (Delete.empty dialect)).filter = grown ∧
        (pairs.foldl (fun select pair => select.addHaving pair.2)
          (Select.empty dialect)).having.truth? given =
            leftTruth given (pairs.map fun pair => (.and, pair.2)) := by
  intro grown
  have same : grown = accumulated pairs := foldl_joinBy pairs
  rw [same]
  refine ⟨truth?_accumulated pairs, isEmpty_accumulated_iff pairs, fun dialect => ⟨?_, ?_, ?_, ?_⟩⟩
  · exact (List.foldl_hom Select.filter fun _ _ => rfl).symm
  · exact (List.foldl_hom Update.filter fun _ _ => rfl).symm
  · exact (List.foldl_hom Delete.filter fun _ _ => rfl).symm
  · have grouped : (pairs.foldl (fun select pair => select.addHaving pair.2)
        (Select.empty dialect)).having = accumulated (pairs.map fun pair => (.and, pair.2)) := by
      rw [accumulated, List.foldl_map]
      exact (List.foldl_hom Select.having fun _ _ => rfl).symm
    rw [grouped, truth?_accumulated]

end Condition

end SqlClient
