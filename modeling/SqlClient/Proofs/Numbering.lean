import Mathlib.Data.List.Forall2
import SqlClient.Placeholder

/-!
# Numbered placeholders

Binding named parameters puts a text in the place of every piece and lines up the values of the
names. The number of a placeholder is the place of its value as long as no question mark stands
before it: those are numbered as well, but no value is lined up for them.
-/

namespace SqlClient

open Piece

namespace Params

/-- The texts in the places of pieces, where both kinds of placeholders are numbered from a position
on. -/
def replacements (dialect : Dialect) : (position : Nat) → List Piece → List (List Char)
  | _, [] => []
  | position, .fixed chars :: rest => chars :: replacements dialect position rest
  | position, .mark :: rest | position, .name _ :: rest =>
      (dialect.placeholder position).toList :: replacements dialect (position + 1) rest

/-- The names of named placeholders in order. -/
def names : List Piece → List String
  | [] => []
  | .name letters :: rest => String.ofList letters :: names rest
  | .fixed _ :: rest | .mark :: rest => names rest

/-- The number of question marks. -/
def marks (pieces : List Piece) : Nat :=
  pieces.count .mark

@[simp] theorem names_append (left right : List Piece) :
    names (left ++ right) = names left ++ names right := by
  induction left with
  | nil => rfl
  | cons piece rest induction => cases piece <;> simp [names, induction]

/-- The pieces behind others are numbered behind their placeholders. -/
theorem replacements_append (dialect : Dialect) (position : Nat) (left right : List Piece) :
    replacements dialect position (left ++ right) = replacements dialect position left ++
      replacements dialect (position + (names left).length + marks left) right := by
  induction left generalizing position with
  | nil => rfl
  | cons piece rest induction =>
      cases piece with
      | fixed chars => simp [replacements, names, marks, induction]
      | name letters =>
          have later : position + 1 + (names rest).length + rest.count .mark =
              position + ((names rest).length + 1) + rest.count .mark := by omega
          simp [replacements, names, marks, induction, later]
      | mark =>
          have later : position + 1 + (names rest).length + rest.count .mark =
              position + (names rest).length + (rest.count .mark + 1) := by omega
          simp [replacements, names, marks, induction, later]

/-- A text is bound when every name has a value: the values are those of the names in order, and the
pieces are replaced one by one. -/
theorem bindNamed_eq_ok {dialect : Dialect} {pairs : List (String × Scalar)} {position : Nat}
    {pieces : List Piece} {text : List Char} {values : List Scalar}
    (bound : bindNamed dialect pairs position pieces = .ok (text, values)) :
    text = (replacements dialect position pieces).flatten ∧
      List.Forall₂ (fun name value => lastValue? pairs name = some value) (names pieces)
        values := by
  induction pieces generalizing position text values with
  | nil =>
      obtain ⟨rfl, rfl⟩ := by simpa [bindNamed] using bound
      exact ⟨rfl, .nil⟩
  | cons piece rest induction =>
      cases piece with
      | fixed chars =>
          obtain ⟨⟨later, values⟩, laterBound, same⟩ := bind_eq_ok.1 bound
          cases same
          obtain ⟨rfl, lined⟩ := induction laterBound
          exact ⟨rfl, lined⟩
      | mark =>
          obtain ⟨⟨later, values⟩, laterBound, same⟩ := bind_eq_ok.1 bound
          cases same
          obtain ⟨rfl, lined⟩ := induction laterBound
          exact ⟨rfl, lined⟩
      | name letters =>
          rw [bindNamed] at bound
          cases valued : lastValue? pairs (String.ofList letters) with
          | none => simp [valued] at bound
          | some value =>
              simp only [valued] at bound
              obtain ⟨⟨later, values⟩, laterBound, same⟩ := bind_eq_ok.1 bound
              cases same
              obtain ⟨rfl, lined⟩ := induction laterBound
              exact ⟨rfl, .cons valued lined⟩

/-- Where the name of a placeholder stands among all names, its value stands among the values. -/
theorem getElem?_of_forall₂ {pairs : List (String × Scalar)} {before after : List String}
    {name : String} {values : List Scalar}
    (lined : List.Forall₂ (fun name value => lastValue? pairs name = some value)
      (before ++ name :: after) values) :
    ∃ value, values[before.length]? = some value ∧ lastValue? pairs name = some value := by
  induction before generalizing values with
  | nil =>
      cases lined with
      | cons valued rest => exact ⟨_, rfl, valued⟩
  | cons first before induction =>
      cases lined with
      | cons valued rest => simpa using induction rest

/-- The number of a named placeholder counts the names and the question marks up to it; its place
among the values counts the names only. -/
theorem bindNamed_at_name {dialect : Dialect} {pairs : List (String × Scalar)}
    {before after : List Piece} {letters text : List Char} {values : List Scalar}
    (bound : bindNamed dialect pairs 1 (before ++ .name letters :: after) = .ok (text, values)) :
    (∃ value, values[(names before).length]? = some value ∧
        lastValue? pairs (String.ofList letters) = some value) ∧
      text = (replacements dialect 1 before).flatten ++
        (dialect.placeholder ((names before).length + marks before + 1)).toList ++
        (replacements dialect ((names before).length + marks before + 2) after).flatten := by
  obtain ⟨rfl, lined⟩ := bindNamed_eq_ok bound
  rw [names_append, names] at lined
  have number : 1 + (names before).length + marks before =
      (names before).length + marks before + 1 := by omega
  refine ⟨getElem?_of_forall₂ lined, ?_⟩
  rw [replacements_append, replacements, number]
  simp

end Params

namespace Piece

/-- Only one dialect has question marks that are numbered. -/
theorem first_ne_mark {dialect : Dialect} (other : dialect ≠ .postgres) (char : Char)
    (rest : List Char) : (first dialect char rest).1 ≠ .mark := by
  unfold first
  split
  · simp
  · split
    · simp
    · simp
    · simp
    · split <;> simp
    · simp
    · simp

theorem mark_not_mem_ofChars {dialect : Dialect} (other : dialect ≠ .postgres)
    (chars : List Char) : .mark ∉ ofChars dialect chars := by
  fun_induction ofChars dialect chars with
  | case1 => simp
  | case2 char rest induction =>
      exact List.not_mem_cons_of_ne_of_not_mem (first_ne_mark other char rest).symm induction

end Piece

namespace Params

/-- The number of a named placeholder is the place of the value looked up for its name, unless a
question mark that is numbered as well stands before it. -/
theorem placeholder_of_bind {dialect : Dialect} {sql out : String}
    {pairs : List (String × Scalar)} {values : List Scalar} {before after : List Piece}
    {letters : List Char} (bound : bind dialect sql (.named pairs) = .ok (out, values))
    (pieces : ofChars dialect sql.toList = before ++ .name letters :: after)
    (unmarked : dialect = .postgres → .mark ∉ before) :
    ∃ value, values[(names before).length]? = some value ∧
      lastValue? pairs (String.ofList letters) = some value ∧
      out.toList = (replacements dialect 1 before).flatten ++
        (dialect.placeholder ((names before).length + 1)).toList ++
        (replacements dialect ((names before).length + 2) after).flatten := by
  obtain ⟨⟨text, lined⟩, scanned, same⟩ := bind_eq_ok.1 bound
  cases same
  rw [pieces] at scanned
  have none : marks before = 0 := by
    refine List.count_eq_zero.2 fun member => ?_
    by_cases counted : dialect = .postgres
    · exact unmarked counted member
    · exact mark_not_mem_ofChars counted sql.toList (by rw [pieces]; simp [member])
  obtain ⟨⟨value, found, valued⟩, written⟩ := bindNamed_at_name scanned
  rw [none, Nat.add_zero] at written
  exact ⟨value, found, valued, by rw [String.toList_ofList, written]⟩

/-- A quoted question mark in front of two names is not numbered, one behind them may be. -/
theorem placeholder_of_bind_quoted :
    ∃ value, [Scalar.int 1, .int 2][1]? = some value ∧
      lastValue? [("b", .int 2), ("a", .int 1)] (String.ofList ['b']) = some value ∧
      "SELECT '?', $1, $2 || $3".toList =
        (replacements .postgres 1 (ofChars .postgres "SELECT '?', :a, ".toList)).flatten ++
          (Dialect.postgres.placeholder 2).toList ++
          (replacements .postgres 3 (ofChars .postgres " || ?".toList)).flatten := by
  have bound : bind .postgres "SELECT '?', :a, :b || ?" (.named [("b", .int 2), ("a", .int 1)]) =
      .ok ("SELECT '?', $1, $2 || $3", [.int 1, .int 2]) := by decide +kernel
  have pieces : ofChars .postgres "SELECT '?', :a, :b || ?".toList =
      ofChars .postgres "SELECT '?', :a, ".toList ++ .name ['b'] ::
        ofChars .postgres " || ?".toList := by decide +kernel
  have place : (names (ofChars .postgres "SELECT '?', :a, ".toList)).length = 1 := by
    decide +kernel
  simpa only [place] using placeholder_of_bind bound pieces fun _ => by decide +kernel

/-- A question mark is numbered without a value: behind it the placeholder of `b` is not that of its
value, but that of the value of `c`, and the placeholder of `c` stands for no value. -/
theorem mark_shifts_placeholders :
    let text := "UPDATE t SET a = :a WHERE doc ? 'k' AND b = :b AND c = :c"
    let before := ofChars .postgres "UPDATE t SET a = :a WHERE doc ? 'k' AND b = ".toList
    let out := "UPDATE t SET a = $1 WHERE doc $2 'k' AND b = $3 AND c = $4"
    let values := [Scalar.int 1, .int 2, .int 3]
    bind .postgres text (.named [("a", .int 1), ("b", .int 2), ("c", .int 3)]) =
        .ok (out, values) ∧
      ofChars .postgres text.toList =
        before ++ .name ['b'] :: ofChars .postgres " AND c = :c".toList ∧
      values[(names before).length]? = some (.int 2) ∧
      ¬(replacements .postgres 1 before).flatten ++
        (Dialect.postgres.placeholder ((names before).length + 1)).toList <+: out.toList := by
  decide +kernel

end Params

end SqlClient
