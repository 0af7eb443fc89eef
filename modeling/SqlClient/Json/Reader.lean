import SqlClient.Json.Container
import SqlClient.Json.Number

/-!
# Reading JSON

Words, strings and numbers are atoms; arrays and objects hold values one level deeper. Containers
may be nested 127 levels deep.
-/

namespace SqlClient

namespace Json

/-- A word that has to be spelled out. -/
def literal : List Char → List Char → Except Fault (List Char)
  | [], chars => .ok chars
  | _ :: _, [] => .error .unfinished
  | wanted :: word, char :: rest =>
      if wanted = char then literal word rest else .error .malformed

theorem literal_length {word chars rest : List Char}
    (read : literal word chars = .ok rest) : rest.length ≤ chars.length := by
  fun_induction literal word chars with
  | case1 chars =>
    cases read
    exact Nat.le_refl _
  | case2 => cases read
  | case3 _ _ _ ih => exact Nat.le_succ_of_le (ih read)
  | case4 => cases read

/-- A value that holds no other value. -/
def atom (chars : List Char) : Except Fault (Json × List Char) :=
  match chars with
  | [] => .error .unfinished
  | 'n' :: rest => (literal "ull".toList rest).map (Json.null, ·)
  | 't' :: rest => (literal "rue".toList rest).map (Json.bool true, ·)
  | 'f' :: rest => (literal "alse".toList rest).map (Json.bool false, ·)
  | '"' :: rest => (stringBody rest).map fun read => (Json.string (String.ofList read.1), read.2)
  | '-' :: rest => (unsignedNumber true rest).map fun read => (Json.number read.1, read.2)
  | chars => (unsignedNumber false chars).map fun read => (Json.number read.1, read.2)

theorem atom_length {chars rest : List Char} {json : Json}
    (read : atom chars = .ok (json, rest)) : rest.length < chars.length := by
  unfold atom at read
  split at read
  · cases read
  · obtain ⟨last, word, read⟩ := map_eq_ok.1 read
    cases read
    exact Nat.lt_succ_of_le (literal_length word)
  · obtain ⟨last, word, read⟩ := map_eq_ok.1 read
    cases read
    exact Nat.lt_succ_of_le (literal_length word)
  · obtain ⟨last, word, read⟩ := map_eq_ok.1 read
    cases read
    exact Nat.lt_succ_of_le (literal_length word)
  · obtain ⟨⟨body, last⟩, string, read⟩ := map_eq_ok.1 read
    cases read
    exact Nat.lt_succ_of_lt (stringBody_length string)
  · obtain ⟨⟨digits, last⟩, number, read⟩ := map_eq_ok.1 read
    cases read
    exact Nat.lt_succ_of_lt (unsignedNumber_length number)
  · obtain ⟨⟨digits, last⟩, number, read⟩ := map_eq_ok.1 read
    cases read
    exact unsignedNumber_length number

/-- An item of an array, put before the items so far. -/
def arrayItem (value : Scanner Json) (items : List Json) : Scanner (List Json) where
  run chars := (value.run chars).map fun read => (read.1 :: items, read.2)
  shortens := by
    intro chars found rest read
    obtain ⟨⟨json, last⟩, inner, read⟩ := map_eq_ok.1 read
    cases read
    exact value.shortens inner

/-- A member of an object, put among the members so far. -/
def objectMember (value : Scanner Json) (members : Dictionary Json) :
    Scanner (Dictionary Json) where
  run chars := do
    let (key, rest) ← keyText chars
    let rest ← afterColon rest
    let (json, rest) ← value.run rest
    .ok (members.insert key json, rest)
  shortens := by
    intro chars found rest read
    obtain ⟨⟨key, behind⟩, quoted, read⟩ := bind_eq_ok.1 read
    obtain ⟨start, colon, read⟩ := bind_eq_ok.1 read
    obtain ⟨⟨json, last⟩, inner, read⟩ := bind_eq_ok.1 read
    cases read
    exact Nat.lt_trans (value.shortens inner)
      (Nat.lt_trans (afterColon_length colon) (keyText_length quoted))

/-- One step of reading a value: what reads the values inside it is given, or no container may be
opened any more. -/
def valueWithin (inner : Option (Scanner Json)) (chars : List Char) :
    Except Fault (Json × List Char) :=
  match chars with
  | '[' :: rest =>
      match inner with
      | none => .error .malformed
      | some inner =>
          (foldContainer (arrayItem inner) ']' [] rest).map fun read =>
            (.array read.1.reverse, read.2)
  | '{' :: rest =>
      match inner with
      | none => .error .malformed
      | some inner =>
          (foldContainer (objectMember inner) '}' [] rest).map fun read =>
            (.object read.1, read.2)
  | chars => atom chars

theorem valueWithin_length {inner : Option (Scanner Json)} {chars rest : List Char} {json : Json}
    (read : valueWithin inner chars = .ok (json, rest)) : rest.length < chars.length := by
  unfold valueWithin at read
  split at read
  · cases inner with
    | none => cases read
    | some inner =>
      obtain ⟨⟨items, last⟩, inside, read⟩ := map_eq_ok.1 read
      cases read
      exact Nat.lt_succ_of_lt (foldContainer_length inside)
  · cases inner with
    | none => cases read
    | some inner =>
      obtain ⟨⟨members, last⟩, inside, read⟩ := map_eq_ok.1 read
      cases read
      exact Nat.lt_succ_of_lt (foldContainer_length inside)
  · exact atom_length read

/-- A value, after the space before it, with at most the given number of container levels. -/
def value : Nat → Scanner Json
  | 0 =>
      { run := fun chars => valueWithin none (skipSpace chars)
        shortens := fun {chars _ _} read =>
          Nat.lt_of_lt_of_le (valueWithin_length read) (length_skipSpace_le chars) }
  | levels + 1 =>
      { run := fun chars => valueWithin (some (value levels)) (skipSpace chars)
        shortens := fun {chars _ _} read =>
          Nat.lt_of_lt_of_le (valueWithin_length read) (length_skipSpace_le chars) }

/-- The number of container levels that a text may open. -/
def maxLevels : Nat := 127

/-- The document of a whole text. -/
def parse (text : String) : Except Fault Json := do
  let (json, rest) ← (value maxLevels).run text.toList
  finish rest
  .ok json

end Json

end SqlClient
