import SqlClient.Json.Quoted

/-!
# Containers

What stands around the items of arrays and objects: keys, colons, commas and closing brackets. The
items are folded into a state by scanners, so that a container can be read into any type.
-/

namespace SqlClient

namespace Json

/-- A quoted key of an object. -/
def keyText (chars : List Char) : Except Fault (String × List Char) :=
  match chars with
  | [] => .error .unfinished
  | '"' :: rest => (stringBody rest).map fun read => (String.ofList read.1, read.2)
  | _ => .error .malformed

theorem keyText_length {chars rest : List Char} {key : String}
    (read : keyText chars = .ok (key, rest)) : rest.length < chars.length := by
  unfold keyText at read
  split at read
  · cases read
  · obtain ⟨⟨body, last⟩, inner, read⟩ := map_eq_ok.1 read
    cases read
    exact Nat.lt_succ_of_lt (stringBody_length inner)
  · cases read

/-- The text of a value after the colon before it. -/
def afterColon (chars : List Char) : Except Fault (List Char) :=
  match skipSpace chars with
  | [] => .error .unfinished
  | ':' :: rest => .ok (skipSpace rest)
  | _ => .error .malformed

theorem afterColon_length {chars rest : List Char} (read : afterColon chars = .ok rest) :
    rest.length < chars.length := by
  have spaceLength := length_skipSpace_le chars
  unfold afterColon at read
  split at read
  · cases read
  · next tail equality =>
    cases read
    have tailLength := length_skipSpace_le tail
    rw [equality] at spaceLength
    exact Nat.lt_of_lt_of_le (Nat.lt_succ_of_le tailLength) spaceLength
  · cases read

/-- The text after a comma, up to the next item; a container may not end there. -/
def afterComma (close : Char) (chars : List Char) : Except Fault (List Char) :=
  match skipSpace chars with
  | [] => .error .unfinished
  | char :: rest => if char = close then .error .malformed else .ok (char :: rest)

theorem afterComma_length {close : Char} {chars rest : List Char}
    (read : afterComma close chars = .ok rest) : rest.length ≤ chars.length := by
  have spaceLength := length_skipSpace_le chars
  unfold afterComma at read
  split at read
  · cases read
  · next equality =>
    split at read
    · cases read
    · cases read
      rw [← equality]
      exact spaceLength

/-- What stands between two items: whether another item follows, and the text after the comma or
the closing bracket. -/
def separator (close : Char) (chars : List Char) : Except Fault (Bool × List Char) :=
  match skipSpace chars with
  | [] => .error .unfinished
  | char :: rest =>
      if char = close then .ok (false, rest)
      else if char = ',' then (afterComma close rest).map (true, ·)
      else .error .malformed

theorem separator_length {close : Char} {chars rest : List Char} {more : Bool}
    (read : separator close chars = .ok (more, rest)) : rest.length < chars.length := by
  have spaceLength := length_skipSpace_le chars
  unfold separator at read
  split at read
  · cases read
  · next char tail equality =>
    rw [equality] at spaceLength
    refine Nat.lt_of_lt_of_le (Nat.lt_succ_of_le ?_) spaceLength
    split at read
    · cases read
      exact Nat.le_refl _
    · split at read
      · obtain ⟨last, comma, read⟩ := map_eq_ok.1 read
        cases read
        exact afterComma_length comma
      · cases read

/-- Items up to the closing bracket, from the first item on. Each item is read into what the items
before it came to. -/
def foldItems {α : Type} (item : α → Scanner α) (close : Char) (state : α) (chars : List Char) :
    Except Fault (α × List Char) :=
  match _found : (item state).run chars with
  | .error fault => .error fault
  | .ok (state, middle) =>
      match _next : separator close middle with
      | .error fault => .error fault
      | .ok (false, rest) => .ok (state, rest)
      | .ok (true, rest) => foldItems item close state rest
termination_by chars.length
decreasing_by
  have itemLength := (item _).shortens _found
  have separatorLength := separator_length _next
  omega

/-- The items of a container after its opening bracket. -/
def foldContainer {α : Type} (item : α → Scanner α) (close : Char) (state : α)
    (chars : List Char) : Except Fault (α × List Char) :=
  match skipSpace chars with
  | [] => .error .unfinished
  | char :: rest =>
      if char = close then .ok (state, rest) else foldItems item close state (char :: rest)

theorem foldItems_length {α : Type} {item : α → Scanner α} {close : Char} {state final : α}
    {chars rest : List Char} (read : foldItems item close state chars = .ok (final, rest)) :
    rest.length < chars.length := by
  fun_induction foldItems item close state chars with
  | case1 => cases read
  | case2 => cases read
  | case3 _ _ _ _ found _ next =>
    cases read
    exact Nat.lt_trans (separator_length next) ((item _).shortens found)
  | case4 _ _ _ _ found _ next ih =>
    exact Nat.lt_trans (ih read) (Nat.lt_trans (separator_length next) ((item _).shortens found))

theorem foldContainer_length {α : Type} {item : α → Scanner α} {close : Char} {state final : α}
    {chars rest : List Char} (read : foldContainer item close state chars = .ok (final, rest)) :
    rest.length < chars.length := by
  have spaceLength := length_skipSpace_le chars
  unfold foldContainer at read
  split at read
  · cases read
  · next equality =>
    rw [equality] at spaceLength
    refine Nat.lt_of_lt_of_le ?_ spaceLength
    split at read
    · cases read
      simp
    · exact foldItems_length read

end Json

end SqlClient
