/-!
# Cutting text

Removal of a leading run and cuts at a character.
-/

namespace SqlClient

namespace Text

/-- Text without the leading copies of one character. -/
def dropLeading (char : Char) (text : String) : String :=
  String.ofList (text.toList.dropWhile (· == char))

/-- The text before and after the first occurrence of a character. -/
def splitOnce? (char : Char) (text : String) : Option (String × String) :=
  match text.toList.dropWhile (· != char) with
  | [] => none
  | _ :: after => some (String.ofList (text.toList.takeWhile (· != char)), String.ofList after)

/-- The pieces of a text between the occurrences of a character. -/
def splitChars (char : Char) : List Char → List (List Char)
  | [] => [[]]
  | head :: rest =>
      if head = char then [] :: splitChars char rest
      else
        match splitChars char rest with
        | [] => [[head]]
        | piece :: pieces => (head :: piece) :: pieces

/-- The pieces of a text between the occurrences of a character. -/
def splitOn (char : Char) (text : String) : List String :=
  (splitChars char text.toList).map String.ofList

end Text

end SqlClient
