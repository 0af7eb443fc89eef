/-!
# Letter case

Case of ASCII letters. Every other character is its own lower and upper case here.
-/

namespace SqlClient

namespace Text

/-- Equality of two texts when ASCII letters of either case count as the same. -/
def sameIgnoringCase (left right : String) : Bool :=
  left.toList.map Char.toLower == right.toList.map Char.toLower

/-- ASCII letters in lower case, all else kept. -/
def toLower (text : String) : String :=
  String.ofList (text.toList.map Char.toLower)

def toUpper (text : String) : String :=
  String.ofList (text.toList.map Char.toUpper)

end Text

end SqlClient
