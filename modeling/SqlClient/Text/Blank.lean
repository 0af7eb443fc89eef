/-!
# Blanks

The characters with the Unicode property White_Space, and the removal of blanks from the ends of a
text. Identifiers, list terms, conditions and numbers in text are all trimmed by this one rule.
-/

namespace SqlClient

namespace Text

/-- Closed ranges of the code points with the Unicode property White_Space. -/
def blankRanges : List (Nat × Nat) :=
  [(0x09, 0x0D), (0x20, 0x20), (0x85, 0x85), (0xA0, 0xA0), (0x1680, 0x1680), (0x2000, 0x200A),
    (0x2028, 0x2029), (0x202F, 0x202F), (0x205F, 0x205F), (0x3000, 0x3000)]

/-- A character of one of the blank ranges. -/
def isBlank (char : Char) : Bool :=
  blankRanges.any fun range => range.1 ≤ char.toNat && char.toNat ≤ range.2

/-- Characters without the blanks at both ends. -/
def trimChars (chars : List Char) : List Char :=
  ((chars.dropWhile isBlank).reverse.dropWhile isBlank).reverse

def trim (text : String) : String :=
  String.ofList (trimChars text.toList)

@[simp] theorem toList_trim (text : String) : (trim text).toList = trimChars text.toList := by
  simp [trim]

/-- Text of blanks only. -/
def isAllBlank (text : String) : Bool :=
  text.toList.all isBlank

end Text

end SqlClient
