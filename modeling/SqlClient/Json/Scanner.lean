/-!
# Scanning JSON

The faults of a text, and scanners: readers of a leading part of a text that take at least one
character, so that sequences of scans end. Faults tell text that ended too early from text that is
no JSON.
-/

namespace SqlClient

namespace Json

/-- Why a text was refused. -/
inductive Fault where
  /-- The text ended inside a value. -/
  | unfinished
  /-- The text is no JSON. -/
  | malformed
  /-- The text is JSON so far, of a shape that is not wanted. -/
  | mismatched
  deriving DecidableEq, Repr

/-- A reader of a leading part of a text that takes at least one character. -/
structure Scanner (α : Type) where
  /-- The value read and the text after it. -/
  run : List Char → Except Fault (α × List Char)
  /-- The text after a value is shorter. -/
  shortens : ∀ {chars value rest}, run chars = .ok (value, rest) → rest.length < chars.length

/-- The characters allowed between tokens. -/
def isSpace (char : Char) : Bool :=
  char == ' ' || char == '\n' || char == '\t' || char == '\r'

/-- Text without the space before its first token. -/
def skipSpace (chars : List Char) : List Char :=
  chars.dropWhile isSpace

theorem length_skipSpace_le (chars : List Char) : (skipSpace chars).length ≤ chars.length :=
  (List.dropWhile_suffix isSpace).length_le

/-- Text after the space at its end. -/
def finish (chars : List Char) : Except Fault Unit :=
  match skipSpace chars with
  | [] => .ok ()
  | _ => .error .malformed

end Json

end SqlClient
