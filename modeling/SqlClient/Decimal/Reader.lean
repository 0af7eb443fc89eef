import SqlClient.Text.Case
import SqlClient.Decimal.Binary64

/-!
# Numbers in text

Whole texts read as numbers: optionally signed integers of 64 bits, and decimal numbers with an
optional point and exponent, rounded to the nearest binary64 number. Nothing may stand before or
after the number.
-/

namespace SqlClient

namespace Decimal

/-- The natural number written by decimal digits. -/
def natOfDigits (chars : List Char) : Nat :=
  chars.foldl (fun value char => 10 * value + (char.toNat - 48)) 0

/-- A sign and what follows it; without a sign the text is positive. -/
def splitSign : List Char → Bool × List Char
  | '-' :: rest => (true, rest)
  | '+' :: rest => (false, rest)
  | chars => (false, chars)

/-- The integer written by an optional sign and at least one digit. -/
def readInt? (text : String) : Option Int :=
  let (negative, digits) := splitSign text.toList
  if digits ≠ [] ∧ digits.all Char.isDigit then
    let value : Int := natOfDigits digits
    some (if negative then -value else value)
  else none

/-- The integer of a text, when it fits 64 bits with a sign. -/
def readInt64? (text : String) : Option Int64 :=
  (readInt? text).bind fun value =>
    if Int64.minValue.toInt ≤ value ∧ value ≤ Int64.maxValue.toInt then some (Int64.ofInt value)
    else none

/-- The nearest number to `coefficient * 10 ^ exponent`. Far outside the range of the format the
answer is known without the power. -/
def nearest (negative : Bool) (coefficient : Nat) (exponent : Int) : Binary64 :=
  let size := (coefficient.log2 : Int) * 30103 / 100000 + exponent
  if coefficient = 0 then Binary64.ofParts negative 0
  else if 400 < size then Binary64.ofParts negative Binary64.infinityBits
  else if size < -400 then Binary64.ofParts negative 0
  else
    Binary64.ofRatio negative (coefficient * Nat.pow 10 exponent.toNat)
      (Nat.pow 10 (-exponent).toNat)

/-- The value of an exponent part: nothing, or a mark, an optional sign and digits. -/
def readExponent? : List Char → Option Int
  | [] => some 0
  | mark :: rest =>
      if mark = 'e' ∨ mark = 'E' then readInt? (String.ofList rest) else none

/-- A decimal number without sign: digits with an optional point among them, then an exponent. -/
def readUnsigned? (negative : Bool) (chars : List Char) : Option Binary64 :=
  let whole := chars.takeWhile Char.isDigit
  let afterWhole := chars.dropWhile Char.isDigit
  let (fraction, rest) :=
    match afterWhole with
    | '.' :: tail => (tail.takeWhile Char.isDigit, tail.dropWhile Char.isDigit)
    | tail => ([], tail)
  if whole = [] ∧ fraction = [] then none
  else
    (readExponent? rest).map fun exponent =>
      nearest negative (natOfDigits (whole ++ fraction)) (exponent - fraction.length)

/-- The number of a text; the names of the infinity and of no number count in either case. -/
def readBinary64? (text : String) : Option Binary64 :=
  let (negative, rest) := splitSign text.toList
  let name := Text.toLower (String.ofList rest)
  if name = "inf" ∨ name = "infinity" then
    some (Binary64.ofParts negative Binary64.infinityBits)
  else if name = "nan" then some (Binary64.ofParts negative Binary64.quietBits)
  else readUnsigned? negative rest

end Decimal

end SqlClient
