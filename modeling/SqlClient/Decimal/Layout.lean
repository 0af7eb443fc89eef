import SqlClient.Decimal.Shortest

/-!
# Layouts of decimal text

How the digits of a number are laid out. Statement text and keys always use positional notation;
JSON text marks whole numbers and changes to an exponent for large and small numbers.
-/

namespace SqlClient

namespace Decimal

/-- The decisions of one decimal format. -/
structure Layout where
  /-- Where a number goes that lies halfway between two shortest decimals. -/
  tie : Tie
  /-- The exponents of the first digit that are written positionally. -/
  positional : Int → Bool
  /-- Text after a positional whole number. -/
  wholeMark : String
  /-- Text for the infinity without its sign. -/
  infinity : Option String
  /-- Text for a number-free value. -/
  nan : String

/-- The layout of statement text and keys: positional always, a half going up. -/
def Layout.plain : Layout :=
  ⟨.up, fun _ => true, "", some "inf", "NaN"⟩

/-- The layout of JSON text: whole numbers end in a point and zero, the first digit's exponent
decides on positional notation, and what is not finite is null. -/
def Layout.json : Layout :=
  ⟨.toEven, fun leading => -5 ≤ leading && leading < 16, ".0", none, "null"⟩

def natChars (value : Nat) : List Char :=
  Nat.toDigits 10 value

/-- Digits in positional notation. -/
def positionalChars (digits : Digits) (wholeMark : String) : List Char :=
  let written := natChars digits.coefficient
  let before := (written.length : Int) + digits.exponent
  if 0 ≤ digits.exponent then
    written ++ List.replicate digits.exponent.toNat '0' ++ wholeMark.toList
  else if 0 < before then
    written.take before.toNat ++ '.' :: written.drop before.toNat
  else '0' :: '.' :: List.replicate (-before).toNat '0' ++ written

/-- Digits with one digit before the point and an exponent of ten with its sign. -/
def exponentChars (digits : Digits) : List Char :=
  let written := natChars digits.coefficient
  let leading := (written.length : Int) + digits.exponent - 1
  let mantissa :=
    if written.length = 1 then written else written.take 1 ++ '.' :: written.drop 1
  mantissa ++ 'e' :: (if leading < 0 then '-' else '+') :: natChars leading.natAbs

/-- Unsigned digits in the notation that the layout chooses. -/
def digitChars (layout : Layout) (digits : Digits) : List Char :=
  let leading := ((natChars digits.coefficient).length : Int) + digits.exponent - 1
  if layout.positional leading then positionalChars digits layout.wholeMark
  else exponentChars digits

def render (layout : Layout) (number : Binary64) : String :=
  let sign := if number.isNegative then "-" else ""
  match number.magnitude with
  | .nan => layout.nan
  | .infinite =>
      match layout.infinity with
      | some text => sign ++ text
      | none => layout.nan
  | .finite significand exponent =>
      sign ++ String.ofList (digitChars layout (shortest layout.tie significand exponent))

end Decimal

end SqlClient
