/-!
# Binary64 numbers

Double precision numbers as their 64 bits: the sign, the exact magnitude, the nearest number to a
ratio, and the comparisons and conversions that statements need. All arithmetic is on natural
numbers, so every result is the correctly rounded one by definition.
-/

namespace SqlClient

/-- A double precision number, given by its bits. -/
structure Binary64 where
  /-- Sign, exponent and fraction, most significant bit first. -/
  bits : UInt64
  deriving DecidableEq, Repr

/-- A single precision number, given by its bits. -/
structure Binary32 where
  bits : UInt32
  deriving DecidableEq, Repr

/-- The absolute value of a number. -/
inductive Magnitude where
  /-- A natural multiple of a power of two. -/
  | finite (significand : Nat) (exponent : Int)
  /-- An infinity of either sign. -/
  | infinite
  /-- No number. -/
  | nan
  deriving DecidableEq, Repr

namespace Binary64

/-- The sign bit. -/
def isNegative (number : Binary64) : Bool :=
  Nat.pow 2 63 ≤ number.bits.toNat

/-- The 52 low bits. -/
def fraction (number : Binary64) : Nat :=
  number.bits.toNat % Nat.pow 2 52

/-- The eleven bits between sign and fraction. -/
def biasedExponent (number : Binary64) : Nat :=
  number.bits.toNat / Nat.pow 2 52 % Nat.pow 2 11

/-- The exact absolute value. -/
def magnitude (number : Binary64) : Magnitude :=
  if number.biasedExponent = 2047 then
    if number.fraction = 0 then .infinite else .nan
  else if number.biasedExponent = 0 then .finite number.fraction (-1074)
  else .finite (Nat.pow 2 52 + number.fraction) ((number.biasedExponent : Int) - 1075)

/-- The number with a sign and the other 63 bits. -/
def ofParts (negative : Bool) (low : Nat) : Binary64 :=
  ⟨UInt64.ofNat (low + if negative then Nat.pow 2 63 else 0)⟩

def infinityBits : Nat := 2047 * Nat.pow 2 52

/-- The low bits of the quiet number-free value without payload. -/
def quietBits : Nat := infinityBits + Nat.pow 2 51

/-- Quotient of two naturals rounded to the nearest integer, a half to the even neighbour. -/
def roundQuotient (numerator denominator : Nat) : Nat :=
  let quotient := numerator / denominator
  let twice := 2 * (numerator % denominator)
  if denominator < twice ∨ (twice = denominator ∧ quotient % 2 = 1) then quotient + 1
  else quotient

/-- The greatest exponent of two whose power is at most a positive ratio. -/
def floorLog2 (numerator denominator : Nat) : Int :=
  let guess := (numerator.log2 : Int) - denominator.log2
  if numerator * Nat.pow 2 (-guess).toNat < denominator * Nat.pow 2 guess.toNat then guess - 1
  else guess

/-- The number nearest to a ratio, a half going to the even neighbour; too large a ratio gives
an infinity. The step between neighbours is the power of two that leaves 53 bits, or the smallest
step there is. -/
def ofRatio (negative : Bool) (numerator denominator : Nat) : Binary64 :=
  if numerator = 0 then ofParts negative 0
  else
    let step := max (floorLog2 numerator denominator - 52) (-1074)
    let count :=
      roundQuotient (numerator * Nat.pow 2 (-step).toNat) (denominator * Nat.pow 2 step.toNat)
    ofParts negative (min ((step + 1074).toNat * Nat.pow 2 52 + count) infinityBits)

/-- The number nearest to a natural multiple of a power of two. -/
def ofScaled (negative : Bool) (significand : Nat) (exponent : Int) : Binary64 :=
  ofRatio negative (significand * Nat.pow 2 exponent.toNat) (Nat.pow 2 (-exponent).toNat)

/-- The number of the same value as a single precision number; a number-free value keeps its
payload and becomes quiet. -/
def ofBinary32 (number : Binary32) : Binary64 :=
  let negative := decide (Nat.pow 2 31 ≤ number.bits.toNat)
  let biased : Nat := number.bits.toNat / Nat.pow 2 23 % Nat.pow 2 8
  let fraction : Nat := number.bits.toNat % Nat.pow 2 23
  if biased = 255 then
    ofParts negative
      (if fraction = 0 then infinityBits
        else infinityBits + (fraction * Nat.pow 2 29) ||| quietBits)
  else if biased = 0 then ofScaled negative fraction (-149)
  else ofScaled negative (Nat.pow 2 23 + fraction) ((biased : Int) - 150)

/-- Comparison by value: zeros of both signs agree, a number-free value agrees with nothing. -/
def agrees (left right : Binary64) : Bool :=
  match left.magnitude, right.magnitude with
  | .nan, _ => false
  | _, .nan => false
  | .finite 0 _, .finite 0 _ => true
  | _, _ => left == right

/-- The integer part of a number. -/
def truncate (significand : Nat) (exponent : Int) : Nat :=
  significand * Nat.pow 2 exponent.toNat / Nat.pow 2 (-exponent).toNat

/-- An integer moved to the nearest end of the signed 64-bit range when it lies outside. -/
def clampInt64 (value : Int) : Int64 :=
  Int64.ofInt (max Int64.minValue.toInt (min value Int64.maxValue.toInt))

/-- The integer part within the signed 64-bit range; a number-free value gives zero. -/
def toInt64 (number : Binary64) : Int64 :=
  match number.magnitude with
  | .nan => 0
  | .infinite => if number.isNegative then .minValue else .maxValue
  | .finite significand exponent =>
      let whole : Int := truncate significand exponent
      clampInt64 (if number.isNegative then -whole else whole)

/-- The product, rounded once. -/
def mul (left right : Binary64) : Binary64 :=
  let negative := left.isNegative != right.isNegative
  match left.magnitude, right.magnitude with
  | .finite m e, .finite n f => ofScaled negative (m * n) (e + f)
  | .nan, _ => ofParts false quietBits
  | _, .nan => ofParts false quietBits
  | .infinite, .finite 0 _ => ofParts true quietBits
  | .finite 0 _, .infinite => ofParts true quietBits
  | _, _ => ofParts negative infinityBits

/-- The quotient, rounded once; the divisor is not zero. -/
def div (left right : Binary64) : Binary64 :=
  let negative := left.isNegative != right.isNegative
  match left.magnitude, right.magnitude with
  | .finite m e, .finite n f =>
      ofRatio negative (m * Nat.pow 2 (e - f).toNat) (n * Nat.pow 2 (f - e).toNat)
  | .infinite, .finite _ _ => ofParts negative infinityBits
  | .finite _ _, .infinite => ofParts negative 0
  | _, _ => ofParts false quietBits

def isInfinite (number : Binary64) : Bool :=
  number.magnitude == .infinite

end Binary64

end SqlClient
