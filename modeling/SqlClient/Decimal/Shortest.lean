import SqlClient.Decimal.Binary64

/-!
# Shortest digits

The decimal of fewest digits that reads back as a given binary64 number. For one digit, two
digits and so on, the two decimals of that many digits around the number are tried; the first
number of digits with a decimal inside the rounding interval wins, and of two such decimals the
nearer one.
-/

namespace SqlClient

namespace Decimal

/-- Where a number goes that lies halfway between two decimals. -/
inductive Tie where
  /-- To the larger decimal. -/
  | up
  /-- To the decimal with an even last digit. -/
  | toEven
  deriving DecidableEq, Repr

/-- A natural multiple of a power of ten. -/
structure Digits where
  /-- The multiple. -/
  coefficient : Nat
  /-- The exponent of ten. -/
  exponent : Int
  deriving DecidableEq, Repr

namespace Digits

/-- The same value with the trailing zeros of the coefficient moved into the exponent. -/
def normalize (digits : Digits) : Digits :=
  if 0 < digits.coefficient ∧ digits.coefficient % 10 = 0 then
    normalize ⟨digits.coefficient / 10, digits.exponent + 1⟩
  else digits
termination_by digits.coefficient
decreasing_by omega

end Digits

/-- A positive value with the ends of its rounding interval, all in one unit: `value`, `below` and
`above` are multiples of the unit `numerator / denominator`. -/
structure Rounding where
  value : Nat
  /-- The lower end. -/
  below : Nat
  /-- The upper end. -/
  above : Nat
  numerator : Nat
  denominator : Nat
  /-- The ends belong to the interval. -/
  closed : Bool

namespace Rounding

/-- The interval of the reals that round to `significand * 2 ^ exponent`, in quarters of the step.
Below a power of two the neighbours are half as far away. -/
def ofMagnitude (significand : Nat) (exponent : Int) : Rounding where
  value := 4 * significand
  below := 4 * significand - if significand = Nat.pow 2 52 ∧ -1074 < exponent then 1 else 2
  above := 4 * significand + 2
  numerator := Nat.pow 2 (exponent - 2).toNat
  denominator := Nat.pow 2 (2 - exponent).toNat
  closed := significand % 2 = 0

/-- A decimal multiple of the unit lies inside the interval. -/
def contains (rounding : Rounding) (scaled unit : Nat) : Bool :=
  if rounding.closed then rounding.below * unit ≤ scaled && scaled ≤ rounding.above * unit
  else rounding.below * unit < scaled && scaled < rounding.above * unit

/-- The decimal of one grid that stands for the value, if one lies inside the interval. The grid
is the multiples of ten to the given power. -/
def onGrid? (tie : Tie) (rounding : Rounding) (power : Int) : Option Digits :=
  let step := rounding.denominator * Nat.pow 10 power.toNat
  let unit := rounding.numerator * Nat.pow 10 (-power).toNat
  let lower := rounding.value * unit / step
  let rest := rounding.value * unit % step
  let hitLower := 0 < lower && rounding.contains (lower * step) unit
  let hitUpper := rounding.contains ((lower + 1) * step) unit
  let upperNearer :=
    decide (step < 2 * rest) ||
      (decide (2 * rest = step) && (tie == .up || lower % 2 == 1))
  if hitLower && hitUpper then some ⟨if upperNearer then lower + 1 else lower, power⟩
  else if hitLower then some ⟨lower, power⟩
  else if hitUpper then some ⟨lower + 1, power⟩
  else none

/-- The exponent of ten of the value's first digit. -/
def leadingPower (rounding : Rounding) : Int :=
  let numerator := rounding.value * rounding.numerator
  let guess := (((numerator.log2 : Int) - rounding.denominator.log2) * 30103) / 100000
  let reaches (power : Int) : Bool :=
    rounding.denominator * Nat.pow 10 power.toNat ≤ numerator * Nat.pow 10 (-power).toNat
  if reaches (guess + 1) then guess + 1
  else if reaches guess then guess
  else guess - 1

/-- The first hit among the grids of `count` digits and more, at most `budget` grids. -/
def search (tie : Tie) (rounding : Rounding) (leading : Int) : (count budget : Nat) → Digits
  | _, 0 => ⟨0, 0⟩
  | count, budget + 1 =>
      match rounding.onGrid? tie (leading + 1 - count) with
      | some digits => digits.normalize
      | none => search tie rounding leading (count + 1) budget

end Rounding

/-- The shortest decimal of a finite number: seventeen digits always suffice. -/
def shortest (tie : Tie) (significand : Nat) (exponent : Int) : Digits :=
  if significand = 0 then ⟨0, 0⟩
  else
    let rounding := Rounding.ofMagnitude significand exponent
    rounding.search tie rounding.leadingPower 1 17

end Decimal

end SqlClient
