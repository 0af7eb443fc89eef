import SqlClient.Decimal.Reader
import SqlClient.Json.Basic
import SqlClient.Json.Scanner
import SqlClient.Steps

/-!
# Numbers

Whole numbers of 64 bits are kept as they are; all others become binary64 numbers, scaled from a
significand of 64 bits by powers of ten.
-/

namespace SqlClient

namespace Json

/-- The greatest whole number of 64 bits. -/
def maxWhole : Nat := 18446744073709551615

/-- The number of the given digits and power of ten, by one division or multiplication for each
power of ten up to the 308th; what is too large is refused. -/
def scaleFloat (value : Binary64) (exponent : Int) : Except Fault Binary64 :=
  if 0 ≤ exponent then
    if 308 < exponent then
      if value.agrees ⟨0⟩ then .ok value else .error .malformed
    else
      let product := value.mul (Binary64.ofRatio false (Nat.pow 10 exponent.toNat) 1)
      if product.isInfinite then .error .malformed else .ok product
  else if exponent < -308 then
    if value.agrees ⟨0⟩ then .ok value
    else scaleFloat (value.div (Binary64.ofRatio false (Nat.pow 10 308) 1)) (exponent + 308)
  else .ok (value.div (Binary64.ofRatio false (Nat.pow 10 (-exponent).toNat) 1))
termination_by exponent.natAbs
decreasing_by omega

/-- The number with the opposite sign when asked. -/
def signed (negative : Bool) (value : Binary64) : Binary64 :=
  if negative then value.mul (Binary64.ofRatio true 1 1) else value

/-- The binary64 number of a significand and an exponent of ten. -/
def floatOfParts (negative : Bool) (significand : Nat) (exponent : Int) :
    Except Fault JsonNumber :=
  (scaleFloat (Binary64.ofRatio false significand 1) exponent).map
    fun value => .float (signed negative value)

/-- Digits taken into a significand as long as it fits 64 bits, and what follows them. -/
def takeDigits : Nat → List Char → Nat × List Char
  | significand, [] => (significand, [])
  | significand, char :: rest =>
      let next := 10 * significand + (char.toNat - 48)
      if char.isDigit ∧ next ≤ maxWhole then takeDigits next rest
      else (significand, char :: rest)

/-- The exponent part of a number, after its mark. An exponent beyond 31 bits gives zero or is
refused, by its sign. -/
def exponentPart (negative : Bool) (significand : Nat) (start : Int) (chars : List Char) :
    Except Fault (JsonNumber × List Char) :=
  let (down, digits) := Decimal.splitSign chars
  let written := digits.takeWhile Char.isDigit
  let rest := digits.dropWhile Char.isDigit
  if digits = [] then .error .unfinished
  else if written = [] then .error .malformed
  else
    let value : Int := Decimal.natOfDigits written
    if Nat.pow 2 31 ≤ value then
      if significand ≠ 0 ∧ !down then .error .malformed
      else .ok (.float (signed negative ⟨0⟩), rest)
    else
      (floatOfParts negative significand (if down then start - value else start + value)).map
        (·, rest)

/-- What follows the digits of a number that is no longer whole. -/
def afterDigits (negative : Bool) (significand : Nat) (exponent : Int) (chars : List Char) :
    Except Fault (JsonNumber × List Char) :=
  match chars with
  | 'e' :: rest => exponentPart negative significand exponent rest
  | 'E' :: rest => exponentPart negative significand exponent rest
  | rest => (floatOfParts negative significand exponent).map (·, rest)

/-- The fraction of a number, after its point. Digits that no longer fit are dropped. -/
def fractionPart (negative : Bool) (significand : Nat) (start : Int) (chars : List Char) :
    Except Fault (JsonNumber × List Char) :=
  let (widened, rest) := takeDigits significand chars
  let taken := chars.length - rest.length
  match rest with
  | [] =>
      if taken = 0 then .error .unfinished
      else afterDigits negative widened (start - taken) []
  | char :: _ =>
      if taken = 0 ∧ !char.isDigit then .error .malformed
      else afterDigits negative widened (start - taken) (rest.dropWhile Char.isDigit)

/-- The number of a whole significand. Zero with a sign and what lies below the signed range are
binary64 numbers. -/
def wholeNumber (negative : Bool) (significand : Nat) : JsonNumber :=
  if !negative then .whole significand
  else if 0 < significand ∧ significand ≤ Nat.pow 2 63 then .whole (-(significand : Int))
  else .float (signed true (Binary64.ofRatio false significand 1))

/-- A number after its sign. -/
def unsignedNumber (negative : Bool) (chars : List Char) :
    Except Fault (JsonNumber × List Char) :=
  match chars with
  | [] => .error .unfinished
  | first :: tail =>
      if !first.isDigit then .error .malformed
      else
        let (significand, rest) :=
          if first = '0' then (0, tail) else takeDigits 0 (first :: tail)
        match rest with
        | [] => .ok (wholeNumber negative significand, [])
        | '.' :: rest => fractionPart negative significand 0 rest
        | 'e' :: rest => exponentPart negative significand 0 rest
        | 'E' :: rest => exponentPart negative significand 0 rest
        | char :: _ =>
            if !char.isDigit then .ok (wholeNumber negative significand, rest)
            else if first = '0' then .error .malformed
            else
              let dropped := rest.takeWhile Char.isDigit
              match rest.dropWhile Char.isDigit with
              | '.' :: rest => fractionPart negative significand dropped.length rest
              | rest => afterDigits negative significand dropped.length rest

theorem takeDigits_length (significand : Nat) (chars : List Char) :
    (takeDigits significand chars).2.length ≤ chars.length := by
  fun_induction takeDigits significand chars with
  | case1 => simp
  | case2 _ _ _ _ _ ih => simp only [List.length_cons]; omega
  | case3 => simp

theorem length_dropDigits_le (chars : List Char) :
    (chars.dropWhile Char.isDigit).length ≤ chars.length :=
  (List.dropWhile_suffix Char.isDigit).length_le

theorem splitSign_length (chars : List Char) :
    (Decimal.splitSign chars).2.length ≤ chars.length := by
  unfold Decimal.splitSign
  split <;> simp

theorem exponentPart_length {negative : Bool} {significand : Nat} {start : Int}
    {chars rest : List Char} {number : JsonNumber}
    (read : exponentPart negative significand start chars = .ok (number, rest)) :
    rest.length ≤ chars.length := by
  have shorter := Nat.le_trans (length_dropDigits_le (Decimal.splitSign chars).2)
    (splitSign_length chars)
  simp only [exponentPart] at read
  split at read
  · cases read
  · split at read
    · cases read
    · split at read
      · split at read <;> cases read
        exact shorter
      · obtain ⟨value, _, read⟩ := map_eq_ok.1 read
        cases read
        exact shorter

theorem afterDigits_length {negative : Bool} {significand : Nat} {exponent : Int}
    {chars rest : List Char} {number : JsonNumber}
    (read : afterDigits negative significand exponent chars = .ok (number, rest)) :
    rest.length ≤ chars.length := by
  unfold afterDigits at read
  split at read
  · exact Nat.le_succ_of_le (exponentPart_length read)
  · exact Nat.le_succ_of_le (exponentPart_length read)
  · obtain ⟨value, _, read⟩ := map_eq_ok.1 read
    cases read
    exact Nat.le_refl _

theorem fractionPart_length {negative : Bool} {significand : Nat} {start : Int}
    {chars rest : List Char} {number : JsonNumber}
    (read : fractionPart negative significand start chars = .ok (number, rest)) :
    rest.length ≤ chars.length := by
  have takenLength := takeDigits_length significand chars
  have digitLength := length_dropDigits_le (takeDigits significand chars).2
  simp only [fractionPart] at read
  split at read
  · split at read
    · simp at read
    · have := afterDigits_length read
      simp only [List.length_nil] at this
      omega
  · split at read
    · simp at read
    · have := afterDigits_length read
      omega

theorem unsignedNumber_length {negative : Bool} {chars rest : List Char} {number : JsonNumber}
    (read : unsignedNumber negative chars = .ok (number, rest)) : rest.length < chars.length := by
  cases chars with
  | nil => simp [unsignedNumber] at read
  | cons first tail =>
    have takenLength : ∀ leading : first.isDigit = true,
        (if first = '0' then (0, tail) else takeDigits 0 (first :: tail)).2.length
          ≤ tail.length := by
      intro leading
      split
      · simp
      · next other =>
        have small : 10 * 0 + (first.toNat - 48) ≤ maxWhole := by
          have : first.toNat ≤ 57 := by
            simp only [Char.isDigit, Bool.and_eq_true, decide_eq_true_eq] at leading
            exact leading.2
          simp only [maxWhole]
          omega
        rw [takeDigits]
        simp only [leading, small, and_self, if_true]
        exact takeDigits_length _ _
    simp only [unsignedNumber] at read
    split at read
    · simp at read
    · next leading =>
      simp only [Bool.not_eq_true, Bool.not_eq_false'] at leading
      have taken := takenLength (by simpa using leading)
      generalize (if first = '0' then (0, tail) else takeDigits 0 (first :: tail)) = pair
        at read taken
      obtain ⟨significand, middle⟩ := pair
      simp only at read taken
      simp only [List.length_cons]
      split at read
      · simp only [Except.ok.injEq, Prod.mk.injEq] at read
        rw [← read.2]
        simp
      · have := fractionPart_length read
        simp only [List.length_cons] at taken
        omega
      · have := exponentPart_length read
        simp only [List.length_cons] at taken
        omega
      · have := exponentPart_length read
        simp only [List.length_cons] at taken
        omega
      · next char more _ _ _ =>
        split at read
        · simp only [Except.ok.injEq, Prod.mk.injEq] at read
          rw [← read.2]
          omega
        · split at read
          · simp at read
          · have digitLength := length_dropDigits_le (char :: more)
            split at read
            · next equality =>
              have := fractionPart_length read
              rw [equality] at digitLength
              simp only [List.length_cons] at digitLength taken
              omega
            · have := afterDigits_length read
              omega

end Json

end SqlClient
