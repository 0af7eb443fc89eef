/-!
# Hexadecimal digits

Bytes as pairs of hexadecimal digits.
-/

namespace SqlClient

namespace Text

/-- The upper-case hexadecimal digit of a number below sixteen. -/
def hexDigit (value : Nat) : Char :=
  if value < 10 then Char.ofNat (48 + value) else Char.ofNat (55 + value)

/-- The two upper-case digits of a byte, high digit first. -/
def hexPair (byte : UInt8) : List Char :=
  [hexDigit (byte.toNat / 16), hexDigit (byte.toNat % 16)]

/-- The digit pairs of all bytes in order. -/
def hexChars (bytes : List UInt8) : List Char :=
  bytes.flatMap hexPair

/-- The value of a hexadecimal digit of either case. -/
def hexValue? (char : Char) : Option Nat :=
  if '0' ≤ char ∧ char ≤ '9' then some (char.toNat - 48)
  else if 'a' ≤ char ∧ char ≤ 'f' then some (char.toNat - 87)
  else if 'A' ≤ char ∧ char ≤ 'F' then some (char.toNat - 55)
  else none

/-- The number written by hexadecimal digits, most significant first. -/
def hexNumber? (chars : List Char) : Option Nat :=
  chars.foldlM (fun value char => (hexValue? char).map (value * 16 + ·)) 0

/-- The bytes written by digit pairs of either case. -/
def hexBytes? : List Char → Option (List UInt8)
  | [] => some []
  | [_] => none
  | high :: low :: rest => do
      let byte ← hexNumber? [high, low]
      let bytes ← hexBytes? rest
      some (UInt8.ofNat byte :: bytes)

/-- A digit reads back. -/
theorem hexValue?_hexDigit {value : Nat} (small : value < 16) :
    hexValue? (hexDigit value) = some value := by
  have all : ∀ value < 16, hexValue? (hexDigit value) = some value := by decide
  exact all value small

/-- The digit pair of a byte reads back. -/
theorem hexNumber?_hexPair (byte : UInt8) : hexNumber? (hexPair byte) = some byte.toNat := by
  have bound := byte.toNat_lt
  simp only [hexPair, hexNumber?, List.foldlM_cons, List.foldlM_nil,
    hexValue?_hexDigit (show byte.toNat / 16 < 16 by omega),
    hexValue?_hexDigit (show byte.toNat % 16 < 16 by omega), Option.map_some, Option.bind_eq_bind,
    Option.bind_some, Option.pure_def, Option.some.injEq]
  omega

/-- The digit pairs of bytes read back. -/
theorem hexBytes?_hexChars (bytes : List UInt8) : hexBytes? (hexChars bytes) = some bytes := by
  induction bytes with
  | nil => rfl
  | cons byte rest ih =>
    have pair := hexNumber?_hexPair byte
    simp only [hexPair] at pair
    simp only [hexChars, List.flatMap_cons, hexPair, List.cons_append, List.nil_append, hexBytes?,
      pair] at ih ⊢
    simp [ih]

end Text

end SqlClient
