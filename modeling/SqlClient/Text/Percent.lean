import SqlClient.Text.Hex

/-!
# Percent escapes

Text inside a connection address: unreserved ASCII characters stand for themselves, every other
byte of the UTF-8 form is written as a percent sign and two hexadecimal digits.
-/

namespace SqlClient

namespace Text

/-- ASCII letters, digits and the marks that need no escape in an address. -/
def isUnreserved (char : Char) : Bool :=
  char.isAlphanum || char == '-' || char == '_' || char == '.' || char == '~'

/-- The escaped form of one byte. -/
def percentByte (byte : UInt8) : List Char :=
  let char := Char.ofNat byte.toNat
  if isUnreserved char then [char] else '%' :: hexPair byte

/-- Text with every reserved byte escaped. -/
def percentEncode (text : String) : String :=
  String.ofList (text.toList.flatMap fun char => (String.utf8EncodeChar char).flatMap percentByte)

end Text

end SqlClient
