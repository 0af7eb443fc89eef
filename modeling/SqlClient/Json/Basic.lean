import SqlClient.Decimal.Layout
import SqlClient.Dictionary
import SqlClient.Text.Hex

/-!
# JSON values and their text

The values of a JSON document and their compact text. Whole numbers within 64 bits are kept exact,
all other numbers are binary64 numbers. Strings escape the quote, the backslash and the control
characters below the space, and nothing else.
-/

namespace SqlClient

/-- A number of a document. -/
inductive JsonNumber where
  /-- A whole number of the signed or the unsigned 64-bit range. -/
  | whole (value : Int)
  /-- Any other number. -/
  | float (value : Binary64)
  deriving DecidableEq, Repr

/-- A document. -/
inductive Json where
  | null
  | bool (value : Bool)
  | number (value : JsonNumber)
  | string (value : String)
  | array (items : List Json)
  /-- An object with its members in key order. -/
  | object (members : List (String × Json))

namespace Json

/-- The letter after the backslash in the short escape of a character. -/
def shortEscape? (char : Char) : Option Char :=
  match char with
  | '"' => some '"'
  | '\\' => some '\\'
  | '\x08' => some 'b'
  | '\t' => some 't'
  | '\n' => some 'n'
  | '\x0c' => some 'f'
  | '\r' => some 'r'
  | _ => none

/-- One character inside a string. -/
def escapeChar (char : Char) : List Char :=
  match shortEscape? char with
  | some letter => ['\\', letter]
  | none =>
      if char.toNat < 0x20 then
        ['\\', 'u', '0', '0'] ++ (Text.hexPair (UInt8.ofNat char.toNat)).map Char.toLower
      else [char]

def stringChars (text : String) : List Char :=
  '"' :: text.toList.flatMap escapeChar ++ ['"']

def intChars (value : Int) : List Char :=
  if value < 0 then '-' :: Decimal.natChars value.natAbs else Decimal.natChars value.natAbs

def numberChars : JsonNumber → List Char
  | .whole value => intChars value
  | .float value => (Decimal.render .json value).toList

/-- Pieces with commas between them. -/
def commaSeparated : List (List Char) → List Char
  | [] => []
  | [piece] => piece
  | piece :: rest => piece ++ ',' :: commaSeparated rest

mutual

/-- The characters of the compact text. -/
def chars : Json → List Char
  | .null => "null".toList
  | .bool true => "true".toList
  | .bool false => "false".toList
  | .number value => numberChars value
  | .string value => stringChars value
  | .array items => '[' :: commaSeparated (itemChars items) ++ [']']
  | .object members => '{' :: commaSeparated (memberChars members) ++ ['}']

def itemChars : List Json → List (List Char)
  | [] => []
  | item :: rest => item.chars :: itemChars rest

def memberChars : List (String × Json) → List (List Char)
  | [] => []
  | (key, value) :: rest => (stringChars key ++ ':' :: value.chars) :: memberChars rest

end

/-- The compact text of a document. -/
def render (json : Json) : String :=
  String.ofList json.chars

end Json

end SqlClient
