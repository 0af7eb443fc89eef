import SqlClient.Decimal.Layout
import SqlClient.Decimal.Reader
import SqlClient.Dialect
import SqlClient.Json.Reader
import SqlClient.Text.Utf8

/-!
# Scalars

The values that statements carry and rows hold, with their literals, their keys in grouped results
and their JSON form.
-/

namespace SqlClient

/-- A value of a statement or a row. -/
inductive Scalar where
  | null
  | bool (value : Bool)
  /-- A signed integer of 64 bits. -/
  | int (value : Int64)
  /-- A double precision number. -/
  | float (value : Binary64)
  | text (value : String)
  /-- Raw bytes. -/
  | blob (bytes : List UInt8)
  deriving DecidableEq, Repr

namespace Scalar

/-- The literal of a scalar inside a statement. -/
def literal (dialect : Dialect) : Scalar → String
  | .null => "NULL"
  | .bool value => dialect.boolLiteral value
  | .int value => toString value.toInt
  | .float value => Decimal.render .plain value
  | .text value => dialect.textLiteral value
  | .blob bytes => dialect.blobLiteral bytes

def isNull : Scalar → Bool
  | .null => true
  | _ => false

/-- The scalar as an integer; text is read, and numbers with a fraction lose it. -/
def toInt64? : Scalar → Option Int64
  | .null => none
  | .bool value => some (if value then 1 else 0)
  | .int value => some value
  | .float value => some value.toInt64
  | .text value => Decimal.readInt64? (Text.trim value)
  | .blob _ => none

def text? : Scalar → Option String
  | .text value => some value
  | _ => none

/-- The scalar as a key of a grouped result. -/
def key : Scalar → String
  | .null => ""
  | .bool value => if value then "1" else "0"
  | .int value => toString value.toInt
  | .float value => Decimal.render .plain value
  | .text value => value
  | .blob bytes => String.ofList (Text.decodeLossy bytes)

/-- The scalar in a printed table. -/
def cell : Scalar → String
  | .null => "NULL"
  | value => value.key

/-- Agreement of two values of one kind; numbers compare by value, so that a number-free value
agrees with nothing. -/
def agrees : Scalar → Scalar → Bool
  | .float left, .float right => left.agrees right
  | left, right => left == right

def toJson : Scalar → Json
  | .null => .null
  | .bool value => .bool value
  | .int value => .number (.whole value.toInt)
  | .float value => .number (.float value)
  | .text value => .string value
  | .blob bytes => .array (bytes.map fun byte => .number (.whole byte.toNat))

/-- The byte of a document that holds a whole number below 256. -/
def byteOfJson? : Json → Option UInt8
  | .number (.whole value) =>
      if 0 ≤ value ∧ value < 256 then some (UInt8.ofNat value.toNat) else none
  | _ => none

/-- The scalar of a document: arrays are bytes, objects are no scalars, and whole numbers beyond
the signed range become binary64 numbers. -/
def ofJson? : Json → Option Scalar
  | .null => some .null
  | .bool value => some (.bool value)
  | .number (.whole value) =>
      if value ≤ Int64.maxValue.toInt then some (.int (Int64.ofInt value))
      else some (.float (Binary64.ofRatio false value.toNat 1))
  | .number (.float value) => some (.float value)
  | .string value => some (.text value)
  | .array items => (items.mapM byteOfJson?).map .blob
  | .object _ => none

/-- The scalar written by a JSON text. The shape of the document is judged before the text after
it. -/
def parse (text : String) : Except Json.Fault Scalar := do
  let (json, rest) ← (Json.value Json.maxLevels).run text.toList
  match ofJson? json with
  | none => .error .mismatched
  | some scalar => do
      Json.finish rest
      .ok scalar

end Scalar

/-- Types whose values can stand for scalars. -/
class ToScalar (α : Type) where
  toScalar : α → Scalar

export ToScalar (toScalar)

instance : ToScalar Scalar := ⟨id⟩
instance : ToScalar Bool := ⟨.bool⟩
instance : ToScalar Int64 := ⟨.int⟩
instance : ToScalar Int32 := ⟨fun value => .int value.toInt64⟩
instance : ToScalar Int16 := ⟨fun value => .int value.toInt64⟩
instance : ToScalar Int8 := ⟨fun value => .int value.toInt64⟩
instance : ToScalar UInt32 := ⟨fun value => .int (Int64.ofNat value.toNat)⟩
instance : ToScalar UInt16 := ⟨fun value => .int (Int64.ofNat value.toNat)⟩
instance : ToScalar UInt8 := ⟨fun value => .int (Int64.ofNat value.toNat)⟩
instance : ToScalar Binary64 := ⟨.float⟩
instance : ToScalar Binary32 := ⟨fun value => .float (.ofBinary32 value)⟩
instance : ToScalar String := ⟨.text⟩
instance : ToScalar (List UInt8) := ⟨.blob⟩

/-- An absent value is null. -/
instance {α : Type} [ToScalar α] : ToScalar (Option α) :=
  ⟨fun value => (value.map toScalar).getD .null⟩

/-- What stands in the place of a value: a scalar, or text of the statement itself. -/
inductive Expr where
  /-- Text that is rendered as it is. -/
  | verbatim (sql : String)
  /-- A scalar that is rendered as its literal. -/
  | scalar (value : Scalar)
  deriving DecidableEq, Repr

namespace Expr

def param (name : String) : Expr :=
  .verbatim (":" ++ name)

/-- The text of an expression. -/
def render (dialect : Dialect) : Expr → String
  | .verbatim sql => sql
  | .scalar value => value.literal dialect

end Expr

end SqlClient
