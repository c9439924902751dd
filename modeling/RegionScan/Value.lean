import RegionScan.DataType
import RegionScan.Decimal
import RegionScan.Json.Text
import RegionScan.RawValue
import RegionScan.Text.Hex

/-!
# Values and Rows

The typed values a scan produces, and the rows they form.

A value has the type of the field it belongs to, or is missing. Values have a
display text, which tables and CSV show, and a JSON form, in which numbers and
truth values are themselves, bytes are a list of numbers, and everything
else is its display text. Only a decimal of too many places has no such text.

## Main definitions

* `Value`: A typed value.
* `Value.matchesType`: Whether a value is one of a type.
* `Value.display?`, `Value.display`, `Value.toJson`: The two forms.
* `Field`: A named and typed field of the output.
* `Row`: The values of the fields.
-/

namespace RegionScan

/-- A typed value of an output row. -/
inductive Value where
  | null
  | boolean (b : Bool)
  | tinyInt (n : Int8)
  | smallInt (n : Int16)
  | int (n : Int32)
  | bigInt (n : Int64)
  | float (x : Single)
  | double (x : Double)
  | decimal (d : Decimal)
  | string (s : String)
  | bytes (b : List UInt8)
  | date (d : Date)
  | time (t : TimeOfDay)
  | timestamp (t : DateTime)
  deriving DecidableEq

namespace Value

/-- Whether a value is missing. -/
def isNull : Value → Bool
  | .null => true
  | _ => false

/-- Whether a value is missing or one of a type. A decimal is one of a type
    with a scale if it has that scale. -/
def matchesType : Value → DataType → Bool
  | .null, _ => true
  | .boolean _, .boolean => true
  | .tinyInt _, .tinyInt => true
  | .smallInt _, .smallInt => true
  | .int _, .int => true
  | .bigInt _, .bigInt => true
  | .float _, .float => true
  | .double _, .double => true
  | .decimal d, .decimal _ scale => scale.all (· == d.scale)
  | .string _, t => t.isString
  | .bytes _, .blob => true
  | .date _, .date => true
  | .time _, .time => true
  | .timestamp _, .timestamp => true
  | _, _ => false

/-- The whole number a value holds. -/
def toInt? : Value → Option Int
  | .tinyInt n => some n.toInt
  | .smallInt n => some n.toInt
  | .int n => some n.toInt
  | .bigInt n => some n.toInt
  | _ => none

/-- The text a value holds. -/
def toString? : Value → Option String
  | .string s => some s
  | _ => none

/-- The text of a value in tables and CSV. -/
def display : Value → String
  | .null => "NULL"
  | .boolean b => if b then "true" else "false"
  | .tinyInt n => toString n.toInt
  | .smallInt n => toString n.toInt
  | .int n => toString n.toInt
  | .bigInt n => toString n.toInt
  | .float x => x.display
  | .double x => x.display
  | .decimal d => d.display
  | .string s => s
  | .bytes b => "0x" ++ hexText b
  | .date d => d.display
  | .time t => t.display
  | .timestamp t => t.display

/-- The text of a value, if it has one. -/
def display? : Value → Option String
  | .decimal d => d.display?
  | other => some other.display

/-- The JSON form of a value. -/
def toJson : Value → Json
  | .null => .null
  | .boolean b => .bool b
  | .tinyInt n => .int n.toInt
  | .smallInt n => .int n.toInt
  | .int n => .int n.toInt
  | .bigInt n => .int n.toInt
  | .float x => .single x
  | .double x => .double x
  | .bytes b => .array (b.map fun x => .int x.toNat)
  | other => .string other.display

end Value

/-- A named and typed field of the output. -/
structure Field where
  name : String
  type : DataType
  deriving DecidableEq

/-- The name and the type of a field. -/
def Field.display (f : Field) : String := f.name ++ " " ++ f.type.display

/-- The values of an output row, one for each field. -/
abbrev Row := List Value

namespace Row

/-- A row in parentheses, its values separated by commas. -/
def display (r : Row) : String := "(" ++ ", ".intercalate (r.map Value.display) ++ ")"

/-- The JSON form of a row. -/
def toJson (r : Row) : Json := .array (r.map Value.toJson)

end Row

end RegionScan
