import RegionScan.Decimal
import RegionScan.Text.Quoted

/-!
# Raw Values

The values that a store holds.

A raw value has the kind it was stored with. Times are counts of days or
microseconds, and no type of a column restricts them. Two values of one kind
compare by that kind's order. Numbers of different kinds compare as well:
whole numbers exactly, and all others as doubles.

## Main definitions

* `RawKind`: The kinds of values.
* `RawValue`: A value as stored.
* `RawValue.compare?`: The order of two values, if they have one.
* `RawValue.display`: A value as a filter shows it.
-/

namespace RegionScan

/-- The kinds of raw values. -/
inductive RawKind where
  | null
  | int
  | uint
  | double
  | decimal
  | string
  | bytes
  | date
  | time
  | timestamp
  deriving DecidableEq

/-- The name of a kind. -/
def RawKind.name : RawKind → String
  | .null => "Null"
  | .int => "Int"
  | .uint => "UInt"
  | .double => "Double"
  | .decimal => "Decimal"
  | .string => "String"
  | .bytes => "Bytes"
  | .date => "Date"
  | .time => "Time"
  | .timestamp => "Timestamp"

/-- A value as stored. -/
inductive RawValue where
  | null
  | int (n : Int64)
  | uint (n : UInt64)
  | double (x : Double)
  | decimal (d : Decimal)
  | string (s : String)
  | bytes (b : List UInt8)
  /-- Days since 1970-01-01. -/
  | date (days : Int32)
  /-- Microseconds since midnight. -/
  | time (micros : Int64)
  /-- Microseconds since 1970-01-01T00:00:00. -/
  | timestamp (micros : Int64)
  deriving DecidableEq

namespace RawValue

/-- The kind of a value. -/
def kind : RawValue → RawKind
  | .null => .null
  | .int _ => .int
  | .uint _ => .uint
  | .double _ => .double
  | .decimal _ => .decimal
  | .string _ => .string
  | .bytes _ => .bytes
  | .date _ => .date
  | .time _ => .time
  | .timestamp _ => .timestamp

/-- Whether a value is missing. -/
def isNull : RawValue → Bool
  | .null => true
  | _ => false

/-- The whole number a value holds. -/
def toInt? : RawValue → Option Int
  | .int n => some n.toInt
  | .uint n => some n.toNat
  | _ => none

/-- The number a value holds, as a double. -/
def toDouble? : RawValue → Option Double
  | .int n => some (.ofInt n.toInt)
  | .uint n => some (.ofInt n.toNat)
  | .double x => some x
  | .decimal d => some d.toDouble
  | _ => none

/-- The order of two values that are numbers, if both are. -/
def compareNumbers? (a b : RawValue) : Option Ordering :=
  match a.toInt?, b.toInt? with
  | some m, some n => some (compare m n)
  | _, _ =>
    match a.toDouble?, b.toDouble? with
    | some x, some y => x.compare? y
    | _, _ => none

/-- The order of two values. There is none if one is missing, if their kinds do
    not go together, or if one is not a number. -/
def compare? : RawValue → RawValue → Option Ordering
  | .string a, .string b => some (compare a b)
  | .bytes a, .bytes b => some (compare a b)
  | .date a, .date b => some (compare a b)
  | .time a, .time b => some (compare a b)
  | .timestamp a, .timestamp b => some (compare a b)
  | a, b => a.compareNumbers? b

/-- A value as a filter shows it. -/
def display : RawValue → String
  | .null => "NULL"
  | .int n => toString n.toInt
  | .uint n => toString n.toNat
  | .double x => x.display
  | .decimal d => toString d.unscaled.val ++ "e-" ++ toString d.scale.toNat
  | .string s => quoted s
  | .bytes b => "<" ++ toString b.length ++ " bytes>"
  | .date days => "date:" ++ toString days.toInt
  | .time micros => "time:" ++ toString micros.toInt
  | .timestamp micros => "ts:" ++ toString micros.toInt

end RawValue

end RegionScan
