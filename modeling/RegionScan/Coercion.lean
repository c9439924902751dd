import RegionScan.Pattern
import RegionScan.Text.Utf8
import RegionScan.Value

/-!
# Coercion

How raw values become typed values.

Every field of the output has a type, and whatever the store holds is converted
to it or refused. A missing value stays missing. Numbers convert where nothing
is lost, with one exception: any number becomes a floating-point number by
rounding. Texts are read by the grammar of the type, and date-times are read
and written by the field's pattern, if it has one, or in ISO form.

## Main definitions

* `CoercionFault`: Why a value cannot be converted.
* `coerce`: The typed value of a raw one.
-/

namespace RegionScan

/-- Why a value cannot be converted to a type. -/
inductive CoercionFault where
  /-- The type takes no values of this kind. -/
  | unsupported
  | outOfRange (n : Int)
  | notBoolean (text : String)
  | notIntegral (x : Double)
  | fractionalPart
  | decimalOutOfRange
  | notInteger (text : String) (error : IntegerTextError)
  | notFloat (text : String) (error : FloatTextError)
  | notDecimal (text : String)
  | rescaling (error : RescaleError)
  | notUtf8 (error : Utf8Error)
  | dayOutOfRange (days : Int)
  | notTimeOfDay (micros : Int)
  | timestampOutOfRange (micros : Int)
  | notDate (text : String) (error : DateTextError)
  | pattern (error : PatternTextError)
  deriving DecidableEq

/-- The wording of the fault. -/
def CoercionFault.message : CoercionFault → String
  | .unsupported => "unsupported conversion"
  | .outOfRange n => toString n ++ " out of range"
  | .notBoolean text => quoted text ++ " is not a boolean"
  | .notIntegral x => x.display ++ " is not integral"
  | .fractionalPart => "decimal has a fractional part"
  | .decimalOutOfRange => "decimal out of range"
  | .notInteger text error => quoted text ++ ": " ++ error.message
  | .notFloat text error => quoted text ++ ": " ++ error.message
  | .notDecimal text => quoted text ++ " is not a decimal"
  | .rescaling error => error.message
  | .notUtf8 error => "invalid UTF-8: " ++ error.message
  | .dayOutOfRange days => "day " ++ toString days ++ " out of range"
  | .notTimeOfDay micros => toString micros ++ " microseconds is not a time of day"
  | .timestampOutOfRange micros => "timestamp " ++ toString micros ++ " out of range"
  | .notDate text error => quoted text ++ ": " ++ error.message
  | .pattern error => error.message

namespace Coercion

/-- The layout of a date without a pattern. -/
def dateLayout : Layout := Layout.ofText "%Y-%m-%d".toList

/-- The layout of a time of day without a pattern. -/
def timeLayout : Layout := Layout.ofText "%H:%M:%S%.f".toList

/-- The layout of a date-time without a pattern. -/
def timestampLayout : Layout := Layout.ofText "%Y-%m-%d %H:%M:%S%.f".toList

/-- The other layout in which a date-time is read. -/
def timestampLayoutT : Layout := Layout.ofText "%Y-%m-%dT%H:%M:%S%.f".toList

/-- The failure for a value that is absent. -/
def require (fault : CoercionFault) : Option α → Except CoercionFault α
  | some a => .ok a
  | none => .error fault

/-- A truth value: a whole number that is not zero, or a word for one. -/
def toBool : RawValue → Except CoercionFault Bool
  | .int n => .ok (n != 0)
  | .uint n => .ok (n != 0)
  | .string s =>
    let word := String.ofList ((trimBlanks s.toList).map Char.toLower)
    if word = "true" ∨ word = "1" then .ok true
    else if word = "false" ∨ word = "0" then .ok false
    else .error (.notBoolean word)
  | _ => .error .unsupported

/-- The bound below which a double is taken for a 64-bit integer. -/
def doubleBound : Nat := 9200000000000000000

/-- A 64-bit integer equal to the value. -/
def toInt64 : RawValue → Except CoercionFault Int64
  | .int n => .ok n
  | .uint n =>
    if n.toNat < 1 <<< 63 then .ok (Int64.ofInt n.toNat) else .error (.outOfRange n.toNat)
  | .double x =>
    match x.datum.toInt? with
    | some n => if n.natAbs < doubleBound then .ok (Int64.ofInt n) else .error (.notIntegral x)
    | none => .error (.notIntegral x)
  | .decimal d =>
    let places := d.scale.toNat
    if Decimal.maxPlaces < places then .error (.rescaling (.scaleTooLarge places))
    else if d.unscaled.val.tmod (Nat.pow 10 places) ≠ 0 then .error .fractionalPart
    else
      let n := d.unscaled.val.tdiv (Nat.pow 10 places)
      if -(1 <<< 63) ≤ n ∧ n < 1 <<< 63 then .ok (Int64.ofInt n) else .error .decimalOutOfRange
  | .string s => (readInt64 (trimBlanks s.toList)).mapError (.notInteger s ·)
  | _ => .error .unsupported

/-- The value as an integer of fewer bits. -/
def toNarrow (bits : Nat) (raw : RawValue) : Except CoercionFault Int := do
  let n := (← toInt64 raw).toInt
  if -(1 <<< (bits - 1)) ≤ n ∧ n < 1 <<< (bits - 1) then return n else throw (.outOfRange n)

/-- The double nearest to the value. -/
def toDouble : RawValue → Except CoercionFault Double
  | .string s => (Double.ofText (trim s)).mapError (.notFloat s ·)
  | raw => require .unsupported raw.toDouble?

/-- The decimal that a text spells. -/
def readDecimal (s : String) : Except CoercionFault Decimal :=
  require (.notDecimal s) (Decimal.ofText? s)

/-- A decimal equal to the value. A double is taken by its shortest text. -/
def toExactDecimal : RawValue → Except CoercionFault Decimal
  | .int n => .ok ⟨.ofInt64 n, 0⟩
  | .uint n => .ok ⟨.ofUInt64 n, 0⟩
  | .decimal d => .ok d
  | .double x => readDecimal x.display
  | .string s => readDecimal s
  | _ => .error .unsupported

/-- A decimal equal to the value, at the type's scale if it has one. -/
def toDecimal (scale : Option UInt8) (raw : RawValue) : Except CoercionFault Decimal := do
  let d ← toExactDecimal raw
  match scale with
  | none => return d
  | some s => (d.rescale s).mapError .rescaling

/-- The date so many days after the epoch. -/
def dateOfDays (days : Int) : Except CoercionFault Date :=
  require (.dayOutOfRange days) (Date.ofUnixDay? days)

/-- The time so many microseconds after midnight. -/
def timeOfMicros (micros : Int64) : Except CoercionFault TimeOfDay :=
  require (.notTimeOfDay micros.toInt) (TimeOfDay.ofMicros? micros.toInt)

/-- The date-time so many microseconds after the epoch. -/
def timestampOfMicros (micros : Int64) : Except CoercionFault DateTime :=
  require (.timestampOutOfRange micros.toInt) (DateTime.ofUnixMicros? micros.toInt)

/-- A date-time as text, by the pattern if there is one. -/
def writeTemporal (pattern : Option Pattern) (default : Layout) (t : DateTime) :
    Except CoercionFault String :=
  match pattern with
  | some p => (p.write t).mapError .pattern
  | none => .ok ((default.write? t).getD "")

/-- The text of the value. A time of day is written as one on the epoch's
    day. -/
def toText (pattern : Option Pattern) : RawValue → Except CoercionFault String
  | .string s => .ok s
  | .bytes b => (readUtf8 b).mapError .notUtf8
  | .int n => .ok (toString n.toInt)
  | .uint n => .ok (toString n.toNat)
  | .double x => .ok x.display
  | .decimal d => .ok d.display
  | .date days => do
    writeTemporal pattern dateLayout (.midnight (← dateOfDays days.toInt))
  | .time micros => do
    writeTemporal pattern timeLayout ⟨← dateOfDays 0, ← timeOfMicros micros⟩
  | .timestamp micros => do
    writeTemporal pattern timestampLayout (← timestampOfMicros micros)
  | .null => .error .unsupported

/-- The bytes of the value. -/
def toBytes : RawValue → Except CoercionFault (List UInt8)
  | .bytes b => .ok b
  | .string s => .ok (utf8Bytes s)
  | _ => .error .unsupported

/-- The date of the value. -/
def toDate (pattern : Option Pattern) : RawValue → Except CoercionFault Date
  | .date days => dateOfDays days.toInt
  | .timestamp micros => (timestampOfMicros micros).map (·.date)
  | .string s =>
    match pattern with
    | some p => (p.readDate s).mapError .pattern
    | none => (dateLayout.readDate (trim s)).mapError (.notDate s ·)
  | _ => .error .unsupported

/-- The time of day of the value. -/
def toTime (pattern : Option Pattern) : RawValue → Except CoercionFault TimeOfDay
  | .time micros => timeOfMicros micros
  | .timestamp micros => (timestampOfMicros micros).map (·.time)
  | .string s =>
    match pattern with
    | some p => (p.readTime s).mapError .pattern
    | none => (timeLayout.readTime (trim s)).mapError (.notDate s ·)
  | _ => .error .unsupported

/-- The date-time that a text names without a pattern: a date and a time with
    a blank or a `T` between them, or a date alone. The failure reported is
    that of the date alone. -/
def readDefaultTimestamp (s : String) : Except CoercionFault DateTime :=
  match timestampLayout.readDateTime (trim s) with
  | .ok t => .ok t
  | .error _ =>
    match timestampLayoutT.readDateTime (trim s) with
    | .ok t => .ok t
    | .error _ => ((dateLayout.readDate (trim s)).map .midnight).mapError (.notDate s ·)

/-- The date-time of the value. -/
def toTimestamp (pattern : Option Pattern) : RawValue → Except CoercionFault DateTime
  | .timestamp micros => timestampOfMicros micros
  | .date days => (dateOfDays days.toInt).map .midnight
  | .string s =>
    match pattern with
    | some p => (p.readTimestamp s).mapError .pattern
    | none => readDefaultTimestamp s
  | _ => .error .unsupported

end Coercion

open Coercion in
/-- The value of a type that a raw value converts to, with the field's pattern
    if it has one. -/
def coerce (raw : RawValue) (target : DataType) (pattern : Option Pattern) :
    Except CoercionFault Value :=
  if raw.isNull then .ok .null
  else
    match target with
    | .boolean => (toBool raw).map .boolean
    | .tinyInt => (toNarrow 8 raw).map fun n => .tinyInt (Int8.ofInt n)
    | .smallInt => (toNarrow 16 raw).map fun n => .smallInt (Int16.ofInt n)
    | .int => (toNarrow 32 raw).map fun n => .int (Int32.ofInt n)
    | .bigInt => (toInt64 raw).map .bigInt
    | .float => (toDouble raw).map fun x => .float (Single.ofDouble x)
    | .double => (toDouble raw).map .double
    | .decimal _ scale => (toDecimal scale raw).map .decimal
    | .char _ | .varchar _ | .text | .json => (toText pattern raw).map .string
    | .blob => (toBytes raw).map .bytes
    | .date => (toDate pattern raw).map .date
    | .time => (toTime pattern raw).map .time
    | .timestamp => (toTimestamp pattern raw).map .timestamp

end RegionScan
