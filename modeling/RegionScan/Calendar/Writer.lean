import RegionScan.Calendar.DateTime
import RegionScan.Calendar.Layout

/-!
# Writing Date-Times

A date-time written by a layout.

Numbers are padded with zeros to the width of their field. A year of four
digits stands alone, every other year has a sign. The fraction of the second
takes no digits, three, six or nine, the fewest that show it whole. Offsets are
written as those of UTC, because a date-time that is written with an offset is
one in UTC.

## Main definitions

* `zeroPadded`: A natural number with zeros in front.
* `LayoutItem.write?`, `Layout.write?`: A date-time written by an item or a
  layout.
* `Date.display`, `TimeOfDay.display`, `DateTime.display`: The ISO 8601 forms.
-/

namespace RegionScan

/-- A natural number with zeros in front up to a width. -/
def zeroPadded (width n : Nat) : List Char :=
  let ds := (toString n).toList
  List.replicate (width - ds.length) '0' ++ ds

/-- A year: four digits, or a sign and at least four digits. -/
def writeYear (year : Int) : List Char :=
  if 0 ≤ year ∧ year ≤ 9999 then zeroPadded 4 year.toNat
  else (if year < 0 then '-' else '+') :: zeroPadded 4 year.natAbs

/-- A fraction of a second: nothing for a whole second, else a point and the
    fewest of three, six or nine digits that show it whole. -/
def writeFraction (nanos : Nat) : List Char :=
  if nanos = 0 then []
  else if nanos % 1000000 = 0 then '.' :: zeroPadded 3 (nanos / 1000000)
  else if nanos % 1000 = 0 then '.' :: zeroPadded 6 (nanos / 1000)
  else '.' :: zeroPadded 9 nanos

/-- The first digits of a fraction of a second. -/
def writeFractionDigits (digits nanos : Nat) : List Char :=
  zeroPadded digits (nanos / Nat.pow 10 (9 - digits))

/-- The name at a place of a list, in full or its first three letters. -/
def writeName (names : List String) (full : Bool) (n : Nat) : List Char :=
  let name := ((names[n]?).getD "").toList
  if full then name else name.take 3

namespace NumberField

/-- The number a field shows, years aside. -/
def value (field : NumberField) (t : DateTime) : Nat :=
  match field with
  | .year => t.date.year.toNat
  | .yearOfCentury => (t.date.year % 100).toNat
  | .month => t.date.month
  | .day => t.date.day
  | .dayOfYear => t.date.ordinal
  | .hour => t.time.hour
  | .hourOfHalfDay => if t.time.hour % 12 = 0 then 12 else t.time.hour % 12
  | .minute => t.time.minute
  | .second => t.time.second

/-- The width to which a field is padded, and the most digits that are read
    for it. -/
def width : NumberField → Nat
  | .year => 4
  | .dayOfYear => 3
  | _ => 2

/-- A field as text. -/
def write (field : NumberField) (padded : Bool) (t : DateTime) : List Char :=
  match field with
  | .year => writeYear t.date.year
  | _ => if padded then zeroPadded field.width (field.value t) else (toString (field.value t)).toList

end NumberField

/-- The part of a date-time that an item shows, none for an unknown field. -/
def LayoutItem.write? (t : DateTime) : LayoutItem → Option (List Char)
  | .literal text => some text
  | .percent => some ['%']
  | .space text => some text
  | .number field padded => some (field.write padded t)
  | .monthName full => some (writeName monthNames full (t.date.month - 1))
  | .weekdayName full => some (writeName weekdayNames full t.date.weekday)
  | .halfDay => some (if t.time.hour < 12 then ['A', 'M'] else ['P', 'M'])
  | .fraction none => some (writeFraction t.time.fraction)
  | .fraction (some digits) => some ('.' :: writeFractionDigits digits t.time.fraction)
  | .fractionDigits digits => some (writeFractionDigits digits t.time.fraction)
  | .offset colon => some (if colon then "+00:00".toList else "+0000".toList)
  | .unknown => none

/-- A date-time written by a layout, none if the layout has an unknown
    field. -/
def Layout.write? (layout : Layout) (t : DateTime) : Option String :=
  (layout.mapM (LayoutItem.write? t)).map fun parts => String.ofList parts.flatten

/-- Year, month and day with hyphens. -/
def Date.display (d : Date) : String :=
  String.ofList (writeYear d.year ++ '-' :: zeroPadded 2 d.month ++ '-' :: zeroPadded 2 d.day)

/-- Hour, minute and second with colons, and the fraction. -/
def TimeOfDay.display (t : TimeOfDay) : String :=
  String.ofList (zeroPadded 2 t.hour ++ ':' :: zeroPadded 2 t.minute ++ ':' ::
    zeroPadded 2 t.second ++ writeFraction t.fraction)

namespace DateTime

/-- The date and the time with a separator between them. -/
def displayWith (separator : String) (t : DateTime) : String :=
  t.date.display ++ separator ++ t.time.display

/-- The date and the time with a `T` between them. -/
def display (t : DateTime) : String := t.displayWith "T"

end DateTime

end RegionScan
