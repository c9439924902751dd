import RegionScan.Text.Blank

/-!
# Layouts

How a date-time is laid out in text.

A layout is a sequence of items: literal text, white space, and fields such as
the year or the minute. It is written as a text in which a percent sign and
one or more characters behind it stand for a field and all else for itself.
`Layout.ofText` cuts such a text into items. Two rules of the cutting show when
a text is read by the layout. White space is an item of its own, because it
matches any amount of white space. And literal text comes in pieces, each
reaching up to the next white space or percent sign, because a piece either
matches as a whole or fails as a whole. A literal percent sign is written by
two, so it is a piece by itself.

## Main definitions

* `NumberField`: The fields written as numbers.
* `LayoutItem`: One item of a layout.
* `Layout.ofText`: The items that a layout text stands for.
-/

namespace RegionScan

/-- A field that is written as a number. -/
inductive NumberField where
  | year
  | yearOfCentury
  | month
  | day
  | dayOfYear
  | hour
  | hourOfHalfDay
  | minute
  | second
  deriving DecidableEq, Repr

/-- One item of a layout. -/
inductive LayoutItem where
  /-- Text that stands for itself. -/
  | literal (text : List Char)
  /-- A percent sign that stands for itself. -/
  | percent
  /-- White space. -/
  | space (text : List Char)
  /-- A number, with or without zeros in front. -/
  | number (field : NumberField) (padded : Bool)
  /-- The name of the month, short or in full. -/
  | monthName (full : Bool)
  /-- The name of the day of the week, short or in full. -/
  | weekdayName (full : Bool)
  /-- Whether it is before or after noon. -/
  | halfDay
  /-- A point and the fraction of the second: as many digits as it needs, or
      a fixed number of them. -/
  | fraction (digits : Option Nat)
  /-- So many digits of the fraction of the second, without a point. -/
  | fractionDigits (digits : Nat)
  /-- The offset from UTC, with or without a colon. -/
  | offset (colon : Bool)
  /-- A percent sign with something behind it that names no field. -/
  | unknown
  deriving DecidableEq, Repr

/-- A sequence of items. -/
abbrev Layout := List LayoutItem

namespace LayoutItem

/-- The field of a single letter behind a percent sign. -/
def ofLetter : Char → LayoutItem
  | '%' => .percent
  | 'Y' => .number .year true
  | 'y' => .number .yearOfCentury true
  | 'm' => .number .month true
  | 'd' => .number .day true
  | 'j' => .number .dayOfYear true
  | 'H' => .number .hour true
  | 'I' => .number .hourOfHalfDay true
  | 'M' => .number .minute true
  | 'S' => .number .second true
  | 'b' => .monthName false
  | 'B' => .monthName true
  | 'a' => .weekdayName false
  | 'A' => .weekdayName true
  | 'p' => .halfDay
  | 'z' => .offset false
  | _ => .unknown

/-- The same field without zeros in front. -/
def unpadded : LayoutItem → LayoutItem
  | .number field _ => .number field false
  | _ => .unknown

end LayoutItem

namespace Layout

/-- Put a character that stands for itself in front of a layout, joining it to
    a piece of the same kind. -/
def consChar (c : Char) (items : Layout) : Layout :=
  if isBlank c then
    match items with
    | .space text :: rest => .space (c :: text) :: rest
    | _ => .space [c] :: items
  else
    match items with
    | .literal text :: rest => .literal (c :: text) :: rest
    | _ => .literal [c] :: items

/-- The items that a layout text stands for. -/
def ofText : List Char → Layout
  | [] => []
  | '%' :: '-' :: c :: rest => (LayoutItem.ofLetter c).unpadded :: ofText rest
  | '%' :: ':' :: 'z' :: rest => .offset true :: ofText rest
  | '%' :: '.' :: 'f' :: rest => .fraction none :: ofText rest
  | '%' :: '.' :: '3' :: 'f' :: rest => .fraction (some 3) :: ofText rest
  | '%' :: '3' :: 'f' :: rest => .fractionDigits 3 :: ofText rest
  | '%' :: '6' :: 'f' :: rest => .fractionDigits 6 :: ofText rest
  | '%' :: '9' :: 'f' :: rest => .fractionDigits 9 :: ofText rest
  | '%' :: c :: rest => .ofLetter c :: ofText rest
  | ['%'] => [.unknown]
  | c :: rest => consChar c (ofText rest)

end Layout

/-- The names of the months. -/
def monthNames : List String :=
  ["January", "February", "March", "April", "May", "June", "July", "August", "September",
    "October", "November", "December"]

/-- The names of the days of the week. -/
def weekdayNames : List String :=
  ["Monday", "Tuesday", "Wednesday", "Thursday", "Friday", "Saturday", "Sunday"]

end RegionScan
