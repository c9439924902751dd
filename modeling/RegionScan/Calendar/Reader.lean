import RegionScan.Calendar.Fields
import RegionScan.Calendar.Writer
import RegionScan.Binary.Text

/-!
# Reading Date-Times

A date-time read by a layout.

The items of the layout are matched against the text from left to right, each
taking what it can from the front and setting its field. Lengths are counted in
bytes, as is the question whether a text is too short for an item. A number
takes digits up to the width of its field, so `20210501` reads as a year, a
month and a day without separators; a year with a sign takes all digits.

## Main definitions

* `byteLength`: The bytes of a text.
* `scanNumber` and its kin: What one piece reads, and the rest of the text.
* `LayoutItem.read`: One item matched against the front of a text.
* `Layout.read`: The fields that a text has by a layout.
* `Layout.readDate`, `Layout.readTime`, `Layout.readDateTime`,
  `Layout.readUtc`: What the fields add up to.
-/

namespace RegionScan

/-- The number of bytes that spell a text. -/
def byteLength (s : List Char) : Nat := s.foldl (fun n c => n + c.utf8Size) 0

/-- At least one and at most `width` digits. -/
def scanNumber (width : Nat) (s : List Char) : Except DateTextError (Nat × List Char) :=
  match s with
  | [] => .error .tooShort
  | _ =>
    let digits := (s.take width).takeWhile Char.isDigit
    if digits.isEmpty then .error .invalid
    else
      let n := digitsValue digits
      if 1 <<< 63 ≤ n then .error .outOfRange else .ok (n, s.drop digits.length)

/-- A year: up to four digits, or a sign and any number of digits. -/
def scanYear (s : List Char) : Except DateTextError (Int × List Char) :=
  match s with
  | '-' :: rest => (scanNumber rest.length rest).map fun (n, r) => (-(n : Int), r)
  | '+' :: rest => (scanNumber rest.length rest).map fun (n, r) => ((n : Int), r)
  | _ => (scanNumber 4 s).map fun (n, r) => ((n : Int), r)

/-- The place in a list of the name at the front of a text, in any case. Three
    letters are enough; the rest of the name is taken too if `full` asks for it
    and it is there. -/
def scanName (names : List String) (full : Bool) (s : List Char) : Except DateTextError (Nat × List Char) :=
  if byteLength s < 3 then .error .tooShort
  else
    let lower (cs : List Char) := cs.map Char.toLower
    match names.findIdx? fun name => lower (name.toList.take 3) == lower (s.take 3) with
    | none => .error .invalid
    | some n =>
      let tail := lower (((names[n]?).getD "").toList.drop 3)
      let rest := s.drop 3
      if full && tail == lower (rest.take tail.length) then .ok (n, rest.drop tail.length)
      else .ok (n, rest)

/-- Whether it is after noon, in any case. -/
def scanHalfDay (s : List Char) : Except DateTextError (Bool × List Char) :=
  if byteLength s < 2 then .error .tooShort
  else
    match (s.take 2).map Char.toLower with
    | ['a', 'm'] => .ok (false, s.drop 2)
    | ['p', 'm'] => .ok (true, s.drop 2)
    | _ => .error .invalid

/-- The fraction of a second in nanoseconds: up to nine digits count, and
    those behind them are skipped. -/
def scanFraction (s : List Char) : Except DateTextError (Nat × List Char) := do
  let (n, rest) ← scanNumber 9 s
  let count := s.length - rest.length
  return (n * Nat.pow 10 (9 - count), rest.dropWhile Char.isDigit)

/-- Exactly so many digits of the fraction of a second, in nanoseconds. -/
def scanFractionDigits (count : Nat) (s : List Char) : Except DateTextError (Nat × List Char) :=
  if byteLength s < count then .error .tooShort
  else
    let digits := s.take count
    if digits.length = count ∧ digits.all Char.isDigit then
      .ok (digitsValue digits * Nat.pow 10 (9 - count), s.drop count)
    else .error .invalid

/-- Two digits. -/
def scanTwoDigits (s : List Char) : Except DateTextError (Nat × List Char) :=
  if byteLength s < 2 then .error .tooShort
  else
    match s with
    | a :: b :: rest =>
      if a.isDigit ∧ b.isDigit then .ok (digitsValue [a, b], rest) else .error .invalid
    | _ => .error .invalid

/-- The sign of an offset. The minus sign of typography counts as well. -/
def scanOffsetSign : List Char → Except DateTextError (Bool × List Char)
  | [] => .error .tooShort
  | '+' :: rest => .ok (false, rest)
  | '-' :: rest => .ok (true, rest)
  | '\u2212' :: rest => .ok (true, rest)
  | _ => .error .invalid

/-- An offset in minutes: a sign, two digits for the hours, a separator, and
    two digits for the minutes. -/
def scanOffset (separator : List Char → Except DateTextError (List Char)) (s : List Char) :
    Except DateTextError (Int × List Char) := do
  let (negative, s) ← scanOffsetSign s
  let (hours, s) ← scanTwoDigits s
  let s ← separator s
  let (minutes, s) ← scanTwoDigits s
  if 60 ≤ minutes then throw .outOfRange
  let total : Int := (60 * hours + minutes : Nat)
  return (if negative then -total else total, s)

/-- Any colons and white space between the hours and minutes of an offset. -/
def skipColons (s : List Char) : Except DateTextError (List Char) :=
  .ok (s.dropWhile fun c => c == ':' || isBlank c)

namespace DateFields

/-- A number that must lie in a range. -/
def inRange (low high : Nat) (n : Nat) : Except DateTextError Nat :=
  if low ≤ n ∧ n ≤ high then .ok n else .error .outOfRange

/-- Set the hour of the day, which settles the half of the day too. -/
def setHour (f : DateFields) (n : Nat) : Except DateTextError DateFields := do
  let n ← inRange 0 23 n
  let afternoon ← agree f.afternoon (decide (12 ≤ n))
  let hour ← agree f.hourOfHalfDay (n % 12)
  return { f with afternoon := afternoon, hourOfHalfDay := hour }

/-- Set a field that is written as a number, the full year aside. -/
def setNumber (f : DateFields) (field : NumberField) (n : Nat) : Except DateTextError DateFields :=
  match field with
  | .year => do return { f with year := ← agree f.year (n : Int) }
  | .yearOfCentury => do
    return { f with yearOfCentury := ← agree f.yearOfCentury (← inRange 0 99 n) }
  | .month => do return { f with month := ← agree f.month (← inRange 1 12 n) }
  | .day => do return { f with day := ← agree f.day (← inRange 1 31 n) }
  | .dayOfYear => do return { f with dayOfYear := ← agree f.dayOfYear (← inRange 1 366 n) }
  | .hour => f.setHour n
  | .hourOfHalfDay => do
    return { f with hourOfHalfDay := ← agree f.hourOfHalfDay ((← inRange 1 12 n) % 12) }
  | .minute => do return { f with minute := ← agree f.minute (← inRange 0 59 n) }
  | .second => do return { f with second := ← agree f.second (← inRange 0 60 n) }

/-- Set the full year. -/
def setYear (f : DateFields) (y : Int) : Except DateTextError DateFields := do
  if -(1 <<< 31) ≤ y ∧ y < 1 <<< 31 then return { f with year := ← agree f.year y }
  else throw .outOfRange

end DateFields

namespace LayoutItem

/-- A text that must stand at the front as it is. -/
def readLiteral (text s : List Char) : Except DateTextError (List Char) :=
  if byteLength s < byteLength text then .error .tooShort
  else if text.isPrefixOf s then .ok (s.drop text.length)
  else .error .invalid

/-- Match one item against the front of a text. -/
def read (f : DateFields) (s : List Char) :
    LayoutItem → Except DateTextError (DateFields × List Char)
  | .literal text => do return (f, ← readLiteral text s)
  | .percent => do return (f, ← readLiteral ['%'] s)
  | .space _ => .ok (f, trimStart s)
  | .number .year _ => do
    let (y, rest) ← scanYear (trimStart s)
    return (← f.setYear y, rest)
  | .number field _ => do
    let (n, rest) ← scanNumber field.width (trimStart s)
    return (← f.setNumber field n, rest)
  | .monthName full => do
    let (n, rest) ← scanName monthNames full s
    return ({ f with month := ← DateFields.agree f.month (n + 1) }, rest)
  | .weekdayName full => do
    let (n, rest) ← scanName weekdayNames full s
    return ({ f with weekday := ← DateFields.agree f.weekday n }, rest)
  | .halfDay => do
    let (afternoon, rest) ← scanHalfDay s
    return ({ f with afternoon := ← DateFields.agree f.afternoon afternoon }, rest)
  | .fraction _ =>
    match s with
    | '.' :: t => do
      let (n, rest) ← scanFraction t
      return ({ f with nanos := ← DateFields.agree f.nanos n }, rest)
    | _ => .ok (f, s)
  | .fractionDigits digits => do
    let (n, rest) ← scanFractionDigits digits s
    return ({ f with nanos := ← DateFields.agree f.nanos n }, rest)
  | .offset _ => do
    let (minutes, rest) ← scanOffset skipColons (trimStart s)
    return ({ f with offset := ← DateFields.agree f.offset minutes }, rest)
  | .unknown => .error .badLayout

end LayoutItem

namespace Layout

/-- Match the items one after the other. -/
def readItems (f : DateFields) (s : List Char) :
    Layout → Except DateTextError (DateFields × List Char)
  | [] => .ok (f, s)
  | item :: rest => do
    let (f, s) ← item.read f s
    readItems f s rest

/-- The fields that a text has by a layout, which must use up the text. -/
def read (layout : Layout) (s : String) : Except DateTextError DateFields := do
  let (f, rest) ← readItems .none s.toList layout
  if rest.isEmpty then return f else throw .tooLong

/-- The date that a text names by a layout. -/
def readDate (layout : Layout) (s : String) : Except DateTextError Date := do
  (← layout.read s).toDate

/-- The time that a text names by a layout. -/
def readTime (layout : Layout) (s : String) : Except DateTextError TimeOfDay := do
  (← layout.read s).toTime

/-- The date-time that a text names by a layout, any offset aside. -/
def readDateTime (layout : Layout) (s : String) : Except DateTextError DateTime := do
  (← layout.read s).toDateTime

/-- The date-time in UTC of the instant that a text names by a layout. -/
def readUtc (layout : Layout) (s : String) : Except DateTextError DateTime := do
  (← layout.read s).toUtc

end Layout

end RegionScan
