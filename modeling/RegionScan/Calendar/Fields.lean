import RegionScan.Calendar.DateTime

/-!
# Fields of a Date-Time

What has been read of a date-time so far, and what it adds up to.

A text gives the fields of a date-time one by one, perhaps some of them twice
and perhaps not enough of them. `DateFields` collects them. A field may be
given again only with the value it has. Once the text is read, the fields are
resolved: a date needs the year and either the month and day or the day of the
year, and every other field must agree with the date found. A time needs the
half of the day, the hour within it and the minute.

## Main definitions

* `DateTextError`: Why a text is no date-time of a layout.
* `DateFields`: The fields read so far.
* `DateFields.toDate`, `DateFields.toTime`: The date and the time they add
  up to.
* `DateFields.toDateTime`: Both, the date's failure first.
* `DateFields.toUtc`: The UTC date-time, which needs an offset.
-/

namespace RegionScan

/-- Why a text is no date-time of a layout. -/
inductive DateTextError where
  | outOfRange
  | impossible
  | notEnough
  | invalid
  | tooShort
  | tooLong
  | badLayout
  deriving DecidableEq, Repr

/-- The wording of the failure. -/
def DateTextError.message : DateTextError → String
  | .outOfRange => "input is out of range"
  | .impossible => "no possible date and time matching input"
  | .notEnough => "input is not enough for unique date and time"
  | .invalid => "input contains invalid characters"
  | .tooShort => "premature end of input"
  | .tooLong => "trailing input"
  | .badLayout => "bad or unsupported format string"

/-- The fields of a date-time read so far. -/
structure DateFields where
  year : Option Int
  yearOfCentury : Option Nat
  month : Option Nat
  day : Option Nat
  dayOfYear : Option Nat
  /-- Monday being zero. -/
  weekday : Option Nat
  afternoon : Option Bool
  /-- The hour within the half of the day, noon and midnight being zero. -/
  hourOfHalfDay : Option Nat
  minute : Option Nat
  second : Option Nat
  nanos : Option Nat
  /-- Minutes east of UTC. -/
  offset : Option Int

namespace DateFields

/-- No field read. -/
def none : DateFields :=
  ⟨.none, .none, .none, .none, .none, .none, .none, .none, .none, .none, .none, .none⟩

/-- A field given a value: it must be the value it has, if it has one. -/
def agree [DecidableEq α] (known : Option α) (given : α) : Except DateTextError (Option α) :=
  match known with
  | .none => .ok (some given)
  | some v => if v = given then .ok known else .error .impossible

/-- The year that the full year and the year of the century give together.
    A year of the century alone means 1970 to 2069. -/
def resolveYear (f : DateFields) : Except DateTextError (Option Int) :=
  match f.year, f.yearOfCentury with
  | y, .none => .ok y
  | some y, some r =>
    if 0 ≤ y ∧ y % 100 = (r : Int) then .ok (some y) else .error .impossible
  | .none, some r => .ok (some ((r : Int) + if r < 70 then 2000 else 1900))

/-- Whether a field that was given has the value it should have. -/
def fits [DecidableEq α] (given : Option α) (value : α) : Bool :=
  match given with
  | .none => true
  | some v => decide (v = value)

/-- Whether the year, month and day that were given are those of a date. -/
def fitsYmd (f : DateFields) (d : Date) : Bool :=
  fits f.year d.year && fits f.month d.month && fits f.day d.day &&
    (f.yearOfCentury.isNone ||
      (decide (0 ≤ d.year) && fits f.yearOfCentury (d.year % 100).toNat))

/-- The date the fields add up to. -/
def toDate (f : DateFields) : Except DateTextError Date := do
  let known ← f.resolveYear
  let (date, verified) ←
    match known, f.month, f.day, f.dayOfYear with
    | some year, some month, some day, _ =>
      match Date.ofYmd? year month day with
      | some d => .ok (d, fits f.weekday d.weekday && fits f.dayOfYear d.ordinal)
      | .none => .error .outOfRange
    | some year, _, _, some ordinal =>
      match Date.ofOrdinal? year ordinal with
      | some d => .ok (d, f.fitsYmd d && fits f.weekday d.weekday)
      | .none => .error .outOfRange
    | _, _, _, _ => .error .notEnough
  if verified then .ok date else .error .impossible

/-- The time the fields add up to. Second 60 is the leap second behind
    second 59, and a fraction needs a second. -/
def toTime (f : DateFields) : Except DateTextError TimeOfDay :=
  match f.afternoon, f.hourOfHalfDay, f.minute with
  | some afternoon, some hour, some minute =>
    let (second, leap) :=
      match f.second with
      | .none => (0, 0)
      | some s => if s = 60 then (59, nanosPerSecond) else (s, 0)
    match f.second, f.nanos with
    | .none, some _ => .error .notEnough
    | _, nanos =>
      match TimeOfDay.ofHms? ((if afternoon then 12 else 0) + hour) minute second
          (leap + nanos.getD 0) with
      | some t => .ok t
      | .none => .error .outOfRange
  | _, _, _ => .error .notEnough

/-- The date and the time the fields add up to. -/
def toDateTime (f : DateFields) : Except DateTextError DateTime :=
  match f.toDate, f.toTime with
  | .error e, _ => .error e
  | _, .error e => .error e
  | .ok date, .ok time => .ok ⟨date, time⟩

/-- The date-time in UTC of a local one at an offset below a day. -/
def applyOffset (t : DateTime) (minutes : Int) : Except DateTextError DateTime :=
  if minutes.natAbs < 1440 then
    match t.minusOffset? minutes with
    | some utc => .ok utc
    | .none => .error .impossible
  else .error .outOfRange

/-- The date-time in UTC that the fields add up to. -/
def toUtc (f : DateFields) : Except DateTextError DateTime :=
  match f.offset with
  | .none => .error .notEnough
  | some minutes => do
    let t ← f.toDateTime
    applyOffset t minutes

end DateFields

end RegionScan
