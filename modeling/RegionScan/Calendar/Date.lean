/-!
# Calendar Dates

Dates of the Gregorian calendar, extended to all years.

Years are counted astronomically: the year before 1 is 0, and the one before
that is -1. A date is a year, a month and a day that exist together, so a
value of the type is always a day of the calendar. Two other views of a date
matter: the day within its year, and the number of days since 0001-01-01. The
second is what offsets and instants are computed with.

Day numbers become years by whole cycles. Four centuries always have the same
number of days; within them a century, a block of four years and a year are
taken off in turn. The leap day ends each of these units, so the last unit of
a block is the long one, and the quotient is capped to keep its extra day.

## Main definitions

* `isLeapYear`, `monthLengths`: The lengths of a year's months.
* `Date`: A day of the calendar.
* `Date.ofYmd?`, `Date.ofOrdinal?`: The date of a year, month and day, or of a
  year and the day within it.
* `Date.dayNumber`, `Date.ofDayNumber?`: Days counted from 0001-01-01.
* `Date.weekday`: The day of the week.
-/

namespace RegionScan

/-- A year with a leap day. -/
def isLeapYear (year : Int) : Bool :=
  year % 4 == 0 && (year % 100 != 0 || year % 400 == 0)

/-- The lengths of the months, in order. -/
def monthLengths (leap : Bool) : List Nat :=
  [31, if leap then 29 else 28, 31, 30, 31, 30, 31, 31, 30, 31, 30, 31]

/-- The number of days of a month, zero if there is no such month. -/
def daysInMonth (year : Int) (month : Nat) : Nat :=
  match month with
  | 0 => 0
  | m + 1 => ((monthLengths (isLeapYear year))[m]?).getD 0

/-- The number of days of a year. -/
def daysInYear (year : Int) : Nat := if isLeapYear year then 366 else 365

/-- The first year of the calendar. -/
def minYear : Int := -262143

/-- The last year of the calendar. -/
def maxYear : Int := 262142

/-- A day of the calendar. -/
structure Date where
  year : Int
  month : Nat
  day : Nat
  year_mem : minYear ≤ year ∧ year ≤ maxYear
  day_mem : 1 ≤ day ∧ day ≤ daysInMonth year month
  deriving DecidableEq

namespace Date

/-- The date of a year, a month and a day, if there is one. -/
def ofYmd? (year : Int) (month day : Nat) : Option Date :=
  if h : (minYear ≤ year ∧ year ≤ maxYear) ∧ 1 ≤ day ∧ day ≤ daysInMonth year month then
    some ⟨year, month, day, h.1, h.2⟩
  else none

/-- The month and the day, both from zero, of a day counted from the start of
    a run of months. -/
def splitByMonths : List Nat → Nat → Nat × Nat
  | [], n => (0, n)
  | length :: rest, n =>
    if n < length then (0, n)
    else
      let (month, day) := splitByMonths rest (n - length)
      (month + 1, day)

/-- The date of a year and a day within it, counted from one. -/
def ofOrdinal? (year : Int) (ordinal : Nat) : Option Date :=
  match ordinal with
  | 0 => none
  | n + 1 =>
    let (month, day) := splitByMonths (monthLengths (isLeapYear year)) n
    ofYmd? year (month + 1) (day + 1)

/-- The day within the year, counted from one. -/
def ordinal (d : Date) : Nat :=
  ((monthLengths (isLeapYear d.year)).take (d.month - 1)).foldl (· + ·) d.day

/-- The number of days before a year, counted from 0001-01-01. -/
def daysBeforeYear (year : Int) : Int :=
  let y := year - 1
  365 * y + y / 4 - y / 100 + y / 400

/-- The number of days from 0001-01-01 to a date. -/
def dayNumber (d : Date) : Int := daysBeforeYear d.year + d.ordinal - 1

/-- The year that a day number falls into, and the day within that year,
    counted from zero. -/
def yearOfDay (n : Int) : Int × Nat :=
  let cycle := n / 146097
  let inCycle := (n % 146097).toNat
  let century := min 3 (inCycle / 36524)
  let inCentury := inCycle - 36524 * century
  let block := inCentury / 1461
  let inBlock := inCentury % 1461
  let year := min 3 (inBlock / 365)
  (400 * cycle + (100 * century + 4 * block + year + 1 : Nat), inBlock - 365 * year)

/-- The date with a day number, if it lies within the calendar. -/
def ofDayNumber? (n : Int) : Option Date :=
  let (year, day) := yearOfDay n
  ofOrdinal? year (day + 1)

/-- The day of the week, Monday being zero. The calendar starts on a
    Monday. -/
def weekday (d : Date) : Nat := (d.dayNumber % 7).toNat

/-- The day number of 1970-01-01. -/
def unixEpoch : Int := 719162

/-- The date so many days after 1970-01-01. -/
def ofUnixDay? (n : Int) : Option Date := ofDayNumber? (n + unixEpoch)

/-- The number of days since 1970-01-01. -/
def unixDay (d : Date) : Int := d.dayNumber - unixEpoch

end Date

end RegionScan
