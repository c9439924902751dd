import RegionScan.Calendar.Date

/-!
# Times of Day and Date-Times

A time of day is a second of the day and a number of nanoseconds. A leap
second has no second number of its own: it is the second 59 of its minute with
a billion nanoseconds and more. The type admits such a time only there.

A date-time is a date and a time, without a zone. Read at an offset from UTC it
names an instant, and taking the offset off gives the date-time of that instant
in UTC. Offsets are whole minutes, so they leave seconds and fractions alone.

## Main definitions

* `TimeOfDay`: A time within a day.
* `DateTime`: A date and a time.
* `DateTime.minusOffset?`: The UTC date-time of a local one.
* `DateTime.unixMillis`: The milliseconds since 1970.
* `DateTime.ofUnixMicros?`: The date-time of an instant.
-/

namespace RegionScan

/-- The number of seconds of a day. -/
def secondsPerDay : Nat := 86400

/-- The number of nanoseconds of a second. -/
def nanosPerSecond : Nat := 1000000000

/-- A time within a day. -/
structure TimeOfDay where
  /-- The second of the day, from zero. -/
  seconds : Nat
  /-- The nanoseconds since that second, a billion and more in a leap
      second. -/
  nanos : Nat
  seconds_lt : seconds < secondsPerDay
  nanos_lt : nanos < 2 * nanosPerSecond
  leap_second : nanosPerSecond ≤ nanos → seconds % 60 = 59
  deriving DecidableEq

namespace TimeOfDay

/-- The start of the day. -/
def midnight : TimeOfDay := ⟨0, 0, by decide, by decide, by decide⟩

/-- The time of a second of the day and of nanoseconds, if there is one. -/
def ofSeconds? (seconds nanos : Nat) : Option TimeOfDay :=
  if h : seconds < secondsPerDay ∧ nanos < 2 * nanosPerSecond ∧
      (nanosPerSecond ≤ nanos → seconds % 60 = 59) then
    some ⟨seconds, nanos, h.1, h.2.1, h.2.2⟩
  else none

/-- The time of an hour, a minute, a second and nanoseconds. -/
def ofHms? (hour minute second nanos : Nat) : Option TimeOfDay :=
  if hour < 24 ∧ minute < 60 ∧ second < 60 then
    ofSeconds? (3600 * hour + 60 * minute + second) nanos
  else none

/-- The hour of the day. -/
def hour (t : TimeOfDay) : Nat := t.seconds / 3600

/-- The minute of the hour. -/
def minute (t : TimeOfDay) : Nat := t.seconds / 60 % 60

/-- The second of the minute as a clock shows it, 60 in a leap second. -/
def second (t : TimeOfDay) : Nat := t.seconds % 60 + t.nanos / nanosPerSecond

/-- The nanoseconds since the second shown began. -/
def fraction (t : TimeOfDay) : Nat := t.nanos % nanosPerSecond

/-- The time so many microseconds after midnight, within the day. -/
def ofMicros? (micros : Int) : Option TimeOfDay :=
  if 0 ≤ micros ∧ micros < 86400000000 then
    ofSeconds? (micros.toNat / 1000000) (micros.toNat % 1000000 * 1000)
  else none

end TimeOfDay

/-- A date and a time of day, without a zone. -/
structure DateTime where
  date : Date
  time : TimeOfDay
  deriving DecidableEq

namespace DateTime

/-- The start of a date. -/
def midnight (d : Date) : DateTime := ⟨d, .midnight⟩

/-- Seconds since 1970-01-01T00:00:00, leap seconds aside. -/
def unixSeconds (t : DateTime) : Int :=
  t.date.unixDay * (secondsPerDay : Int) + (t.time.seconds : Int)

/-- Milliseconds since 1970-01-01T00:00:00, rounded down. -/
def unixMillis (t : DateTime) : Int := t.unixSeconds * 1000 + (t.time.nanos / 1000000 : Nat)

/-- The date-time so many seconds and nanoseconds after the epoch. -/
def ofUnix? (seconds : Int) (nanos : Nat) : Option DateTime := do
  let date ← Date.ofUnixDay? (seconds / (secondsPerDay : Int))
  let time ← TimeOfDay.ofSeconds? (seconds % (secondsPerDay : Int)).toNat nanos
  return ⟨date, time⟩

/-- The date-time so many microseconds after the epoch. -/
def ofUnixMicros? (micros : Int) : Option DateTime :=
  ofUnix? (micros / 1000000) ((micros % 1000000).toNat * 1000)

/-- The date-time so many milliseconds after the epoch. -/
def ofUnixMillis? (millis : Int) : Option DateTime :=
  ofUnix? (millis / 1000) ((millis % 1000).toNat * 1000000)

/-- The date-time in UTC of a local one, at an offset in minutes east. -/
def minusOffset? (t : DateTime) (minutes : Int) : Option DateTime :=
  ofUnix? (t.unixSeconds - 60 * minutes) t.time.nanos

end DateTime

end RegionScan
