import RegionScan.Calendar.Reader

/-!
# RFC 3339

Instants in the internet's date-time form, `2021-05-01T08:00:00.25+08:00`.

The form is fixed up to the seconds: nineteen characters with a separator at
each known place. Behind them comes a fraction, if there is one, and the
offset, where `Z` stands for UTC. A text is checked from left to right, and a
day that does not exist is reported before anything behind it is looked at.

## Main definitions

* `readRfc3339`: The UTC date-time of the instant that a text names.
-/

namespace RegionScan

namespace Rfc3339

/-- One of some separators at the front of a text. -/
def separator (allowed : List Char) : List Char → Except DateTextError (List Char)
  | [] => .error .tooShort
  | c :: rest => if allowed.contains c then .ok rest else .error .invalid

/-- Two digits at the front of a text that is long enough. -/
def twoDigits (s : List Char) : Except DateTextError (Nat × List Char) :=
  match s with
  | a :: b :: rest => if a.isDigit ∧ b.isDigit then .ok (digitsValue [a, b], rest) else .error .invalid
  | _ => .error .invalid

/-- The date at the front of a text. -/
def scanDate (s : List Char) : Except DateTextError (Date × List Char) := do
  let (century, s) ← twoDigits s
  let (year, s) ← twoDigits s
  let s ← separator ['-'] s
  let (month, s) ← twoDigits s
  let s ← separator ['-'] s
  let (day, s) ← twoDigits s
  match Date.ofYmd? (100 * century + year : Nat) month day with
  | some date => return (date, s)
  | none => throw .outOfRange

/-- The time at the front of a text, with its fraction. -/
def scanTime (s : List Char) : Except DateTextError (TimeOfDay × List Char) := do
  let (hour, s) ← twoDigits s
  let s ← separator [':'] s
  let (minute, s) ← twoDigits s
  let s ← separator [':'] s
  let (second, s) ← twoDigits s
  let (nanos, s) ←
    match s with
    | '.' :: t => scanFraction t
    | _ => .ok (0, s)
  let (second, leap) := if second = 60 then (59, nanosPerSecond) else (second, 0)
  match TimeOfDay.ofHms? hour minute second (leap + nanos) with
  | some time => return (time, s)
  | none => throw .outOfRange

/-- The offset at the front of a text, in minutes. -/
def scanZone (s : List Char) : Except DateTextError (Int × List Char) :=
  match s with
  | 'Z' :: rest => .ok (0, rest)
  | 'z' :: rest => .ok (0, rest)
  | _ => scanOffset (separator [':']) s

end Rfc3339

/-- The UTC date-time of the instant that a text names. -/
def readRfc3339 (text : String) : Except DateTextError DateTime := do
  let s := text.toList
  if byteLength s < 19 then throw .tooShort
  let (date, s) ← Rfc3339.scanDate s
  let s ← Rfc3339.separator ['T', 't', ' '] s
  let (time, s) ← Rfc3339.scanTime s
  let (minutes, s) ← Rfc3339.scanZone s
  if !s.isEmpty then throw .tooLong
  DateFields.applyOffset ⟨date, time⟩ minutes

end RegionScan
