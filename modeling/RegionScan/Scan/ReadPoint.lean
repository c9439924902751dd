import RegionScan.Calendar.Rfc3339
import RegionScan.Snapshot

/-!
# Read Points

The point in time that a scan is configured to read at.

It is given as a date-time with an offset, perhaps followed by the name of a
zone in brackets, which is not looked at. The seconds may be left out. A blank
text asks for the latest data. The instant must be one that a packed snapshot
has room for; its counter is zero.

## Main definitions

* `ReadPointFault`: Why a text names no read point.
* `readPoint`: The snapshot that a text names.
-/

namespace RegionScan

/-- Why a text names no read point. -/
inductive ReadPointFault where
  | unterminatedZone
  | notInstant (error : DateTextError)
  | beforeEpoch
  | beyondRange
  deriving DecidableEq

/-- The wording of the fault. -/
def ReadPointFault.message : ReadPointFault → String
  | .unterminatedZone => "unterminated zone name"
  | .notInstant error => error.message
  | .beforeEpoch => "instant precedes the Unix epoch"
  | .beyondRange => "instant exceeds the representable range"

namespace ReadPoint

/-- The layout of an instant without seconds. -/
def minuteLayout : Layout := Layout.ofText "%Y-%m-%dT%H:%M%:z".toList

/-- The text in front of a zone name in brackets. -/
def withoutZone (s : List Char) : Except ReadPointFault (List Char) :=
  if s.contains '[' then
    if s.getLast? = some ']' then .ok (s.takeWhile (· ≠ '[')) else .error .unterminatedZone
  else .ok s

/-- The UTC date-time of the instant that a text names, with or without
    seconds. -/
def readInstant (s : String) : Except ReadPointFault DateTime :=
  match readRfc3339 s with
  | .ok t => .ok t
  | .error e =>
    match minuteLayout.readUtc s with
    | .ok t => .ok t
    | .error _ => .error (.notInstant e)

/-- The snapshot at an instant. -/
def ofInstant (t : DateTime) : Except ReadPointFault Snapshot :=
  let millis := t.unixMillis
  if millis < 0 then .error .beforeEpoch
  else
    match Snapshot.checkedOfMillis (UInt64.ofNat millis.toNat) with
    | some s => .ok s
    | none => .error .beyondRange

end ReadPoint

open ReadPoint in
/-- The snapshot that a trimmed text names. -/
def readPoint (s : String) : Except ReadPointFault Snapshot := do
  let plain ← withoutZone s.toList
  ofInstant (← readInstant (String.ofList plain))

end RegionScan
