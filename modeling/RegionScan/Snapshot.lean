import RegionScan.Calendar.Writer

/-!
# Snapshots

The points in time at which a store can be read.

A snapshot is a clock reading in milliseconds and a counter that tells apart
what happened within one millisecond. The store numbers its commits with
packed snapshots: the reading above, the counter in the low eighteen bits. So
long as the reading fits the bits that are left, packing keeps the order.

The counter has a word of its own, in which larger numbers would fit. But a
snapshot comes about from its parts, from a reading or from a packed form, and
each of these ways leaves no more than eighteen bits of the counter. So its type
is the range that they leave.

## Main definitions

* `Snapshot`: A clock reading and a counter.
* `Snapshot.version`, `Snapshot.ofVersion`: The packed form and back.
* `Snapshot.checkedOfMillis`: The snapshot of a reading that fits.
* `Snapshot.rfc3339?`: The reading as a date-time.
-/

namespace RegionScan

/-- The number of values of the counter. -/
def logicalRange : Nat := 1 <<< 18

/-- The largest counter. -/
def maxLogical : Nat := logicalRange - 1

/-- The largest reading that the packed form has room for. -/
def maxPhysical : Nat := (1 <<< 46) - 1

/-- A point in time to read at. The counter is below `logicalRange`, because
    whatever makes a snapshot keeps the low bits of the counter only. -/
structure Snapshot where
  /-- Milliseconds since 1970. -/
  physical : UInt64
  /-- Counts what happens within one millisecond. -/
  logical : Fin logicalRange
  deriving DecidableEq

namespace Snapshot

/-- Snapshots are ordered by reading, then by counter. -/
instance : Ord Snapshot := ⟨compareLex (compareOn (·.physical)) (compareOn (·.logical))⟩

/-- The epoch. -/
def zero : Snapshot := ⟨0, 0, by decide⟩

/-- A snapshot of a reading and a counter, of which the low eighteen bits are
    kept. -/
def ofParts (physical : UInt64) (logical : Nat) : Snapshot :=
  ⟨physical, logical % logicalRange, Nat.mod_lt _ (by decide)⟩

/-- The snapshot at a reading. -/
def ofMillis (physical : UInt64) : Snapshot := ofParts physical 0

/-- The snapshot at a reading, if it fits the packed form. -/
def checkedOfMillis (physical : UInt64) : Option Snapshot :=
  if physical.toNat ≤ maxPhysical then some (ofMillis physical) else none

/-- The packed form. High bits of a reading that does not fit are lost. -/
def version (s : Snapshot) : UInt64 :=
  UInt64.ofNat (s.physical.toNat * logicalRange + s.logical.val)

/-- The snapshot with a packed form. -/
def ofVersion (v : UInt64) : Snapshot :=
  ofParts (UInt64.ofNat (v.toNat / logicalRange)) v.toNat

/-- The reading as a UTC date-time to the millisecond, if the calendar reaches
    it. -/
def rfc3339? (s : Snapshot) : Option String := do
  let t ← DateTime.ofUnixMillis? s.physical.toNat
  (Layout.ofText "%Y-%m-%dT%H:%M:%S%.3fZ".toList).write? t

/-- The reading and the counter with a point between them. -/
def display (s : Snapshot) : String := toString s.physical.toNat ++ "." ++ toString s.logical.val

/-- The two parts for a reader of a log. -/
def debug (s : Snapshot) : String :=
  "SnapshotTimestamp(" ++ toString s.physical.toNat ++ "ms." ++ toString s.logical.val ++ ")"

end Snapshot

end RegionScan
