import RegionScan.Scan.Error
import RegionScan.Store.Connection

/-!
# Split Cursors

The reader of one split of a scan.

A split cursor owns a cursor of the store and closes it at most once. It counts
the rows it has moved to, and names its split in every error. Once it is closed
it has no more rows.

## Main definitions

* `SplitCursor`: The reader of a split.
* `SplitCursor.ofRequest`: A reader over a connection.
* `SplitCursor.advance`, `SplitCursor.value`, `SplitCursor.close`: Its life.
-/

namespace RegionScan

/-- The reader of one split. -/
structure SplitCursor where
  /-- The number of the split. -/
  split : Nat
  /-- The store's cursor, none once it is closed. -/
  inner : Option Cursor
  /-- The number of rows it has moved to. -/
  rows : Nat
  deriving DecidableEq

namespace SplitCursor

/-- Open a reader over a connection. -/
def ofRequest (c : Connection) (s : Store) (split : Nat) (r : ScanRequest) :
    Except ScanError SplitCursor × Store :=
  match c.openCursor s r with
  | (.error e, s) => (.error (.cursor split e), s)
  | (.ok cursor, s) => (.ok ⟨split, some cursor, 0⟩, s)

/-- Whether the store's cursor is still open. -/
def isOpen (c : SplitCursor) : Bool := c.inner.isSome

/-- Move to the next row, and say whether there is one. -/
def advance (c : SplitCursor) (s : Store) : Except ScanError Bool × SplitCursor :=
  match c.inner with
  | none => (.ok false, c)
  | some inner =>
    match inner.advance s with
    | (.error e, inner) => (.error (.cursor c.split e), { c with inner := some inner })
    | (.ok moved, inner) =>
      (.ok moved, { c with inner := some inner, rows := if moved then c.rows + 1 else c.rows })

/-- A value of the row it stands on. -/
def value (c : SplitCursor) (index : Nat) : Except ScanError RawValue :=
  match c.inner with
  | none => .error (.noMoreRows c.split)
  | some inner => (inner.value index).mapError (.cursor c.split)

/-- Close the store's cursor, if it is open. A failure to close it is not
    reported. -/
def close (c : SplitCursor) (s : Store) : SplitCursor × Store :=
  match c.inner with
  | none => (c, s)
  | some inner => ({ c with inner := none }, (inner.close s).2.2)

/-- The number of rows of the split that are held ready. -/
def bufferedRows (c : SplitCursor) : Nat := (c.inner.map fun i => i.rows.length).getD 0

end SplitCursor

end RegionScan
