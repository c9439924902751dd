import RegionScan.Snapshot
import RegionScan.Store.Table

/-!
# The Store

An in-memory store of versioned tables.

The store is a value: every operation takes a store and gives the store after
it. It holds the tables, a clock, the last commit, the faults it has been told
to show, and counts of the connections and cursors it has opened and closed.

Every write commits at a snapshot of its own, later than all before it. If the
clock has not moved past the last commit, the counter tells the two apart, and
a full counter carries into the milliseconds.

A write that is refused may have taken its snapshot already, so operations
that can fail give the store as well as the answer.

## Main definitions

* `Clock`, `FaultPoint`, `Usage`: The parts of a store besides its tables.
* `Store`: The store.
* `Store.nextCommit`: The snapshot of the next commit.
* `Store.createTable`, `Store.insertRows`, `Store.upsert`, `Store.delete`:
  Writing.
-/

namespace RegionScan

/-- Where a store takes the time from. -/
inductive Clock where
  /-- A clock that moves only when it is told to. -/
  | manual (now : UInt64)
  /-- The last reading of the wall clock. -/
  | wall (now : UInt64)
  deriving DecidableEq

namespace Clock

/-- The reading of a clock in milliseconds. -/
def now : Clock → UInt64
  | .manual t => t
  | .wall t => t

/-- A clock moved on. The wall clock moves by itself. -/
def advance (millis : UInt64) : Clock → Clock
  | .manual t => .manual (t + millis)
  | .wall t => .wall t

end Clock

/-- The places at which a store can be told to fail. -/
inductive FaultPoint where
  | connect
  | listColumns
  | planSplits
  | openCursor
  | advanceAfter (rows : Nat)
  | closeCursor
  | closeConnection
  deriving DecidableEq

/-- How many connections and cursors were opened and closed. -/
structure Usage where
  connectionsOpened : Nat
  connectionsClosed : Nat
  cursorsOpened : Nat
  cursorsClosed : Nat
  /-- How often a connection or a cursor was to be closed that was closed
      already. Nothing asks for this number; it is kept to say that engines
      never do so. -/
  closesRefused : Nat
  deriving DecidableEq

namespace Usage

/-- Nothing opened or closed. -/
def none : Usage := ⟨0, 0, 0, 0, 0⟩

/-- The number of open connections. -/
def openConnections (u : Usage) : Nat := u.connectionsOpened - u.connectionsClosed

/-- The number of open cursors. -/
def openCursors (u : Usage) : Nat := u.cursorsOpened - u.cursorsClosed

end Usage

/-- The rows of a region of a store that is not told otherwise. -/
def defaultRowsPerRegion : Nat := 1024

/-- A store of versioned tables. -/
structure Store where
  tables : OrderedMap TableRef Table
  nextTableId : UInt64
  rowsPerRegion : Nat
  clock : Clock
  lastCommit : Snapshot
  /-- The places where the store is to fail, each of them once. The order means
      nothing and may change at any time. -/
  faults : List FaultPoint
  usage : Usage
  rowsPerRegion_pos : 0 < rowsPerRegion

namespace Store

/-- A store without tables. -/
def new (clock : Clock) : Store :=
  ⟨.empty, 1, defaultRowsPerRegion, clock, .zero, [], .none, by decide⟩

/-- The store with another size of regions, which is at least one row. -/
def withRowsPerRegion (s : Store) (n : Nat) : Store :=
  { s with rowsPerRegion := max n 1, rowsPerRegion_pos := by omega }

/-- The store with its clock moved on. -/
def advanceClock (s : Store) (millis : UInt64) : Store :=
  { s with clock := s.clock.advance millis }

/-- The reading of the store's clock. -/
def now (s : Store) : UInt64 := s.clock.now

/-- Make the store fail at a place from now on. -/
def inject (s : Store) (fault : FaultPoint) : Store :=
  if s.faults.contains fault then s else { s with faults := s.faults ++ [fault] }

/-- Put the places where the store is to fail in another order. -/
def reorderFaults (s : Store) (order : List FaultPoint) : Store :=
  if order.isPerm s.faults then { s with faults := order } else s

/-- Make the store work again. -/
def clearFaults (s : Store) : Store := { s with faults := [] }

/-- Whether the store is to fail at a place. -/
def isArmed (s : Store) (fault : FaultPoint) : Bool := s.faults.contains fault

/-- The number of rows after which the store is to fail a cursor. If it was
    told several, it is any one of them, as `reorderFaults` may bring any of
    them to the front. -/
def advanceLimit? (s : Store) : Option Nat :=
  s.faults.findSome? fun
    | .advanceAfter rows => some rows
    | _ => none

/-- The snapshot of the next commit. -/
def nextCommit (s : Store) : Snapshot :=
  let last := s.lastCommit
  if last.physical < s.now then .ofParts s.now 0
  else if last.logical.val = maxLogical then .ofParts (last.physical + 1) 0
  else .ofParts last.physical (last.logical.val + 1)

/-- The store after it has taken the snapshot of the next commit. -/
def commit (s : Store) : Store := { s with lastCommit := s.nextCommit }

/-- The table with a name. -/
def table (s : Store) (name : TableRef) : Except StoreError Table :=
  match s.tables.find? name with
  | some t => .ok t
  | none => .error (.tableNotFound name)

/-- The store with a table put in the place of the one of that name. -/
def withTable (s : Store) (name : TableRef) (t : Table) : Store :=
  { s with tables := s.tables.insert name t }

/-- Number columns by their places. -/
def numberColumns (columns : List Column) : List Column :=
  columns.mapIdx fun i c => { c with ordinal := i }

/-- Create a table. Its columns are numbered by their places. -/
def createTable (s : Store) (name : TableRef) (columns : List Column) :
    Store × Except StoreError Unit :=
  if s.tables.contains name then (s, .error (.requestFailed (.tableExists name)))
  else
    let t := Table.new s.nextTableId (numberColumns columns)
    ({ s.withTable name t with nextTableId := s.nextTableId + 1 }, .ok ())

/-- Write new rows behind all rows of a table. -/
def insertRows (s : Store) (name : TableRef) (rows : List RawRow) :
    Store × Except StoreError Snapshot :=
  match s.table name with
  | .error e => (s, .error e)
  | .ok t =>
    let (t, result) := t.putRows t.freeHandle s.nextCommit.version rows
    (s.commit.withTable name t, result.map fun _ => s.nextCommit)

/-- Write one row, new or not. -/
def upsert (s : Store) (name : TableRef) (handle : Int64) (values : RawRow) :
    Store × Except StoreError Snapshot :=
  match s.table name with
  | .error e => (s, .error e)
  | .ok t =>
    match t.put handle s.nextCommit.version values with
    | .error e => (s.commit, .error e)
    | .ok t => (s.commit.withTable name t, .ok s.nextCommit)

/-- Delete a row. Without a live row there is no commit. -/
def delete (s : Store) (name : TableRef) (handle : Int64) :
    Store × Except StoreError (Option Snapshot) :=
  match s.table name with
  | .error e => (s, .error e)
  | .ok t =>
    if t.isLive handle then
      (s.commit.withTable name (t.delete handle s.nextCommit.version), .ok (some s.nextCommit))
    else (s, .ok none)

/-- The number of live rows of a table. -/
def rowCount (s : Store) (name : TableRef) : Except StoreError Nat :=
  (s.table name).map fun t => t.rowCount latestVersion

end Store

end RegionScan
