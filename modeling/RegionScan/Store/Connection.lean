import RegionScan.Store.Basic

/-!
# Connections and Cursors

How a store is read.

A connection answers questions about tables and opens cursors until it is
closed. A cursor reads the rows of one split: what it will give is settled when
it is opened, so later writes do not change it. It stands before the first row
at first, is moved row by row, and gives the values of the row it stands on.

Closing counts, and whatever is closed twice is refused. A close that the store
is told to fail has happened all the same.

## Main definitions

* `Connection`, `ScanRequest`, `Cursor`: The parts of a read.
* `Store.connect`, `Connection.close`: The life of a connection.
* `Connection.openCursor`: The rows of a split, filtered and projected.
* `Cursor.advance`, `Cursor.value`, `Cursor.close`: The life of a cursor.
-/

namespace RegionScan

/-- A connection to a store. -/
structure Connection where
  isClosed : Bool
  deriving DecidableEq

/-- What a cursor is asked for. -/
structure ScanRequest where
  split : Split
  columns : List Column
  filter : Option Filter
  /-- The read point, none for the latest data. -/
  snapshot : Option Snapshot
  /-- The largest number of rows. -/
  limit : UInt32

/-- A reader of the rows of a split. -/
structure Cursor where
  region : RegionId
  rows : List RawRow
  /-- The row it stands on; none before the first row, and the number of rows
      behind the last. -/
  position : Option Nat
  /-- The number of rows it has moved to. -/
  yielded : Nat
  isClosed : Bool
  deriving DecidableEq

namespace Store

/-- Connect to a store. -/
def connect (s : Store) : Except StoreError Connection × Store :=
  if s.isArmed .connect then (.error (.connectionFailed "injected fault"), s)
  else
    let usage := { s.usage with connectionsOpened := s.usage.connectionsOpened + 1 }
    (.ok ⟨false⟩, { s with usage })

end Store

namespace Connection

/-- Refuse what is asked of a closed connection, or what the store is told to
    fail. -/
def guard (c : Connection) (s : Store) (fault : FaultPoint) (request : RequestFault) :
    Except StoreError Unit :=
  if c.isClosed then .error .connectionClosed
  else if s.isArmed fault then .error (.requestFailed request)
  else .ok ()

/-- Whether there is a table of a name. -/
def tableExists (c : Connection) (s : Store) (name : TableRef) : Except StoreError Bool :=
  if c.isClosed then .error .connectionClosed else .ok (s.tables.contains name)

/-- The columns of a table. -/
def listColumns (c : Connection) (s : Store) (name : TableRef) :
    Except StoreError (List Column) := do
  c.guard s .listColumns .listingColumns
  return (← s.table name).columns

/-- The splits of a table. -/
def planSplits (c : Connection) (s : Store) (name : TableRef) :
    Except StoreError (List Split) := do
  c.guard s .planSplits .planningSplits
  return (← s.table name).regions name s.rowsPerRegion

/-- The values of a row that a request asks for. -/
def project (columns : List Column) (row : RawRow) : RawRow :=
  columns.map fun c => row[c.ordinal]?.getD .null

/-- The rows that pass a filter, projected, up to a limit. Rows behind the
    limit are not looked at. -/
def selectRows (columns : List Column) (filter : Option Filter) :
    Nat → List RawRow → Except StoreError (List RawRow)
  | 0, _ => .ok []
  | _, [] => .ok []
  | limit + 1, row :: rest =>
    match filter with
    | none => (selectRows columns filter limit rest).map (project columns row :: ·)
    | some f =>
      match f.accepts row with
      | .error fault => .error (.invalidFilter fault)
      | .ok true => (selectRows columns filter limit rest).map (project columns row :: ·)
      | .ok false => selectRows columns filter (limit + 1) rest

/-- The version that a request reads at. -/
def readVersion (snapshot : Option Snapshot) : UInt64 :=
  match snapshot with
  | some p => p.version
  | none => latestVersion

/-- The rows that a request asks for. -/
def readRows (c : Connection) (s : Store) (r : ScanRequest) :
    Except StoreError (List RawRow) := do
  c.guard s .openCursor .openingCursor
  let t ← s.table r.split.table
  match r.columns.find? fun column => t.width ≤ column.ordinal with
  | some column => throw (.columnOutOfRange column.ordinal t.width)
  | none =>
    let rows := t.visibleRows r.split (readVersion r.snapshot)
    selectRows r.columns r.filter r.limit.toNat (rows.map (·.2))

/-- Open a cursor. -/
def openCursor (c : Connection) (s : Store) (r : ScanRequest) :
    Except StoreError Cursor × Store :=
  match c.readRows s r with
  | .error e => (.error e, s)
  | .ok rows =>
    let usage := { s.usage with cursorsOpened := s.usage.cursorsOpened + 1 }
    (.ok ⟨r.split.region, rows, none, 0, false⟩, { s with usage })

/-- Close a connection. -/
def close (c : Connection) (s : Store) : Except StoreError Unit × Connection × Store :=
  if c.isClosed then
    let usage := { s.usage with closesRefused := s.usage.closesRefused + 1 }
    (.error .connectionClosed, c, { s with usage })
  else
    let usage := { s.usage with connectionsClosed := s.usage.connectionsClosed + 1 }
    let answer :=
      if s.isArmed .closeConnection then .error (.requestFailed .closingConnection) else .ok ()
    (answer, ⟨true⟩, { s with usage })

end Connection

namespace Cursor

/-- Move to the next row, and say whether there is one. -/
def advance (c : Cursor) (s : Store) : Except StoreError Bool × Cursor :=
  if c.isClosed then (.error .cursorClosed, c)
  else if s.advanceLimit? = some c.yielded then
    (.error (.requestFailed (.advancing c.region c.yielded)), c)
  else
    let next :=
      match c.position with
      | none => 0
      | some p => p + 1
    if next < c.rows.length then
      (.ok true, { c with position := some next, yielded := c.yielded + 1 })
    else (.ok false, { c with position := some c.rows.length })

/-- The row that a cursor stands on. -/
def current? (c : Cursor) : Option RawRow := c.position.bind fun p => c.rows[p]?

/-- A value of the row that a cursor stands on. -/
def value (c : Cursor) (index : Nat) : Except StoreError RawValue :=
  if c.isClosed then .error .cursorClosed
  else
    match c.current? with
    | none => .error .notPositioned
    | some row =>
      match row[index]? with
      | some v => .ok v
      | none => .error (.columnOutOfRange index row.length)

/-- Close a cursor, which drops its rows. -/
def close (c : Cursor) (s : Store) : Except StoreError Unit × Cursor × Store :=
  if c.isClosed then
    let usage := { s.usage with closesRefused := s.usage.closesRefused + 1 }
    (.error .cursorClosed, c, { s with usage })
  else
    let usage := { s.usage with cursorsClosed := s.usage.cursorsClosed + 1 }
    let answer :=
      if s.isArmed .closeCursor then .error (.requestFailed (.closingCursor c.region)) else .ok ()
    (answer, { c with isClosed := true, rows := [] }, { s with usage })

end Cursor

end RegionScan
