import RegionScan.DataType
import RegionScan.Fault
import RegionScan.OrderedMap

/-!
# Versioned Tables

The rows of one table, with all versions they ever had.

Every write of a row adds a version to the row's history, numbered by the
commit that wrote it. A deletion is a version without values. A read at some
version sees, of each row, the newest version that is not younger. Handles stay
in the table once they are used, so the regions of a table and the numbering of
new rows count deleted rows too.

## Main definitions

* `Column`: A column of a table.
* `RowVersion`, `Table`: One version of a row, and the rows of a table.
* `Table.put`, `Table.delete`: Adding a version.
* `visible?`: The values that a reader of a version sees.
* `Table.visibleRows`: The rows of a split that a reader sees.
* `Table.regions`: The table cut into splits.
-/

namespace RegionScan

/-- A column of a table. -/
structure Column where
  name : String
  type : DataType
  /-- The place in a stored row. -/
  ordinal : Nat
  nullable : Bool
  deriving DecidableEq

/-- A stored row. -/
abbrev RawRow := List RawValue

/-- One version of a row. -/
structure RowVersion where
  /-- The packed commit that wrote it. -/
  version : UInt64
  /-- The values, none for a deletion. -/
  values : Option RawRow
  deriving DecidableEq

/-- All versions of a row, the newest first. -/
abbrev History := List RowVersion

/-- The values that a reader of a version sees of a row. -/
def visible? (history : History) (readVersion : UInt64) : Option RawRow :=
  (history.find? fun v => v.version ≤ readVersion).bind (·.values)

/-- The version at which a reader sees everything. -/
def latestVersion : UInt64 := UInt64.ofNat ((1 <<< 64) - 1)

/-- The rows of a table. -/
structure Table where
  /-- The number in the table's keys. -/
  id : UInt64
  columns : List Column
  /-- The histories of the rows, by handle. -/
  rows : OrderedMap Int64 History

namespace Table

/-- A table without rows. -/
def new (id : UInt64) (columns : List Column) : Table := ⟨id, columns, .empty⟩

/-- The number of columns. -/
def width (t : Table) : Nat := t.columns.length

/-- The versions of a row. -/
def history (t : Table) (handle : Int64) : History := (t.rows.find? handle).getD []

/-- Add a version to a row. -/
def addVersion (t : Table) (handle : Int64) (v : RowVersion) : Table :=
  { t with rows := t.rows.insert handle (v :: t.history handle) }

/-- Write a row, which must have a value for each column. -/
def put (t : Table) (handle : Int64) (version : UInt64) (values : RawRow) :
    Except StoreError Table :=
  if values.length = t.width then .ok (t.addVersion handle ⟨version, some values⟩)
  else .error (.requestFailed (.rowWidth values.length t.width))

/-- Delete a row. -/
def delete (t : Table) (handle : Int64) (version : UInt64) : Table :=
  t.addVersion handle ⟨version, none⟩

/-- Whether the newest version of a row has values. -/
def isLive (t : Table) (handle : Int64) : Bool :=
  (t.history handle).head?.any (·.values.isSome)

/-- The number of rows that a reader of a version sees. -/
def rowCount (t : Table) (readVersion : UInt64) : Nat :=
  t.rows.entries.countP fun e => (visible? e.2 readVersion).isSome

/-- The handle behind a handle, the largest one being its own successor. -/
def nextHandle (handle : Int64) : Int64 :=
  if handle = Int64.maxValue then handle else handle + 1

/-- The handle of the next new row: behind the largest one ever used. -/
def freeHandle (t : Table) : Int64 :=
  match t.rows.lastKey? with
  | some handle => nextHandle handle
  | none => 1

/-- Write rows one after the other, from a handle on. A row that cannot be
    written ends it, and the rows before it stay written. -/
def putRows (t : Table) (handle : Int64) (version : UInt64) :
    List RawRow → Table × Except StoreError Unit
  | [] => (t, .ok ())
  | values :: rest =>
    match t.put handle version values with
    | .error e => (t, .error e)
    | .ok t => putRows t (nextHandle handle) version rest

/-- The rows that a reader of a version sees in the range of a split, by
    handle. -/
def visibleRows (t : Table) (split : Split) (readVersion : UInt64) : List (Int64 × RawRow) :=
  t.rows.entries.filterMap fun (handle, history) =>
    if split.contains (.record t.id handle) then
      (visible? history readVersion).map (handle, ·)
    else none

/-- A list cut into pieces of a length, the last one perhaps shorter, from a
    place in a piece on: the first elements of the pieces that start here. -/
def pieceStarts (length room : Nat) : List α → List α
  | [] => []
  | a :: rest =>
    match room with
    | 0 => a :: pieceStarts length (length - 1) rest
    | room + 1 => pieceStarts length room rest

/-- The keys at which the regions of a table start and end. The first region
    starts where the table does, every later one at a row, and the last one
    ends where the table does. -/
def boundaries (t : Table) (rowsPerRegion : Nat) : List Key :=
  let start := Key.tablePrefix t.id
  start :: (pieceStarts rowsPerRegion rowsPerRegion t.rows.keys).map (.record t.id) ++
    [start.successor]

/-- The splits between neighbouring keys, numbered from `index` on. -/
def splitsBetween (t : Table) (name : TableRef) (index : Nat) : List Key → List Split
  | a :: b :: rest =>
    ⟨name, ⟨UInt64.ofNat (t.id.toNat * (1 <<< 32) + index)⟩, a, b⟩ ::
      splitsBetween t name (index + 1) (b :: rest)
  | _ => []

/-- The table cut into splits with so many rows each, deleted ones
    included. -/
def regions (t : Table) (name : TableRef) (rowsPerRegion : Nat) : List Split :=
  t.splitsBetween name 0 (t.boundaries rowsPerRegion)

end Table

end RegionScan
