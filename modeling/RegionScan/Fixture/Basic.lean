import RegionScan.Json.Text
import RegionScan.Store.Basic

/-!
# Fixtures

A table and its rows, as a document describes them.

A fixture names one table, its columns with their types as text, and its rows
as JSON values. Loading it makes a store with that table and nothing else. A
JSON value is stored as the nearest raw value: a truth value as zero or one, a
number as a whole number if it is one, and an array or object as its text.
Types and values are checked against each other only when the table is
scanned.

## Main definitions

* `FixtureColumn`, `Fixture`: What a document says.
* `Json.toRaw`: The raw value that a JSON value is stored as.
* `FixtureError`: Why a fixture cannot be loaded.
* `Fixture.toStore`: The store of a fixture.
-/

namespace RegionScan

/-- One column of a fixture. -/
structure FixtureColumn where
  name : String
  typeText : String
  nullable : Bool
  deriving DecidableEq

/-- A table and its rows. -/
structure Fixture where
  database : String
  table : String
  /-- The rows of a region, none for as many as the store likes. -/
  rowsPerRegion : Option Nat
  columns : List FixtureColumn
  rows : List (List Json)

/-- Why a fixture cannot be loaded. -/
inductive FixtureError where
  | columnType (column : String) (error : TypeTextError)
  | tableRefused (table : TableRef) (error : StoreError)
  | rowWidth (row values columns : Nat)
  | rowsRefused (table : TableRef) (error : StoreError)
  deriving DecidableEq

/-- The wording of the error with all that caused it. -/
def FixtureError.message : FixtureError → String
  | .columnType column e => "Invalid type for column " ++ column ++ ": " ++ e.message
  | .tableRefused table e => "Failed to create table " ++ table.display ++ ": " ++ e.message
  | .rowWidth row values columns => s!"row {row} has {values} values, expected {columns}"
  | .rowsRefused table e => "Failed to load rows into " ++ table.display ++ ": " ++ e.message

/-- The raw value that a JSON value is stored as. -/
def Json.toRaw : Json → RawValue
  | .null => .null
  | .bool b => .int (if b then 1 else 0)
  | .int n => if n < 1 <<< 63 then .int (Int64.ofInt n) else .uint (UInt64.ofNat n.toNat)
  | .double x => .double x
  | .single x => .double x.toDouble
  | .string s => .string s
  | other => .string other.compact

namespace Fixture

/-- The name of the table. -/
def tableRef (f : Fixture) : TableRef := ⟨f.database, f.table⟩

/-- The column at a place. -/
def column (c : FixtureColumn) (ordinal : Nat) : Except FixtureError Column :=
  match DataType.ofText c.typeText with
  | .ok type => .ok ⟨c.name, type, ordinal, c.nullable⟩
  | .error e => .error (.columnType c.name e)

/-- The stored form of a row. -/
def row (width : Nat) (values : List Json) (index : Nat) : Except FixtureError RawRow :=
  if values.length = width then .ok (values.map Json.toRaw)
  else .error (.rowWidth index values.length width)

/-- The store of a fixture, whose clock shows the given time. -/
def toStore (f : Fixture) (now : UInt64) : Except FixtureError Store := do
  let store := Store.new (.wall now)
  let store := (f.rowsPerRegion.map store.withRowsPerRegion).getD store
  let columns ← f.columns.zipIdx.mapM fun (c, i) => column c i
  let (store, created) := store.createTable f.tableRef columns
  created.mapError (.tableRefused f.tableRef)
  let rows ← f.rows.zipIdx.mapM fun (values, i) => row f.columns.length values i
  match store.insertRows f.tableRef rows with
  | (store, .ok _) => return store
  | (_, .error e) => throw (.rowsRefused f.tableRef e)

end Fixture

end RegionScan
