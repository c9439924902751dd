import RegionScan.Fixture.Basic
import RegionScan.Json.Record

/-!
# Fixture Documents

Reading fixtures from JSON.

A fixture is a record with the name of the database, the name of the table, the
rows of a region, the columns and the rows; a column is a record with its name,
its type and whether it may be null. The rows of a region, the rows and the
last of a column's members can be left out.

## Main definitions

* `FixtureColumn.reader`, `Fixture.reader`: The readers of the two records.
* `Fixture.ofText`: The fixture that a document describes.
-/

namespace RegionScan

/-- What is known of a column while it is being read. -/
structure ColumnDraft where
  name : Option String
  typeText : Option String
  nullable : Option Bool

/-- The shape of a column. -/
def FixtureColumn.shape : RecordShape ColumnDraft FixtureColumn where
  name := "struct FixtureColumn"
  members :=
    [⟨"name", (·.name.isSome), fun d => Json.readText.into ({ d with name := some · })⟩,
      ⟨"type", (·.typeText.isSome), fun d => Json.readText.into ({ d with typeText := some · })⟩,
      ⟨"nullable", (·.nullable.isSome),
        fun d => Json.readBool.into ({ d with nullable := some · })⟩]
  start := ⟨none, none, none⟩
  finish
    | ⟨none, _, _⟩ => .error 0
    | ⟨_, none, _⟩ => .error 1
    | ⟨some name, some typeText, nullable⟩ => .ok ⟨name, typeText, nullable.getD true⟩

/-- The reader of a column. -/
def FixtureColumn.reader : JsonReader FixtureColumn := FixtureColumn.shape.reader

/-- What is known of a fixture while it is being read. -/
structure FixtureDraft where
  database : Option String
  table : Option String
  rowsPerRegion : Option (Option Nat)
  columns : Option (List FixtureColumn)
  rows : Option (List (List Json))

namespace Fixture

/-- The shape of a fixture. -/
def shape : RecordShape FixtureDraft Fixture where
  name := "struct Fixture"
  members :=
    [⟨"database", (·.database.isSome),
        fun d => Json.readText.into ({ d with database := some · })⟩,
      ⟨"table", (·.table.isSome), fun d => Json.readText.into ({ d with table := some · })⟩,
      ⟨"rows_per_region", (·.rowsPerRegion.isSome),
        fun d => Json.readSize?.into ({ d with rowsPerRegion := some · })⟩,
      ⟨"columns", (·.columns.isSome),
        fun d => (Json.readArray FixtureColumn.reader).into ({ d with columns := some · })⟩,
      ⟨"rows", (·.rows.isSome),
        fun d => (Json.readArray (Json.readArray (Json.readValue .kept))).into
          ({ d with rows := some · })⟩]
  start := ⟨none, none, none, none, none⟩
  finish
    | ⟨none, _, _, _, _⟩ => .error 0
    | ⟨_, none, _, _, _⟩ => .error 1
    | ⟨_, _, _, none, _⟩ => .error 3
    | ⟨some database, some table, rowsPerRegion, some columns, rows⟩ =>
      .ok ⟨database, table, rowsPerRegion.join, columns, rows.getD []⟩

/-- The reader of a fixture. -/
def reader : JsonReader Fixture := shape.reader

/-- The fixture that a document describes. -/
def ofText (text : String) : Except JsonError Fixture := reader.run text

end Fixture

end RegionScan
