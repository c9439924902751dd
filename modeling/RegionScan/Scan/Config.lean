import RegionScan.OrderedMap
import RegionScan.Scan.Error

/-!
# Scan Configuration

The properties of a scan, checked once.

A scan is configured by properties, pairs of a key and a value. Two are
required: the database and the table. The read point and the date-time patterns
of fields are optional. All properties are passed on to the store as they
came.

## Main definitions

* `Properties`: Keys and values, ordered by key.
* `ScanConfig`: What the properties say.
* `ScanConfig.ofProperties`: The configuration that properties spell.
-/

namespace RegionScan

/-- Keys and values, ordered by key. -/
abbrev Properties := OrderedMap String String

/-- The key of the database that owns the table. -/
def databaseKey : String := "database-name"

/-- The key of the table. -/
def tableKey : String := "table-name"

/-- The key of the read point. -/
def snapshotKey : String := "snapshot-timestamp"

/-- The beginning of the keys of fields' patterns. -/
def patternKeyStart : String := "timestamp-format."

/-- What the properties of a scan say. -/
structure ScanConfig where
  table : TableRef
  /-- The read point, none for the latest data. -/
  snapshot : Option Snapshot
  /-- Fields and their patterns, ordered by field. -/
  patterns : OrderedMap String String
  properties : Properties

namespace ScanConfig

/-- The trimmed value of a key that must have one. -/
def required (properties : Properties) (key : String) : Except ScanError String :=
  match properties.find? key with
  | none => .error (.missingProperty key)
  | some value => if (trim value).isEmpty then .error (.missingProperty key) else .ok (trim value)

/-- The read point that a property asks for. A missing or blank one asks for
    the latest data. -/
def resolveSnapshot (value : Option String) : Except ScanError (Option Snapshot) :=
  match value with
  | none => .ok none
  | some text =>
    let text := trim text
    if text.isEmpty then .ok none
    else
      match readPoint text with
      | .ok s => .ok (some s)
      | .error fault => .error (.invalidSnapshot text fault)

/-- The field that a key names a pattern for. -/
def patternField? (key : String) : Option String :=
  let start := patternKeyStart.toList
  if start.isPrefixOf key.toList then some (String.ofList (key.toList.drop start.length)) else none

/-- Collect the patterns of fields from properties in order. -/
def collectPatterns (patterns : OrderedMap String String) :
    List (String × String) → Except ScanError (OrderedMap String String)
  | [] => .ok patterns
  | (key, value) :: rest =>
    match patternField? key with
    | none => collectPatterns patterns rest
    | some field =>
      if field.isEmpty then .error (.invalidProperty key value .missingFieldName)
      else collectPatterns (patterns.insert field value) rest

/-- The configuration that properties spell. -/
def ofProperties (properties : Properties) : Except ScanError ScanConfig := do
  let database ← required properties databaseKey
  let table ← required properties tableKey
  let snapshot ← resolveSnapshot (properties.find? snapshotKey)
  let patterns ← collectPatterns .empty properties.entries
  return ⟨⟨database, table⟩, snapshot, patterns, properties⟩

/-- A map of texts as a JSON object. -/
def objectOf (m : OrderedMap String String) : Json :=
  .object (m.entries.map fun (k, v) => (k, .string v))

end ScanConfig

/-- The JSON form of a table's name. -/
def TableRef.toJson (t : TableRef) : Json :=
  .object [("database", .string t.database), ("table", .string t.table)]

/-- The JSON form of a snapshot. -/
def Snapshot.toJson (s : Snapshot) : Json :=
  .object [("physical", .int s.physical.toNat), ("logical", .int s.logical.val)]

/-- The JSON form of a configuration. -/
def ScanConfig.toJson (c : ScanConfig) : Json :=
  .object
    [("table", c.table.toJson),
      ("snapshot", (c.snapshot.map Snapshot.toJson).getD .null),
      ("timestamp_formats", objectOf c.patterns),
      ("properties", objectOf c.properties)]

end RegionScan
