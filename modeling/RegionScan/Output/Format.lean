import RegionScan.OrderedMap
import RegionScan.Output.Csv
import RegionScan.Output.TextTable
import RegionScan.Value

/-!
# Output Formats

The rows of a scan as text.

There are three formats. A table is drawn with the names of the fields as its
heading and the word NULL for a missing value. JSON is an array with an object
for each row, whose members are sorted by name; of two fields of one name the
later one counts. CSV starts with the names of the fields, and a missing value
is an empty text. Without fields there is no heading.

A row is matched with the fields from the left, so a row with fewer or more
values than there are fields is written as far as the format can hold it.

## Main definitions

* `OutputFormat`: The formats.
* `formatTable`, `formatJson`, `formatCsv`: Each of them.
* `formatRows`: The rows in a format.
-/

namespace RegionScan

/-- A format for rows. -/
inductive OutputFormat where
  | table
  | json
  | csv
  deriving DecidableEq

/-- The names of the fields, none if there are no fields. -/
def fieldNames (fields : List Field) : Option (List String) :=
  if fields.isEmpty then none else some (fields.map (·.name))

/-- The rows as a drawn table. -/
def formatTable (fields : List Field) (rows : List Row) : String :=
  TextTable.render ⟨fieldNames fields, rows.map (·.map Value.display)⟩

/-- The JSON form of a value in a document, where all floating-point numbers
    have 64 bits. -/
def documentValue (v : Value) : Json :=
  match v with
  | .float x => .double x.toDouble
  | _ => v.toJson

/-- A row as an object. -/
def rowObject (fields : List Field) (row : Row) : Json :=
  let members := (fields.zip row).map fun (f, v) => (f.name, documentValue v)
  .object (OrderedMap.ofList members).entries

/-- The rows as a JSON document. -/
def formatJson (fields : List Field) (rows : List Row) : String :=
  (Json.array (rows.map (rowObject fields))).indented

/-- The text of a value in CSV. -/
def csvText (v : Value) : List Char := if v.isNull then [] else v.display.toList

/-- The rows as CSV. -/
def formatCsv (fields : List Field) (rows : List Row) : String :=
  let heading := (fieldNames fields).toList.map fun names => names.map String.toList
  String.ofList ((heading ++ rows.map (·.map csvText)).flatMap Csv.writeRecord)

/-- The rows in a format. -/
def formatRows (fields : List Field) (rows : List Row) : OutputFormat → String
  | .table => formatTable fields rows
  | .json => formatJson fields rows
  | .csv => formatCsv fields rows

end RegionScan
