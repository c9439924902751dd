/-!
# CSV

Records of texts separated by commas.

Every record ends with a line break. A text that holds a comma, a quote or a
line break is put in quotes, and its quotes are written twice. All others are
written as they are.

## Main definitions

* `Csv.needsQuotes`, `Csv.writeText`: One text.
* `Csv.writeRecord`: One record.
-/

namespace RegionScan.Csv

/-- Whether a text is put in quotes. -/
def needsQuotes (s : List Char) : Bool :=
  s.any fun c => c = ',' || c = '"' || c = '\n' || c = '\r'

/-- A character inside quotes. -/
def quotedChar (c : Char) : List Char := if c = '"' then ['"', '"'] else [c]

/-- A text in a record. -/
def writeText (s : List Char) : List Char :=
  if needsQuotes s then '"' :: s.flatMap quotedChar ++ ['"'] else s

/-- A record, with its line break. -/
def writeRecord (texts : List (List Char)) : List Char :=
  [','].intercalate (texts.map writeText) ++ ['\n']

end RegionScan.Csv
