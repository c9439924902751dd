import RegionScan.Binary.Text
import RegionScan.Text.Quoted

/-!
# JSON

JSON values and their text.

A number is kept as a whole number or as a floating-point number, because the
two are written differently. The members of an object are written in the order
in which they stand; where a sorted object is wanted, the members are sorted
when the object is made.

Two texts are written: the compact one has no white space, and the indented
one has every element and member on a line of its own, two blanks further in.

## Main definitions

* `Json`: JSON values.
* `Json.writeString`: A string literal.
* `Json.compact`: The text without white space.
* `Json.indented`: The text on many lines.
-/

namespace RegionScan

/-- A JSON value. -/
inductive Json where
  | null
  | bool (b : Bool)
  | int (n : Int)
  | double (x : Double)
  | single (x : Single)
  | string (s : String)
  | array (elements : List Json)
  | object (members : List (String × Json))

namespace Json

/-- One character inside a string literal. Quotes, backslashes and controls
    are escaped, and nothing else is. -/
def escapeChar (c : Char) : List Char :=
  if c = '"' then ['\\', '"']
  else if c = '\\' then ['\\', '\\']
  else if c = '\x08' then ['\\', 'b']
  else if c = '\x0c' then ['\\', 'f']
  else if c = '\n' then ['\\', 'n']
  else if c = '\r' then ['\\', 'r']
  else if c = '\t' then ['\\', 't']
  else if c.toNat < 0x20 then
    ['\\', 'u', '0', '0', Nat.digitChar (c.toNat / 16), Nat.digitChar (c.toNat % 16)]
  else [c]

/-- A string literal. -/
def writeString (s : String) : List Char := '"' :: s.toList.flatMap escapeChar ++ ['"']

/-- The opening brace. -/
def openBrace : Char := Char.ofNat 0x7B

/-- The closing brace. -/
def closeBrace : Char := Char.ofNat 0x7D

/-- The text of a number that may not be finite. -/
def writeFloat (text : Option String) : List Char := (text.getD "null").toList

/-- The text of a value without elements or members. -/
def writeScalar : Json → List Char
  | .null => "null".toList
  | .bool b => (if b then "true" else "false").toList
  | .int n => (toString n).toList
  | .double x => writeFloat x.json?
  | .single x => writeFloat x.json?
  | .string s => writeString s
  | .array _ => "[]".toList
  | .object _ => [openBrace, closeBrace]

mutual

/-- The text without white space. -/
def writeCompact : Json → List Char
  | .array elements => '[' :: writeElements elements ++ [']']
  | .object members => openBrace :: writeMembers members ++ [closeBrace]
  | other => writeScalar other

/-- Elements with commas between them. -/
def writeElements : List Json → List Char
  | [] => []
  | [e] => writeCompact e
  | e :: rest => writeCompact e ++ ',' :: writeElements rest

/-- Members with commas between them. -/
def writeMembers : List (String × Json) → List Char
  | [] => []
  | [(name, value)] => writeString name ++ ':' :: writeCompact value
  | (name, value) :: rest =>
    writeString name ++ ':' :: writeCompact value ++ ',' :: writeMembers rest

end

/-- A line break and the blanks in front of a line that lies so deep. -/
def lineBreak (depth : Nat) : List Char := '\n' :: List.replicate (2 * depth) ' '

mutual

/-- The text on many lines, of a value that lies so deep. -/
def writeIndented (depth : Nat) : Json → List Char
  | .array (e :: rest) =>
    '[' :: writeElementLines (depth + 1) (e :: rest) ++ lineBreak depth ++ [']']
  | .object (m :: rest) =>
    openBrace :: writeMemberLines (depth + 1) (m :: rest) ++ lineBreak depth ++ [closeBrace]
  | other => writeScalar other

/-- Elements on lines of their own. -/
def writeElementLines (depth : Nat) : List Json → List Char
  | [] => []
  | [e] => lineBreak depth ++ writeIndented depth e
  | e :: rest =>
    lineBreak depth ++ writeIndented depth e ++ ',' :: writeElementLines depth rest

/-- Members on lines of their own. -/
def writeMemberLines (depth : Nat) : List (String × Json) → List Char
  | [] => []
  | [(name, value)] =>
    lineBreak depth ++ writeString name ++ ':' :: ' ' :: writeIndented depth value
  | (name, value) :: rest =>
    lineBreak depth ++ writeString name ++ ':' :: ' ' :: writeIndented depth value ++
      ',' :: writeMemberLines depth rest

end

/-- The text without white space. -/
def compact (j : Json) : String := String.ofList j.writeCompact

/-- The text on many lines. -/
def indented (j : Json) : String := String.ofList (j.writeIndented 0)

end Json

end RegionScan
