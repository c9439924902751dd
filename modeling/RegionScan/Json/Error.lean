import RegionScan.Binary.Text
import RegionScan.Text.Quoted
import RegionScan.Text.Utf8

/-!
# JSON Errors

Why a text is not the JSON that is wanted, and where.

A reader works through a text from its front and fails with what is left of
it. The place of the failure follows from that: it is counted in lines and, in
the line, in bytes. Some failures are about the byte that was looked at and
others about what was read before it, so a failure also says how many bytes
behind the rest it lies.

A text can be sound JSON and still have the wrong shape. Then the error says
what was found and what was expected.

## Main definitions

* `JsonFound`: What stands where something else was expected.
* `JsonCause`: What is wrong.
* `JsonFault`: What is wrong, and what was left to read.
* `JsonError`: What is wrong, and where.
-/

namespace RegionScan

/-- What stands in a text where something else was expected. -/
inductive JsonFound where
  | null
  | bool (b : Bool)
  | int (n : Int)
  | double (x : Double)
  | string (s : String)
  | array
  | object
  deriving DecidableEq

/-- The name of what was found. -/
def JsonFound.display : JsonFound → String
  | .null => "null"
  | .bool b => "boolean `" ++ (if b then "true" else "false") ++ "`"
  | .int n => "integer `" ++ toString n ++ "`"
  | .double x => "floating point `" ++ x.json?.getD "null" ++ "`"
  | .string s => "string " ++ quoted s
  | .array => "sequence"
  | .object => "map"

/-- What is wrong with a text. -/
inductive JsonCause where
  | endInList
  | endInObject
  | endInString
  | endInValue
  | expectedColon
  | expectedListEnd
  | expectedObjectEnd
  | expectedWord
  | expectedValue
  | invalidEscape
  | invalidNumber
  | numberOutOfRange
  | controlCharacter
  | keyNotString
  | loneSurrogate
  | cutSurrogate
  | trailingComma
  | trailingCharacters
  | nestedTooDeep
  /-- A value of another kind than the expected one. -/
  | wrongType (found : JsonFound) (expected : String)
  /-- A value of the expected kind that is not allowed. -/
  | wrongValue (found : JsonFound) (expected : String)
  /-- An array that ends before a member that must be given. -/
  | tooShort (length : Nat) (expected : String)
  | missingMember (name : String)
  | repeatedMember (name : String)
  deriving DecidableEq

/-- The wording of what is wrong. -/
def JsonCause.message : JsonCause → String
  | .endInList => "EOF while parsing a list"
  | .endInObject => "EOF while parsing an object"
  | .endInString => "EOF while parsing a string"
  | .endInValue => "EOF while parsing a value"
  | .expectedColon => "expected `:`"
  | .expectedListEnd => "expected `,` or `]`"
  | .expectedObjectEnd => "expected `,` or `\x7d`"
  | .expectedWord => "expected ident"
  | .expectedValue => "expected value"
  | .invalidEscape => "invalid escape"
  | .invalidNumber => "invalid number"
  | .numberOutOfRange => "number out of range"
  | .controlCharacter => "control character (\\u0000-\\u001F) found while parsing a string"
  | .keyNotString => "key must be a string"
  | .loneSurrogate => "lone leading surrogate in hex escape"
  | .cutSurrogate => "unexpected end of hex escape"
  | .trailingComma => "trailing comma"
  | .trailingCharacters => "trailing characters"
  | .nestedTooDeep => "recursion limit exceeded"
  | .wrongType found expected => "invalid type: " ++ found.display ++ ", expected " ++ expected
  | .wrongValue found expected => "invalid value: " ++ found.display ++ ", expected " ++ expected
  | .tooShort length expected => "invalid length " ++ toString length ++ ", expected " ++ expected
  | .missingMember name => "missing field `" ++ name ++ "`"
  | .repeatedMember name => "duplicate field `" ++ name ++ "`"

/-- A failure while a text is being read. -/
structure JsonFault where
  cause : JsonCause
  /-- What was left to read. -/
  rest : List Char
  /-- How many bytes of the rest lie before the place of the failure. -/
  ahead : Nat
  deriving DecidableEq

/-- Why a text is not the JSON that is wanted. -/
structure JsonError where
  cause : JsonCause
  /-- The line, from one on. -/
  line : Nat
  /-- The number of bytes before the place in its line. -/
  column : Nat
  deriving DecidableEq

/-- The wording of the error. -/
def JsonError.message (e : JsonError) : String :=
  e.cause.message ++ " at line " ++ toString e.line ++ " column " ++ toString e.column

/-- The line and the column behind some bytes. -/
def placeBehind (bytes : List UInt8) : Nat × Nat :=
  bytes.foldl (fun p b => if b.toNat = 0x0A then (p.1 + 1, 0) else (p.1, p.2 + 1)) (1, 0)

/-- A failure with its place in the text that was read. The place is never
    behind the end. -/
def JsonFault.locate (text : String) (f : JsonFault) : JsonError :=
  let bytes := utf8Bytes text
  let left := (utf8Bytes (String.ofList f.rest)).length
  let (line, column) := placeBehind (bytes.take (bytes.length - left + f.ahead))
  ⟨f.cause, line, column⟩

end RegionScan
