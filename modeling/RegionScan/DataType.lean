import RegionScan.Text.Blank
import RegionScan.Text.Integer
import RegionScan.Text.Quoted
import RegionScan.Text.Split

/-!
# Column Types

The SQL types of columns and output fields, as they are written and read.

A type is written by its name in capitals and its arguments in parentheses.
Reading is more liberal: letters of any case, blanks at every edge, and other
common names for the same type. Arguments are looked at only if the type takes
them.

## Main definitions

* `DataType`: The types.
* `DataType.display`: A type as written.
* `DataType.ofText`: The type that a text names.
* `TypeTextError`: Why a text names none.
-/

namespace RegionScan

/-- The type of a column or an output field. -/
inductive DataType where
  | boolean
  | tinyInt
  | smallInt
  | int
  | bigInt
  | float
  | double
  | decimal (precision scale : Option UInt8)
  | char (length : Option UInt32)
  | varchar (length : Option UInt32)
  | text
  | json
  | blob
  | date
  | time
  | timestamp
  deriving DecidableEq

namespace DataType

/-- Whether values are whole numbers of a fixed width. -/
def isInteger : DataType → Bool
  | .tinyInt | .smallInt | .int | .bigInt => true
  | _ => false

/-- Whether values are numbers. -/
def isNumeric : DataType → Bool
  | .float | .double | .decimal .. => true
  | t => t.isInteger

/-- Whether values are texts. -/
def isString : DataType → Bool
  | .char _ | .varchar _ | .text | .json => true
  | _ => false

/-- Whether values are dates, times or both. -/
def isTemporal : DataType → Bool
  | .date | .time | .timestamp => true
  | _ => false

/-- A name with an argument in parentheses, if there is one. -/
def withLength (name : String) : Option UInt32 → String
  | some n => name ++ "(" ++ toString n.toNat ++ ")"
  | none => name

/-- A type as written. A scale without a precision is not shown. -/
def display : DataType → String
  | .boolean => "BOOLEAN"
  | .tinyInt => "TINYINT"
  | .smallInt => "SMALLINT"
  | .int => "INT"
  | .bigInt => "BIGINT"
  | .float => "FLOAT"
  | .double => "DOUBLE"
  | .decimal (some p) (some s) => "DECIMAL(" ++ toString p.toNat ++ ", " ++ toString s.toNat ++ ")"
  | .decimal (some p) none => "DECIMAL(" ++ toString p.toNat ++ ")"
  | .decimal none _ => "DECIMAL"
  | .char length => withLength "CHAR" length
  | .varchar length => withLength "VARCHAR" length
  | .text => "TEXT"
  | .json => "JSON"
  | .blob => "BLOB"
  | .date => "DATE"
  | .time => "TIME"
  | .timestamp => "TIMESTAMP"

end DataType

/-- Why a text names no type. -/
inductive TypeTextError where
  | unbalanced (text : String)
  | badArgument (text : String) (error : IntegerTextError)
  | argumentTooLarge (argument : Nat)
  | unsupported (name : String)
  deriving DecidableEq

/-- The wording of the failure. -/
def TypeTextError.message : TypeTextError → String
  | .unbalanced text => "unbalanced parentheses in type " ++ quoted text
  | .badArgument text error => "bad type argument " ++ quoted text ++ ": " ++ error.message
  | .argumentTooLarge n => "type argument " ++ toString n ++ " too large"
  | .unsupported name => "unsupported data type " ++ quoted name

namespace DataType

/-- The part of a text before the last closing parenthesis, if it has one. -/
def beforeLastParen (s : List Char) : Option (List Char) :=
  match s.reverse.dropWhile (· ≠ ')') with
  | [] => none
  | _ :: rest => some rest.reverse

/-- The name and the arguments of a trimmed text. -/
def splitArguments (s : List Char) : Except TypeTextError (List Char × List (List Char)) :=
  let name := s.takeWhile (· ≠ '(')
  match s.dropWhile (· ≠ '(') with
  | [] => .ok (name, [])
  | _ :: rest =>
    match beforeLastParen rest with
    | none => .error (.unbalanced (String.ofList s))
    | some inner => .ok (name, (splitAt ',' inner).map trimBlanks)

/-- The argument at a place, if it is given. -/
def argument (args : List (List Char)) (i : Nat) : Except TypeTextError (Option UInt32) :=
  match args[i]? with
  | none => .ok none
  | some a =>
    match readNatural ((1 <<< 32) - 1) a with
    | .ok n => .ok (some (UInt32.ofNat n))
    | .error e => .error (.badArgument (String.ofList a) e)

/-- The argument at a place, if it is given, which must be below 256. -/
def smallArgument (args : List (List Char)) (i : Nat) : Except TypeTextError (Option UInt8) := do
  match ← argument args i with
  | none => return none
  | some n =>
    if n.toNat < 256 then return some (UInt8.ofNat n.toNat) else throw (.argumentTooLarge n.toNat)

/-- The type with a name in capitals and arguments. -/
def ofName (name : String) (args : List (List Char)) : Except TypeTextError DataType :=
  match name with
  | "BOOLEAN" | "BOOL" => .ok .boolean
  | "TINYINT" => .ok .tinyInt
  | "SMALLINT" => .ok .smallInt
  | "INT" | "INTEGER" => .ok .int
  | "BIGINT" => .ok .bigInt
  | "FLOAT" | "REAL" => .ok .float
  | "DOUBLE" => .ok .double
  | "DECIMAL" | "NUMERIC" => do
    let precision ← smallArgument args 0
    let scale ← smallArgument args 1
    return .decimal precision scale
  | "CHAR" => (argument args 0).map .char
  | "VARCHAR" => (argument args 0).map .varchar
  | "TEXT" | "STRING" => .ok .text
  | "JSON" => .ok .json
  | "BLOB" | "BINARY" | "VARBINARY" | "BYTES" => .ok .blob
  | "DATE" => .ok .date
  | "TIME" => .ok .time
  | "TIMESTAMP" | "DATETIME" => .ok .timestamp
  | other => .error (.unsupported other)

/-- The type that a text names. -/
def ofText (s : String) : Except TypeTextError DataType := do
  let (name, args) ← splitArguments (trimBlanks s.toList)
  ofName (String.ofList ((trimBlanks name).map Char.toUpper)) args

end DataType

end RegionScan
