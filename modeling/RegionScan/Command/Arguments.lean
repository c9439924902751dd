import RegionScan.Output.Format
import RegionScan.Text.Blank
import RegionScan.Text.Integer
import RegionScan.Text.Quoted
import RegionScan.Text.Split

/-!
# Command-Line Arguments

What the arguments of the program ask for.

An option is given by its long name or, if it has one, by its letter. Its value
follows as the next argument, or behind an equals sign, or directly behind the
letter; letters without values can be put together. A value that begins with a
dash must be attached. There are no other arguments. Options that do not
collect may be given once.

Arguments are read from the left, and the first thing wrong with them ends the
reading, as does a request for help or for the version. A missing data file or
log level is taken from the environment.

## Main definitions

* `OptionName`: The options.
* `Options`: What a scan is asked for.
* `Request`: What the program is asked for.
* `UsageError`: Why arguments are refused.
* `Request.ofArguments`: The request that arguments make.
-/

namespace RegionScan

/-- The options of the program. -/
inductive OptionName where
  | data
  | property
  | propertiesFile
  | limit
  | project
  | workers
  | output
  | verbose
  | logLevel
  | help
  | version
  deriving DecidableEq

namespace OptionName

/-- The options with their long names. -/
def longNames : List (String × OptionName) :=
  [("data", .data), ("property", .property), ("properties-file", .propertiesFile),
    ("limit", .limit), ("project", .project), ("workers", .workers), ("output", .output),
    ("verbose", .verbose), ("log-level", .logLevel), ("help", .help), ("version", .version)]

/-- The options that have a letter. -/
def letters : List (Char × OptionName) :=
  [('d', .data), ('P', .property), ('l', .limit), ('w', .workers), ('o', .output),
    ('v', .verbose), ('h', .help), ('V', .version)]

/-- Whether an option has a value. -/
def takesValue : OptionName → Bool
  | .verbose | .help | .version => false
  | _ => true

/-- Whether an option may be given more than once. -/
def collects : OptionName → Bool
  | .property | .project => true
  | _ => false

end OptionName

/-- What a scan is asked for. -/
structure Options where
  /-- The path of the fixture. -/
  data : String
  /-- The properties given one by one, in order. -/
  properties : List (String × String)
  /-- The path of a file of properties. -/
  propertiesFile : Option String
  limit : Option Nat
  /-- The columns to produce, none for all of them. -/
  projection : Option (List Nat)
  workers : Nat
  output : OutputFormat
  deriving DecidableEq

/-- What the program is asked for. -/
inductive Request where
  | scan (options : Options)
  | help
  | version
  deriving DecidableEq

/-- Why arguments are refused. -/
inductive UsageError where
  | unknown (argument : String)
  | repeated (option : OptionName)
  | missingValue (option : OptionName)
  | unexpectedValue (option : OptionName) (value : String)
  | emptyValue (option : OptionName)
  | invalidValue (option : OptionName) (value : String)
  | missingData
  deriving DecidableEq

/-- The name of an option in messages. -/
def OptionName.display (option : OptionName) : String :=
  "--" ++ ((longNames.find? (·.2 == option)).elim "" (·.1))

/-- The wording of the refusal. -/
def UsageError.message : UsageError → String
  | .unknown argument => "unexpected argument " ++ quoted argument
  | .repeated option => option.display ++ " cannot be used multiple times"
  | .missingValue option => option.display ++ " needs a value"
  | .unexpectedValue option value => option.display ++ " takes no value, got " ++ quoted value
  | .emptyValue option => option.display ++ " needs a value that is not empty"
  | .invalidValue option value => "invalid value " ++ quoted value ++ " for " ++ option.display
  | .missingData => "the following argument is required: --data <FILE>"

/-- What the arguments so far have asked for. -/
structure ArgumentDraft where
  /-- The options given so far. -/
  given : List OptionName
  data : Option String
  /-- The properties, last one first. -/
  properties : List (String × String)
  propertiesFile : Option String
  limit : Option Nat
  projection : Option (List Nat)
  workers : Nat
  output : OutputFormat

namespace ArgumentDraft

/-- Nothing asked for. -/
def start : ArgumentDraft := ⟨[], none, [], none, none, none, 1, .table⟩

/-- The largest number that an option takes. -/
def maxNumber : Nat := (1 <<< 64) - 1

/-- The number that a value spells. -/
def number (option : OptionName) (value : List Char) : Except UsageError Nat :=
  match readNatural maxNumber value with
  | .ok n => .ok n
  | .error _ => .error (.invalidValue option (String.ofList value))

/-- The path that a value names. -/
def path (option : OptionName) (value : String) : Except UsageError String :=
  if value.isEmpty then .error (.emptyValue option) else .ok value

/-- The key and the value that a property spells. The key is trimmed and must
    not be blank. -/
def keyValue (value : String) : Except UsageError (String × String) :=
  match splitOnce? '=' value.toList with
  | none => .error (.invalidValue .property value)
  | some (key, text) =>
    if (trimBlanks key).isEmpty then .error (.invalidValue .property value)
    else .ok (String.ofList (trimBlanks key), String.ofList text)

/-- The format that a value names. -/
def format (value : String) : Except UsageError OutputFormat :=
  match value with
  | "table" => .ok .table
  | "json" => .ok .json
  | "csv" => .ok .csv
  | _ => .error (.invalidValue .output value)

/-- Take an option with its value, which is empty for an option without
    one. -/
def take (d : ArgumentDraft) (option : OptionName) (value : String) :
    Except UsageError ArgumentDraft := do
  if d.given.contains option ∧ !option.collects then throw (.repeated option)
  let d := { d with given := option :: d.given }
  match option with
  | .data => return { d with data := some (← path option value) }
  | .property => return { d with properties := (← keyValue value) :: d.properties }
  | .propertiesFile => return { d with propertiesFile := some (← path option value) }
  | .limit => return { d with limit := some (← number option value.toList) }
  | .project =>
    let columns ← (splitAt ',' value.toList).mapM (number option)
    return { d with projection := some (d.projection.getD [] ++ columns) }
  | .workers => return { d with workers := ← number option value.toList }
  | .output => return { d with output := ← format value }
  | .verbose | .logLevel | .help | .version => return d

/-- The request once all arguments are read. `environment` gives the path of
    the fixture if no argument did. -/
def finish (d : ArgumentDraft) (environment : Option String) : Except UsageError Request := do
  let scan (data : String) : Request :=
    .scan ⟨data, d.properties.reverse, d.propertiesFile, d.limit, d.projection, d.workers, d.output⟩
  match d.data, environment with
  | some data, _ => return scan data
  | none, some data => return scan (← path .data data)
  | none, none => throw .missingData

end ArgumentDraft

/-- One argument, taken apart. -/
inductive ArgumentShape where
  /-- The mark behind which no options follow. -/
  | mark
  /-- An option by its long name, perhaps with a value attached. -/
  | long (name : String) (value : Option String)
  /-- Options by their letters. -/
  | letters (cs : List Char)
  /-- Anything else. -/
  | plain

/-- What kind of argument a text is. A single dash is no option. -/
def ArgumentShape.of (argument : String) : ArgumentShape :=
  match argument.toList with
  | ['-', '-'] => .mark
  | '-' :: '-' :: rest =>
    match splitOnce? '=' rest with
    | some (name, value) => .long (String.ofList name) (some (String.ofList value))
    | none => .long (String.ofList rest) none
  | '-' :: c :: rest => .letters (c :: rest)
  | _ => .plain

/-- What reading one argument leads to. -/
inductive ArgumentStep where
  /-- Go on with the next argument. -/
  | next (draft : ArgumentDraft)
  /-- The next argument is the value of an option. -/
  | await (draft : ArgumentDraft) (option : OptionName)
  /-- There is nothing more to read. -/
  | stop (request : Request)

namespace ArgumentStep

/-- Take an option without a value. -/
def takeFlag (d : ArgumentDraft) (option : OptionName) : Except UsageError ArgumentStep :=
  match option with
  | .help => .ok (.stop .help)
  | .version => .ok (.stop .version)
  | _ => (d.take option "").map .next

/-- Take an option by its long name. -/
def ofLong (d : ArgumentDraft) (name : String) (value : Option String) :
    Except UsageError ArgumentStep :=
  match OptionName.longNames.lookup name with
  | none => .error (.unknown name)
  | some option =>
    match option.takesValue, value with
    | true, some v => (d.take option v).map .next
    | true, none => .ok (.await d option)
    | false, some v => .error (.unexpectedValue option v)
    | false, none => takeFlag d option

/-- Take options by their letters. What follows the letter of an option with a
    value is its value, an equals sign in front aside. -/
def ofLetters (d : ArgumentDraft) : List Char → Except UsageError ArgumentStep
  | [] => .ok (.next d)
  | c :: rest =>
    match OptionName.letters.lookup c with
    | none => .error (.unknown (String.singleton c))
    | some option =>
      if option.takesValue then
        match rest with
        | [] => .ok (.await d option)
        | '=' :: value => (d.take option (String.ofList value)).map .next
        | value => (d.take option (String.ofList value)).map .next
      else
        match takeFlag d option with
        | .ok (.next d) => ofLetters d rest
        | other => other

/-- Take one argument. -/
def ofArgument (d : ArgumentDraft) (argument : String) : Except UsageError ArgumentStep :=
  match ArgumentShape.of argument with
  | .long name value => ofLong d name value
  | .letters cs => ofLetters d cs
  | .mark => .ok (.next d)
  | .plain => .error (.unknown argument)

end ArgumentStep

namespace Request

/-- Read arguments from the left. -/
def read (environment : Option String) : ArgumentDraft → List String → Except UsageError Request
  | d, [] => d.finish environment
  | d, argument :: rest => do
    match ArgumentShape.of argument, rest with
    | .mark, [] => d.finish environment
    | .mark, extra :: _ => throw (.unknown extra)
    | _, rest =>
      match ← ArgumentStep.ofArgument d argument, rest with
      | .stop request, _ => return request
      | .next d, rest => read environment d rest
      | .await _ option, [] => throw (.missingValue option)
      | .await d option, value :: rest =>
        match ArgumentShape.of value with
        | .plain => read environment (← d.take option value) rest
        | _ => throw (.missingValue option)

/-- The request that arguments make. `environment` is the path of the fixture
    that the environment names. -/
def ofArguments (arguments : List String) (environment : Option String) :
    Except UsageError Request :=
  read environment .start arguments

end Request

end RegionScan
