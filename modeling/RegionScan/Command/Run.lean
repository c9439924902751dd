import RegionScan.Command.Arguments
import RegionScan.Fixture.Reader
import RegionScan.Scan.Parallel

/-!
# The Scan Command

From a fixture and options to the text of its rows.

The properties of the scan come from three places: those given one by one, a
file, and the fixture, which supplies the database and the table if neither of
the others does. The scan is then planned, limited and projected, run by the
workers that were asked for, and its rows are written in the format that was
asked for.

The command is given the contents of the files, or the reason why a file could
not be read. What it says about a failure starts with what it was doing.

## Main definitions

* `CommandInput`: The contents of the files.
* `CommandError`: Why the command fails.
* `Options.scanFixture`, `Options.run`: The rows, and their text.
* `Outcome`: What the program shows.
-/

namespace RegionScan

/-- The contents of a file, or why it could not be read. -/
abbrev FileContents := Except String String

/-- The contents of the files that options name. -/
structure CommandInput where
  data : FileContents
  /-- The file of properties, looked at only if the options name one. -/
  properties : FileContents

/-- Why the command fails. -/
inductive CommandError where
  | unreadableFixture (path reason : String)
  | invalidFixture (path : String) (error : JsonError)
  | unreadableProperties (path reason : String)
  | invalidProperties (path : String) (error : JsonError)
  | loading (error : FixtureError)
  | planning (error : ScanError)
  | setting (error : ScanError)
  | scanning (failure : WorkerFailure)
  deriving DecidableEq

/-- The wording of the error with all that caused it. -/
def CommandError.message : CommandError → String
  | .unreadableFixture path reason => "Failed to read fixture " ++ path ++ ": " ++ reason
  | .invalidFixture path e => "Failed to parse fixture " ++ path ++ ": " ++ e.message
  | .unreadableProperties path reason => "Failed to read properties " ++ path ++ ": " ++ reason
  | .invalidProperties path e => "Failed to parse properties " ++ path ++ ": " ++ e.message
  | .loading e => e.message
  | .planning e => ": ".intercalate ("Failed to plan scan" :: e.chain)
  | .setting e => ": ".intercalate e.chain
  | .scanning f => f.message

namespace Options

/-- The fixture that the options name. -/
def readFixture (o : Options) (input : CommandInput) : Except CommandError Fixture := do
  let text ← input.data.mapError (.unreadableFixture o.data)
  (Fixture.ofText text).mapError (.invalidFixture o.data)

/-- The properties of the file that the options name, if they name one. -/
def readProperties (o : Options) (input : CommandInput) : Except CommandError Properties :=
  match o.propertiesFile with
  | none => .ok .empty
  | some path => do
    let text ← input.properties.mapError (.unreadableProperties path)
    (JsonReader.run Json.readTextMap text).mapError (.invalidProperties path)

/-- The properties of the scan. Those given one by one replace all others, and
    the fixture's own are the last resort. -/
def mergeProperties (o : Options) (fixture : Fixture) (fromFile : Properties) : Properties :=
  ((fromFile.insertIfNew databaseKey fixture.database).insertIfNew tableKey fixture.table).insertAll
    o.properties

/-- Set the limit and the projection that the options ask for. -/
def adjust (o : Options) (e : Engine) : Except ScanError Unit × Engine :=
  match o.limit.elim (.ok (), e) e.setLimit with
  | (.error err, e) => (.error err, e)
  | (.ok (), e) => o.projection.elim (.ok (), e) fun columns => e.project (columns.map ([·]))

/-- Load a fixture and scan it with the given properties. The time is that of
    the store's clock. The plan comes with the rows. -/
def scanFixture (o : Options) (fixture : Fixture) (properties : Properties) (now : UInt64) :
    Except CommandError (ScanPlan × ScanOutput) := do
  let store ← (fixture.toStore now).mapError .loading
  let (planned, store) := Engine.ofProperties store properties
  let engine ← planned.mapError .planning
  let (adjusted, engine) := o.adjust engine
  adjusted.mapError .setting
  let (output, _) := engine.scan store o.workers []
  return (engine.plan, ← output.mapError .scanning)

/-- The text of the rows that the options ask for. -/
def run (o : Options) (input : CommandInput) (now : UInt64) : Except CommandError String := do
  let fixture ← o.readFixture input
  let fromFile ← o.readProperties input
  let (_, output) ← o.scanFixture fixture (o.mergeProperties fixture fromFile) now
  return formatRows output.fields output.rows o.output

end Options

/-- What is shown when the version is asked for. -/
def versionText : String := "splitscan 0.1.0\n"

/-- What is shown when help is asked for. -/
def helpText : String :=
  "Scan a table fixture split by split\n\n" ++
  "Usage: splitscan [OPTIONS] --data <FILE>\n\n" ++
  "Options:\n" ++
  "  -d, --data <FILE>             Table fixture (JSON)\n" ++
  "  -P, --property <KEY=VALUE>    Scan property as key=value (repeatable)\n" ++
  "      --properties-file <FILE>  JSON object of scan properties; -P flags override it\n" ++
  "  -l, --limit <LIMIT>           Maximum number of rows\n" ++
  "      --project <ORDINALS>      Comma-separated column ordinals to project, e.g. 2,0\n" ++
  "  -w, --workers <WORKERS>       Number of worker instances\n" ++
  "  -o, --output <OUTPUT>         Output format: table, json or csv\n" ++
  "  -v, --verbose                 Enable verbose logging\n" ++
  "      --log-level <LOG_LEVEL>   Log level\n" ++
  "  -h, --help                    Print help\n" ++
  "  -V, --version                 Print version\n"

/-- What the program shows: a text on its output, the text of an error, or
    what is wrong with its arguments. -/
inductive Outcome where
  | shown (text : String)
  | failed (text : String)
  | misused (error : UsageError)
  deriving DecidableEq

namespace Outcome

/-- The exit code of the program. -/
def exitCode : Outcome → Nat
  | .shown _ => 0
  | .failed _ => 1
  | .misused _ => 2

/-- What is shown of the command's result. -/
def ofResult : Except CommandError String → Outcome
  | .ok text => .shown (text ++ "\n")
  | .error e => .failed ("Error: " ++ e.message ++ "\n")

/-- What is shown for a request. `input` are the contents of the files that a
    scan names. -/
def ofRequest (input : Options → CommandInput) (now : UInt64) : Request → Outcome
  | .scan options => ofResult (options.run (input options) now)
  | .help => .shown helpText
  | .version => .shown versionText

end Outcome

end RegionScan
