import RegionScan.Command.Run
import Std.Time.DateTime.Timestamp

/-!
# The Program

The command line: arguments, environment and files in, text and exit code out.

## Main definitions

* `main`: The program.
-/

namespace RegionScan

/-- The environment variable that names the fixture. -/
def dataVariable : String := "SPLITSCAN_DATA"

/-- The reason why a file could not be read. -/
def readFailure : IO.Error → String
  | .noFileOrDirectory .. => "No such file or directory (os error 2)"
  | .permissionDenied .. => "Permission denied (os error 13)"
  | .inappropriateType .. => "Is a directory (os error 21)"
  | e => toString e

/-- The contents of a file. -/
def readContents (path : String) : IO FileContents := do
  try
    return .ok (← IO.FS.readFile path)
  catch e =>
    return .error (readFailure e)

/-- The contents of the files that options name. -/
def readInput (o : Options) : IO CommandInput := do
  let properties ← (o.propertiesFile.map readContents).getD (pure (.ok ""))
  return ⟨← readContents o.data, properties⟩

/-- The milliseconds since 1970 on the wall clock. -/
def wallClock : IO UInt64 := do
  let now ← Std.Time.Timestamp.now
  return UInt64.ofNat now.toMillisecondsSinceUnixEpoch.toInt.toNat

/-- Answer a request. -/
def answerRequest (request : Request) : IO Outcome := do
  match request with
  | .scan options =>
    let input ← readInput options
    return .ofRequest (fun _ => input) (← wallClock) request
  | _ => return .ofRequest (fun _ => ⟨.ok "", .ok ""⟩) 0 request

/-- Show an outcome. -/
def showOutcome (outcome : Outcome) : IO UInt32 := do
  match outcome with
  | .shown text => IO.print text
  | .failed text => IO.eprint text
  | .misused e => IO.eprintln ("error: " ++ e.message)
  return UInt32.ofNat outcome.exitCode

end RegionScan

open RegionScan in
/-- The program. -/
def main (arguments : List String) : IO UInt32 := do
  match Request.ofArguments arguments (← IO.getEnv dataVariable) with
  | .error e => showOutcome (.misused e)
  | .ok request => showOutcome (← answerRequest request)
