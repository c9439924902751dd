import RegionScan.Coercion
import RegionScan.Fault
import RegionScan.Scan.ReadPoint

/-!
# Scan Errors

What goes wrong in a scan, by cause.

Every error has a code, and codes belong to categories: the configuration, the
planning, the cursor, the conversion of values, and the state of the engine.
An error that a store caused carries the store's error.

## Main definitions

* `ErrorCode`: The codes, their numbers and categories.
* `EngineState`, `EngineOperation`, `StateFault`: What an engine refuses.
* `ScanError`: The errors.
* `ScanError.message`, `ScanError.chain`: The wording, alone and with causes.
-/

namespace RegionScan

/-- The codes of scan errors. -/
inductive ErrorCode where
  | missingProperty
  | invalidProperty
  | invalidSnapshotTimestamp
  | invalidProjection
  | invalidTimestampPattern
  | tableNotFound
  | noColumns
  | planningFailed
  | cursorFailed
  | connectionFailed
  | coercionFailed
  | invalidState
  | noMoreRows
  deriving DecidableEq

/-- What part of a scan an error belongs to. -/
inductive ErrorCategory where
  | configuration
  | planning
  | cursor
  | coercion
  | state
  deriving DecidableEq

/-- The name of a category. -/
def ErrorCategory.name : ErrorCategory → String
  | .configuration => "Configuration"
  | .planning => "Planning"
  | .cursor => "Cursor"
  | .coercion => "Coercion"
  | .state => "State"

namespace ErrorCode

/-- All codes. -/
def all : List ErrorCode :=
  [.missingProperty, .invalidProperty, .invalidSnapshotTimestamp, .invalidProjection,
    .invalidTimestampPattern, .tableNotFound, .noColumns, .planningFailed, .cursorFailed,
    .connectionFailed, .coercionFailed, .invalidState, .noMoreRows]

/-- The name of a code. -/
def name : ErrorCode → String
  | .missingProperty => "MissingProperty"
  | .invalidProperty => "InvalidProperty"
  | .invalidSnapshotTimestamp => "InvalidSnapshotTimestamp"
  | .invalidProjection => "InvalidProjection"
  | .invalidTimestampPattern => "InvalidTimestampPattern"
  | .tableNotFound => "TableNotFound"
  | .noColumns => "NoColumns"
  | .planningFailed => "PlanningFailed"
  | .cursorFailed => "CursorFailed"
  | .connectionFailed => "ConnectionFailed"
  | .coercionFailed => "CoercionFailed"
  | .invalidState => "InvalidState"
  | .noMoreRows => "NoMoreRows"

/-- The number of a code. Its high byte is the category. -/
def number : ErrorCode → Nat
  | .missingProperty => 0x100
  | .invalidProperty => 0x101
  | .invalidSnapshotTimestamp => 0x102
  | .invalidProjection => 0x103
  | .invalidTimestampPattern => 0x104
  | .tableNotFound => 0x200
  | .noColumns => 0x201
  | .planningFailed => 0x202
  | .cursorFailed => 0x300
  | .connectionFailed => 0x301
  | .coercionFailed => 0x400
  | .invalidState => 0x500
  | .noMoreRows => 0x501

/-- The category of a code. -/
def category : ErrorCode → ErrorCategory
  | .missingProperty | .invalidProperty | .invalidSnapshotTimestamp | .invalidProjection
  | .invalidTimestampPattern => .configuration
  | .tableNotFound | .noColumns | .planningFailed => .planning
  | .cursorFailed | .connectionFailed => .cursor
  | .coercionFailed => .coercion
  | .invalidState | .noMoreRows => .state

end ErrorCode

/-- Where an engine is in its life. -/
inductive EngineState where
  | unconfigured
  | ready
  | scanning
  | closed
  deriving DecidableEq

/-- The name of a state. -/
def EngineState.name : EngineState → String
  | .unconfigured => "unconfigured"
  | .ready => "ready"
  | .scanning => "scanning"
  | .closed => "closed"

/-- What an engine is asked to do. -/
inductive EngineOperation where
  | setOutputFields
  | setLimit
  | setProjectedFields
  | setFilter
  | configureRuntime
  | openSplit
  | produceRow
  deriving DecidableEq

/-- The name of an operation. -/
def EngineOperation.name : EngineOperation → String
  | .setOutputFields => "set output fields"
  | .setLimit => "set limit"
  | .setProjectedFields => "set projected fields"
  | .setFilter => "set filter"
  | .configureRuntime => "configure runtime"
  | .openSplit => "open split"
  | .produceRow => "produce row"

/-- What about an engine forbids an operation. -/
inductive StateFault where
  | inState (state : EngineState)
  | started (state : EngineState)
  | filtered
  | noSuchSplit (count index : Nat)
  | otherPlan (count number total : Nat)
  deriving DecidableEq

/-- The wording of the fault, behind the word "is". -/
def StateFault.message : StateFault → String
  | .inState state => state.name
  | .started state => state.name ++ " (scan already started)"
  | .filtered => "already filtered"
  | .noSuchSplit count index => s!"holding {count} splits, got index {index}"
  | .otherPlan count number total => s!"planned with {count} splits, handle is split {number}/{total}"

/-- Why a property is refused. -/
inductive PropertyFault where
  | missingFieldName
  | columnOutOfRange (column width : Nat)
  deriving DecidableEq

/-- The wording of the fault. -/
def PropertyFault.message : PropertyFault → String
  | .missingFieldName => "missing field name"
  | .columnOutOfRange column width => s!"column {column} out of range for {width} columns"

/-- Why a projection is refused. -/
inductive ProjectionFault where
  | pathLength (field length : Nat)
  | columnOutOfRange (column width : Nat)
  | repeated (column : Nat)
  | fieldCount (expected given : Nat)
  | ordinalOutOfRange (ordinal fields : Nat)
  deriving DecidableEq

/-- The wording of the fault. -/
def ProjectionFault.message : ProjectionFault → String
  | .pathLength field length => s!"projected field {field} has {length} indexes, expected exactly 1"
  | .columnOutOfRange column width => s!"column ordinal {column} out of range for {width} columns"
  | .repeated column => s!"column ordinal {column} projected twice"
  | .fieldCount expected given => s!"expected {expected} output fields, got {given}"
  | .ordinalOutOfRange ordinal fields => s!"ordinal {ordinal} out of range for {fields} fields"

/-- What goes wrong in a scan. -/
inductive ScanError where
  | missingProperty (key : String)
  | invalidProperty (key value : String) (fault : PropertyFault)
  | invalidSnapshot (value : String) (fault : ReadPointFault)
  | invalidProjection (fault : ProjectionFault)
  | invalidPattern (field pattern : String) (fault : PatternFault)
  | tableNotFound (table : TableRef)
  | noColumns (table : TableRef)
  | planning (table : TableRef) (source : StoreError)
  | cursor (split : Nat) (source : StoreError)
  | connection (source : StoreError)
  | coercion (field : String) (kind : RawKind) (target : DataType) (fault : CoercionFault)
  | invalidState (operation : EngineOperation) (fault : StateFault)
  | noMoreRows (split : Nat)
  deriving DecidableEq

namespace ScanError

/-- The code of an error. -/
def code : ScanError → ErrorCode
  | .missingProperty _ => .missingProperty
  | .invalidProperty .. => .invalidProperty
  | .invalidSnapshot .. => .invalidSnapshotTimestamp
  | .invalidProjection _ => .invalidProjection
  | .invalidPattern .. => .invalidTimestampPattern
  | .tableNotFound _ => .tableNotFound
  | .noColumns _ => .noColumns
  | .planning .. => .planningFailed
  | .cursor .. => .cursorFailed
  | .connection _ => .connectionFailed
  | .coercion .. => .coercionFailed
  | .invalidState .. => .invalidState
  | .noMoreRows _ => .noMoreRows

/-- The store's error behind an error. -/
def source? : ScanError → Option StoreError
  | .planning _ e | .cursor _ e | .connection e => some e
  | _ => none

/-- The wording of an error. -/
def message : ScanError → String
  | .missingProperty key => key ++ " can not be null"
  | .invalidProperty key value fault =>
    "invalid value " ++ quoted value ++ " for " ++ key ++ ": " ++ fault.message
  | .invalidSnapshot value fault =>
    "invalid snapshot timestamp " ++ quoted value ++ ": " ++ fault.message
  | .invalidProjection fault => "invalid projection: " ++ fault.message
  | .invalidPattern field pattern fault =>
    "invalid timestamp pattern " ++ quoted pattern ++ " for field " ++ field ++ ": " ++ fault.message
  | .tableNotFound table => "table " ++ table.display ++ " not found"
  | .noColumns table => "table " ++ table.display ++ " has no columns"
  | .planning table e => "failed to plan splits for " ++ table.display ++ ": " ++ e.message
  | .cursor split e => "cursor on split " ++ toString split ++ " failed: " ++ e.message
  | .connection e => "failed to connect to store: " ++ e.message
  | .coercion field kind target fault =>
    "type coercion error on field " ++ field ++ ": cannot convert " ++ kind.name ++ " to " ++
      target.display ++ ": " ++ fault.message
  | .invalidState operation fault =>
    "cannot " ++ operation.name ++ " while engine is " ++ fault.message
  | .noMoreRows split => "no more rows available on split " ++ toString split

/-- The wordings of an error and of what caused it, outermost first. -/
def chain (e : ScanError) : List String := e.message :: (e.source?.map (·.message)).toList

/-- Whether the configuration is to blame. -/
def isConfiguration (e : ScanError) : Bool := e.code.category == .configuration

/-- Whether the planning failed. -/
def isPlanning (e : ScanError) : Bool := e.code.category == .planning

end ScanError

end RegionScan
