import RegionScan.Scan.Coercer
import RegionScan.Scan.Plan
import RegionScan.Scan.SplitCursor

/-!
# The Scan Engine

One scan of one table, from its plan to its last row.

An engine is planned when it is made. Until its first split is opened it takes
settings: a row limit, a projection, a filter. `configure` compiles the
patterns and connects to the store; after that splits are opened, read and
closed, one at a time and in any order. The limit is one for the whole engine:
a cursor is asked only for the rows that are left, and none is opened once the
limit is reached.

The runtime of an engine is one of four: not configured, ready, reading a
split, or closed. Only a ready or reading one has a connection and only a
reading one has a cursor, so the state of an engine and the resources it holds
cannot disagree.

Between moving to a row and producing it the row is pending. Asking again
whether there is more does not move on.

## Main definitions

* `Reading`, `Runtime`, `Engine`: An engine and what it holds.
* `Engine.plan`: A new engine.
* `Engine.setLimit`, `Engine.project`, `Engine.setFilter`,
  `Engine.setOutputFields`: Settings.
* `Engine.configure`, `Engine.openSplit`, `Engine.closeSplit`,
  `Engine.close`: The life of an engine.
* `Engine.hasMore`, `Engine.produceNext`, `Engine.drain`: Reading rows.
-/

namespace RegionScan

/-- The largest number of rows that a cursor can be asked for. -/
def maxCursorRows : Nat := (1 <<< 31) - 1

/-- A split being read. -/
structure Reading where
  cursor : SplitCursor
  /-- Whether the cursor has moved to a row that was not produced yet. -/
  pending : Bool
  deriving DecidableEq

/-- What an engine holds at runtime. -/
inductive Runtime where
  | unconfigured
  | ready (connection : Connection) (coercer : Coercer)
  | scanning (connection : Connection) (coercer : Coercer) (reading : Reading)
  | closed

/-- One scan of one table. -/
structure Engine where
  config : ScanConfig
  plan : ScanPlan
  /-- The output field of every column of the table. -/
  fields : List Field
  limit : Option Nat
  /-- The columns to produce, in order. -/
  projection : List Nat
  filter : Option Filter
  /-- The number of rows produced. -/
  recordCount : Nat
  /-- Whether a split was ever opened. -/
  started : Bool
  runtime : Runtime
  currentSplit : Option Nat

namespace Engine

/-- A new engine with its plan. -/
def ofPlan (config : ScanConfig) (plan : ScanPlan) : Engine where
  config := config
  plan := plan
  fields := plan.columns.map fun c => ⟨c.name, c.type⟩
  limit := none
  projection := List.range plan.width
  filter := none
  recordCount := 0
  started := false
  runtime := .unconfigured
  currentSplit := none

/-- Plan a scan of a store. -/
def make (s : Store) (config : ScanConfig) : Except ScanError Engine × Store :=
  let (plan, s) := ScanPlan.make s config
  (plan.map (ofPlan config), s)

/-- Plan the scan that properties describe. -/
def ofProperties (s : Store) (properties : Properties) : Except ScanError Engine × Store :=
  match ScanConfig.ofProperties properties with
  | .error e => (.error e, s)
  | .ok config => make s config

/-- A new engine with the same plan and settings. -/
def duplicate (e : Engine) : Engine :=
  { e with
    recordCount := 0, started := false, runtime := .unconfigured, currentSplit := none }

/-- Where an engine is in its life. -/
def state (e : Engine) : EngineState :=
  match e.runtime with
  | .unconfigured => .unconfigured
  | .ready .. => .ready
  | .scanning .. => .scanning
  | .closed => .closed

/-- The field of a column. -/
def field (e : Engine) (ordinal : Nat) : Field := e.fields[ordinal]?.getD ⟨"", .text⟩

/-- The fields of the rows that are produced. -/
def producedFields (e : Engine) : List Field := e.projection.map e.field

/-- The error for an operation that the engine's state forbids. -/
def refusal (e : Engine) (operation : EngineOperation) : ScanError :=
  .invalidState operation (.inState e.state)

/-- Settings can be changed until a split was opened or the engine closed. -/
def settable (e : Engine) (operation : EngineOperation) : Except ScanError Unit :=
  if e.started ∨ e.state = .closed then .error (.invalidState operation (.started e.state))
  else .ok ()

/-- Whether as many rows were produced as the limit allows. -/
def limitReached (e : Engine) : Bool := e.limit.any (· ≤ e.recordCount)

/-- The number of rows to ask a cursor for: those the limit leaves, and no
    more than a cursor can be asked for. -/
def budget (e : Engine) : Nat :=
  match e.limit with
  | none => maxCursorRows
  | some limit => min (limit - e.recordCount) maxCursorRows

/-- Set the row limit. -/
def setLimit (e : Engine) (limit : Nat) : Except ScanError Unit × Engine :=
  match e.settable .setLimit with
  | .error err => (.error err, e)
  | .ok () => (.ok (), { e with limit := some limit })

/-- The columns that paths name, each path one column and each column at most
    once. `done` holds the columns before, last one first. -/
def checkPaths (width : Nat) (done : List Nat) : List (List Nat) → Except ScanError (List Nat)
  | [] => .ok done.reverse
  | [column] :: rest =>
    if width ≤ column then .error (.invalidProjection (.columnOutOfRange column width))
    else if done.contains column then .error (.invalidProjection (.repeated column))
    else checkPaths width (column :: done) rest
  | path :: _ => .error (.invalidProjection (.pathLength done.length path.length))

/-- Set the columns to produce. -/
def project (e : Engine) (paths : List (List Nat)) : Except ScanError Unit × Engine :=
  match e.settable .setProjectedFields with
  | .error err => (.error err, e)
  | .ok () =>
    match checkPaths e.plan.width [] paths with
    | .error err => (.error err, e)
    | .ok projection => (.ok (), { e with projection := projection })

/-- Set the filter, which can be done once. -/
def setFilter (e : Engine) (filter : Filter) : Except ScanError Unit × Engine :=
  match e.settable .setFilter with
  | .error err => (.error err, e)
  | .ok () =>
    if e.filter.isSome then (.error (.invalidState .setFilter .filtered), e)
    else
      match filter.maxColumn?.filter (e.plan.width ≤ ·) with
      | some column =>
        (.error (.invalidProperty "filter" filter.display
          (.columnOutOfRange column e.plan.width)), e)
      | none => (.ok (), { e with filter := some filter })

/-- Set the output fields, one for each column of the table. -/
def setOutputFields (e : Engine) (fields : List Field) : Except ScanError Engine :=
  if e.state ≠ .unconfigured then .error (e.refusal .setOutputFields)
  else if fields.length ≠ e.plan.width then
    .error (.invalidProjection (.fieldCount e.plan.width fields.length))
  else .ok { e with fields := fields }

/-- Compile the patterns and connect to the store, which can be done once. -/
def configure (e : Engine) (s : Store) : Except ScanError Unit × Engine × Store :=
  if e.state ≠ .unconfigured then (.error (e.refusal .configureRuntime), e, s)
  else
    match Coercer.compile e.fields e.config with
    | .error err => (.error err, e, s)
    | .ok coercer =>
      match s.connect with
      | (.error err, s) => (.error (.connection err), e, s)
      | (.ok connection, s) => (.ok (), { e with runtime := .ready connection coercer }, s)

/-- Close the split being read, if there is one. -/
def closeSplit (e : Engine) (s : Store) : Engine × Store :=
  match e.runtime with
  | .scanning connection coercer reading =>
    ({ e with runtime := .ready connection coercer }, (reading.cursor.close s).2)
  | _ => (e, s)

/-- Close an engine and what it holds. -/
def close (e : Engine) (s : Store) : Engine × Store :=
  let (e, s) := e.closeSplit s
  match e.runtime with
  | .ready connection _ => ({ e with runtime := .closed }, (connection.close s).2.2)
  | _ => ({ e with runtime := .closed }, s)

/-- What a cursor of a split is asked for. -/
def request (e : Engine) (split : Split) : ScanRequest where
  split := split
  columns := e.projection.filterMap fun ordinal => e.plan.columns[ordinal]?
  filter := e.filter
  snapshot := e.config.snapshot
  limit := UInt32.ofNat e.budget

/-- Open a split, closing the one being read. If the limit is reached there is
    no cursor to open. -/
def openSplit (e : Engine) (s : Store) (n : Nat) : Except ScanError Unit × Engine × Store :=
  match e.runtime with
  | .unconfigured | .closed => (.error (e.refusal .openSplit), e, s)
  | _ =>
    -- The split being read is lost even if there is no split to open.
    let (e, s) := e.closeSplit s
    match e.plan.split? n, e.runtime with
    | some split, .ready connection coercer =>
      -- The engine is started even if no cursor is opened, so its settings are fixed.
      let e := { e with started := true, currentSplit := some n }
      if e.limitReached then (.ok (), e, s)
      else
        match SplitCursor.ofRequest connection s n (e.request split) with
        | (.error err, s) => (.error err, e, s)
        | (.ok cursor, s) =>
          (.ok (), { e with runtime := .scanning connection coercer ⟨cursor, false⟩ }, s)
    | _, _ =>
      (.error (.invalidState .openSplit (.noSuchSplit e.plan.splits.length n)), e, s)

/-- Whether there is a further row. If need be, move to it. -/
def hasMore (e : Engine) (s : Store) : Except ScanError Bool × Engine :=
  if e.limitReached then (.ok false, e)
  else
    match e.runtime with
    | .scanning connection coercer reading =>
      if reading.pending then (.ok true, e)
      else
        let (answer, cursor) := reading.cursor.advance s
        -- A move that fails leaves no row to produce.
        let pending :=
          match answer with
          | .ok moved => moved
          | .error _ => false
        (answer, { e with runtime := .scanning connection coercer ⟨cursor, pending⟩ })
    | _ => (.ok false, e)

/-- The row that the cursor stands on, projected and converted. -/
def currentRow (projection : List Nat) (cursor : SplitCursor) (coercer : Coercer) :
    Except ScanError Row :=
  (projection.zipIdx).mapM fun (ordinal, index) => do
    coercer.coerce ordinal (← cursor.value index)

/-- Produce the next row. A row that cannot be converted is passed over and
    does not count. -/
def produceNext (e : Engine) (s : Store) : Except ScanError Row × Engine :=
  match e.hasMore s with
  | (.error err, e) => (.error err, e)
  | (.ok false, e) => (.error (.noMoreRows (e.currentSplit.getD 0)), e)
  | (.ok true, e) =>
    match e.runtime with
    | .scanning connection coercer reading =>
      -- The row is used up, whether or not it can be converted.
      let e := { e with runtime := .scanning connection coercer { reading with pending := false } }
      match currentRow e.projection reading.cursor coercer with
      | .error err => (.error err, e)
      | .ok row => (.ok row, { e with recordCount := e.recordCount + 1 })
    | _ => (.error (e.refusal .produceRow), e)

/-- Produce up to so many rows, until there are no more or one fails. -/
def drainUpTo (s : Store) : Nat → Engine → List Row × Option ScanError × Engine
  | 0, e => ([], none, e)
  | n + 1, e =>
    match e.hasMore s with
    | (.error err, e) => ([], some err, e)
    | (.ok false, e) => ([], none, e)
    | (.ok true, e) =>
      match e.produceNext s with
      | (.error err, e) => ([], some err, e)
      | (.ok row, e) =>
        let (rows, failure, e) := drainUpTo s n e
        (row :: rows, failure, e)

/-- The number of rows that the split being read holds ready. -/
def bufferedRows (e : Engine) : Nat :=
  match e.runtime with
  | .scanning _ _ reading => reading.cursor.bufferedRows
  | _ => 0

/-- Produce rows until there are no more or one fails. No split gives more
    rows than it holds, and one step more finds the end. -/
def drain (e : Engine) (s : Store) : List Row × Option ScanError × Engine :=
  drainUpTo s (e.bufferedRows + 1) e

end Engine

end RegionScan
