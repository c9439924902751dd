import RegionScan.Scan.InputSplit

/-!
# Parallel Scans

A scan by several workers.

Every worker has an engine of its own, a duplicate with its own connection and
its own row counter, and takes splits from a shared assigner until none is left
or one fails. In which order the workers take their turns is a parameter: a
turn is a worker taking one split and reading it whole. When the given turns
are over, the workers finish one after the other. The rows come back in the
order of the splits, cut to the limit.

If workers fail, the failure reported is that of the first of them by number.

## Main definitions

* `WorkerFailure`: What a worker failed at.
* `Worker`, `ScanRun`: The state of a scan under way.
* `ScanRun.turn`: One worker takes one turn.
* `Engine.scan`: The whole scan.
-/

namespace RegionScan

/-- What a worker failed at. -/
inductive WorkerFailure where
  | configuring (worker : Nat) (error : ScanError)
  | opening (split : InputSplit) (error : ScanError)
  | reading (split : InputSplit) (error : ScanError)
  deriving DecidableEq

/-- The wording of the failure with all that caused it. -/
def WorkerFailure.message : WorkerFailure → String
  | .configuring worker e =>
    ": ".intercalate (s!"Worker {worker} failed to configure its scan" :: e.chain)
  | .opening split e => ": ".intercalate (("Failed to open " ++ split.display) :: e.chain)
  | .reading split e => ": ".intercalate (("Failed to read " ++ split.display) :: e.chain)

/-- What a worker is doing. -/
inductive WorkerStatus where
  | active
  | finished
  | failed (failure : WorkerFailure)

/-- One worker of a scan. -/
structure Worker where
  engine : Engine
  /-- The splits read so far with their rows. -/
  output : List (Nat × List Row)
  status : WorkerStatus

/-- A scan under way. -/
structure ScanRun where
  store : Store
  assigner : SplitAssigner
  workers : List Worker

/-- The fields and the rows of a scan. -/
structure ScanOutput where
  fields : List Field
  rows : List Row

namespace Worker

/-- Give up or finish: the engine is closed. -/
def stop (w : Worker) (s : Store) (status : WorkerStatus) : Worker × Store :=
  let (engine, s) := w.engine.close s
  ({ w with engine := engine, status := status }, s)

/-- A new worker, configured. -/
def start (e : Engine) (number : Nat) (s : Store) : Worker × Store :=
  match e.duplicate.configure s with
  | (.error err, engine, s) => (⟨engine, [], .failed (.configuring number err)⟩, s)
  | (.ok (), engine, s) => (⟨engine, [], .active⟩, s)

/-- Read a split whole. -/
def readSplit (w : Worker) (s : Store) (split : InputSplit) : Worker × Store :=
  match w.engine.openInput s split with
  | (.error err, engine, s) => { w with engine := engine }.stop s (.failed (.opening split err))
  | (.ok (), engine, s) =>
    let (rows, failure, engine) := engine.drain s
    -- The split is closed before a failure to read it is looked at.
    let (engine, s) := engine.closeSplit s
    let w := { w with engine := engine }
    match failure with
    | some err => w.stop s (.failed (.reading split err))
    | none => ({ w with output := w.output ++ [(split.number, rows)] }, s)

end Worker

namespace ScanRun

/-- Start workers, numbered from `number` on. -/
def startWorkers (e : Engine) (s : Store) (number : Nat) : Nat → List Worker × Store
  | 0 => ([], s)
  | n + 1 =>
    let (w, s) := Worker.start e number s
    let (ws, s) := startWorkers e s (number + 1) n
    (w :: ws, s)

/-- A worker takes the next split and reads it, or finishes if there is
    none. -/
def turn (r : ScanRun) (number : Nat) : ScanRun :=
  match r.workers[number]? with
  | none => r
  | some w =>
    match w.status with
    | .active =>
      match r.assigner.next with
      | (none, _) =>
        let (w, s) := w.stop r.store .finished
        { r with store := s, workers := r.workers.set number w }
      | (some split, assigner) =>
        let (w, s) := w.readSplit r.store split
        ⟨s, assigner, r.workers.set number w⟩
    | _ => r

/-- The workers take the given turns. -/
def turns (r : ScanRun) (numbers : List Nat) : ScanRun := numbers.foldl turn r

/-- A worker goes on until it finishes or fails. Every turn but the last one
    takes a split. -/
def finish (r : ScanRun) (number : Nat) : ScanRun :=
  r.turns (List.replicate (r.assigner.remaining + 1) number)

/-- All workers finish, one after the other. -/
def finishAll (r : ScanRun) : ScanRun := (List.range r.workers.length).foldl finish r

/-- The failure of the first worker that failed. -/
def failure? (r : ScanRun) : Option WorkerFailure :=
  r.workers.findSome? fun w =>
    match w.status with
    | .failed f => some f
    | _ => none

/-- The rows read by all workers, in the order of the splits. -/
def rows (r : ScanRun) : List Row :=
  ((r.workers.flatMap (·.output)).mergeSort fun a b => a.1 ≤ b.1).flatMap (·.2)

end ScanRun

/-- Scan all splits of an engine with some workers, which take turns as given
    and then finish. -/
def Engine.scan (e : Engine) (s : Store) (workers : Nat) (turns : List Nat) :
    Except WorkerFailure ScanOutput × Store :=
  let workers := max workers 1
  let (ws, s) := ScanRun.startWorkers e s 0 workers
  let run := (ScanRun.turns ⟨s, ⟨e.inputSplits workers⟩, ws⟩ turns).finishAll
  match run.failure? with
  | some failure => (.error failure, run.store)
  | none =>
    let rows := run.rows
    -- Each worker kept to the limit on its own, so together they may be above it.
    (.ok ⟨e.producedFields, (e.limit.map rows.take).getD rows⟩, run.store)

end RegionScan
