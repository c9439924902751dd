import RegionScan.Scan.Engine

/-!
# Input Splits

The splits of a scan as work to hand out.

A host sees a split as a number among a total. The total ties it to the plan
it belongs to, so an engine refuses a split of another plan. An assigner is the
queue from which workers take splits: those not handed out yet come first, in
order, and those that were returned come after them.

## Main definitions

* `InputSplit`: A number among a total.
* `SplitAssigner`: The splits left to do.
* `Engine.inputSplits`, `Engine.openInput`: The splits of an engine.
* `ScanStatistics`: What is known of a table's size.
-/

namespace RegionScan

/-- A split as a number among a total. -/
structure InputSplit where
  number : Nat
  total : Nat
  deriving DecidableEq

/-- The number and the total. -/
def InputSplit.display (s : InputSplit) : String := s!"split {s.number}/{s.total}"

/-- The splits left to hand out, the next one first. -/
structure SplitAssigner where
  pending : List InputSplit
  deriving DecidableEq

namespace SplitAssigner

/-- The number of splits left. -/
def remaining (a : SplitAssigner) : Nat := a.pending.length

/-- Hand out the next split. -/
def next (a : SplitAssigner) : Option InputSplit × SplitAssigner :=
  match a.pending with
  | [] => (none, a)
  | split :: rest => (some split, ⟨rest⟩)

/-- Take splits back, behind all others. -/
def giveBack (a : SplitAssigner) (splits : List InputSplit) : SplitAssigner :=
  ⟨a.pending ++ splits⟩

end SplitAssigner

/-- What is known of a table's size. -/
structure ScanStatistics where
  totalSize : Option UInt64
  records : Option UInt64
  recordWidth : Option Single
  deriving DecidableEq

namespace Engine

/-- The splits of an engine, in order. Their number is that of the plan,
    whatever number is wished for. -/
def inputSplits (e : Engine) (_minimum : Nat) : List InputSplit :=
  (List.range e.plan.splits.length).map fun n => ⟨n, e.plan.splits.length⟩

/-- Open a split that was handed out. -/
def openInput (e : Engine) (s : Store) (split : InputSplit) :
    Except ScanError Unit × Engine × Store :=
  let count := e.plan.splits.length
  if split.total ≠ count then
    (.error (.invalidState .openSplit (.otherPlan count split.number split.total)), e, s)
  else e.openSplit s split.number

/-- Statistics are those known already. -/
def statistics (_ : Engine) (known : Option ScanStatistics) : Option ScanStatistics := known

end Engine

end RegionScan
