import RegionScan.Scan.Config
import RegionScan.Store.Connection

/-!
# Scan Plans

What a scan knows of its table before it reads a row.

A plan is made once, over a connection of its own: the table must exist and
have columns, and its splits are fixed from then on. The connection is closed
whatever comes of the plan, and a failure to close it is not a failure of the
plan.

## Main definitions

* `ScanPlan`: The columns and splits of a table.
* `ScanPlan.make`: The plan of a configuration.
-/

namespace RegionScan

/-- What a scan knows of its table. -/
structure ScanPlan where
  table : TableRef
  columns : List Column
  splits : List Split
  deriving DecidableEq

namespace ScanPlan

/-- The split of a number. -/
def split? (p : ScanPlan) (n : Nat) : Option Split := p.splits[n]?

/-- The number of columns. -/
def width (p : ScanPlan) : Nat := p.columns.length

/-- The plan of a table, asked for over a connection. -/
def ask (c : Connection) (s : Store) (table : TableRef) : Except ScanError ScanPlan := do
  let found ← (c.tableExists s table).mapError (.planning table)
  if !found then throw (.tableNotFound table)
  let columns ← (c.listColumns s table).mapError (.planning table)
  if columns.isEmpty then throw (.noColumns table)
  let splits ← (c.planSplits s table).mapError (.planning table)
  return ⟨table, columns, splits⟩

/-- The plan of a configuration. -/
def make (s : Store) (config : ScanConfig) : Except ScanError ScanPlan × Store :=
  match s.connect with
  | (.error e, s) => (.error (.planning config.table e), s)
  | (.ok c, s) =>
    let plan := ask c s config.table
    (plan, (c.close s).2.2)

end ScanPlan

end RegionScan
