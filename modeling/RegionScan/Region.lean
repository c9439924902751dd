import RegionScan.Key

/-!
# Tables, Regions and Splits

The names of the parts of a store.

A table is named by its database and its own name. The keys of a table are cut
into regions, each a range of keys that includes its start and excludes its
end. A split is the part of a scan that reads one region.

## Main definitions

* `TableRef`: The name of a table.
* `RegionId`: The number of a region.
* `Split`: One region of a table, as a unit of work.
* `Split.contains`: Whether a key lies in a split's range.
-/

namespace RegionScan

/-- The name of a table: its database and its name there. -/
structure TableRef where
  database : String
  table : String
  deriving DecidableEq

namespace TableRef

/-- Tables are ordered by database, then by name. -/
instance : Ord TableRef := ⟨compareLex (compareOn (·.database)) (compareOn (·.table))⟩

instance : Std.TransOrd TableRef :=
  inferInstanceAs (Std.TransCmp (compareLex (compareOn _) (compareOn _)))

/-- The two names with a point between them. -/
def display (t : TableRef) : String := t.database ++ "." ++ t.table

/-- The name for a reader of a log. -/
def debug (t : TableRef) : String := "TableRef(" ++ t.display ++ ")"

end TableRef

/-- The number of a region. -/
structure RegionId where
  number : UInt64
  deriving DecidableEq

namespace RegionId

/-- The number in decimal. -/
def display (r : RegionId) : String := toString r.number.toNat

/-- The number for a reader of a log. -/
def debug (r : RegionId) : String := "RegionId(" ++ r.display ++ ")"

/-- The next number. The last number is its own successor. -/
def next (r : RegionId) : RegionId :=
  if r.number.toNat + 1 < 1 <<< 64 then ⟨r.number + 1⟩ else r

end RegionId

/-- One region of a table, as a unit of work. -/
structure Split where
  table : TableRef
  region : RegionId
  startKey : Key
  /-- The first key behind the range, empty if the range has no end. -/
  endKey : Key
  deriving DecidableEq

/-- Whether a key lies in the range of a split. -/
def Split.contains (s : Split) (k : Key) : Bool :=
  (compare s.startKey k).isLE && (s.endKey.isEmpty || compare k s.endKey == .lt)

end RegionScan
