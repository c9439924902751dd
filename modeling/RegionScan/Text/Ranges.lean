/-!
# Ranges of Code Points

Character properties given by data.

Most properties of characters are lists that no rule shortens. They are kept
as ranges of code points, first and last one included, in ascending order.

## Main definitions

* `CodePointRanges`: The ranges of one property.
* `CodePointRanges.covers`: Whether a character has the property.
-/

namespace RegionScan

/-- The code points that have one property, as inclusive ranges. -/
abbrev CodePointRanges := List (Nat × Nat)

/-- Whether one of the ranges holds the character. -/
def CodePointRanges.covers (ranges : CodePointRanges) (c : Char) : Bool :=
  ranges.any fun r => r.1 ≤ c.toNat && c.toNat ≤ r.2

end RegionScan
