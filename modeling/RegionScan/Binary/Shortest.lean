import RegionScan.Binary.Format

/-!
# Shortest Decimal Digits

The fewest decimal digits that still name one floating-point number.

All reals that round to a number form an interval around it, ends included if
its significand is even. The digits printed are the shortest decimal in that
interval and, among the shortest, the one nearest to the number. For a given
count of digits only the two neighbours of the number on that decimal grid can
qualify: if any point of the grid lies in the interval, then so does one of
them. So the search tries one digit, two digits and so on, and each trial is a
comparison of integers.

## Main definitions

* `DecimalDigits`: A natural number times a power of ten.
* `TieBreak`: Which of two equally near decimals is taken.
* `BinaryFormat.shortest`: The shortest digits of a positive number.
* `DecimalDigits.leadingExponent`: The power of ten of the first digit.
-/

namespace RegionScan

/-- The number of decimal digits of a natural number, none for zero. -/
def digitCount (n : Nat) : Nat :=
  if n = 0 then 0 else digitCount (n / 10) + 1

/-- A decimal: `coefficient` times ten to the power `exponent`. -/
structure DecimalDigits where
  coefficient : Nat
  exponent : Int
  deriving DecidableEq, Repr

namespace DecimalDigits

/-- The power of ten that the first digit stands for. -/
def leadingExponent (d : DecimalDigits) : Int := d.exponent + digitCount d.coefficient - 1

/-- Drop zeros at the end of the coefficient. -/
def trimZeros (coefficient : Nat) (exponent : Int) : DecimalDigits :=
  if h : coefficient ≠ 0 ∧ coefficient % 10 = 0 then
    trimZeros (coefficient / 10) (exponent + 1)
  else ⟨coefficient, exponent⟩
termination_by coefficient
decreasing_by omega

end DecimalDigits

/-- Which of two equally near decimals is taken. -/
inductive TieBreak where
  /-- The larger one. -/
  | up
  /-- The one whose last digit is even. -/
  | even
  deriving DecidableEq, Repr

/-- The floor of the decimal logarithm of a positive quotient. Above one it
    is read off the digits of the whole part, below one off the digits of the
    inverse. -/
def log10Ratio (num den : Nat) : Int :=
  if den ≤ num then (digitCount (num / den) : Int) - 1 else -(digitCount ((den - 1) / num) : Int)

namespace BinaryFormat

/-- A positive number with the reals that round to it, all over one
    denominator. The number is `value / den`; the interval reaches down by
    `below / den` and up by `above / den`. -/
structure Neighbourhood where
  value : Nat
  den : Nat
  below : Nat
  above : Nat
  /-- Whether the two ends round to the number too. -/
  closed : Bool

/-- The reals that round to a positive number of a format. The gap below the
    first number of a binade is half the gap above it, except at the bottom,
    where the weight of the last bit no longer changes. -/
def neighbourhood (f : BinaryFormat) (significand : Nat) (e : Int) : Neighbourhood :=
  let binadeStart := significand = 1 <<< f.fractionBits ∧ f.minExponent < e
  let (unit, den) := scaleDown 1 1 (2 - e)
  { value := 4 * significand * unit
    den := den
    below := if binadeStart then unit else 2 * unit
    above := 2 * unit
    closed := significand % 2 = 0 }

namespace Neighbourhood

/-- The decimal on the grid of multiples of `10 ^ exponent` that rounds to
    the number and is nearest to it, if the grid has one. -/
def onGrid (n : Neighbourhood) (tie : TieBreak) (exponent : Int) : Option Nat :=
  let up := Nat.pow 10 (-exponent).toNat
  let value := n.value * up
  let step := n.den * Nat.pow 10 exponent.toNat
  let floor := value / step
  let low := value - floor * step
  let high := step - low
  let within (distance reach : Nat) : Bool :=
    distance < reach || (n.closed && distance == reach)
  let lowFits := floor ≠ 0 ∧ within low (n.below * up)
  let highFits := within high (n.above * up)
  let preferHigh :=
    match compare high low, tie with
    | .lt, _ => true
    | .gt, _ => false
    | .eq, .up => true
    | .eq, .even => floor % 2 == 1
  if lowFits ∧ (!highFits ∨ !preferHigh) then some floor
  else if highFits then some (floor + 1)
  else none

end Neighbourhood

/-- The digits that are always enough to tell two numbers of a format apart. -/
def sufficientDigits (f : BinaryFormat) : Nat := 2 + f.fractionBits * 30103 / 100000 + 1

/-- The shortest decimal that rounds to a positive number, the nearest one
    among those. -/
def shortest (f : BinaryFormat) (tie : TieBreak) (significand : Nat) (e : Int) : DecimalDigits :=
  let n := f.neighbourhood significand e
  let lead := log10Ratio n.value n.den
  let trial (count : Nat) : Option DecimalDigits :=
    let exponent := lead - count
    (n.onGrid tie exponent).map fun c => .trimZeros c exponent
  ((List.range f.sufficientDigits).findSome? trial).getD ⟨significand, e⟩

end BinaryFormat

end RegionScan
