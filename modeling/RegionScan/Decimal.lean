import RegionScan.Binary.Text
import RegionScan.Calendar.Writer
import RegionScan.Text.Blank

/-!
# Decimals

Exact decimal numbers of a fixed number of places.

A decimal is a whole number of units of its last place: the unscaled number,
which has 128 bits, and the scale, which is the number of places. It is written
with all its places and read back with as many as were written. To write it the
places are divided off, so the power of ten for them must have 128 bits as well;
a decimal of more places has no text.

A decimal can be brought to another scale if the number can be written there:
more places multiply the unscaled number, and fewer divide it, which has to
come out even.

## Main definitions

* `Int128`: The integers of 128 bits.
* `Decimal`: An unscaled number and a scale.
* `Decimal.display?`, `Decimal.ofText?`: The written form and back.
* `Decimal.rescale`: The same number at another scale.
-/

namespace RegionScan

/-- An integer of 128 bits. -/
structure Int128 where
  val : Int
  val_mem : -(1 <<< 127) ≤ val ∧ val < 1 <<< 127
  deriving DecidableEq

namespace Int128

/-- The integer with a value, if it fits. -/
def ofInt? (n : Int) : Option Int128 :=
  if h : -(1 <<< 127) ≤ n ∧ n < 1 <<< 127 then some ⟨n, h⟩ else none

/-- A 64-bit integer. -/
def ofInt64 (n : Int64) : Int128 :=
  ⟨n.toInt, by have := n.le_toInt; have := n.toInt_lt; omega⟩

/-- An unsigned 64-bit integer. -/
def ofUInt64 (n : UInt64) : Int128 :=
  ⟨n.toNat, by have := n.toNat_lt; omega⟩

end Int128

/-- A decimal number: `unscaled` divided by ten to the power `scale`. -/
structure Decimal where
  unscaled : Int128
  scale : UInt8
  deriving DecidableEq

/-- Why a decimal cannot be brought to a scale. -/
inductive RescaleError where
  /-- The power of ten between the two scales has more than 128 bits. -/
  | scaleTooLarge (places : Nat)
  | overflow
  /-- Places that are not zero would be lost. -/
  | inexact (scale : Nat)
  deriving DecidableEq

/-- The wording of the failure. -/
def RescaleError.message : RescaleError → String
  | .scaleTooLarge n => "decimal scale " ++ toString n ++ " too large"
  | .overflow => "decimal overflow"
  | .inexact n => "value does not fit scale " ++ toString n

namespace Decimal

/-- The largest power of ten with 128 bits. -/
def maxPlaces : Nat := 38

/-- The number with all its places, if there are not too many. -/
def display? (d : Decimal) : Option String :=
  let places := d.scale.toNat
  let magnitude := d.unscaled.val.natAbs
  let sign := if d.unscaled.val < 0 then ['-'] else []
  let whole := (toString (magnitude / Nat.pow 10 places)).toList
  if maxPlaces < places then none
  else if places = 0 then some (String.ofList (sign ++ whole))
  else
    some (String.ofList
      (sign ++ whole ++ '.' :: zeroPadded places (magnitude % Nat.pow 10 places)))

/-- The text of a decimal where one has to be shown. Writing a decimal that has none is
    an overflow, of which nothing is promised. -/
def display (d : Decimal) : String := d.display?.getD ""

/-- The whole and the fractional part of an unsigned literal. -/
def splitPoint (s : List Char) : List Char × List Char :=
  (s.takeWhile (· ≠ '.'), (s.dropWhile (· ≠ '.')).drop 1)

/-- The decimal that a text spells: a sign, digits and at most one point, with
    a digit on either side of it. The scale is the number of digits behind the
    point. -/
def ofText? (s : String) : Option Decimal :=
  let (negative, unsigned) := splitSign (trimBlanks s.toList)
  let (whole, fraction) := splitPoint unsigned
  let digits := whole ++ fraction
  if digits.isEmpty ∨ !digits.all Char.isDigit ∨ 255 < fraction.length then none
  else
    let magnitude := digitsValue digits
    if magnitude < 1 <<< 127 then
      (Int128.ofInt? (if negative then -(magnitude : Int) else magnitude)).map
        (⟨·, UInt8.ofNat fraction.length⟩)
    else none

/-- The same number with a given number of places. -/
def rescale (d : Decimal) (scale : UInt8) : Except RescaleError Decimal :=
  if d.scale.toNat ≤ scale.toNat then
    let places := scale.toNat - d.scale.toNat
    if maxPlaces < places then .error (.scaleTooLarge places)
    else
      match Int128.ofInt? (d.unscaled.val * Nat.pow 10 places) with
      | some n => .ok ⟨n, scale⟩
      | none => .error .overflow
  else
    let places := d.scale.toNat - scale.toNat
    if maxPlaces < places then .error (.scaleTooLarge places)
    else if d.unscaled.val.tmod (Nat.pow 10 places) ≠ 0 then .error (.inexact scale.toNat)
    else
      match Int128.ofInt? (d.unscaled.val.tdiv (Nat.pow 10 places)) with
      | some n => .ok ⟨n, scale⟩
      | none => .error .overflow

/-- The double nearest to the unscaled number, divided by the power of ten as
    doubles are. -/
def toDouble (d : Decimal) : Double :=
  (Double.ofInt d.unscaled.val).div (Double.powerOfTen d.scale.toNat)

end Decimal

end RegionScan
