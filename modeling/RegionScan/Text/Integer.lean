/-!
# Integer Text

How integers of a bounded range are read.

A text is read from the left, one digit at a time. Reading stops at the first
thing that is wrong, so a number that leaves its range before a stray letter is
reported as too large, and one that leaves it behind the letter as invalid. A
plus sign is always allowed, a minus sign only if the range has negative
numbers.

## Main definitions

* `IntegerTextError`: Why a text names no integer of the range.
* `readInteger`: The integer that a text names.
* `readNatural`: The natural number below a bound that a text names.
-/

namespace RegionScan

/-- Why a text names no integer of a range. -/
inductive IntegerTextError where
  | empty
  | invalidDigit
  | tooLarge
  | tooSmall
  deriving DecidableEq, Repr

/-- The wording of the failure. -/
def IntegerTextError.message : IntegerTextError → String
  | .empty => "cannot parse integer from empty string"
  | .invalidDigit => "invalid digit found in string"
  | .tooLarge => "number too large to fit in target type"
  | .tooSmall => "number too small to fit in target type"

/-- Read digits into a magnitude, up to a largest one. The failure `overflow`
    arises at the first digit that leads past it. -/
def readMagnitude (largest : Nat) (overflow : IntegerTextError) :
    Nat → List Char → Except IntegerTextError Nat
  | n, [] => .ok n
  | n, c :: rest =>
    if c.isDigit then
      let next := 10 * n + (c.toNat - '0'.toNat)
      if largest < next then .error overflow else readMagnitude largest overflow next rest
    else .error .invalidDigit

/-- Read at least one digit. -/
def readDigits (largest : Nat) (overflow : IntegerTextError) (s : List Char) :
    Except IntegerTextError Nat :=
  if s.isEmpty then .error .invalidDigit else readMagnitude largest overflow 0 s

/-- Read an integer between `-lowest` and `largest`. -/
def readInteger (lowest largest : Nat) (s : List Char) : Except IntegerTextError Int :=
  match s with
  | [] => .error .empty
  | '+' :: rest => (readDigits largest .tooLarge rest).map Int.ofNat
  | '-' :: rest =>
    if lowest = 0 then .error .invalidDigit
    else (readDigits lowest .tooSmall rest).map fun n => -(n : Int)
  | rest => (readMagnitude largest .tooLarge 0 rest).map Int.ofNat

/-- Read a natural number up to `largest`. -/
def readNatural (largest : Nat) (s : List Char) : Except IntegerTextError Nat :=
  (readInteger 0 largest s).map Int.toNat

/-- Read a signed integer of 64 bits. -/
def readInt64 (s : List Char) : Except IntegerTextError Int64 :=
  (readInteger (1 <<< 63) ((1 <<< 63) - 1) s).map Int64.ofInt

/-- Read an unsigned integer of 64 bits. -/
def readUInt64 (s : List Char) : Except IntegerTextError UInt64 :=
  (readNatural ((1 <<< 64) - 1) s).map UInt64.ofNat

end RegionScan
