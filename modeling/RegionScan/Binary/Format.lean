/-!
# Binary Floating-Point Formats

The two interchange formats a value can have, 64 and 32 bits wide, as exact
arithmetic on integers.

A finite datum is a sign and a product of a natural number and a power of two,
so every question about it is a question about integers: which of two is
larger, what its digits are, where a quotient rounds to. Nothing here uses the
machine's floating-point unit. That keeps each result open to proof, and makes
the two widths one definition with two parameter values.

`BinaryFormat.roundRatio` is the one place where a value is rounded. It takes
the quotient of two naturals to the nearest datum, a tie to the one with an
even significand. Multiplication, division, the reading of decimal text and the
narrowing from 64 to 32 bits all end there.

## Main definitions

* `BinaryFormat`: The field widths of a format.
* `Datum`: What a bit pattern denotes.
* `BinaryFormat.decode`: The datum of a bit pattern.
* `BinaryFormat.roundRatio`: The bit pattern nearest to a quotient.
* `Datum.compare?`: The order of two data, none if either is not a number.
* `Double`, `Single`: The two formats in use, as bit patterns.
-/

namespace RegionScan

/-- A binary interchange format, by the widths of its two fields below the
    sign bit. -/
structure BinaryFormat where
  /-- Bits of the significand that are stored. -/
  fractionBits : Nat
  /-- Bits of the biased exponent. -/
  exponentBits : Nat
  deriving DecidableEq, Repr

/-- What a bit pattern denotes. -/
inductive Datum where
  /-- Not a number. -/
  | nan
  /-- An infinity of either sign. -/
  | infinite (negative : Bool)
  /-- A signed multiple of a power of two. -/
  | finite (negative : Bool) (significand : Nat) (exponent : Int)
  deriving DecidableEq, Repr

namespace BinaryFormat

/-- The 64-bit format. -/
def binary64 : BinaryFormat := ⟨52, 11⟩

/-- The 32-bit format. -/
def binary32 : BinaryFormat := ⟨23, 8⟩

/-- The weight of the last bit of the smallest data, as an exponent of two. -/
def minExponent (f : BinaryFormat) : Int :=
  2 - (1 <<< (f.exponentBits - 1) : Nat) - f.fractionBits

/-- The value of a full exponent field, which marks infinities and NaN. -/
def fullField (f : BinaryFormat) : Nat := (1 <<< f.exponentBits) - 1

/-- The bit that says a datum is negative. -/
def signBit (f : BinaryFormat) : Nat := 1 <<< (f.exponentBits + f.fractionBits)

/-- The bit pattern of a positive infinity. -/
def infinity (f : BinaryFormat) : Nat := f.fullField * (1 <<< f.fractionBits)

/-- The bit pattern that stands for every NaN. -/
def quietNaN (f : BinaryFormat) : Nat := f.infinity + (1 <<< (f.fractionBits - 1))

/-- Put a sign on a bit pattern without one. -/
def withSign (f : BinaryFormat) (negative : Bool) (bits : Nat) : Nat :=
  if negative then f.signBit + bits else bits

/-- The datum of a bit pattern. A zero exponent field keeps the weight of the
    field one but has no leading bit. -/
def decode (f : BinaryFormat) (bits : Nat) : Datum :=
  let negative := bits / f.signBit % 2 == 1
  let field := bits / (1 <<< f.fractionBits) % (1 <<< f.exponentBits)
  let fraction := bits % (1 <<< f.fractionBits)
  if field = f.fullField then
    if fraction = 0 then .infinite negative else .nan
  else if field = 0 then
    .finite negative fraction f.minExponent
  else
    .finite negative ((1 <<< f.fractionBits) + fraction) (f.minExponent + (field - 1 : Nat))

/-- A quotient with a power of two taken out of it: the two naturals whose
    quotient is `num / den / 2 ^ e`. -/
def scaleDown (num den : Nat) (e : Int) : Nat × Nat :=
  if 0 ≤ e then (num, den * (1 <<< e.toNat)) else (num * (1 <<< (-e).toNat), den)

/-- The floor of the binary logarithm of a positive quotient. The bit lengths
    settle it up to one, and a comparison decides. -/
def log2Ratio (num den : Nat) : Int :=
  let guess : Int := (Nat.log2 num : Int) - Nat.log2 den
  let (n, d) := scaleDown num den guess
  if d ≤ n then guess else guess - 1

/-- A quotient rounded to the nearest integer, a half going to the even
    neighbour. -/
def roundHalfEven (num den : Nat) : Nat :=
  let q := num / den
  let twice := 2 * (num % den)
  if twice < den ∨ (twice = den ∧ q % 2 = 0) then q else q + 1

/-- The bit pattern, sign aside, nearest to the quotient of two naturals.

    Counting patterns from zero upwards, a significand of the next binade
    follows the last one of this binade, so a significand that rounds up to
    the next power of two needs no care: the sum carries into the exponent
    field by itself. Anything at or past the full field is an infinity. -/
def roundRatio (f : BinaryFormat) (num den : Nat) : Nat :=
  if num = 0 then 0
  else
    let e := max (log2Ratio num den - f.fractionBits) f.minExponent
    let (n, d) := scaleDown num den e
    min ((e - f.minExponent).toNat * (1 <<< f.fractionBits) + roundHalfEven n d) f.infinity

/-- The bit pattern nearest to a signed quotient. -/
def ofRatio (f : BinaryFormat) (negative : Bool) (num den : Nat) : Nat :=
  f.withSign negative (f.roundRatio num den)

/-- The bit pattern nearest to a signed multiple of a power of two. -/
def ofScaled (f : BinaryFormat) (negative : Bool) (significand : Nat) (e : Int) : Nat :=
  let (n, d) := scaleDown significand 1 (-e)
  f.ofRatio negative n d

/-- The bit pattern of a datum of any format. -/
def encode (f : BinaryFormat) : Datum → Nat
  | .nan => f.quietNaN
  | .infinite negative => f.withSign negative f.infinity
  | .finite negative m e => f.ofScaled negative m e

end BinaryFormat

namespace Datum

/-- A finite datum as a multiple of `2 ^ unit`, for a unit no coarser than
    its own. -/
def inUnits (unit : Int) (negative : Bool) (m : Nat) (e : Int) : Int :=
  let n : Int := (m * (1 <<< (e - unit).toNat) : Nat)
  if negative then -n else n

/-- The order of two data. The two zeros are equal, an infinity lies beyond
    all finite data, and nothing compares with a NaN. -/
def compare? : Datum → Datum → Option Ordering
  | .nan, _ => none
  | _, .nan => none
  | .infinite s, .infinite t => some (compare t s)
  | .infinite s, .finite .. => some (if s then .lt else .gt)
  | .finite .., .infinite t => some (if t then .gt else .lt)
  | .finite s m e, .finite t n g =>
    let unit := min e g
    some (compare (inUnits unit s m e) (inUnits unit t n g))

/-- The integer a datum is equal to, if it is one. -/
def toInt? : Datum → Option Int
  | .finite negative m e =>
    if 0 ≤ e then some (inUnits 0 negative m e)
    else if m % (1 <<< (-e).toNat) = 0 then
      let n : Int := (m / (1 <<< (-e).toNat) : Nat)
      some (if negative then -n else n)
    else none
  | _ => none

/-- The product of two data in a format. -/
def mul (f : BinaryFormat) : Datum → Datum → Nat
  | .finite s m e, .finite t n g => f.ofScaled (s != t) (m * n) (e + g)
  | .infinite s, .infinite t => f.withSign (s != t) f.infinity
  | .infinite s, .finite t n _ => if n = 0 then f.quietNaN else f.withSign (s != t) f.infinity
  | .finite s m _, .infinite t => if m = 0 then f.quietNaN else f.withSign (s != t) f.infinity
  | _, _ => f.quietNaN

/-- The quotient of two data in a format. -/
def div (f : BinaryFormat) : Datum → Datum → Nat
  | .finite s m e, .finite t n g =>
    if n = 0 then
      if m = 0 then f.quietNaN else f.withSign (s != t) f.infinity
    else
      let (num, den) := BinaryFormat.scaleDown m n (g - e)
      f.ofRatio (s != t) num den
  | .infinite s, .finite t _ _ => f.withSign (s != t) f.infinity
  | .finite s _ _, .infinite t => f.withSign (s != t) 0
  | _, _ => f.quietNaN

end Datum

/-- A number of the 64-bit format, by its bit pattern. -/
structure Double where
  /-- Sign, exponent field and significand field, from the top. -/
  bits : UInt64
  deriving DecidableEq, Repr

/-- A number of the 32-bit format, by its bit pattern. -/
structure Single where
  /-- Sign, exponent field and significand field, from the top. -/
  bits : UInt32
  deriving DecidableEq, Repr

namespace Double

/-- What the bit pattern denotes. -/
def datum (x : Double) : Datum := BinaryFormat.binary64.decode x.bits.toNat

/-- The number with the given bits. -/
def ofPattern (bits : Nat) : Double := ⟨UInt64.ofNat bits⟩

/-- The double nearest to an integer. -/
def ofInt (n : Int) : Double :=
  ofPattern (BinaryFormat.binary64.ofRatio (n < 0) n.natAbs 1)

/-- The order of two doubles, none if either is not a number. -/
def compare? (x y : Double) : Option Ordering := x.datum.compare? y.datum

/-- The rounded product. -/
def mul (x y : Double) : Double := ofPattern (x.datum.mul .binary64 y.datum)

/-- The rounded quotient. -/
def div (x y : Double) : Double := ofPattern (x.datum.div .binary64 y.datum)

/-- A power of ten by repeated squaring, each product rounded. The bits of
    the exponent are used from the lowest up, and `square` runs through the
    powers of ten whose exponents are powers of two. -/
def powerLoop (result square : Double) (n : Nat) : Double :=
  let result := if n % 2 = 1 then result.mul square else result
  if n / 2 = 0 then result else powerLoop result (square.mul square) (n / 2)

/-- Ten to the given power, as repeated squaring rounds it. -/
def powerOfTen (n : Nat) : Double := powerLoop (ofInt 1) (ofInt 10) n

end Double

namespace Single

/-- What the bit pattern denotes. -/
def datum (x : Single) : Datum := BinaryFormat.binary32.decode x.bits.toNat

/-- The single nearest to a double. -/
def ofDouble (x : Double) : Single := ⟨UInt32.ofNat (BinaryFormat.binary32.encode x.datum)⟩

/-- The double equal to a single. -/
def toDouble (x : Single) : Double := .ofPattern (BinaryFormat.binary64.encode x.datum)

end Single

end RegionScan
