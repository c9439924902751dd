import RegionScan.Binary.Shortest

/-!
# Floating-Point Text

How floating-point numbers are written and read.

Two written forms share one set of digits. The display form is always
positional: it has no exponent, however many zeros that takes, and a whole
number has no point. The JSON form is positional for exponents near zero only,
writes a whole number with one zero behind the point, and has no text for
infinities and NaN. `FloatStyle` holds the decisions in which the forms
differ.

A number is read by its grammar: a sign, digits with at most one point among
them, and an exponent. The value is rounded once, from the exact decimal, so a
written number reads back as itself.

## Main definitions

* `FloatStyle`: The decisions of a written form.
* `FloatStyle.write`: The text of a signed decimal.
* `Double.display`, `Single.display`: The display form.
* `Double.json?`, `Single.json?`: The JSON form of a finite number.
* `Double.ofText`: The double that a text names.
* `FloatTextError`: Why a text names none.
-/

namespace RegionScan

namespace DecimalDigits

/-- The digits of the coefficient. -/
def digits (d : DecimalDigits) : List Char := (toString d.coefficient).toList

/-- The digits with a point at the place the exponent says, zeros filling
    both ways up to the point. -/
def positional (d : DecimalDigits) : List Char :=
  let ds := d.digits
  if 0 ≤ d.exponent then ds ++ List.replicate d.exponent.toNat '0'
  else
    let places := (-d.exponent).toNat
    if places < ds.length then
      ds.take (ds.length - places) ++ '.' :: ds.drop (ds.length - places)
    else '0' :: '.' :: List.replicate (places - ds.length) '0' ++ ds

/-- One digit, a point if more follow, the other digits, and the power of ten
    of the first digit with its sign. -/
def scientific (d : DecimalDigits) : List Char :=
  let e := d.leadingExponent
  let mantissa :=
    match d.digits with
    | [] => []
    | [c] => [c]
    | c :: rest => c :: '.' :: rest
  mantissa ++ 'e' :: (if e < 0 then '-' else '+') :: (toString e.natAbs).toList

end DecimalDigits

/-- The decisions of a written form. -/
structure FloatStyle where
  /-- The least and the greatest power of ten of the first digit that are
      written positionally; without them every number is. -/
  positionalRange : Option (Int × Int)
  /-- Whether a whole number in positional form ends in `.0`. -/
  wholePoint : Bool
  /-- Which of two equally near decimals is written. -/
  tie : TieBreak

namespace FloatStyle

/-- The display form. -/
def display : FloatStyle := ⟨none, false, .up⟩

/-- The JSON form of a 64-bit number. -/
def json64 : FloatStyle := ⟨some (-5, 15), true, .even⟩

/-- The JSON form of a 32-bit number. -/
def json32 : FloatStyle := ⟨some (-6, 12), true, .even⟩

/-- Whether a decimal is written without an exponent. -/
def isPositional (style : FloatStyle) (d : DecimalDigits) : Bool :=
  match style.positionalRange with
  | none => true
  | some (low, high) => low ≤ d.leadingExponent && d.leadingExponent ≤ high

/-- The text of a decimal. -/
def writeDigits (style : FloatStyle) (d : DecimalDigits) : List Char :=
  if style.isPositional d then
    d.positional ++ (if style.wholePoint && decide (0 ≤ d.exponent) then ['.', '0'] else [])
  else d.scientific

/-- The text of a finite number. The sign is written for a negative zero
    too. -/
def write (style : FloatStyle) (f : BinaryFormat) (negative : Bool) (m : Nat) (e : Int) : String :=
  let d := if m = 0 then ⟨0, 0⟩ else f.shortest style.tie m e
  String.ofList ((if negative then ['-'] else []) ++ style.writeDigits d)

end FloatStyle

namespace Datum

/-- The display form of a datum. -/
def display (f : BinaryFormat) : Datum → String
  | .nan => "NaN"
  | .infinite negative => if negative then "-inf" else "inf"
  | .finite negative m e => FloatStyle.display.write f negative m e

/-- The text of a finite datum in a style. -/
def writeFinite? (f : BinaryFormat) (style : FloatStyle) : Datum → Option String
  | .finite negative m e => some (style.write f negative m e)
  | _ => none

end Datum

namespace Double

/-- The shortest positional text. -/
def display (x : Double) : String := x.datum.display .binary64

/-- The JSON text, none for infinities and NaN. -/
def json? (x : Double) : Option String := x.datum.writeFinite? .binary64 .json64

end Double

namespace Single

/-- The shortest positional text. -/
def display (x : Single) : String := x.datum.display .binary32

/-- The JSON text, none for infinities and NaN. -/
def json? (x : Single) : Option String := x.datum.writeFinite? .binary32 .json32

end Single

/-- Why a text names no number. -/
inductive FloatTextError where
  | empty
  | invalid
  deriving DecidableEq, Repr

/-- The wording of the failure. -/
def FloatTextError.message : FloatTextError → String
  | .empty => "cannot parse float from empty string"
  | .invalid => "invalid float literal"

/-- A sign in front of a text, and the text behind it. -/
def splitSign : List Char → Bool × List Char
  | '-' :: rest => (true, rest)
  | '+' :: rest => (false, rest)
  | rest => (false, rest)

/-- The number that decimal digits spell. -/
def digitsValue (ds : List Char) : Nat :=
  ds.foldl (fun n c => 10 * n + (c.toNat - '0'.toNat)) 0

/-- The number that an exponent part adds to the power of ten: nothing, or a
    letter `e`, a sign and at least one digit. -/
def readExponent? : List Char → Option Int
  | [] => some 0
  | c :: rest =>
    if c = 'e' ∨ c = 'E' then
      let (negative, ds) := splitSign rest
      if ds.isEmpty ∨ !ds.all Char.isDigit then none
      else
        let n : Int := digitsValue ds
        some (if negative then -n else n)
    else none

/-- The decimal that an unsigned literal spells. There is a digit before or
    behind the point. -/
def readUnsigned? (s : List Char) : Option DecimalDigits :=
  let whole := s.takeWhile Char.isDigit
  let (fraction, rest) :=
    match s.dropWhile Char.isDigit with
    | '.' :: t => (t.takeWhile Char.isDigit, t.dropWhile Char.isDigit)
    | t => ([], t)
  if whole.isEmpty ∧ fraction.isEmpty then none
  else
    (readExponent? rest).map fun e => ⟨digitsValue (whole ++ fraction), e - fraction.length⟩

namespace BinaryFormat

/-- The bit pattern nearest to a decimal. Exponents far outside the format's
    range are settled without forming the power of ten. -/
def roundDecimal (f : BinaryFormat) (d : DecimalDigits) : Nat :=
  if d.coefficient = 0 ∨ d.leadingExponent < -400 then 0
  else if 400 < d.leadingExponent then f.infinity
  else f.roundRatio (d.coefficient * Nat.pow 10 d.exponent.toNat) (Nat.pow 10 (-d.exponent).toNat)

/-- The bit pattern that an unsigned text names: a literal, or an infinity or
    NaN spelled in letters of any case. -/
def readPattern? (f : BinaryFormat) (s : List Char) : Option Nat :=
  let word := String.ofList (s.map Char.toLower)
  if word = "inf" ∨ word = "infinity" then some f.infinity
  else if word = "nan" then some f.quietNaN
  else (readUnsigned? s).map f.roundDecimal

end BinaryFormat

/-- The double that a text names. -/
def Double.ofText (s : String) : Except FloatTextError Double :=
  if s.toList.isEmpty then .error .empty
  else
    let (negative, rest) := splitSign s.toList
    match BinaryFormat.binary64.readPattern? rest with
    | some bits => .ok (.ofPattern (BinaryFormat.binary64.withSign negative bits))
    | none => .error .invalid

end RegionScan
