import RegionScan.Json.Error
import RegionScan.Json.Text

/-!
# JSON Literals

Words, numbers and strings at the front of a text.

A number is a whole number if it is written as one and fits into 64 bits, with
or without a sign. Any other number is read in two roundings: the digits, as
many as 64 bits hold, become a double, and a power of ten is multiplied to it
or divided out of it. A number too large for a double is refused.

What is read is either kept or skipped. A skipped value has the same grammar,
but nothing is asked of its meaning: numbers may be of any size and surrogates
need no partner.

## Main definitions

* `JsonUse`: Whether a value is kept.
* `skipBlanks`: The text behind white space.
* `readWord`: The rest of a word.
* `NumberLiteral`, `readNumber`: Numbers.
* `readString`: Strings.
-/

namespace RegionScan

/-- What is done with a value that is read. -/
inductive JsonUse where
  | kept
  | skipped
  deriving DecidableEq

namespace Json

/-- Fail with what was read so far. -/
def failBefore (cause : JsonCause) (rest : List Char) : Except JsonFault α :=
  .error ⟨cause, rest, 0⟩

/-- Fail at the next byte. -/
def failAt (cause : JsonCause) (rest : List Char) : Except JsonFault α := .error ⟨cause, rest, 1⟩

/-- White space between tokens. -/
def isSeparator (c : Char) : Bool := c = ' ' || c = '\n' || c = '\t' || c = '\r'

/-- The text behind white space. -/
def skipBlanks (s : List Char) : List Char := s.dropWhile isSeparator

/-- Read the letters of a word. -/
def readWord : List Char → List Char → Except JsonFault (List Char)
  | [], s => .ok s
  | _ :: _, [] => failBefore .endInValue []
  | expected :: more, c :: rest =>
    if c = expected then readWord more rest else failAt .expectedWord (c :: rest)

end Json

/-- A number as it is written, sign aside. -/
structure NumberLiteral where
  /-- The digits in front of the point. -/
  whole : List Char
  /-- The digits behind the point, none without a point. -/
  fraction : List Char
  /-- Whether the exponent is negative, and its digits. -/
  exponent : Option (Bool × List Char)

namespace NumberLiteral

/-- The largest significand. -/
def maxSignificand : Nat := (1 <<< 64) - 1

/-- The largest exponent that is looked at. -/
def maxExponent : Nat := (1 <<< 31) - 1

/-- Append digits to a number up to a largest one. The digits from the first
    that leads past it are left over. -/
def appendDigits (largest : Nat) : Nat → List Char → Nat × List Char
  | n, [] => (n, [])
  | n, c :: rest =>
    let next := 10 * n + (c.toNat - '0'.toNat)
    if largest < next then (n, c :: rest) else appendDigits largest next rest

/-- Whether the literal is written as a whole number. -/
def isWhole (l : NumberLiteral) : Bool := l.fraction.isEmpty && l.exponent.isNone

/-- The largest power of ten that a double is multiplied with at once. -/
def maxPower : Nat := 308

/-- The double nearest to a power of ten. -/
def power (n : Nat) : Double := .ofPattern (BinaryFormat.binary64.roundDecimal ⟨1, n⟩)

/-- A positive double times a power of ten, each step rounded. There is none if
    it leaves the range. -/
def scale (x : Double) (e : Int) : Option Double :=
  if e.natAbs ≤ maxPower then
    if 0 ≤ e then
      let y := x.mul (power e.toNat)
      if y.datum = .infinite false then none else some y
    else some (x.div (power e.natAbs))
  else if x = .ofInt 0 then some x
  else if 0 ≤ e then none
  else scale (x.div (power maxPower)) (e + maxPower)
  termination_by e.natAbs
  decreasing_by simp only [maxPower] at *; omega

/-- A double with a sign. -/
def signed (negative : Bool) (x : Double) : Double :=
  if negative then .ofPattern (BinaryFormat.binary64.withSign true x.bits.toNat) else x

/-- The double that a literal names. The digits left unread go with the failure
    if it leaves the range. -/
def toDouble (negative : Bool) (l : NumberLiteral) : Except (List Char) Double :=
  let (n, dropped) := appendDigits maxSignificand 0 l.whole
  let (n, unused) := appendDigits maxSignificand n l.fraction
  let e : Int := (dropped.length : Int) - (l.fraction.length - unused.length : Nat)
  let finish (e : Int) : Except (List Char) Double :=
    match scale (.ofInt n) e with
    | some x => .ok (signed negative x)
    | none => .error []
  match l.exponent with
  | none => finish e
  | some (minus, digits) =>
    match appendDigits maxExponent 0 digits with
    | (k, []) => finish (if minus then e - k else e + k)
    | (_, _ :: unread) =>
      if n = 0 ∨ minus then .ok (signed negative (.ofInt 0)) else .error unread

/-- The value of a literal. A negative zero is a double, because whole numbers
    have none. -/
def toJson (negative : Bool) (l : NumberLiteral) : Except (List Char) Json :=
  match l.isWhole, appendDigits maxSignificand 0 l.whole with
  | true, (n, []) =>
    if !negative then .ok (.int n)
    else if 0 < n ∧ n ≤ 1 <<< 63 then .ok (.int (-(n : Int)))
    else (l.toDouble negative).map .double
  | _, _ => (l.toDouble negative).map .double

end NumberLiteral

namespace Json

/-- The failure where a digit was expected. A value that is kept tells the end
    of the text from a wrong character. -/
def failDigit (use : JsonUse) (s : List Char) : Except JsonFault α :=
  if s.isEmpty ∧ use = .kept then failBefore .endInValue s else failAt .invalidNumber s

/-- Read at least one digit. -/
def readDigits (use : JsonUse) (s : List Char) : Except JsonFault (List Char × List Char) :=
  match s.takeWhile Char.isDigit with
  | [] => failDigit use s
  | ds => .ok (ds, s.dropWhile Char.isDigit)

/-- Read the digits in front of a point. A zero stands alone. -/
def readWhole (use : JsonUse) (s : List Char) : Except JsonFault (List Char × List Char) :=
  match s with
  | '0' :: rest =>
    if rest.head?.any Char.isDigit then failAt .invalidNumber rest else .ok (['0'], rest)
  | _ => readDigits use s

/-- Read a point and the digits behind it, if there is one. -/
def readFraction (use : JsonUse) (s : List Char) : Except JsonFault (List Char × List Char) :=
  match s with
  | '.' :: rest => readDigits use rest
  | _ => .ok ([], s)

/-- Read an exponent, if there is one. -/
def readExponentPart (use : JsonUse) (s : List Char) :
    Except JsonFault (Option (Bool × List Char) × List Char) :=
  match s with
  | [] => .ok (none, [])
  | c :: rest =>
    if c = 'e' ∨ c = 'E' then do
      let (minus, rest) := splitSign rest
      let (ds, rest) ← readDigits use rest
      return (some (minus, ds), rest)
    else .ok (none, c :: rest)

/-- Read a number behind its sign. -/
def readLiteral (use : JsonUse) (s : List Char) : Except JsonFault (NumberLiteral × List Char) := do
  let (whole, s) ← readWhole use s
  let (fraction, s) ← readFraction use s
  let (exponent, s) ← readExponentPart use s
  return (⟨whole, fraction, exponent⟩, s)

/-- Read a number with its sign. -/
def readNumber (use : JsonUse) (s : List Char) : Except JsonFault (Json × List Char) := do
  let (negative, s) := splitSign s
  let (l, s) ← readLiteral use s
  match l.toJson negative with
  | .ok j => return (j, s)
  | .error unread =>
    if use = .kept then failBefore .numberOutOfRange (unread ++ s) else return (.null, s)

/-- The value of a hexadecimal digit. -/
def hexDigitValue? (c : Char) : Option Nat :=
  if c.isDigit then some (c.toNat - '0'.toNat)
  else if 'a' ≤ c ∧ c ≤ 'f' then some (c.toNat - 'a'.toNat + 10)
  else if 'A' ≤ c ∧ c ≤ 'F' then some (c.toNat - 'A'.toNat + 10)
  else none

/-- Read the four hexadecimal digits of an escape. -/
def readHex (s : List Char) : Except JsonFault (Nat × List Char) :=
  if (s.take 4).foldl (fun n c => n + c.utf8Size) 0 < 4 then failBefore .endInString []
  else
    match (s.take 4).mapM hexDigitValue? with
    | some ds => .ok (ds.foldl (fun n d => 16 * n + d) 0, s.drop 4)
    | none => .error ⟨.invalidEscape, s, 4⟩

/-- Whether a code unit is the first one of a pair. -/
def isLeading (n : Nat) : Bool := 0xD800 ≤ n && n ≤ 0xDBFF

/-- Whether a code unit is the second one of a pair. -/
def isTrailing (n : Nat) : Bool := 0xDC00 ≤ n && n ≤ 0xDFFF

/-- Read one character that must follow the first escape of a pair. -/
def readPairMark (mark : Char) : List Char → Except JsonFault (List Char)
  | [] => failBefore .endInString []
  | c :: rest => if c = mark then .ok rest else failAt .cutSurrogate (c :: rest)

/-- Read an escape of four digits, and the second one of a pair. -/
def readUnicodeEscape (use : JsonUse) (s : List Char) : Except JsonFault (Char × List Char) := do
  let (n, s) ← readHex s
  if use = .skipped then return ('\x00', s)
  if isTrailing n then failBefore .loneSurrogate s
  else if isLeading n then
    let (m, s) ← readHex (← readPairMark 'u' (← readPairMark '\\' s))
    if isTrailing m then return (Char.ofNat (0x10000 + (n - 0xD800) * 1024 + (m - 0xDC00)), s)
    else failBefore .loneSurrogate s
  else return (Char.ofNat n, s)

/-- Read an escape behind its backslash. -/
def readEscape (use : JsonUse) (s : List Char) : Except JsonFault (Char × List Char) :=
  match s with
  | [] => failBefore .endInString []
  | c :: rest =>
    match c with
    | '"' => .ok ('"', rest)
    | '\\' => .ok ('\\', rest)
    | '/' => .ok ('/', rest)
    | 'b' => .ok ('\x08', rest)
    | 'f' => .ok ('\x0c', rest)
    | 'n' => .ok ('\n', rest)
    | 'r' => .ok ('\r', rest)
    | 't' => .ok ('\t', rest)
    | 'u' => readUnicodeEscape use rest
    | _ => failAt .invalidEscape (c :: rest)

/-- The failure at a control character. -/
def failControl (use : JsonUse) (s : List Char) : Except JsonFault α :=
  match use with
  | .kept => failAt .controlCharacter s
  | .skipped => failBefore .controlCharacter s

/-- Read up to so many characters of a string and its closing quote. `done`
    holds the characters before, last one first. -/
def readStringUpTo (use : JsonUse) :
    Nat → List Char → List Char → Except JsonFault (String × List Char)
  | 0, _, _ => failBefore .endInString []
  | _, _, [] => failBefore .endInString []
  | n + 1, done, c :: rest =>
    if c = '"' then .ok (String.ofList done.reverse, rest)
    else if c = '\\' then
      match readEscape use rest with
      | .ok (e, rest) => readStringUpTo use n (e :: done) rest
      | .error fault => .error fault
    else if c.toNat < 0x20 then failControl use (c :: rest)
    else readStringUpTo use n (c :: done) rest

/-- Read a string behind its opening quote. It has no more characters than the
    text. -/
def readString (use : JsonUse) (s : List Char) : Except JsonFault (String × List Char) :=
  readStringUpTo use s.length [] s

end Json

end RegionScan
