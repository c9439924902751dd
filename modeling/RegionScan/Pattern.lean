import RegionScan.Calendar.Reader
import RegionScan.Text.Quoted

/-!
# Date-Time Patterns

The patterns with which a field's date-times can be configured.

A pattern is a text in which runs of one letter stand for fields: `yyyy` for
the year, `MM` for the month, `HH` for the hour. Other characters stand for
themselves, and so does what is put between single quotes. Two quotes in a row
are a quote, inside and outside of quoted text.

A pattern is cut into pieces, equal letters are gathered into runs, and each
run becomes a field of a layout. One run looks back: one or two letters `S`
need a literal point before them, because no field has so few digits of a
second. Point and run together become a fraction of any length.

## Main definitions

* `PatternPiece`, `PatternPiece.ofText`: What a pattern is made of.
* `PatternToken`: A character or a field.
* `Pattern`: A pattern and its tokens.
* `Pattern.compile`: The pattern that a text spells.
* `Pattern.layoutText`, `Pattern.layout`: The layout of a pattern.
* `Pattern.readTimestamp`, `Pattern.readDate`, `Pattern.readTime`,
  `Pattern.write`: Date-times read and written by a pattern.
-/

namespace RegionScan

/-- A part of a pattern. -/
inductive PatternPiece where
  /-- A character that stands for itself. -/
  | literal (c : Char)
  /-- So many of one letter in a row. -/
  | run (letter : Char) (count : Nat)
  /-- The end of the text within a quotation. -/
  | openQuote
  deriving DecidableEq

namespace PatternPiece

/-- Put a letter in front of some pieces, joining it to a run of the same
    letter. -/
def consLetter (c : Char) (pieces : List PatternPiece) : List PatternPiece :=
  match pieces with
  | .run d n :: rest => if c = d then .run c (n + 1) :: rest else .run c 1 :: pieces
  | _ => .run c 1 :: pieces

/-- The pieces of a pattern, from a place inside or outside of quotes. -/
def ofChars : Bool → List Char → List PatternPiece
  | false, [] => []
  | true, [] => [.openQuote]
  | inside, '\'' :: '\'' :: rest => .literal '\'' :: ofChars inside rest
  | inside, '\'' :: rest => ofChars (!inside) rest
  | true, c :: rest => .literal c :: ofChars true rest
  | false, c :: rest =>
    if c.isAlpha then consLetter c (ofChars false rest) else .literal c :: ofChars false rest

/-- The pieces of a pattern. -/
def ofText (text : String) : List PatternPiece := ofChars false text.toList

end PatternPiece

/-- A character or a field of a compiled pattern. -/
inductive PatternToken where
  | literal (c : Char)
  | field (item : LayoutItem)
  deriving DecidableEq

/-- Why a text is no pattern. -/
inductive PatternFault where
  | unterminatedQuote
  | strayFraction (count : Nat)
  | unsupportedLetter (letter : Char) (count : Nat)
  | noFields
  deriving DecidableEq

/-- The wording of the fault. -/
def PatternFault.message : PatternFault → String
  | .unterminatedQuote => "unterminated quoted literal"
  | .strayFraction n =>
    "pattern letter 'S' repeated " ++ toString n ++ " time(s) must follow a '.'"
  | .unsupportedLetter c n =>
    "unsupported pattern letter '" ++ c.toString ++ "' repeated " ++ toString n ++ " time(s)"
  | .noFields => "pattern has no date or time fields"

/-- The field that a run of letters stands for. -/
def letterField (c : Char) (n : Nat) : Option LayoutItem :=
  match c, n with
  | 'y', 2 | 'u', 2 => some (.number .yearOfCentury true)
  | 'y', _ | 'u', _ => some (.number .year true)
  | 'M', 1 | 'L', 1 => some (.number .month false)
  | 'M', 2 | 'L', 2 => some (.number .month true)
  | 'M', 3 | 'L', 3 => some (.monthName false)
  | 'M', _ | 'L', _ => some (.monthName true)
  | 'd', 1 => some (.number .day false)
  | 'd', 2 => some (.number .day true)
  | 'D', 1 | 'D', 2 | 'D', 3 => some (.number .dayOfYear true)
  | 'E', 1 | 'E', 2 | 'E', 3 => some (.weekdayName false)
  | 'E', _ => some (.weekdayName true)
  | 'H', 1 => some (.number .hour false)
  | 'H', 2 => some (.number .hour true)
  | 'h', 1 => some (.number .hourOfHalfDay false)
  | 'h', 2 => some (.number .hourOfHalfDay true)
  | 'm', 1 => some (.number .minute false)
  | 'm', 2 => some (.number .minute true)
  | 's', 1 => some (.number .second false)
  | 's', 2 => some (.number .second true)
  | 'S', 3 => some (.fractionDigits 3)
  | 'S', 4 | 'S', 5 | 'S', 6 => some (.fractionDigits 6)
  | 'S', 7 | 'S', 8 | 'S', 9 => some (.fractionDigits 9)
  | 'a', 1 => some .halfDay
  | 'X', 1 | 'X', 2 | 'x', 1 | 'x', 2 | 'Z', 1 | 'Z', 2 | 'Z', 3 => some (.offset false)
  | 'X', 3 | 'x', 3 | 'Z', 5 => some (.offset true)
  | _, _ => none

namespace LayoutItem

/-- Whether an item is a part of a date. -/
def isDate : LayoutItem → Bool
  | .number .year _ | .number .yearOfCentury _ | .number .month _ | .number .day _
  | .number .dayOfYear _ | .monthName _ | .weekdayName _ => true
  | _ => false

/-- Whether an item is a part of a time of day. -/
def isTime : LayoutItem → Bool
  | .number .hour _ | .number .hourOfHalfDay _ | .number .minute _ | .number .second _
  | .halfDay | .fraction _ | .fractionDigits _ => true
  | _ => false

/-- Whether an item is an offset. -/
def isOffset : LayoutItem → Bool
  | .offset _ => true
  | _ => false

/-- The letter behind the percent sign of a number. -/
def numberLetter : NumberField → Char
  | .year => 'Y'
  | .yearOfCentury => 'y'
  | .month => 'm'
  | .day => 'd'
  | .dayOfYear => 'j'
  | .hour => 'H'
  | .hourOfHalfDay => 'I'
  | .minute => 'M'
  | .second => 'S'

/-- An item as it is spelled in a layout text. -/
def spell : LayoutItem → List Char
  | .literal text => text
  | .percent => ['%', '%']
  | .space text => text
  | .number field true => ['%', numberLetter field]
  | .number field false => ['%', '-', numberLetter field]
  | .monthName full => ['%', if full then 'B' else 'b']
  | .weekdayName full => ['%', if full then 'A' else 'a']
  | .halfDay => ['%', 'p']
  | .fraction none => ['%', '.', 'f']
  | .fraction (some n) => '%' :: '.' :: (toString n).toList ++ ['f']
  | .fractionDigits n => '%' :: (toString n).toList ++ ['f']
  | .offset true => ['%', ':', 'z']
  | .offset false => ['%', 'z']
  | .unknown => ['%']

end LayoutItem

namespace PatternToken

/-- A token as it is spelled in a layout text. A percent sign is doubled, so
    that it does not start a field. -/
def spell : PatternToken → List Char
  | .literal c => if c = '%' then ['%', '%'] else [c]
  | .field item => item.spell

/-- Whether a token is a field of a kind. -/
def isField (kind : LayoutItem → Bool) : PatternToken → Bool
  | .literal _ => false
  | .field item => kind item

/-- The tokens of some pieces, behind the tokens `done`, last one first. -/
def ofPieces (done : List PatternToken) :
    List PatternPiece → Except PatternFault (List PatternToken)
  | [] => .ok done.reverse
  | .literal c :: rest => ofPieces (.literal c :: done) rest
  | .openQuote :: _ => .error .unterminatedQuote
  | .run c n :: rest =>
    if c = 'S' ∧ n < 3 then
      match done with
      | .literal '.' :: before => ofPieces (.field (.fraction none) :: before) rest
      | _ => .error (.strayFraction n)
    else
      match letterField c n with
      | some item => ofPieces (.field item :: done) rest
      | none => .error (.unsupportedLetter c n)

end PatternToken

/-- A date-time pattern. -/
structure Pattern where
  /-- The pattern as configured. -/
  text : String
  tokens : List PatternToken
  deriving DecidableEq

/-- Why a text is no date-time of a pattern, or a date-time has no text. -/
inductive PatternTextError where
  | noDate (pattern : String)
  | mismatch (input pattern : String) (error : DateTextError)
  | cannotWrite (t : DateTime) (pattern : String)
  deriving DecidableEq

/-- The wording of the failure. -/
def PatternTextError.message : PatternTextError → String
  | .noDate pattern => "pattern " ++ quoted pattern ++ " has no date fields"
  | .mismatch input pattern error =>
    quoted input ++ " does not match pattern " ++ quoted pattern ++ ": " ++ error.message
  | .cannotWrite t pattern =>
    "cannot format " ++ t.displayWith " " ++ " with pattern " ++ quoted pattern

namespace Pattern

/-- Whether a pattern has a field of a date. -/
def hasDate (p : Pattern) : Bool := p.tokens.any (·.isField LayoutItem.isDate)

/-- Whether a pattern has a field of a time of day. -/
def hasTime (p : Pattern) : Bool := p.tokens.any (·.isField LayoutItem.isTime)

/-- Whether a pattern has an offset. -/
def hasOffset (p : Pattern) : Bool := p.tokens.any (·.isField LayoutItem.isOffset)

/-- The pattern that a text spells. It must have a field of a date or of a
    time. -/
def compile (text : String) : Except PatternFault Pattern := do
  let tokens ← PatternToken.ofPieces [] (PatternPiece.ofText text)
  let p : Pattern := ⟨text, tokens⟩
  if p.hasDate || p.hasTime then return p else throw .noFields

/-- The layout text of a pattern. -/
def layoutText (p : Pattern) : String := String.ofList (p.tokens.flatMap PatternToken.spell)

/-- The layout of a pattern. -/
def layout (p : Pattern) : Layout := Layout.ofText p.layoutText.toList

/-- What reading a text by a pattern gives, with the text and the pattern for
    a failure. -/
def explain (p : Pattern) (input : String) (result : Except DateTextError α) :
    Except PatternTextError α :=
  result.mapError (.mismatch input p.text ·)

/-- The date-time that a text names. Without a time it is the start of the
    date, and with an offset it is the date-time in UTC. A failure names the
    trimmed text. -/
def readTimestamp (p : Pattern) (s : String) : Except PatternTextError DateTime :=
  let input := trim s
  if p.hasOffset then p.explain input (p.layout.readUtc input)
  else if !p.hasDate then .error (.noDate p.text)
  else if p.hasTime then p.explain input (p.layout.readDateTime input)
  else (p.explain input (p.layout.readDate input)).map .midnight

/-- The date that a text names. If the pattern has nothing but a date, a
    failure names the text as it was given. -/
def readDate (p : Pattern) (s : String) : Except PatternTextError Date :=
  if p.hasTime || p.hasOffset then (p.readTimestamp s).map (·.date)
  else p.explain s (p.layout.readDate (trim s))

/-- The time of day that a text names. If the pattern has nothing but a time,
    a failure names the text as it was given. -/
def readTime (p : Pattern) (s : String) : Except PatternTextError TimeOfDay :=
  if p.hasDate || p.hasOffset then (p.readTimestamp s).map (·.time)
  else p.explain s (p.layout.readTime (trim s))

/-- A date-time written by a pattern, as one in UTC. -/
def write (p : Pattern) (t : DateTime) : Except PatternTextError String :=
  match p.layout.write? t with
  | some text => .ok text
  | none => .error (.cannotWrite t p.text)

end Pattern

end RegionScan
