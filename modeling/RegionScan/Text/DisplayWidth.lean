import RegionScan.Text.Emoji
import RegionScan.Text.Ligature

/-!
# Display Width

How many columns of a terminal a text takes.

Mostly a text is as wide as its characters are together. The exceptions are
sequences that are drawn as one: a picture with a skin tone or a variation
selector, pictures put together by joiners, ligatures, and a line break of two
characters. All of them are told by their end, so the text is gone through from
its end to its front, and what stands behind a character decides what the
character adds.

A selector waits for the character in front of it. If that character has the
style asked for, the selector is used up; if not, it is dropped.

## Main definitions

* `Style`: What a selector asks for.
* `PictureTail`: What stands behind a joiner in front of a picture.
* `Tail`: What stands behind a character.
* `Tail.extend`, `TextEnd.extend`: What a character adds in front of it.
* `displayWidth`: The columns of a text.

## Theorems

* `displayWidth_nil`: The empty text takes no column.
-/

namespace RegionScan

/-- The style that a variation selector asks for. -/
inductive Style where
  /-- A picture. -/
  | emoji
  /-- A plain character. -/
  | text
  /-- A quotation mark of two columns. -/
  | fullwidth
  deriving DecidableEq, Repr

/-- The style that a character asks for, if it is a selector. -/
def Style.ofChar? (c : Char) : Option Style :=
  match c.toNat with
  | 0xFE0F => some .emoji
  | 0xFE0E => some .text
  | 0xFE01 => some .fullwidth
  | _ => none

/-- Whether a quotation mark has a fullwidth style. -/
def hasFullwidthStyle (c : Char) : Bool :=
  c.toNat == 0x2018 || c.toNat == 0x2019 || c.toNat == 0x201C || c.toNat == 0x201D

/-- What stands between a character and a picture to which it may be joined: a
    joiner, perhaps with the rest of a picture in front of it. -/
inductive PictureTail where
  /-- The joiner alone. -/
  | joiner
  /-- The frame of a key. -/
  | keycap
  /-- One letter of a flag. -/
  | flagLetter
  /-- Letters of flags that make up pairs. -/
  | flagPairs
  /-- Letters of flags, one of them without a partner. -/
  | flagPairsAndLetter
  /-- The tag that ends a sequence of tags. -/
  | tagEnd
  /-- Tags of which the first ones are so many digits. -/
  | tagDigits (count : Nat)
  /-- Tags of which the first ones are so many letters. -/
  | tagLetters (count : Nat)
  deriving DecidableEq, Repr

/-- What stands behind a character, as far as it matters to the character. -/
inductive Tail where
  /-- Nothing that matters. -/
  | plain
  /-- A line feed. -/
  | lineFeed
  /-- The Kirat Rai vowel e. -/
  | vowelE
  /-- The Kirat Rai vowel ai, or two vowels e. -/
  | vowelAi
  /-- One letter of a flag. -/
  | flagLetter
  /-- Two or more letters of flags. -/
  | flagLetters
  /-- A skin tone. -/
  | modifier
  /-- A picture. -/
  | emoji
  /-- A picture behind a joiner. -/
  | joined (rest : PictureTail)
  /-- The end of a ligature. -/
  | ligature (rest : Ligature)
  deriving DecidableEq, Repr

/-- What stands behind a character, with the selector right behind it. -/
structure TextEnd where
  tail : Tail
  style : Option Style
  deriving DecidableEq

namespace PictureTail

/-- The columns that a character adds in front of it, and what is met then,
    unless the character is no part of the picture. -/
def extend (p : PictureTail) (c : Char) : Option (Int × Tail) :=
  match p with
  | .joiner =>
    if c.toNat == 0x20E3 then some (0, .joined .keycap)
    else if isFlagLetter c then some (1, .joined .flagLetter)
    else if isEmojiModifier c then some (0, .modifier)
    else if isTagEnd c then some (0, .joined .tagEnd)
    else if isEmoji c then some (0, .emoji)
    else none
  | .keycap => none
  | .flagLetter => if isFlagLetter c then some (-1, .joined .flagPairs) else none
  | .flagPairs =>
    if isFlagLetter c then some (3, .joined .flagPairsAndLetter)
    else if isJoiner c then some (0, .joined .joiner)
    else none
  | .flagPairsAndLetter =>
    if isFlagLetter c then some (-1, .joined .flagPairs)
    else if isJoiner c then some (0, .joined .joiner)
    else none
  | .tagEnd =>
    if isTagLetter c then some (0, .joined (.tagLetters 1))
    else if isTagDigit c then some (0, .joined (.tagDigits 1))
    else none
  | .tagDigits n =>
    if n < 3 ∧ isTagDigit c then some (0, .joined (.tagDigits (n + 1)))
    else if n = 3 ∧ isBlackFlag c then some (0, .emoji)
    else none
  | .tagLetters n =>
    if n < 6 ∧ isTagLetter c then some (0, .joined (.tagLetters (n + 1)))
    else if n ≤ 4 ∧ isTagDigit c then some (0, .joined (.tagDigits 1))
    else if 3 ≤ n ∧ isBlackFlag c then some (0, .emoji)
    else none

end PictureTail

namespace Tail

/-- What a character that stands by itself is to the one in front of it. -/
def ofChar (c : Char) : Tail :=
  if isEmoji c then .emoji
  else if isEmojiModifier c then .modifier
  else if isFlagLetter c then .flagLetter
  else
    match Ligature.ofChar? c with
    | some l => .ligature l
    | none =>
      match c.toNat with
      | 0x16D67 => .vowelE
      | 0x16D68 => .vowelAi
      | _ => .plain

/-- The columns that a character adds together with what stands behind it, and
    what is met then, unless the two have nothing to do with each other. -/
def extend (t : Tail) (c : Char) : Option (Int × Tail) :=
  match t, c.toNat with
  | .plain, _ => none
  | .lineFeed, _ => none
  | .vowelE, 0x16D63 => some (0, .plain)
  | .vowelE, 0x16D67 => some (0, .vowelAi)
  | .vowelE, 0x16D68 => some (1, .vowelE)
  | .vowelE, 0x16D69 => some (0, .plain)
  | .vowelE, _ => none
  | .vowelAi, 0x16D63 => some (0, .plain)
  | .vowelAi, _ => none
  | .flagLetter, _ => if isFlagLetter c then some (1, .flagLetters) else none
  | .flagLetters, _ =>
    if isFlagLetter c then some (1, .flagLetters)
    else if isJoiner c then some (0, .joined .joiner)
    else none
  | .modifier, _ =>
    if isModifierBase c then some (0, .emoji)
    else if isJoiner c then some (0, .joined .joiner)
    else none
  | .emoji, _ => if isJoiner c then some (0, .joined .joiner) else none
  | .joined p, _ => p.extend c
  | .ligature l, _ => (l.extend c).map fun (n, rest) => (n, (rest.map .ligature).getD .plain)

/-- The columns that a character adds in front of a tail, and what is met then.
    Nothing up to the no-break space is part of a sequence, but for a carriage
    return in front of a line feed. -/
def before (t : Tail) (c : Char) : Int × Tail :=
  if c.toNat ≤ 0xA0 then
    if c = '\n' then (1, .lineFeed)
    else if c = '\r' ∧ t = .lineFeed then (0, .plain)
    else (1, .plain)
  else (t.extend c).getD (columnsOf c, ofChar c)

/-- What is left of a tail when a selector stands in front of it: the end of a
    ligature, to which selectors are marks like others, and a joined picture if
    the selector asks for one. -/
def behindStyle (t : Tail) (s : Style) : Tail :=
  match t, s with
  | .ligature l, _ => .ligature l
  | .joined .joiner, .emoji => t
  | .joined .keycap, .emoji => t
  | _, _ => .plain

/-- What is left of a tail when the selector in front of it is dropped. -/
def dropStyle : Tail → Tail
  | .ligature l => .ligature l
  | _ => .plain

end Tail

namespace TextEnd

/-- The end of the text. -/
def empty : TextEnd := ⟨.plain, none⟩

/-- The columns that a character adds when no selector right behind it applies,
    and what is met then. -/
def beforeTail (t : Tail) (c : Char) : Int × TextEnd :=
  match Style.ofChar? c with
  | some s => (0, ⟨t.behindStyle s, some s⟩)
  | none =>
    let (n, rest) := t.before c
    (n, ⟨rest, none⟩)

/-- The columns that a character adds, and what is met then. -/
def extend (e : TextEnd) (c : Char) : Int × TextEnd :=
  match e.style with
  | none => beforeTail e.tail c
  | some .emoji =>
    if hasEmojiStyle c then
      (match e.tail with
        | .joined _ => 0
        | _ => 2, ⟨.emoji, none⟩)
    else beforeTail e.tail.dropStyle c
  | some .text => if hasTextStyle c then (1, empty) else beforeTail e.tail.dropStyle c
  | some .fullwidth => if hasFullwidthStyle c then (2, empty) else beforeTail e.tail.dropStyle c

end TextEnd

/-- The columns that a text takes together, and its front as what stands behind
    a character before it. -/
def measureText (s : List Char) : Int × TextEnd :=
  s.foldr (fun c (n, e) => let (m, rest) := e.extend c; (n + m, rest)) (0, .empty)

/-- The columns that a text takes. -/
def displayWidth (s : List Char) : Nat := (measureText s).1.toNat

/-- The empty text takes no column. -/
theorem displayWidth_nil : displayWidth [] = 0 := rfl

end RegionScan
