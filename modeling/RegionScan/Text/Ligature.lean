import RegionScan.Text.CharacterColumns

/-!
# Ligatures

Letters that are drawn together and so take fewer columns than they would
alone.

Several scripts have such letters. An Arabic lam and the alef behind it are one
shape, whatever marks stand between them. The others need their letters side by
side, with a joiner between them where the script spells it; marks that are
ignored when shown may stand anywhere in between. A ligature is found from its
end: `Ligature` tells which end of one has been met, and `Ligature.extend` what
a character in front of that end makes of it.

## Main definitions

* `Ligature`: The ends of ligatures.
* `Ligature.ofChar?`: The end that a character is.
* `Ligature.extend`: The columns that a character adds in front of an end, and
  the end that is met then.
-/

namespace RegionScan

/-- The end of a ligature. -/
inductive Ligature where
  /-- An alef of Arabic. -/
  | alef
  /-- The Hebrew lamed, behind a joiner or not. -/
  | lamed (joined : Bool)
  /-- The Buginese ya, behind a joiner or not. -/
  | ya (joined : Bool)
  /-- The Buginese vowel i, a joiner and ya. -/
  | vowelYa
  /-- A consonant of Tifinagh, behind a joiner or not. -/
  | consonant (joined : Bool)
  /-- The consonant joiner of Tifinagh with a consonant behind it. -/
  | joinerConsonant
  /-- The second half of a tone letter of Lisu. -/
  | toneLetter
  /-- The Old Turkic letter i, behind a joiner or not. -/
  | orkhonI (joined : Bool)
  /-- A Khmer letter that can be written below another one. -/
  | subscriptLetter
  deriving DecidableEq, Repr

/-- The zero width joiner. -/
def isJoiner (c : Char) : Bool := c.toNat == 0x200D

/-- Characters without a column that are not skipped between a lam and an
    alef. -/
def interruptingRanges : CodePointRanges := [
  (0x605, 0x605), (0x890, 0x891), (0x8E2, 0x8E2), (0x9BE, 0x9BE), (0x9D7, 0x9D7), (0xB3E, 0xB3E),
  (0xB57, 0xB57), (0xBBE, 0xBBE), (0xBD7, 0xBD7), (0xCC0, 0xCC0), (0xCC2, 0xCC2), (0xCC7, 0xCC8),
  (0xCCA, 0xCCB), (0xCD5, 0xCD6), (0xD3E, 0xD3E), (0xD4E, 0xD4E), (0xD57, 0xD57), (0xDCF, 0xDCF),
  (0xDDF, 0xDDF), (0x1160, 0x11FF), (0x1715, 0x1715), (0x1734, 0x1734), (0x180E, 0x180E),
  (0x1B35, 0x1B35), (0x1B3B, 0x1B3B), (0x1B3D, 0x1B3D), (0x1B43, 0x1B44), (0x1BAA, 0x1BAA),
  (0x1BF2, 0x1BF3), (0x200C, 0x200D), (0x2065, 0x2069), (0x302E, 0x302F), (0x3164, 0x3164),
  (0xA8FA, 0xA8FA), (0xA953, 0xA953), (0xA9C0, 0xA9C0), (0xD7B0, 0xD7C6), (0xD7CB, 0xD7FB),
  (0xFFA0, 0xFFA0), (0xFFF0, 0xFFF8), (0x111C0, 0x111C0), (0x111C2, 0x111C3), (0x11235, 0x11235),
  (0x1133E, 0x1133E), (0x1134D, 0x1134D), (0x11357, 0x11357), (0x113B8, 0x113B8),
  (0x113C2, 0x113C2), (0x113C5, 0x113C5), (0x113C7, 0x113C9), (0x113CF, 0x113CF),
  (0x113D1, 0x113D1), (0x114B0, 0x114B0), (0x114BD, 0x114BD), (0x115AF, 0x115AF),
  (0x116B6, 0x116B6), (0x11930, 0x11930), (0x1193D, 0x1193D), (0x1193F, 0x1193F),
  (0x11941, 0x11941), (0x11A84, 0x11A89), (0x11D46, 0x11D46), (0x11F02, 0x11F02),
  (0x11F41, 0x11F41), (0x16FF0, 0x16FF1), (0x1D165, 0x1D166), (0x1D16D, 0x1D172),
  (0xE0000, 0xE0000), (0xE0002, 0xE001F), (0xE0080, 0xE00FF), (0xE01F0, 0xE0FFF)]

/-- Whether a character is skipped between a lam and an alef. -/
def isArabicMark (c : Char) : Bool := columnsOf c == 0 && !interruptingRanges.covers c

/-- Marks that are ignored when shown, which are skipped in the ligatures of
    the other scripts. -/
def ignoredMarkRanges : CodePointRanges :=
  [(0x34F, 0x34F), (0x17B4, 0x17B5), (0x180B, 0x180D), (0x180F, 0x180F), (0xFE00, 0xFE0F),
    (0xE0100, 0xE01EF)]

/-- The letters lam of Arabic. -/
def lamRanges : CodePointRanges :=
  [(0x644, 0x644), (0x6B5, 0x6B8), (0x76A, 0x76A), (0x8A6, 0x8A6), (0x8C7, 0x8C7)]

/-- The letters alef of Arabic. -/
def alefRanges : CodePointRanges :=
  [(0x622, 0x623), (0x625, 0x625), (0x627, 0x627), (0x671, 0x673), (0x675, 0x675), (0x773, 0x774),
    (0x870, 0x882)]

/-- The Khmer letters that can be written below another one. -/
def subscriptLetterRanges : CodePointRanges :=
  [(0x1780, 0x1782), (0x1784, 0x1787), (0x1789, 0x178C), (0x178E, 0x1793), (0x1795, 0x1798),
    (0x179B, 0x179D), (0x17A0, 0x17A0), (0x17A2, 0x17A2), (0x17A7, 0x17A7), (0x17AB, 0x17AC),
    (0x17AF, 0x17AF)]

/-- The consonants of Tifinagh. -/
def tifinaghConsonantRanges : CodePointRanges := [(0x2D31, 0x2D65), (0x2D6F, 0x2D6F)]

namespace Ligature

/-- The end of a ligature that a character is. -/
def ofChar? (c : Char) : Option Ligature :=
  if alefRanges.covers c then some .alef
  else if subscriptLetterRanges.covers c then some .subscriptLetter
  else if tifinaghConsonantRanges.covers c then some (.consonant false)
  else
    match c.toNat with
    | 0x5DC => some (.lamed false)
    | 0x1A10 => some (.ya false)
    | 0xA4FC => some .toneLetter
    | 0xA4FD => some .toneLetter
    | 0x10C03 => some (.orkhonI false)
    | _ => none

/-- The end with a joiner in front of it. -/
def join : Ligature → Ligature
  | .lamed _ => .lamed true
  | .ya _ => .ya true
  | .consonant _ => .consonant true
  | .orkhonI _ => .orkhonI true
  | l => l

/-- What the marks of its script do in front of an end: they add no column and
    leave it as it is, and a joiner joins it. -/
def skip? (l : Ligature) (c : Char) : Option Ligature :=
  match l with
  | .alef => if isArabicMark c then some .alef else none
  | l =>
    if isJoiner c then some l.join
    else if ignoredMarkRanges.covers c then some l
    else none

/-- What a letter adds in front of an end, and the end that is met then if the
    ligature goes on. A letter takes back a column if the ligature is narrower
    than what stood behind the letter. -/
def letter? (l : Ligature) (c : Char) : Option (Int × Option Ligature) :=
  match l, c.toNat with
  | .alef, _ => if lamRanges.covers c then some (0, none) else none
  | .lamed true, 0x5D0 => some (0, none)
  | .subscriptLetter, 0x17D2 => some (-1, none)
  | .ya true, 0x1A17 => some (0, some .vowelYa)
  | .vowelYa, 0x1A15 => some (0, none)
  | .consonant _, 0x2D7F => some (1, some .joinerConsonant)
  | .consonant true, _ => if tifinaghConsonantRanges.covers c then some (0, none) else none
  | .joinerConsonant, _ => if tifinaghConsonantRanges.covers c then some (-1, none) else none
  | .toneLetter, n => if 0xA4F8 ≤ n ∧ n ≤ 0xA4FB then some (0, none) else none
  | .orkhonI true, 0x10C32 => some (0, none)
  | _, _ => none

/-- What a character adds in front of an end, and the end that is met then,
    unless it has nothing to do with the ligature. -/
def extend (l : Ligature) (c : Char) : Option (Int × Option Ligature) :=
  match l.skip? c with
  | some rest => some (0, some rest)
  | none => l.letter? c

end Ligature

end RegionScan
