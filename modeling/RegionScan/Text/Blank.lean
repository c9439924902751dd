/-!
# White Space

The characters with the Unicode property White_Space, and texts without them
at their ends.

Every text that comes from a user is trimmed before it is read: property
values, type names, numbers, dates. The set is the full Unicode one, so a
no-break space or an ideographic space at an end is dropped like a blank.

## Main definitions

* `isBlank`: The property White_Space.
* `trimStart`, `trimBlanks`: A character list without blanks at its front,
  or at both ends.
* `trim`: A text without blanks at both ends.

## Theorems

* `isBlank_of_isWhitespace`: The blanks of ASCII are among them.
-/

namespace RegionScan

/-- Whether a character has the Unicode property White_Space. -/
def isBlank (c : Char) : Bool :=
  let n := c.toNat
  (9 ≤ n && n ≤ 13) || n == 0x20 || n == 0x85 || n == 0xA0 || n == 0x1680 ||
    (0x2000 ≤ n && n ≤ 0x200A) || n == 0x2028 || n == 0x2029 || n == 0x202F ||
    n == 0x205F || n == 0x3000

/-- Drop the blanks in front. -/
def trimStart (s : List Char) : List Char := s.dropWhile isBlank

/-- Drop the blanks at both ends. -/
def trimBlanks (s : List Char) : List Char :=
  (trimStart (trimStart s).reverse).reverse

/-- The text without blanks at its ends. -/
def trim (s : String) : String := String.ofList (trimBlanks s.toList)

/-- Every ASCII white space character is a blank. -/
theorem isBlank_of_isWhitespace {c : Char} (h : c.isWhitespace = true) : isBlank c = true := by
  simp only [Char.isWhitespace, Bool.or_eq_true, decide_eq_true_eq] at h
  rcases h with ((rfl | rfl) | rfl) | rfl <;> decide

end RegionScan
