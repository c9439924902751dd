/-!
# Splitting Text

Texts cut at a separator.

## Main definitions

* `splitAt`: The parts between all separators.
* `splitOnce?`: The parts before and behind the first separator.
-/

namespace RegionScan

/-- The parts of a text between separators. There is always at least one. -/
def splitAt (separator : Char) : List Char → List (List Char)
  | [] => [[]]
  | c :: rest =>
    if c = separator then [] :: splitAt separator rest
    else
      match splitAt separator rest with
      | part :: parts => (c :: part) :: parts
      | [] => [[c]]

/-- The parts of a text before and behind the first separator, none without a
    separator. -/
def splitOnce? (separator : Char) : List Char → Option (List Char × List Char)
  | [] => none
  | c :: rest =>
    if c = separator then some ([], rest)
    else (splitOnce? separator rest).map fun (before, behind) => (c :: before, behind)

end RegionScan
