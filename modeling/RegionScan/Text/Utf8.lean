/-!
# UTF-8

Bytes read as text.

A byte string is valid if it is a sequence of well-formed groups: one byte
below 0x80, or a leading byte with the one to three continuation bytes it
announces. The leading byte narrows the range of the byte behind it, which
excludes overlong forms, surrogates and code points past the last one. An
invalid string is reported by the place of its first bad group and by the
number of bytes that can be skipped, or as incomplete if it ends inside a group
that is good so far.

## Main definitions

* `Utf8Error`: Where and how a byte string fails.
* `Utf8Group`: What the bytes at one place amount to.
* `readGroup`: The group at the front of a byte string.
* `readUtf8`: The text of a byte string.
-/

namespace RegionScan

/-- A byte string that is no text. -/
structure Utf8Error where
  /-- The place of the first bad group. -/
  index : Nat
  /-- The number of bytes to skip, none if the string ends too early. -/
  badBytes : Option Nat
  deriving DecidableEq, Repr

/-- The wording of the failure. -/
def Utf8Error.message (e : Utf8Error) : String :=
  match e.badBytes with
  | some n => s!"invalid utf-8 sequence of {n} bytes from index {e.index}"
  | none => s!"incomplete utf-8 byte sequence from index {e.index}"

/-- What the bytes at one place amount to. -/
inductive Utf8Group where
  /-- A character of so many bytes. -/
  | character (c : Char) (length : Nat)
  /-- A group that the first so many bytes make bad. -/
  | bad (length : Nat)
  /-- A group that is good as far as it goes. -/
  | cut

/-- How many bytes a leading byte announces, and the range that the second of
    them must lie in. -/
def announced (lead : Nat) : Option (Nat × Nat × Nat) :=
  if 0xC2 ≤ lead ∧ lead ≤ 0xDF then some (2, 0x80, 0xBF)
  else if lead = 0xE0 then some (3, 0xA0, 0xBF)
  else if lead = 0xED then some (3, 0x80, 0x9F)
  else if 0xE1 ≤ lead ∧ lead ≤ 0xEF then some (3, 0x80, 0xBF)
  else if lead = 0xF0 then some (4, 0x90, 0xBF)
  else if 0xF1 ≤ lead ∧ lead ≤ 0xF3 then some (4, 0x80, 0xBF)
  else if lead = 0xF4 then some (4, 0x80, 0x8F)
  else none

/-- Read the continuation bytes of a group: `value` holds the bits so far,
    `seen` counts the bytes read, and the next byte must lie between `low` and
    `high`. Behind the second byte the range is that of all continuations. -/
def readContinuation (value seen length low high : Nat) : List UInt8 → Utf8Group
  | [] => if seen = length then .character (Char.ofNat value) length else .cut
  | b :: rest =>
    if seen = length then .character (Char.ofNat value) length
    else if low ≤ b.toNat ∧ b.toNat ≤ high then
      readContinuation (value * 64 + b.toNat % 64) (seen + 1) length 0x80 0xBF rest
    else .bad seen

/-- The group whose leading byte is `lead`, with `rest` behind it. -/
def readGroup (lead : UInt8) (rest : List UInt8) : Utf8Group :=
  if lead.toNat < 0x80 then .character (Char.ofNat lead.toNat) 1
  else
    match announced lead.toNat with
    | some (length, low, high) =>
      readContinuation (lead.toNat % (1 <<< (7 - length))) 1 length low high rest
    | none => .bad 1

/-- Read a byte string from a place on; `skip` bytes belong to the character
    read last. -/
def readUtf8From (index skip : Nat) : List UInt8 → Except Utf8Error (List Char)
  | [] => .ok []
  | b :: rest =>
    match skip with
    | skip + 1 => readUtf8From (index + 1) skip rest
    | 0 =>
      match readGroup b rest with
      | .character c length => (readUtf8From (index + 1) (length - 1) rest).map (c :: ·)
      | .bad length => .error ⟨index, some length⟩
      | .cut => .error ⟨index, none⟩

/-- The text that a byte string spells. -/
def readUtf8 (bytes : List UInt8) : Except Utf8Error String :=
  (readUtf8From 0 0 bytes).map String.ofList

/-- The bytes that spell a text. -/
def utf8Bytes (s : String) : List UInt8 := s.toUTF8.toList

end RegionScan
