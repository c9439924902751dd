import RegionScan.Text.Unprintable

/-!
# Quoted Text

Texts as messages show them.

A message that names a text puts it in double quotes and escapes what would
make it ambiguous or invisible: the quote and the backslash, the line breaks,
and every unprintable character by its code point.

## Main definitions

* `lowerHex`: A natural number in hexadecimal.
* `quoteChar`: The written form of one character.
* `quoted`: A text between double quotes.
-/

namespace RegionScan

/-- The digits of a number to base sixteen, without leading zeros. -/
def lowerHex (n : Nat) : List Char := Nat.toDigits 16 n

/-- One character as it stands between quotes. -/
def quoteChar (c : Char) : List Char :=
  if c = '"' then ['\\', '"']
  else if c = '\\' then ['\\', '\\']
  else if c = '\n' then ['\\', 'n']
  else if c = '\r' then ['\\', 'r']
  else if c = '\t' then ['\\', 't']
  else if c.toNat = 0 then ['\\', '0']
  else if isUnprintable c then
    ['\\', 'u', Char.ofNat 0x7B] ++ lowerHex c.toNat ++ [Char.ofNat 0x7D]
  else [c]

/-- The text between double quotes, with escapes. -/
def quoted (s : String) : String :=
  String.ofList ('"' :: s.toList.flatMap quoteChar ++ ['"'])

end RegionScan
