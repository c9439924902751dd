/-!
# Hexadecimal

Bytes written as two digits each.

## Main definitions

* `hexDigit`: The digit of a number below sixteen.
* `hexText`: The digits of a byte string.
-/

namespace RegionScan

/-- The digit of a number below sixteen. -/
def hexDigit (n : Nat) : Char := Nat.digitChar (n % 16)

/-- The two digits of a byte. -/
def hexByte (b : UInt8) : List Char := [hexDigit (b.toNat / 16), hexDigit b.toNat]

/-- The digits of a byte string, two for each byte. -/
def hexText (bytes : List UInt8) : String := String.ofList (bytes.flatMap hexByte)

end RegionScan
