import RegionScan.Text.Hex

/-!
# Keys

The byte strings by which rows are ordered and split.

A table owns all keys that start with its prefix: a letter, its number in
eight bytes, and a separator. The key of a row adds the row's handle in eight
bytes. Numbers are written with the most significant byte first, and the
handle is shifted so that the least one becomes zero, so the lexicographic
order of keys is the order of tables and, within a table, of handles.

An empty key at the edge of a range means that the range has no edge there.

## Main definitions

* `Key`: A byte string, ordered lexicographically.
* `bigEndian`, `ofBigEndian`: Naturals as bytes and back.
* `Key.tablePrefix`, `Key.record`: The keys of a table and of a row.
* `Key.recordHandle?`: The handle in a row's key.
* `Key.successor`: The end of the range of keys with a given beginning.
-/

namespace RegionScan

/-- A byte string that names a place in a store. -/
structure Key where
  bytes : List UInt8
  deriving DecidableEq

/-- The low `width` bytes of a natural number, most significant first. -/
def bigEndian : Nat → Nat → List UInt8
  | 0, _ => []
  | width + 1, n => UInt8.ofNat (n >>> (8 * width)) :: bigEndian width n

/-- The natural number that bytes spell, most significant first. -/
def ofBigEndian (bytes : List UInt8) : Nat := bytes.foldl (fun n b => 256 * n + b.toNat) 0

namespace Key

/-- Keys are compared byte by byte, a shorter one being below those it
    begins. -/
instance : Ord Key := ⟨fun a b => compare a.bytes b.bytes⟩

/-- The key without bytes. -/
def empty : Key := ⟨[]⟩

/-- Whether a key has no bytes. -/
def isEmpty (k : Key) : Bool := k.bytes.isEmpty

/-- Whether a key begins with another. -/
def startsWith (k beginning : Key) : Bool := beginning.bytes.isPrefixOf k.bytes

/-- The letter that a table's keys start with. -/
def tableMark : UInt8 := 0x74

/-- What stands between the table and the handle. -/
def recordSeparator : List UInt8 := [0x5F, 0x72]

/-- The number of bytes of a row's key. -/
def recordLength : Nat := 19

/-- The beginning of all keys of a table. -/
def tablePrefix (table : UInt64) : Key :=
  ⟨tableMark :: bigEndian 8 table.toNat ++ recordSeparator⟩

/-- A handle as a natural number in the same order. Adding half the range is
    what flipping the sign bit does. -/
def handleRank (handle : Int64) : Nat := (handle.toInt + (1 <<< 63)).toNat

/-- The handle with a rank. -/
def handleOfRank (rank : Nat) : Int64 := Int64.ofInt ((rank : Int) - (1 <<< 63))

/-- The key of a row. -/
def record (table : UInt64) (handle : Int64) : Key :=
  ⟨(tablePrefix table).bytes ++ bigEndian 8 (handleRank handle)⟩

/-- The handle in a key that has the length and the first letter of a row's
    key. -/
def recordHandle? (k : Key) : Option Int64 :=
  if k.bytes.length = recordLength ∧ k.bytes.head? = some tableMark then
    some (handleOfRank (ofBigEndian (k.bytes.drop 11)))
  else none

/-- The least byte string above all that begin with the given one, or the
    empty one if there is none. The last byte that can be raised is raised, and
    what follows it is dropped. -/
def successorBytes : List UInt8 → List UInt8
  | [] => []
  | b :: rest =>
    match successorBytes rest with
    | [] => if b = 0xFF then [] else [b + 1]
    | next => b :: next

/-- The least key above all keys that begin with the given one; empty, which
    is no edge, if there is none. -/
def successor (k : Key) : Key := ⟨successorBytes k.bytes⟩

/-- A key for a reader: its first bytes in hexadecimal. -/
def debug (k : Key) : String :=
  "Key(0x" ++ hexText (k.bytes.take 32) ++ (if 32 < k.bytes.length then "..." else "") ++ ")"

end Key

end RegionScan
