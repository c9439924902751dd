import RegionScan.Json.Reader

/-!
# JSON Records

Reading JSON with a fixed set of members.

A record is written as an object, or as an array of its members in their order.
In an object the members come in any order, each at most once, and members that
the record does not know are skipped. In an array the last members can be left
out. Some members must be given.

A shape describes a record: its name, its members, each with a reader that adds
to what was read before, and how the result is made of what was read.

## Main definitions

* `RecordMember`, `RecordShape`: The description of a record.
* `RecordShape.reader`: The reader of a record.
-/

namespace RegionScan

/-- A member of a record; `σ` is what is known of the record while it is being
    read. -/
structure RecordMember (σ : Type) where
  name : String
  /-- Whether the member was read before. -/
  isKnown : σ → Bool
  /-- Read the member's value. -/
  read : σ → JsonReader σ

/-- A record. -/
structure RecordShape (σ α : Type) where
  name : String
  members : List (RecordMember σ)
  /-- What is known at the start. -/
  start : σ
  /-- The record, or the place of the first member that must be given and was
      not. -/
  finish : σ → Except Nat α

/-- A reader that adds what another one reads. -/
def JsonReader.into (reader : JsonReader α) (f : α → σ) : JsonReader σ := fun room s =>
  (reader room s).map fun (a, rest) => (f a, rest)

namespace RecordShape

variable {σ α : Type}

/-- The failure at a member that was read before. The next token is looked at,
    and a brace that closes the object is still read. -/
def failRepeated (name : String) (s : List Char) : Except JsonFault β :=
  match Json.skipBlanks s with
  | [] => Json.failBefore (.repeatedMember name) []
  | c :: rest =>
    Json.failBefore (.repeatedMember name) (if c = Json.closeBrace then rest else c :: rest)

/-- Read on behind the name of a member. -/
def readMember (shape : RecordShape σ α) (room : Nat) (a : σ) (name : String) (s : List Char) :
    Except JsonFault (σ × List Char) := do
  match shape.members.find? (·.name == name) with
  | none => return (a, ← Json.skipValue (← Json.readColon s))
  | some member =>
    if member.isKnown a then failRepeated name s
    else member.read a room (← Json.readColon s)

/-- Read a record behind the opening brace of an object. -/
def readObject (shape : RecordShape σ α) (room : Nat) (s : List Char) :
    Except JsonFault (α × List Char) := do
  let (a, s) ← Json.readMembers .kept (shape.readMember room) shape.start s
  match shape.finish a with
  | .ok record => return (record, s)
  | .error index =>
    Json.failBefore (.missingMember (shape.members[index]?.elim "" (·.name))) s

/-- Read members in their order, as far as the array has them. -/
def readInOrder (room : Nat) (isFirst : Bool) (a : σ) :
    List (RecordMember σ) → List Char → Except JsonFault (σ × List Char)
  | [], s => .ok (a, s)
  | member :: rest, s => do
    match ← Json.nextElement .kept isFirst s with
    | (false, s) => return (a, s)
    | (true, s) =>
      let (a, s) ← member.read a room s
      readInOrder room false a rest s

/-- Read the bracket that closes an array whose members were all read. -/
def readClosing (s : List Char) : Except JsonFault (List Char) :=
  match Json.skipBlanks s with
  | [] => Json.failBefore .endInList []
  | ']' :: rest => .ok rest
  | ',' :: rest =>
    match Json.skipBlanks rest with
    | ']' :: behind => Json.failAt .trailingComma (']' :: behind)
    | behind => Json.failAt .trailingCharacters behind
  | rest => Json.failAt .trailingCharacters rest

/-- How the shape is named where an array is too short. -/
def lengthText (shape : RecordShape σ α) : String :=
  shape.name ++ " with " ++ toString shape.members.length ++ " elements"

/-- Read a record behind the opening bracket of an array. -/
def readList (shape : RecordShape σ α) (room : Nat) (s : List Char) :
    Except JsonFault (α × List Char) := do
  let (a, s) ← readInOrder room true shape.start shape.members s
  match shape.finish a with
  | .ok record => return (record, ← readClosing s)
  | .error index => Json.failBefore (.tooShort index shape.lengthText) ((Json.skipBlanks s).drop 1)

/-- The reader of a record. -/
def reader (shape : RecordShape σ α) : JsonReader α := fun room s =>
  match Json.skipBlanks s, room with
  | [], _ => Json.refuse shape.name []
  | c :: rest, 0 =>
    if c = '[' ∨ c = Json.openBrace then Json.failAt .nestedTooDeep (c :: rest)
    else Json.refuse shape.name (c :: rest)
  | c :: rest, room + 1 =>
    if c = '[' then shape.readList room rest
    else if c = Json.openBrace then shape.readObject room rest
    else Json.refuse shape.name (c :: rest)

end RecordShape

end RegionScan
