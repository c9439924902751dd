import RegionScan.Json.Literal
import RegionScan.OrderedMap

/-!
# JSON Readers

Reading JSON of a shape that is known.

A reader takes what it wants from the front of a text and gives the rest. Texts,
truth values, numbers and arrays each have a reader that refuses everything
else by saying what it found. A reader of any value serves where the shape is
open. Values that nobody asked for are skipped.

Arrays and objects may be nested to a fixed depth. Every reader is told how
many brackets may still be opened; skipped values are not bounded.

An object has its members in the order of their names, and of two members of
one name it has the later one.

## Main definitions

* `JsonReader`: A reader.
* `Json.nextElement`, `Json.nextMember`: Going on in an array or an object.
* `Json.readValue`, `Json.skipValue`: A value of any shape.
* `Json.readText`, `Json.readBool`, `Json.readSize?`, `Json.readArray`,
  `Json.readTextMap`: Values of one shape.
* `JsonReader.run`: Reading a whole text.
-/

namespace RegionScan

/-- A reader: it is told how many brackets may still be opened, and gives what
    it has read and the rest of the text. -/
abbrev JsonReader (α : Type) := Nat → List Char → Except JsonFault (α × List Char)

namespace Json

/-- The number of brackets that may be open at once. -/
def maxDepth : Nat := 127

/-- Go on in an array: the place of the next element, or no element and the
    place of the closing bracket. -/
def nextElement (use : JsonUse) (isFirst : Bool) (s : List Char) :
    Except JsonFault (Bool × List Char) :=
  match skipBlanks s with
  | [] => failBefore .endInList []
  | ']' :: rest => .ok (false, ']' :: rest)
  | c :: rest =>
    if isFirst then .ok (true, c :: rest)
    else if c = ',' then
      match use, skipBlanks rest with
      | _, [] => failBefore .endInValue []
      | .kept, ']' :: behind => failAt .trailingComma (']' :: behind)
      | _, next => .ok (true, next)
    else failAt .expectedListEnd (c :: rest)

/-- Read the elements of an array behind its opening bracket, and its closing
    one. There are at most `n` elements. -/
def readElementsUpTo (use : JsonUse)
    (element : List Char → Except JsonFault (α × List Char)) (isFirst : Bool) :
    Nat → List Char → Except JsonFault (List α × List Char)
  | 0, _ => failBefore .endInList []
  | n + 1, s => do
    match ← nextElement use isFirst s with
    | (false, s) => return ([], s.drop 1)
    | (true, s) =>
      let (a, s) ← element s
      let (rest, s) ← readElementsUpTo use element false n s
      return (a :: rest, s)

/-- Read the elements of an array behind its opening bracket, and its closing
    one. No array has more elements than its text has characters. -/
def readElements (use : JsonUse) (element : List Char → Except JsonFault (α × List Char))
    (s : List Char) : Except JsonFault (List α × List Char) :=
  readElementsUpTo use element true (s.length + 1) s

/-- Read the name of a member. -/
def readName (use : JsonUse) (s : List Char) : Except JsonFault (Option String × List Char) :=
  match s with
  | '"' :: rest => do
    let (name, rest) ← readString use rest
    return (some name, rest)
  | _ => failAt .keyNotString s

/-- Go on in an object: the name of the next member, or no name and the place
    of the closing brace. -/
def nextMember (use : JsonUse) (isFirst : Bool) (s : List Char) :
    Except JsonFault (Option String × List Char) :=
  match skipBlanks s with
  | [] => failBefore .endInObject []
  | c :: rest =>
    if c = closeBrace then .ok (none, c :: rest)
    else if isFirst then readName use (c :: rest)
    else if c = ',' then
      match use, skipBlanks rest with
      | .kept, [] => failBefore .endInValue []
      | .skipped, [] => failBefore .endInObject []
      | .kept, d :: behind =>
        if d = closeBrace then failAt .trailingComma (d :: behind) else readName use (d :: behind)
      | .skipped, next => readName use next
    else failAt .expectedObjectEnd (c :: rest)

/-- Read the colon behind the name of a member. -/
def readColon (s : List Char) : Except JsonFault (List Char) :=
  match skipBlanks s with
  | [] => failBefore .endInObject []
  | ':' :: rest => .ok rest
  | rest => failAt .expectedColon rest

/-- Read the members of an object behind its opening brace, and its closing
    one. `member` takes what was read before and reads on behind a name. There
    are at most `n` members. -/
def readMembersUpTo (use : JsonUse)
    (member : σ → String → List Char → Except JsonFault (σ × List Char)) (isFirst : Bool)
    (a : σ) : Nat → List Char → Except JsonFault (σ × List Char)
  | 0, _ => failBefore .endInObject []
  | n + 1, s => do
    match ← nextMember use isFirst s with
    | (none, s) => return (a, s.drop 1)
    | (some name, s) =>
      let (a, s) ← member a name s
      readMembersUpTo use member false a n s

/-- Read the members of an object behind its opening brace, and its closing
    one. No object has more members than its text has characters. -/
def readMembers (use : JsonUse)
    (member : σ → String → List Char → Except JsonFault (σ × List Char)) (a : σ)
    (s : List Char) : Except JsonFault (σ × List Char) :=
  readMembersUpTo use member true a (s.length + 1) s

/-- Read a value that is no array and no object. -/
def readScalar (use : JsonUse) (s : List Char) : Except JsonFault (Json × List Char) :=
  match s with
  | [] => failBefore .endInValue []
  | c :: rest =>
    if c = 'n' then (readWord "ull".toList rest).map (.null, ·)
    else if c = 't' then (readWord "rue".toList rest).map (.bool true, ·)
    else if c = 'f' then (readWord "alse".toList rest).map (.bool false, ·)
    else if c = '-' ∨ c.isDigit then readNumber use (c :: rest)
    else if c = '"' then (readString use rest).map fun (text, rest) => (.string text, rest)
    else failAt .expectedValue (c :: rest)

/-- Read a value of any shape. -/
def readValue (use : JsonUse) : JsonReader Json
  | 0, s =>
    match skipBlanks s with
    | [] => readScalar use []
    | c :: rest =>
      if c = '[' ∨ c = openBrace then failAt .nestedTooDeep (c :: rest)
      else readScalar use (c :: rest)
  | room + 1, s =>
    match skipBlanks s with
    | [] => readScalar use []
    | c :: rest =>
      if c = '[' then do
        let (elements, rest) ← readElements use (readValue use room) rest
        return (.array elements, rest)
      else if c = openBrace then do
        let (members, rest) ← readMembers use
          (fun members name s => do
            let (value, s) ← readValue use room (← readColon s)
            return (OrderedMap.insert members name value, s))
          OrderedMap.empty rest
        return (.object members.entries, rest)
      else readScalar use (c :: rest)

/-- Pass over a value. No value is nested deeper than its text is long. -/
def skipValue (s : List Char) : Except JsonFault (List Char) :=
  (readValue .skipped s.length s).map (·.2)

/-- What a value is that was read where another kind was expected. -/
def found : Json → JsonFound
  | .null => .null
  | .bool b => .bool b
  | .int n => .int n
  | .double x => .double x
  | .single x => .double x.toDouble
  | .string s => .string s
  | .array _ => .array
  | .object _ => .object

/-- Refuse the value at the front of a text. A scalar is read first, and the
    failure lies behind it. -/
def refuse (expected : String) (s : List Char) : Except JsonFault α :=
  match s with
  | [] => failBefore .endInValue []
  | c :: rest =>
    if c = '[' then failBefore (.wrongType .array expected) (c :: rest)
    else if c = openBrace then failBefore (.wrongType .object expected) (c :: rest)
    else
      match readScalar .kept (c :: rest) with
      | .error fault => .error fault
      | .ok (value, behind) => failBefore (.wrongType value.found expected) behind

/-- Read a text. -/
def readText : JsonReader String := fun _ s =>
  match skipBlanks s with
  | '"' :: rest => readString .kept rest
  | rest => refuse "a string" rest

/-- Read a truth value. -/
def readBool : JsonReader Bool := fun _ s =>
  match skipBlanks s with
  | 't' :: rest => (readWord "rue".toList rest).map (true, ·)
  | 'f' :: rest => (readWord "alse".toList rest).map (false, ·)
  | rest => refuse "a boolean" rest

/-- The word for a number of things in messages. -/
def sizeWord : String := "usize"

/-- Read a natural number, or a null for none. -/
def readSize? : JsonReader (Option Nat) := fun _ s => do
  let rest := skipBlanks s
  match rest with
  | 'n' :: letters => return (none, ← readWord "ull".toList letters)
  | c :: _ =>
    if c = '-' ∨ c.isDigit then
      match ← readNumber .kept rest with
      | (.int n, behind) =>
        if n < 0 then failBefore (.wrongValue (.int n) sizeWord) behind
        else return (some n.toNat, behind)
      | (value, behind) => failBefore (.wrongType value.found sizeWord) behind
    else refuse sizeWord rest
  | [] => refuse sizeWord rest

/-- Read an array. -/
def readArray (element : JsonReader α) : JsonReader (List α) := fun room s =>
  match skipBlanks s, room with
  | '[' :: rest, 0 => failAt .nestedTooDeep ('[' :: rest)
  | '[' :: rest, room + 1 => readElements .kept (element room) rest
  | rest, _ => refuse "a sequence" rest

/-- Read an object whose values are texts. -/
def readTextMap : JsonReader (OrderedMap String String) := fun room s =>
  match skipBlanks s, room with
  | [], _ => refuse "a map" []
  | c :: rest, 0 =>
    if c = openBrace then failAt .nestedTooDeep (c :: rest) else refuse "a map" (c :: rest)
  | c :: rest, room + 1 =>
    if c = openBrace then
      readMembers .kept
        (fun m name s => do
          let (value, s) ← readText room (← readColon s)
          return (OrderedMap.insert m name value, s))
        OrderedMap.empty rest
    else refuse "a map" (c :: rest)

end Json

/-- Read a whole text. Nothing but white space may follow. -/
def JsonReader.run (reader : JsonReader α) (text : String) : Except JsonError α :=
  let result : Except JsonFault α := do
    let (a, rest) ← reader Json.maxDepth text.toList
    match Json.skipBlanks rest with
    | [] => return a
    | rest => Json.failAt .trailingCharacters rest
  result.mapError (·.locate text)

end RegionScan
