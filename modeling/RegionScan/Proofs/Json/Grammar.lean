import Mathlib.Tactic.SplitIfs
import RegionScan.Json.Reader

/-!
# The Grammar of JSON

Which texts are JSON and what they stand for.

The grammar is that of RFC 8259, and it knows nothing of how documents are written or read.
White space may stand around every token. A character of a string is itself, or an escape
of two characters, or one or two code units in hexadecimal digits. The members of an object
stand in any order, and nothing keeps two of them from having one name, so a text whose
objects have names that ascend says more than that it is JSON.

Only numbers that are not whole are left out: a document without floating-point numbers has
none. How deep the brackets of a text are nested is part of what is said about it, because
readers allow a fixed depth only.

The indented text of a document is in the grammar, with all its line breaks as white space.

## Main definitions

* `Json.SpellsEscape`, `Json.SpellsChar`, `Json.SpellsText`: What stands between quotes.
* `Json.SpellsScalar`: Values without brackets.
* `Json.SpellsItems`, `Json.SpellsList`: Items with commas between them.
* `Json.Spells`: All values.
* `Json.Regular`: The documents that hold nothing that a text cannot keep.

## Theorems

* `Json.spellsText_escaped`: Strings are written within the grammar.
* `Json.Regular.spells`: So are whole documents.
-/

namespace RegionScan

namespace Json

/-! ### The grammar -/

/-- White space. -/
def Blank (w : List Char) : Prop := ∀ c ∈ w, isSeparator c = true

/-- Four hexadecimal digits and their number. -/
inductive SpellsUnit : List Char → Nat → Prop
  | digits {a b c d : Char} {w x y z : Nat} (ha : hexDigitValue? a = some w)
      (hb : hexDigitValue? b = some x) (hc : hexDigitValue? c = some y)
      (hd : hexDigitValue? d = some z) :
      SpellsUnit [a, b, c, d] (16 * (16 * (16 * w + x) + y) + z)

/-- The characters that have an escape of their own, behind the escape. -/
def shortEscapes : List (Char × Char) :=
  [('"', '"'), ('\\', '\\'), ('/', '/'), ('b', '\x08'), ('f', '\x0c'), ('n', '\n'),
    ('r', '\r'), ('t', '\t')]

/-- What stands behind the backslash of an escape for a character. -/
inductive SpellsEscape : List Char → Char → Prop
  | short {e c : Char} (h : (e, c) ∈ shortEscapes) : SpellsEscape [e] c
  | unit {w : List Char} {c : Char} (h : SpellsUnit w c.toNat) : SpellsEscape ('u' :: w) c
  | pair {w w' : List Char} {n m : Nat} {c : Char} (h : SpellsUnit w n) (h' : SpellsUnit w' m)
      (hn : isLeading n = true) (hm : isTrailing m = true)
      (hc : c.toNat = 0x10000 + (n - 0xD800) * 1024 + (m - 0xDC00)) :
      SpellsEscape ('u' :: w ++ '\\' :: 'u' :: w') c

/-- What stands in a string for a character. -/
inductive SpellsChar : List Char → Char → Prop
  | plain {c : Char} (hquote : c ≠ '"') (hslash : c ≠ '\\') (hcontrol : 0x20 ≤ c.toNat) :
      SpellsChar [c] c
  | escaped {w : List Char} {c : Char} (h : SpellsEscape w c) : SpellsChar ('\\' :: w) c

/-- What stands between quotes for a text. -/
inductive SpellsText : List Char → List Char → Prop
  | nil : SpellsText [] []
  | cons {w ws s : List Char} {c : Char} (h : SpellsChar w c) (hs : SpellsText ws s) :
      SpellsText (w ++ ws) (c :: s)

/-- A value without brackets. Zeros in front of a whole number are not allowed. -/
inductive SpellsScalar : List Char → Json → Prop
  | null : SpellsScalar "null".toList .null
  | bool (b : Bool) : SpellsScalar (if b then "true" else "false").toList (.bool b)
  | int (n : Int) : SpellsScalar (toString n).toList (.int n)
  | string {w : List Char} {s : String} (h : SpellsText w s.toList) :
      SpellsScalar ('"' :: w ++ ['"']) (.string s)

/-- Items with white space around them and commas between them. -/
inductive SpellsItems (item : List Char → α → Prop) : List Char → List α → Prop
  | one {b w b' : List Char} {a : α} (hb : Blank b) (h : item w a) (hb' : Blank b') :
      SpellsItems item (b ++ w ++ b') [a]
  | cons {b w b' ws : List Char} {a : α} {as : List α} (hb : Blank b) (h : item w a)
      (hb' : Blank b') (hs : SpellsItems item ws as) :
      SpellsItems item (b ++ w ++ b' ++ ',' :: ws) (a :: as)

/-- Items between brackets, or white space if there are none. -/
inductive SpellsList (item : List Char → α → Prop) : List Char → List α → Prop
  | nil {b : List Char} (hb : Blank b) : SpellsList item b []
  | items {w : List Char} {as : List α} (h : SpellsItems item w as) : SpellsList item w as

/-- A member of an object: its name, a colon and its value. -/
inductive SpellsMember (value : List Char → Json → Prop) : List Char → String × Json → Prop
  | mk {w b b' v : List Char} {name : String} {j : Json} (h : SpellsText w name.toList)
      (hb : Blank b) (hb' : Blank b') (hv : value v j) :
      SpellsMember value ('"' :: w ++ '"' :: b ++ ':' :: b' ++ v) (name, j)

/-- A value whose brackets are nested at most so deep. -/
def Spells : Nat → List Char → Json → Prop
  | 0, w, j => SpellsScalar w j
  | room + 1, w, j => SpellsScalar w j ∨
      (∃ inner elements, w = '[' :: inner ++ [']'] ∧ j = .array elements ∧
        SpellsList (Spells room) inner elements) ∨
      ∃ inner members, w = openBrace :: inner ++ [closeBrace] ∧ j = .object members ∧
        SpellsList (SpellsMember (Spells room)) inner members

theorem Spells.scalar {w : List Char} {j : Json} (h : SpellsScalar w j) :
    ∀ room, Spells room w j
  | 0 => h
  | _ + 1 => .inl h

/-! ### Documents -/

/-- The whole numbers of 64 bits, with or without a sign. -/
def IsWord (n : Int) : Prop := -(1 <<< 63) ≤ n ∧ n < 1 <<< 64

theorem isWord_iff {n : Int} :
    IsWord n ↔ -9223372036854775808 ≤ n ∧ n < 18446744073709551616 := Iff.rfl

/-- The documents that hold nothing that a text cannot keep. Their numbers are whole and
    have 64 bits, the names of their members ascend, and their brackets are nested at most
    so deep. -/
inductive Regular : Nat → Json → Prop
  | null {room : Nat} : Regular room .null
  | bool {room : Nat} (b : Bool) : Regular room (.bool b)
  | int {room : Nat} {n : Int} (hn : IsWord n) : Regular room (.int n)
  | string {room : Nat} (s : String) : Regular room (.string s)
  | array {room : Nat} {elements : List Json} (h : ∀ e ∈ elements, Regular room e) :
      Regular (room + 1) (.array elements)
  | object {room : Nat} {members : List (String × Json)}
      (hnames : members.Pairwise fun a b => compare a.1 b.1 = .lt)
      (h : ∀ m ∈ members, Regular room m.2) : Regular (room + 1) (.object members)

/-! ### What is written -/

theorem blank_nil : Blank [] := fun _ h => absurd h List.not_mem_nil

theorem blank_lineBreak (depth : Nat) : Blank (lineBreak depth) := by
  intro c hc
  rcases List.mem_cons.1 hc with rfl | hc
  · decide
  · rw [List.eq_of_mem_replicate hc]
    decide

/-- The hexadecimal digits that are written have their values. -/
theorem hexDigitValue?_digitChar {n : Nat} (h : n < 16) :
    hexDigitValue? (Nat.digitChar n) = some n := by
  have hall : ∀ n : Fin 16, hexDigitValue? (Nat.digitChar n) = some n.val := by decide
  exact hall ⟨n, h⟩

/-- A control character without an escape of its own is written as a code unit. -/
theorem spellsUnit_control {n : Nat} (h : n < 0x20) :
    SpellsUnit ['0', '0', Nat.digitChar (n / 16), Nat.digitChar (n % 16)] n := by
  have hzero : hexDigitValue? '0' = some 0 := by decide
  have hunit := SpellsUnit.digits hzero hzero
    (hexDigitValue?_digitChar (by omega : n / 16 < 16))
    (hexDigitValue?_digitChar (by omega : n % 16 < 16))
  have hvalue : 16 * (16 * (16 * 0 + 0) + n / 16) + n % 16 = n := by omega
  rwa [hvalue] at hunit

theorem spellsChar_escapeChar (c : Char) : SpellsChar (escapeChar c) c := by
  have hshort : ∀ {e d : Char}, c = d → (e, d) ∈ shortEscapes → SpellsChar ['\\', e] c :=
    fun heq h => heq ▸ .escaped (.short h)
  unfold escapeChar
  split_ifs with hquote hslash hback hfeed hline hreturn htab hcontrol
  · exact hshort hquote (by decide)
  · exact hshort hslash (by decide)
  · exact hshort hback (by decide)
  · exact hshort hfeed (by decide)
  · exact hshort hline (by decide)
  · exact hshort hreturn (by decide)
  · exact hshort htab (by decide)
  · exact .escaped (.unit (spellsUnit_control hcontrol))
  · exact .plain hquote hslash (by omega)

theorem spellsText_escaped (s : List Char) : SpellsText (s.flatMap escapeChar) s := by
  induction s with
  | nil => exact .nil
  | cons c s ih => exact .cons (spellsChar_escapeChar c) ih

/-- Elements on lines of their own are items, whatever white space is behind them. -/
theorem spellsItems_elementLines {room depth : Nat} {b' : List Char} (hb' : Blank b')
    {e : Json} {rest : List Json}
    (h : ∀ a ∈ e :: rest, Spells room (writeIndented depth a) a) :
    SpellsItems (Spells room) (writeElementLines depth (e :: rest) ++ b') (e :: rest) := by
  induction rest generalizing e with
  | nil =>
      rw [writeElementLines]
      exact .one (blank_lineBreak depth) (h e List.mem_cons_self) hb'
  | cons e' rest ih =>
      have hitems := SpellsItems.cons (blank_lineBreak depth) (h e List.mem_cons_self) blank_nil
        (ih fun a ha => h a (List.mem_cons_of_mem e ha))
      rw [writeElementLines, List.append_assoc, List.cons_append]
      · rwa [List.append_nil] at hitems
      · exact List.cons_ne_nil e' rest

/-- So are members. -/
theorem spellsItems_memberLines {room depth : Nat} {b' : List Char} (hb' : Blank b')
    {m : String × Json} {rest : List (String × Json)}
    (h : ∀ a ∈ m :: rest, Spells room (writeIndented depth a.2) a.2) :
    SpellsItems (SpellsMember (Spells room)) (writeMemberLines depth (m :: rest) ++ b')
      (m :: rest) := by
  have hmember : ∀ a ∈ m :: rest, SpellsMember (Spells room)
      (writeString a.1 ++ ':' :: ' ' :: writeIndented depth a.2) a := by
    intro a ha
    have hblank : Blank [' '] := fun c hc => by
      rw [List.mem_singleton.1 hc]
      decide
    have hmk := SpellsMember.mk (spellsText_escaped a.1.toList) blank_nil hblank (h a ha)
    simpa only [writeString, List.append_assoc, List.cons_append, List.nil_append] using hmk
  -- From here on it does not matter what the values of the members are.
  clear h
  induction rest generalizing m with
  | nil =>
      have hone := SpellsItems.one (blank_lineBreak depth) (hmember m List.mem_cons_self) hb'
      rw [writeMemberLines]
      simpa only [List.append_assoc] using hone
  | cons m' rest ih =>
      have hitems := SpellsItems.cons (blank_lineBreak depth) (hmember m List.mem_cons_self)
        blank_nil (ih fun a ha => hmember a (List.mem_cons_of_mem m ha))
      rw [writeMemberLines]
      · simpa only [List.append_assoc, List.cons_append, List.append_nil, List.nil_append]
          using hitems
      · exact List.cons_ne_nil m' rest

/-- The indented text of a regular document. -/
theorem Regular.spells {room : Nat} {j : Json} (h : Regular room j) :
    ∀ depth, Spells room (writeIndented depth j) j := by
  induction h with
  | null => exact fun _ => .scalar .null _
  | bool b => exact fun _ => .scalar (.bool b) _
  | int hn => exact fun _ => .scalar (.int _) _
  | string s => exact fun _ => .scalar (.string (spellsText_escaped s.toList)) _
  | @array room elements h ih =>
      intro depth
      cases elements with
      | nil => exact .inr (.inl ⟨[], [], rfl, rfl, .nil blank_nil⟩)
      | cons e rest =>
          -- The line break in front of the bracket is the white space behind the last element.
          refine .inr (.inl ⟨_, _, ?_, rfl, .items (spellsItems_elementLines
            (blank_lineBreak depth) fun a ha => ih a ha (depth + 1))⟩)
          rw [writeIndented, List.cons_append]
  | @object room members hnames h ih =>
      intro depth
      cases members with
      | nil => exact .inr (.inr ⟨[], [], rfl, rfl, .nil blank_nil⟩)
      | cons m rest =>
          refine .inr (.inr ⟨_, _, ?_, rfl, .items (spellsItems_memberLines
            (blank_lineBreak depth) fun a ha => ih a ha (depth + 1))⟩)
          rw [writeIndented, List.cons_append]

end Json

end RegionScan
