import Mathlib.Data.List.Forall2
import Mathlib.Data.List.Induction
import RegionScan.Output.Format
import RegionScan.Proofs.Number.DecimalText

/-!
# Reading CSV Back

Why no text of a row can be mistaken for the end of a field or of a record.

CSV has a grammar of its own, which knows nothing of how rows are written. A record is
a list of fields with commas between them, and a line break ends it: a line feed, with or
without a carriage return in front. A field is a text without commas, quotes and line
breaks, or any text between quotes, in which its own quotes are doubled.

The grammar leaves no choice. A reader that goes through the text once, and knows of every
character only in which part of a field it stands, accepts what the grammar spells and
nothing else (`Csv.parse?_eq_some_iff`). So a text spells one list of records at most, and
for what is written it is the list it was made from.

What is to be written is the display text of every value that is there. A decimal has one
if it has at most thirty-eight places.

## Main definitions

* `Csv.Inside`, `Csv.SpellsText`, `Csv.SpellsRecord`, `Csv.Spells`: The grammar.
* `Csv.Reader`, `Csv.Reader.step`, `Csv.parse?`: The reader.
* `CsvShows`: The text that CSV is to show of a value.

## Theorems

* `Csv.Spells.run`: The reader follows the grammar.
* `Csv.Reads.step`: What was read so far is spelled by the grammar.
* `Csv.parse?_eq_some_iff`: The reader accepts what the grammar spells.
* `Csv.formatRows_decodes`: Rows written as CSV.
-/

namespace RegionScan

namespace Csv

/-! ### The grammar -/

/-- A character that needs no quotes around it. -/
def isPlain (c : Char) : Bool := c ≠ ',' && c ≠ '"' && c ≠ '\n' && c ≠ '\r'

/-- What stands between quotes for a text: the text with its quotes doubled. -/
inductive Inside : List Char → List Char → Prop
  | nil : Inside [] []
  | quote {w s : List Char} (h : Inside w s) : Inside ('"' :: '"' :: w) ('"' :: s)
  | other {c : Char} {w s : List Char} (hc : c ≠ '"') (h : Inside w s) : Inside (c :: w) (c :: s)

/-- A field that stands for a text. -/
inductive SpellsText : List Char → List Char → Prop
  | plain {s : List Char} (h : ∀ c ∈ s, isPlain c = true) : SpellsText s s
  | quoted {w s : List Char} (h : Inside w s) : SpellsText ('"' :: (w ++ ['"'])) s

/-- The end of a record. -/
inductive LineBreak : List Char → Prop
  | feed : LineBreak ['\n']
  | returnFeed : LineBreak ['\r', '\n']

/-- Fields with commas between them and a line break behind them. -/
inductive SpellsRecord : List Char → List (List Char) → Prop
  | intro {words texts : List (List Char)} {lineBreak : List Char} (hne : words ≠ [])
      (h : List.Forall₂ SpellsText words texts) (hbreak : LineBreak lineBreak) :
      SpellsRecord ([','].intercalate words ++ lineBreak) texts

/-- Records, one after the other. -/
inductive Spells : List Char → List (List (List Char)) → Prop
  | nil : Spells [] []
  | snoc {w line : List Char} {records : List (List (List Char))} {texts : List (List Char)}
      (h : Spells w records) (hline : SpellsRecord line texts) :
      Spells (w ++ line) (records ++ [texts])

/-! ### The reader -/

/-- Where in a field the reader is. -/
inductive Place where
  | front
  | plain
  | inside
  /-- Behind a quote that ends the text or is the first of two. -/
  | behindQuote
  /-- Behind a carriage return. -/
  | behindReturn
  deriving DecidableEq

/-- What was read so far. -/
structure Reader where
  place : Place
  /-- The text of the field that is being read. -/
  text : List Char
  /-- The texts of its record in front of it. -/
  texts : List (List Char)
  /-- The records in front of its record. -/
  records : List (List (List Char))

namespace Reader

/-- At the front of a field. -/
def front (texts : List (List Char)) (records : List (List (List Char))) : Reader :=
  ⟨.front, [], texts, records⟩

/-- Behind a field that ended. -/
def finishText (r : Reader) : Reader := front (r.texts ++ [r.text]) r.records

/-- Behind a record that ended. -/
def finishRecord (r : Reader) : Reader := front [] (r.records ++ [r.texts ++ [r.text]])

/-- One more character of the field, at another place. -/
def push (r : Reader) (place : Place) (c : Char) : Reader :=
  { r with place := place, text := r.text ++ [c] }

/-- Read a character that can only stand behind a field. -/
def leave (r : Reader) (c : Char) : Option Reader :=
  if c = ',' then some r.finishText
  else if c = '\n' then some r.finishRecord
  else if c = '\r' then some { r with place := .behindReturn }
  else none

/-- Read a character. -/
def step (r : Reader) (c : Char) : Option Reader :=
  match r.place with
  | .front =>
    if c = '"' then some { r with place := .inside }
    else if isPlain c then some (r.push .plain c)
    else r.leave c
  | .plain => if isPlain c then some (r.push .plain c) else r.leave c
  | .inside => some (if c = '"' then { r with place := .behindQuote } else r.push .inside c)
  | .behindQuote => if c = '"' then some (r.push .inside '"') else r.leave c
  | .behindReturn => if c = '\n' then some r.finishRecord else none

/-- Read a text. -/
def run (r : Reader) (s : List Char) : Option Reader := s.foldlM step r

end Reader

/-- The records of a text, none if it is no CSV. The last one must have ended. -/
def parse? (s : List Char) : Option (List (List (List Char))) :=
  match (Reader.front [] []).run s with
  | some ⟨.front, _, [], records⟩ => some records
  | _ => none

namespace Reader

@[simp] theorem run_nil (r : Reader) : r.run [] = some r := rfl

@[simp] theorem run_cons (r : Reader) (c : Char) (s : List Char) :
    r.run (c :: s) = (r.step c).bind fun r => r.run s := by
  unfold run
  rw [List.foldlM_cons]
  rfl

@[simp] theorem run_append (r : Reader) (s s' : List Char) :
    r.run (s ++ s') = (r.run s).bind fun r => r.run s' := by
  unfold run
  rw [List.foldlM_append]
  rfl

/-- What follows a field does not depend on how the field was written. -/
theorem leave_eq (place : Place) (text : List Char) (texts : List (List Char))
    (records : List (List (List Char))) {c : Char} (hc : c = ',' ∨ c = '\n' ∨ c = '\r') :
    leave ⟨place, text, texts, records⟩ c = leave ⟨.front, text, texts, records⟩ c := by
  rcases hc with rfl | rfl | rfl <;> rfl

end Reader

/-! ### The reader follows the grammar -/

variable {w s : List Char} {texts : List (List Char)} {records : List (List (List Char))}

/-- What stands between quotes is read as the text it stands for. -/
theorem Inside.run (h : Inside w s) (texts : List (List Char))
    (records : List (List (List Char))) (before : List Char) :
    Reader.run ⟨.inside, before, texts, records⟩ w
      = some ⟨.inside, before ++ s, texts, records⟩ := by
  induction h generalizing before with
  | nil => rw [Reader.run_nil, List.append_nil]
  | quote _ ih =>
      -- The second quote says that the first one did not end the text.
      simp only [Reader.run_cons, Reader.step, if_true, Option.bind_some, Reader.push, ih,
        List.append_assoc, List.singleton_append]
  | other hc _ ih =>
      simp only [Reader.run_cons, Reader.step, if_neg hc, Option.bind_some, Reader.push, ih,
        List.append_assoc, List.singleton_append]

/-- So is a text that stands for itself. -/
theorem run_plain (h : ∀ c ∈ s, isPlain c = true) (texts : List (List Char))
    (records : List (List (List Char))) (before : List Char) :
    Reader.run ⟨.plain, before, texts, records⟩ s = some ⟨.plain, before ++ s, texts, records⟩ := by
  induction s generalizing before with
  | nil => rw [Reader.run_nil, List.append_nil]
  | cons c rest ih =>
      have hc := h c List.mem_cons_self
      have hrest := ih fun d hd => h d (List.mem_cons_of_mem c hd)
      simp only [Reader.run_cons, Reader.step, hc, if_true, Option.bind_some, Reader.push, hrest,
        List.append_assoc, List.singleton_append]

theorem ne_quote_of_isPlain {c : Char} (h : isPlain c = true) : c ≠ '"' := by
  rintro rfl
  cases h

/-- A field, together with the character that ends it. -/
theorem SpellsText.run (h : SpellsText w s) {c : Char} (hc : c = ',' ∨ c = '\n' ∨ c = '\r')
    (texts : List (List Char)) (records : List (List (List Char))) :
    (Reader.front texts records).run (w ++ [c]) = Reader.leave ⟨.front, s, texts, records⟩ c := by
  have hplain : isPlain c = false := by rcases hc with rfl | rfl | rfl <;> rfl
  have hquote : c ≠ '"' := by rcases hc with rfl | rfl | rfl <;> decide
  rw [Reader.run_append, Reader.front]
  cases h with
  | plain h =>
      cases w with
      | nil => simp [Reader.step, hplain, hquote]
      | cons d rest =>
          have hd := h d List.mem_cons_self
          have hrest := run_plain (fun e he => h e (List.mem_cons_of_mem d he)) texts records [d]
          simp only [Reader.run_cons, Reader.step, if_neg (ne_quote_of_isPlain hd), hd, if_true,
            Option.bind_some, Reader.push, List.nil_append, hrest, hplain, Bool.false_eq_true,
            if_false, List.singleton_append, Reader.run_nil, Option.bind_fun_some]
          exact Reader.leave_eq _ _ _ _ hc
  | quoted h =>
      have hinside := h.run texts records []
      simp only [Reader.run_cons, Reader.step, if_true, Option.bind_some, Reader.run_append,
        hinside, List.nil_append, Reader.run_nil, if_neg hquote, Option.bind_fun_some]
      exact Reader.leave_eq _ _ _ _ hc

/-- The characters of a line break, read behind a field. -/
theorem SpellsText.run_lineBreak (h : SpellsText w s) {lineBreak : List Char}
    (hbreak : LineBreak lineBreak) (texts : List (List Char))
    (records : List (List (List Char))) :
    (Reader.front texts records).run (w ++ lineBreak)
      = some (Reader.front [] (records ++ [texts ++ [s]])) := by
  cases hbreak with
  | feed => exact h.run (.inr (.inl rfl)) texts records
  | returnFeed =>
      have hreturn := h.run (.inr (.inr rfl)) texts records
      have happend : w ++ ['\r', '\n'] = (w ++ ['\r']) ++ ['\n'] := by
        rw [List.append_assoc]
        rfl
      rw [happend, Reader.run_append, hreturn]
      rfl

/-- The fields of a record, one after the other. -/
theorem run_fields {words shown : List (List Char)} {lineBreak : List Char}
    (hbreak : LineBreak lineBreak) (h : List.Forall₂ SpellsText words shown) (hne : words ≠ [])
    (texts : List (List Char)) :
    (Reader.front texts records).run ([','].intercalate words ++ lineBreak)
      = some (Reader.front [] (records ++ [texts ++ shown])) := by
  induction h generalizing texts with
  | nil => exact absurd rfl hne
  | @cons w s words shown hw hrest ih =>
      cases hrest with
      | nil =>
          rw [List.intercalate_singleton]
          exact hw.run_lineBreak hbreak texts records
      | cons _ _ =>
          -- The first field ends at a comma, and the others are those of a record.
          have hnext := ih (List.cons_ne_nil _ _) (texts ++ [s])
          rw [List.intercalate_cons_cons, List.append_assoc, Reader.run_append,
            hw.run (.inl rfl) texts records]
          rw [List.append_assoc, List.singleton_append] at hnext
          exact hnext

theorem SpellsRecord.run (h : SpellsRecord w texts) (records : List (List (List Char))) :
    (Reader.front [] records).run w = some (Reader.front [] (records ++ [texts])) := by
  obtain ⟨hne, hfields, hbreak⟩ := h
  exact run_fields hbreak hfields hne []

/-- What the grammar spells is read. -/
theorem Spells.run (h : Spells w records) :
    (Reader.front [] []).run w = some (Reader.front [] records) := by
  induction h with
  | nil => rfl
  | snoc _ hline ih =>
      rw [Reader.run_append, ih]
      exact hline.run _

/-! ### The grammar follows the reader -/

theorem Inside.append {w' s' : List Char} (h : Inside w s) (h' : Inside w' s') :
    Inside (w ++ w') (s ++ s') := by
  induction h with
  | nil => exact h'
  | quote _ ih => exact ih.quote
  | other hc _ ih => exact ih.other hc

theorem intercalate_concat (words : List (List Char)) (w : List Char) :
    [','].intercalate (words ++ [w]) = words.flatMap (· ++ [',']) ++ w := by
  induction words with
  | nil => simp
  | cons v words ih =>
      rw [List.flatMap_cons, List.append_assoc, ← ih]
      cases words with
      | nil => simp [List.intercalate]
      | cons u words => exact List.intercalate_cons_cons

/-- What was read of a field so far, and what stands for it. -/
def ReadsField (place : Place) (w text : List Char) : Prop :=
  match place with
  | .front => w = [] ∧ text = []
  | .plain => w = text ∧ ∀ c ∈ text, isPlain c = true
  | .inside => ∃ inner, w = '"' :: inner ∧ Inside inner text
  | .behindQuote => ∃ inner, w = '"' :: (inner ++ ['"']) ∧ Inside inner text
  | .behindReturn => ∃ field, w = field ++ ['\r'] ∧ SpellsText field text

/-- What was read so far, and the text that it was read from: records, fields with their
    commas, and the front of a field. -/
def Reads (w : List Char) (r : Reader) : Prop :=
  ∃ lines words field, w = lines ++ (words.flatMap (· ++ [',']) ++ field) ∧
    Spells lines r.records ∧ List.Forall₂ SpellsText words r.texts ∧
    ReadsField r.place field r.text

namespace ReadsField

/-- A quote at the front opens a field. -/
theorem opened (h : ReadsField .front w s) : ReadsField .inside (w ++ ['"']) s := by
  obtain ⟨rfl, rfl⟩ := h
  exact ⟨[], rfl, .nil⟩

/-- A character that needs no quotes begins a field without them, or goes on with it. -/
theorem pushPlain {place : Place} (h : ReadsField place w s)
    (hplace : place = .front ∨ place = .plain) {c : Char} (hc : isPlain c = true) :
    ReadsField .plain (w ++ [c]) (s ++ [c]) := by
  have hplain : w = s ∧ ∀ d ∈ s, isPlain d = true := by
    rcases hplace with rfl | rfl
    · obtain ⟨rfl, rfl⟩ := h
      exact ⟨rfl, fun _ hd => nomatch hd⟩
    · exact h
  obtain ⟨rfl, hall⟩ := hplain
  exact ⟨rfl, List.forall_mem_append.2 ⟨hall, List.forall_mem_singleton.2 hc⟩⟩

/-- Between quotes any other character goes on with the text. -/
theorem pushInside (h : ReadsField .inside w s) {c : Char} (hc : c ≠ '"') :
    ReadsField .inside (w ++ [c]) (s ++ [c]) := by
  obtain ⟨inner, rfl, hinside⟩ := h
  exact ⟨inner ++ [c], rfl, hinside.append (.other hc .nil)⟩

/-- A quote may end the text. -/
theorem closed (h : ReadsField .inside w s) : ReadsField .behindQuote (w ++ ['"']) s := by
  obtain ⟨inner, rfl, hinside⟩ := h
  exact ⟨inner, rfl, hinside⟩

/-- If there is another one behind it, the two are a quote of the text. -/
theorem doubled (h : ReadsField .behindQuote w s) :
    ReadsField .inside (w ++ ['"']) (s ++ ['"']) := by
  obtain ⟨inner, rfl, hinside⟩ := h
  refine ⟨inner ++ ['"', '"'], ?_, hinside.append (.quote .nil)⟩
  rw [List.cons_append, List.append_assoc]
  rfl

/-- A field can be left where it can have ended. -/
theorem spellsText {place : Place} {text : List Char} (h : ReadsField place w text)
    (hplace : place = .front ∨ place = .plain ∨ place = .behindQuote) : SpellsText w text := by
  rcases hplace with rfl | rfl | rfl
  · obtain ⟨rfl, rfl⟩ := h
    exact .plain fun _ hc => (List.not_mem_nil hc).elim
  · obtain ⟨rfl, hplain⟩ := h
    exact .plain hplain
  · obtain ⟨inner, rfl, hinside⟩ := h
    exact .quoted hinside

end ReadsField

/-- A line break ends a record. -/
theorem Reads.finishRecord {r : Reader} {lines field lineBreak : List Char}
    {words : List (List Char)} (hlines : Spells lines r.records)
    (hwords : List.Forall₂ SpellsText words r.texts) (hfield : SpellsText field r.text)
    (hbreak : LineBreak lineBreak) :
    Reads (lines ++ (words.flatMap (· ++ [',']) ++ field) ++ lineBreak) r.finishRecord := by
  have hrecord : SpellsRecord ([','].intercalate (words ++ [field]) ++ lineBreak)
      (r.texts ++ [r.text]) :=
    .intro (List.append_ne_nil_of_right_ne_nil words (List.cons_ne_nil field []))
      (List.rel_append hwords (.cons hfield .nil)) hbreak
  rw [intercalate_concat] at hrecord
  refine ⟨_, [], [], ?_, hlines.snoc hrecord, .nil, rfl, rfl⟩
  simp only [List.flatMap_nil, List.append_nil, List.append_assoc]

/-- A character that is read behind a field. -/
theorem Reads.leave {r r' : Reader} {c : Char} (h : Reads w r)
    (hplace : r.place = .front ∨ r.place = .plain ∨ r.place = .behindQuote)
    (hleave : r.leave c = some r') : Reads (w ++ [c]) r' := by
  obtain ⟨lines, words, field, rfl, hlines, hwords, hfield⟩ := h
  have htext := hfield.spellsText hplace
  rw [Reader.leave] at hleave
  by_cases hcomma : c = ','
  · rw [if_pos hcomma] at hleave
    obtain rfl := Option.some.inj hleave
    refine ⟨lines, words ++ [field], [], ?_, hlines, List.rel_append hwords (.cons htext .nil),
      rfl, rfl⟩
    simp only [hcomma, List.flatMap_append, List.flatMap_singleton, List.append_nil,
      List.append_assoc]
  · rw [if_neg hcomma] at hleave
    by_cases hfeed : c = '\n'
    · rw [if_pos hfeed] at hleave
      obtain rfl := Option.some.inj hleave
      rw [hfeed]
      exact finishRecord hlines hwords htext .feed
    · rw [if_neg hfeed] at hleave
      by_cases hreturn : c = '\r'
      · rw [if_pos hreturn] at hleave
        obtain rfl := Option.some.inj hleave
        refine ⟨lines, words, field ++ ['\r'], ?_, hlines, hwords, field, rfl, htext⟩
        simp only [hreturn, List.append_assoc]
      · rw [if_neg hreturn] at hleave
        cases hleave

/-- One more character of a field. -/
theorem Reads.push {r r' : Reader} {c : Char} (h : Reads w r) (hrecords : r'.records = r.records)
    (htexts : r'.texts = r.texts)
    (hfield : ∀ field, ReadsField r.place field r.text →
      ReadsField r'.place (field ++ [c]) r'.text) : Reads (w ++ [c]) r' := by
  obtain ⟨lines, words, field, rfl, hlines, hwords, hread⟩ := h
  refine ⟨lines, words, field ++ [c], ?_, ?_, ?_, hfield field hread⟩
  · simp only [List.append_assoc]
  · rw [hrecords]
    exact hlines
  · rw [htexts]
    exact hwords

/-- A step of the reader. What was read is still spelled by the grammar. -/
theorem Reads.step {r r' : Reader} {c : Char} (h : Reads w r) (hstep : r.step c = some r') :
    Reads (w ++ [c]) r' := by
  obtain ⟨place, text, texts, records⟩ := r
  cases place with
  | front =>
      rw [Reader.step] at hstep
      dsimp only at hstep
      by_cases hquote : c = '"'
      · obtain rfl := hquote
        obtain rfl := Option.some.inj hstep
        exact h.push rfl rfl fun _ hfield => hfield.opened
      · rw [if_neg hquote] at hstep
        by_cases hplain : isPlain c = true
        · rw [if_pos hplain] at hstep
          obtain rfl := Option.some.inj hstep
          exact h.push rfl rfl fun _ hfield => hfield.pushPlain (.inl rfl) hplain
        · rw [if_neg hplain] at hstep
          exact h.leave (.inl rfl) hstep
  | plain =>
      rw [Reader.step] at hstep
      dsimp only at hstep
      by_cases hplain : isPlain c = true
      · rw [if_pos hplain] at hstep
        obtain rfl := Option.some.inj hstep
        exact h.push rfl rfl fun _ hfield => hfield.pushPlain (.inr rfl) hplain
      · rw [if_neg hplain] at hstep
        exact h.leave (.inr (.inl rfl)) hstep
  | inside =>
      obtain rfl := Option.some.inj hstep
      by_cases hquote : c = '"'
      · obtain rfl := hquote
        exact h.push rfl rfl fun _ hfield => hfield.closed
      · rw [if_neg hquote]
        exact h.push rfl rfl fun _ hfield => hfield.pushInside hquote
  | behindQuote =>
      rw [Reader.step] at hstep
      dsimp only at hstep
      by_cases hquote : c = '"'
      · obtain rfl := hquote
        obtain rfl := Option.some.inj hstep
        exact h.push rfl rfl fun _ hfield => hfield.doubled
      · rw [if_neg hquote] at hstep
        exact h.leave (.inr (.inr rfl)) hstep
  | behindReturn =>
      rw [Reader.step] at hstep
      dsimp only at hstep
      by_cases hfeed : c = '\n'
      · obtain rfl := hfeed
        obtain rfl := Option.some.inj hstep
        -- The carriage return before it was no part of the field, but of the line break.
        obtain ⟨lines, words, _, rfl, hlines, hwords, field, rfl, htext⟩ := h
        have hfinished := finishRecord hlines hwords htext .returnFeed
        simpa only [List.append_assoc, List.cons_append, List.nil_append] using hfinished
      · rw [if_neg hfeed] at hstep
        cases hstep

/-- So it is for all characters of a text. -/
theorem Reads.run {r r' : Reader} (h : Reads w r) (hrun : r.run s = some r') :
    Reads (w ++ s) r' := by
  induction s generalizing w r with
  | nil =>
      obtain rfl := Option.some.inj hrun
      rw [List.append_nil]
      exact h
  | cons c rest ih =>
      rw [Reader.run_cons] at hrun
      obtain ⟨next, hstep, hrest⟩ := Option.bind_eq_some_iff.1 hrun
      have hread := ih (h.step hstep) hrest
      rw [List.append_assoc, List.singleton_append] at hread
      exact hread

/-- The reader accepts what the grammar spells, and nothing else. -/
theorem parse?_eq_some_iff : parse? s = some records ↔ Spells s records := by
  constructor
  · intro h
    have hempty : Reads [] (Reader.front [] []) := ⟨[], [], [], rfl, .nil, .nil, rfl, rfl⟩
    unfold parse? at h
    cases hrun : (Reader.front [] []).run s with
    | none =>
        rw [hrun] at h
        cases h
    | some r =>
        have hread := hempty.run hrun
        rw [List.nil_append] at hread
        obtain ⟨place, text, texts, records'⟩ := r
        rw [hrun] at h
        cases place <;> cases texts <;> try cases h
        -- At the front of a record nothing is left but the records before it.
        obtain ⟨lines, words, field, rfl, hlines, hwords, rfl, -⟩ := hread
        cases hwords
        simpa using hlines
  · intro h
    unfold parse?
    rw [h.run]
    rfl

/-- So a text spells no more than one list of records. -/
theorem Spells.unique {records' : List (List (List Char))} (h : Spells s records)
    (h' : Spells s records') : records' = records :=
  Option.some.inj ((parse?_eq_some_iff.2 h').symm.trans (parse?_eq_some_iff.2 h))

/-! ### What is written -/

theorem inside_flatMap (s : List Char) : Inside (s.flatMap quotedChar) s := by
  induction s with
  | nil => exact .nil
  | cons c rest ih =>
      rw [List.flatMap_cons, quotedChar]
      by_cases hc : c = '"'
      · rw [if_pos hc, hc]
        exact ih.quote
      · rw [if_neg hc]
        exact ih.other hc

/-- A text is written as a field that stands for it. -/
theorem spellsText_writeText (s : List Char) : SpellsText (writeText s) s := by
  rw [writeText]
  by_cases h : needsQuotes s = true
  · rw [if_pos h]
    exact .quoted (inside_flatMap s)
  · rw [if_neg h]
    refine .plain fun c hc => ?_
    simp only [needsQuotes, List.any_eq_true, not_exists, not_and] at h
    simpa [isPlain, and_assoc] using h c hc

/-- Texts are written as a record of them, unless there are none. -/
theorem spellsRecord_writeRecord (hne : texts ≠ []) : SpellsRecord (writeRecord texts) texts := by
  refine .intro (mt List.map_eq_nil_iff.1 hne) ?_ .feed
  rw [List.forall₂_map_left_iff, List.forall₂_same]
  exact fun text _ => spellsText_writeText text

/-- Records are written as text that spells them. -/
theorem spells_writeRecord (h : ∀ texts ∈ records, texts ≠ []) :
    Spells (records.flatMap writeRecord) records := by
  induction records using List.reverseRecOn with
  | nil => exact .nil
  | append_singleton records texts ih =>
      have hbefore := ih fun t ht => h t (List.mem_append_left _ ht)
      have hlast := h texts (List.mem_append_right _ List.mem_cons_self)
      rw [List.flatMap_append, List.flatMap_singleton]
      exact hbefore.snoc (spellsRecord_writeRecord hlast)

end Csv

/-- The text that CSV is to show of a value: its display text, and none of a missing
    value. -/
inductive CsvShows : Value → List Char → Prop
  | missing : CsvShows .null []
  | shown {v : Value} {text : String} (hv : v ≠ .null) (h : v.display? = some text) :
    CsvShows v text.toList

/-- There is no other text to show of it. -/
theorem csvShows_rightUnique : Relator.RightUnique CsvShows := by
  intro v text text' h h'
  cases h with
  | missing =>
      cases h' with
      | missing => rfl
      | shown hv _ => exact absurd rfl hv
  | shown hv h =>
      cases h' with
      | missing => exact absurd rfl hv
      | shown _ h' => rw [Option.some.inj (h.symm.trans h')]

/-- The text of a value is the one to show, unless the value is a decimal that has none. -/
theorem csvShows_csvText {v : Value} (h : ∀ d, v = .decimal d → d.scale.toNat ≤ 38) :
    CsvShows v (csvText v) := by
  have htext := Value.display?_eq_some h
  cases v with
  | null => exact .missing
  | _ => exact .shown Value.noConfusion htext

/-- The texts of a row. -/
theorem forall₂_csvText {row : Row} (h : ∀ d, Value.decimal d ∈ row → d.scale.toNat ≤ 38) :
    List.Forall₂ CsvShows row (row.map csvText) := by
  rw [List.forall₂_map_right_iff, List.forall₂_same]
  intro v hv
  refine csvShows_csvText fun d hd => h d ?_
  rw [← hd]
  exact hv

/-- The rows are written record by record. -/
theorem toList_formatCsv {fields : List Field} (hfields : fields ≠ []) (rows : List Row) :
    (formatRows fields rows .csv).toList
      = ((fields.map fun f => f.name.toList) :: rows.map fun row => row.map csvText).flatMap
        Csv.writeRecord := by
  rw [formatRows, formatCsv, String.toList_ofList, fieldNames,
    if_neg (mt List.isEmpty_iff.1 hfields)]
  simp only [Option.toList_some, List.map_cons, List.map_nil, List.singleton_append, List.map_map]
  rfl

/-- Rows that are written as CSV are read back: a record of the names of the fields, and
    for each row one of the texts that are to be shown of its values. The text spells these
    records and no others. -/
theorem Csv.formatRows_decodes {fields : List Field} {rows : List Row} (hfields : fields ≠ [])
    (hrows : ∀ row ∈ rows, row.length = fields.length)
    (hscales : ∀ row ∈ rows, ∀ d, Value.decimal d ∈ row → d.scale.toNat ≤ 38) :
    ∃ records, List.Forall₂ (List.Forall₂ CsvShows) rows records ∧
      Csv.parse? (formatRows fields rows .csv).toList
        = some ((fields.map fun f => f.name.toList) :: records) ∧
      ∀ others, Csv.Spells (formatRows fields rows .csv).toList others ↔
        others = (fields.map fun f => f.name.toList) :: records := by
  have hne : ∀ texts ∈ (fields.map fun f => f.name.toList) :: rows.map fun row => row.map csvText,
      texts ≠ [] := by
    intro texts htexts
    rcases List.mem_cons.1 htexts with rfl | htexts
    · exact mt List.map_eq_nil_iff.1 hfields
    · -- A row has as many values as there are fields, so it is not empty either.
      obtain ⟨row, hrow, rfl⟩ := List.mem_map.1 htexts
      intro hnil
      have hlength := hrows row hrow
      rw [List.map_eq_nil_iff.1 hnil] at hlength
      exact hfields (List.length_eq_zero_iff.1 hlength.symm)
  have hspells := spells_writeRecord hne
  rw [toList_formatCsv hfields]
  refine ⟨_, ?_, parse?_eq_some_iff.2 hspells, fun others => ⟨hspells.unique, ?_⟩⟩
  · rw [List.forall₂_map_right_iff, List.forall₂_same]
    exact fun row hrow => forall₂_csvText (hscales row hrow)
  · rintro rfl
    exact hspells

/-- Rows of one value: a missing one, a text of two lines, and a decimal of as many places
    as there can be. -/
def oneValueRows : List Row := [[.null], [.string "x\r\n\"y\""], [.decimal smallestStep]]

/-- They are read back under a name that has a comma and a quote. -/
theorem Csv.formatRows_decodes_quotedName :
    Csv.parse? (formatRows [⟨"a,\"", .text⟩] oneValueRows .csv).toList
      = some [["a,\"".toList], [[]], ["x\r\n\"y\"".toList],
        ["-0.00000000000000000000000000000000000005".toList]] := by
  obtain ⟨records, hshows, hparse, _⟩ := @Csv.formatRows_decodes [⟨"a,\"", .text⟩] oneValueRows
    (by decide) (by decide) (by simp [oneValueRows, smallestStep])
  have hexpected : List.Forall₂ (List.Forall₂ CsvShows) oneValueRows
      [[[]], ["x\r\n\"y\"".toList],
        ["-0.00000000000000000000000000000000000005".toList]] :=
    .cons (.cons .missing .nil) (.cons (.cons (.shown Value.noConfusion rfl) .nil)
      (.cons (.cons (.shown Value.noConfusion display?_smallestStep) .nil) .nil))
  rw [hparse, csvShows_rightUnique.forall₂.forall₂ hshows hexpected]
  rfl

end RegionScan
