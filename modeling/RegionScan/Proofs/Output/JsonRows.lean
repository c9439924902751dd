import Mathlib.Data.List.Forall2
import RegionScan.Output.Format
import RegionScan.Proofs.Json.Reading
import RegionScan.Proofs.Number.DecimalText

/-!
# Reading JSON Rows Back

What the JSON document of some rows says about them.

The document is an array with an object for each row. What the object has to say is stated
by positions, without the map that is used to make it: its names are those of the fields
that have a value in the row, in ascending order, and each name has the value of the last
of its fields. A row may have fewer values than there are fields, or more; the fields and
the values without a counterpart say nothing.

Without floating-point numbers all of this survives the text. Whole numbers of the rows
have 64 bits and are kept exactly, and everything else is a text or a list of bytes. The
text of a decimal is there if it has at most thirty-eight places.

## Main definitions

* `JsonForm`: The JSON form of a value.
* `ShowsRow`: What the object of a row has to say.

## Theorems

* `showsRow_rowMembers`: The object of a row says it.
* `formatRows_json_decodes`: Rows written as JSON.
-/

namespace RegionScan

/-- Whether a value is a floating-point number. -/
def Value.isFloatingPoint : Value → Bool
  | .float _ | .double _ => true
  | _ => false

/-- The JSON form of a value: missing values, truth values, whole numbers and texts are
    themselves, bytes are a list of numbers, and everything else is its display text. -/
inductive JsonForm : Value → Json → Prop
  | null : JsonForm .null .null
  | boolean (b : Bool) : JsonForm (.boolean b) (.bool b)
  | integer {v : Value} {n : Int} (h : v.toInt? = some n) : JsonForm v (.int n)
  | string (s : String) : JsonForm (.string s) (.string s)
  | bytes (b : List UInt8) : JsonForm (.bytes b) (.array (b.map fun x => .int x.toNat))
  | decimal {d : Decimal} {text : String} (h : d.display? = some text) :
    JsonForm (.decimal d) (.string text)
  | date (d : Date) : JsonForm (.date d) (.string (Value.date d).display)
  | time (t : TimeOfDay) : JsonForm (.time t) (.string (Value.time t).display)
  | timestamp (t : DateTime) : JsonForm (.timestamp t) (.string (Value.timestamp t).display)

/-- What the object of a row has to say. -/
structure ShowsRow (fields : List Field) (row : Row) (members : List (String × Json)) :
    Prop where
  /-- The names ascend, so no two members have one name. -/
  ascending : members.Pairwise fun a b => compare a.1 b.1 = .lt
  /-- The names are those of the fields that have a value. -/
  names : ∀ name, name ∈ members.map (·.1) ↔
    ∃ i f, fields[i]? = some f ∧ i < row.length ∧ f.name = name
  /-- A name has the value of its last field that has one. -/
  values : ∀ i f v, fields[i]? = some f → row[i]? = some v →
    (∀ k g, i < k → k < row.length → fields[k]? = some g → g.name ≠ f.name) →
      ∃ j, (f.name, j) ∈ members ∧ JsonForm v j

/-! ### Values -/

theorem jsonForm_documentValue {v : Value} (h : v.isFloatingPoint = false)
    (hscale : ∀ d, v = .decimal d → d.scale.toNat ≤ 38) : JsonForm v (documentValue v) := by
  cases v with
  | null => exact .null
  | boolean b => exact .boolean b
  | tinyInt n => exact .integer rfl
  | smallInt n => exact .integer rfl
  | int n => exact .integer rfl
  | bigInt n => exact .integer rfl
  | float x => cases h
  | double x => cases h
  | decimal d => exact .decimal (Value.display?_eq_some hscale)
  | string s => exact .string s
  | bytes b => exact .bytes b
  | date d => exact .date d
  | time t => exact .time t
  | timestamp t => exact .timestamp t

/-- The whole numbers of rows have 64 bits. -/
theorem isWord_of_toInt? {v : Value} {n : Int} (h : v.toInt? = some n) : Json.IsWord n := by
  rw [Json.isWord_iff]
  cases v with
  | tinyInt x =>
      obtain rfl := Option.some.inj h
      have hrange := And.intro x.le_toInt x.toInt_lt
      omega
  | smallInt x =>
      obtain rfl := Option.some.inj h
      have hrange := And.intro x.le_toInt x.toInt_lt
      omega
  | int x =>
      obtain rfl := Option.some.inj h
      have hrange := And.intro x.le_toInt x.toInt_lt
      omega
  | bigInt x =>
      obtain rfl := Option.some.inj h
      have hrange := And.intro x.le_toInt x.toInt_lt
      omega
  | _ => cases h

/-- The form of a value needs one bracket at most. -/
theorem JsonForm.regular {v : Value} {j : Json} (h : JsonForm v j) (room : Nat) :
    Json.Regular (room + 1) j := by
  cases h with
  | null => exact .null
  | boolean b => exact .bool b
  | integer h => exact .int (isWord_of_toInt? h)
  | string | decimal | date | time | timestamp => exact .string _
  | bytes b =>
      refine .array fun e he => ?_
      obtain ⟨x, _, rfl⟩ := List.mem_map.1 he
      have hx := x.toNat_lt
      exact .int (Json.isWord_iff.2 (by omega))

/-! ### Rows -/

/-- The fields of a row by name, with the documents of their values. -/
def rowBindings (fields : List Field) (row : Row) : List (String × Json) :=
  (fields.zip row).map fun (f, v) => (f.name, documentValue v)

/-- The members of the object of a row. -/
def rowMembers (fields : List Field) (row : Row) : List (String × Json) :=
  (OrderedMap.ofList (rowBindings fields row)).entries

theorem getElem?_rowBindings {fields : List Field} {row : Row} {i : Nat} {e : String × Json} :
    (rowBindings fields row)[i]? = some e ↔
      ∃ f v, fields[i]? = some f ∧ row[i]? = some v ∧ (f.name, documentValue v) = e := by
  rw [rowBindings, List.getElem?_map, Option.map_eq_some_iff]
  constructor
  · rintro ⟨⟨f, v⟩, h, rfl⟩
    rw [List.getElem?_zip_eq_some] at h
    exact ⟨f, v, h.1, h.2, rfl⟩
  · rintro ⟨f, v, hf, hv, rfl⟩
    exact ⟨(f, v), List.getElem?_zip_eq_some.2 ⟨hf, hv⟩, rfl⟩

section Row

variable {row : Row} (hrow : ∀ v ∈ row, v.isFloatingPoint = false)
  (hscales : ∀ d, Value.decimal d ∈ row → d.scale.toNat ≤ 38)

include hrow hscales

/-- The values of a row have their forms. -/
theorem jsonForm_of_mem {v : Value} (hv : v ∈ row) : JsonForm v (documentValue v) := by
  refine jsonForm_documentValue (hrow v hv) fun d hd => hscales d ?_
  rw [← hd]
  exact hv

/-- The object of a row says what it has to. -/
theorem showsRow_rowMembers (fields : List Field) : ShowsRow fields row (rowMembers fields row) where
  ascending := (OrderedMap.ofList (rowBindings fields row)).ascending
  names := by
    intro name
    have hkeys := OrderedMap.mem_keys_ofList (rowBindings fields row) name
    rw [OrderedMap.keys, ← rowMembers] at hkeys
    rw [hkeys, List.mem_map]
    constructor
    · rintro ⟨e, he, rfl⟩
      obtain ⟨i, hi⟩ := List.mem_iff_getElem?.1 he
      obtain ⟨f, v, hf, hv, rfl⟩ := getElem?_rowBindings.1 hi
      exact ⟨i, f, hf, (List.getElem?_eq_some_iff.1 hv).1, rfl⟩
    · rintro ⟨i, f, hf, hi, rfl⟩
      exact ⟨_, List.mem_iff_getElem?.2 ⟨i, getElem?_rowBindings.2
        ⟨f, row[i], hf, List.getElem?_eq_getElem hi, rfl⟩⟩, rfl⟩
  values := by
    intro i f v hf hv hlast
    have hentry := getElem?_rowBindings.2 ⟨f, v, hf, hv, rfl⟩
    obtain ⟨hi, hget⟩ := List.getElem?_eq_some_iff.1 hentry
    -- The bindings behind the one of the field are those of fields with other names.
    have hsplit : rowBindings fields row = (rowBindings fields row).take i ++
        (f.name, documentValue v) :: (rowBindings fields row).drop (i + 1) := by
      rw [← hget, ← List.drop_eq_getElem_cons, List.take_append_drop]
    have hbehind : ∀ e ∈ (rowBindings fields row).drop (i + 1), e.1 ≠ f.name := by
      intro e he
      obtain ⟨k, hk⟩ := List.mem_iff_getElem?.1 he
      rw [List.getElem?_drop] at hk
      obtain ⟨g, u, hg, hu, rfl⟩ := getElem?_rowBindings.1 hk
      exact hlast (i + 1 + k) g (by omega) (List.getElem?_eq_some_iff.1 hu).1 hg
    have hmem : (f.name, documentValue v) ∈ rowMembers fields row := by
      rw [rowMembers, OrderedMap.mem_entries_iff, hsplit]
      exact OrderedMap.find?_ofList_of_last hbehind
    exact ⟨documentValue v, hmem, jsonForm_of_mem hrow hscales (List.mem_of_getElem? hv)⟩

/-- The object of a row needs two brackets at most. -/
theorem regular_rowMembers (fields : List Field) (room : Nat) :
    Json.Regular (room + 2) (.object (rowMembers fields row)) := by
  refine .object (OrderedMap.ofList (rowBindings fields row)).ascending fun m hm => ?_
  obtain ⟨i, hi⟩ := List.mem_iff_getElem?.1 (OrderedMap.mem_of_mem_ofList hm)
  obtain ⟨f, v, _, hv, rfl⟩ := getElem?_rowBindings.1 hi
  exact (jsonForm_of_mem hrow hscales (List.mem_of_getElem? hv)).regular room

end Row

/-! ### Documents -/

/-- Rows that are written as JSON are read back, if they have no floating-point numbers
    and no decimals of more than thirty-eight places. The text is an array with an object
    for each row, and every object says what it has to. -/
theorem formatRows_json_decodes (fields : List Field) (rows : List Row)
    (hrows : ∀ row ∈ rows, ∀ v ∈ row, v.isFloatingPoint = false)
    (hscales : ∀ row ∈ rows, ∀ d, Value.decimal d ∈ row → d.scale.toNat ≤ 38) :
    ∃ objects : List (List (String × Json)),
      Json.Spells 3 (formatRows fields rows .json).toList (.array (objects.map .object)) ∧
        JsonReader.run (Json.readValue .kept) (formatRows fields rows .json)
          = .ok (.array (objects.map .object)) ∧
        List.Forall₂ (ShowsRow fields) rows objects := by
  have hregular : ∀ room, Json.Regular (room + 3)
      (.array ((rows.map (rowMembers fields)).map .object)) := by
    refine fun room => .array fun e he => ?_
    obtain ⟨members, hmembers, rfl⟩ := List.mem_map.1 he
    obtain ⟨row, hrow, rfl⟩ := List.mem_map.1 hmembers
    exact regular_rowMembers (hrows row hrow) (hscales row hrow) fields room
  have htext : (formatRows fields rows .json).toList
      = Json.writeIndented 0 (.array ((rows.map (rowMembers fields)).map .object)) := by
    rw [formatRows, formatJson, Json.indented, String.toList_ofList, List.map_map]
    rfl
  refine ⟨rows.map (rowMembers fields), ?_, ?_, ?_⟩
  · rw [htext]
    exact (hregular 0).spells 0
  · -- Nothing stands around the document, and its three brackets are fewer than allowed.
    rw [← List.nil_append (Json.writeIndented 0 _), ← List.append_nil (Json.writeIndented 0 _)]
      at htext
    exact Json.run_of_spells htext Json.blank_nil ((hregular 124).spells 0) Json.blank_nil
      (hregular 124)
  · rw [List.forall₂_map_right_iff, List.forall₂_same]
    exact fun row hrow => showsRow_rowMembers (hrows row hrow) (hscales row hrow) fields

/-- Two fields of one name with a quote in it, and two others. -/
def collidingFields : List Field :=
  [⟨"a\"", .int⟩, ⟨"a\"", .blob⟩, ⟨"b", .decimal none none⟩, ⟨"c", .int⟩]

/-- A row that has no value for the last one. -/
def shortRow : Row := [.int 1, .bytes [0, 255], .decimal smallestStep]

/-- The second field of the one name has its value, a decimal has its text, and the field
    without a value is not there. -/
theorem formatRows_json_decodes_collidingNames :
    ∃ members, JsonReader.run (Json.readValue .kept)
        (formatRows collidingFields [shortRow] .json) = .ok (.array [.object members]) ∧
      "c" ∉ members.map (·.1) ∧ ("a\"", .array [.int 0, .int 255]) ∈ members ∧
      ("b", .string "-0.00000000000000000000000000000000000005") ∈ members := by
  obtain ⟨objects, _, hrun, hshows⟩ := formatRows_json_decodes collidingFields [shortRow]
    (by decide) (by simp [shortRow, smallestStep])
  have hvalued : ∀ i < 3, collidingFields[i]?.map (·.name) ≠ some "c" := by decide
  have hbehind : ∀ k < 3, 1 < k → collidingFields[k]?.map (·.name) ≠ some "a\"" := by decide
  cases hshows with
  | @cons _ members _ _ hrow hnil =>
      cases hnil with
      | nil =>
          refine ⟨members, hrun, fun hc => ?_, ?_, ?_⟩
          · obtain ⟨i, f, hf, hi, hname⟩ := (hrow.names "c").1 hc
            exact hvalued i hi (by rw [hf]; exact congrArg some hname)
          · obtain ⟨j, hj, hform⟩ := hrow.values 1 ⟨"a\"", .blob⟩ (.bytes [0, 255]) rfl rfl
              fun k g hk hlength hg hname =>
                hbehind k hlength hk (by rw [hg]; exact congrArg some hname)
            cases hform with
            | integer h => cases h
            | bytes => exact hj
          · obtain ⟨j, hj, hform⟩ := hrow.values 2 ⟨"b", .decimal none none⟩
              (.decimal smallestStep) rfl rfl fun k g hk hlength =>
                absurd (show k < 3 from hlength) (by omega)
            cases hform with
            | integer h => cases h
            | decimal h =>
                rw [Option.some.inj (h.symm.trans display?_smallestStep)] at hj
                exact hj

end RegionScan
