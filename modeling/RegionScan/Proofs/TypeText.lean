import Mathlib.Data.List.Forall2
import RegionScan.DataType
import RegionScan.Proofs.Results
import RegionScan.Proofs.Text.Digits

/-!
# Names of Types

A type is read back from every spelling of what is written for it.

What is written is a name and maybe some numbers in parentheses. A spelling has the letters
of the name large or small, and blanks around the name, around each number and around the
whole text. It is read back because none of the characters that divide it, which are the
parentheses and the commas, stands in a name, a number or a blank.

One type is left out. A decimal type may have a scale and no precision, and then the scale
is not written at all. No text names such a type, since the scale is the second of two
arguments. So whatever text a type was read from, also one with another of its names, what
is written for the type is one more text for it.

## Main definitions

* `DataType.name`, `DataType.arguments`: The parts of what is written.
* `DataType.hasHiddenScale`: Whether a part of the type is not written.
* `SpellsName`, `DataType.SpellsNumbers`: Letters of any case, and numbers between blanks.
* `DataType.Spells`: The spellings of a type.

## Theorems

* `DataType.spells_display`: What is written is a spelling.
* `DataType.ofText_of_spells`: A spelling is read back.
* `DataType.not_hasHiddenScale_of_ofText`: What is read is always written in full.
* `DataType.ofText_roundTrip`: All of it together.
-/

namespace RegionScan

/-! ### Splitting -/

/-- A text without separators is one part. -/
theorem splitAt_of_forall_ne {separator : Char} {w : List Char} (h : ∀ c ∈ w, c ≠ separator) :
    splitAt separator w = [w] := by
  induction w with
  | nil => rfl
  | cons c w ih =>
      rw [splitAt, if_neg (h c List.mem_cons_self), ih fun d hd => h d (List.mem_cons_of_mem c hd)]

/-- The first part ends at the first separator. -/
theorem splitAt_append_cons {separator : Char} {w : List Char} (h : ∀ c ∈ w, c ≠ separator)
    (rest : List Char) :
    splitAt separator (w ++ separator :: rest) = w :: splitAt separator rest := by
  induction w with
  | nil => rw [List.nil_append, splitAt, if_pos rfl]
  | cons c w ih =>
      rw [List.cons_append, splitAt, if_neg (h c List.mem_cons_self),
        ih fun d hd => h d (List.mem_cons_of_mem c hd)]

/-- The parts are what was put together with separators. -/
theorem splitAt_intercalate {separator : Char} {words : List (List Char)} (hne : words ≠ [])
    (h : ∀ w ∈ words, ∀ c ∈ w, c ≠ separator) :
    splitAt separator ([separator].intercalate words) = words := by
  induction words with
  | nil => exact absurd rfl hne
  | cons w words ih =>
      have hw := h w List.mem_cons_self
      cases words with
      | nil => rw [List.intercalate_singleton, splitAt_of_forall_ne hw]
      | cons v words =>
          rw [List.intercalate_cons_cons, List.append_assoc, List.singleton_append,
            splitAt_append_cons hw,
            ih (List.cons_ne_nil v words) fun u hu => h u (List.mem_cons_of_mem w hu)]

/-- The letters of a name in capitals, each of them large or small. -/
def SpellsName (w name : List Char) : Prop :=
  List.Forall₂ (fun c d => c = d ∨ c = d.toLower) w name

/-- A capital or its small letter. -/
theorem letter_of_isUpper {c d : Char} (hd : d.isUpper = true) (h : c = d ∨ c = d.toLower) :
    c.toUpper = d ∧ isBlank c = false ∧ c ≠ '(' := by
  -- There are few enough of them to look at each one.
  have hall : ((List.range 26).all fun n =>
      [Char.ofNat (65 + n), (Char.ofNat (65 + n)).toLower].all fun c =>
        c.toUpper == Char.ofNat (65 + n) && !isBlank c && c != '(') = true := by rfl
  have hrange : 65 ≤ d.toNat ∧ d.toNat ≤ 90 := of_decide_eq_true hd
  have hletter := List.all_eq_true.1 hall (d.toNat - 65) (List.mem_range.2 (by omega))
  rw [Nat.add_sub_of_le hrange.1, Char.ofNat_toNat] at hletter
  simp only [List.all_cons, List.all_nil, Bool.and_true, Bool.and_eq_true, beq_iff_eq,
    Bool.not_eq_true', bne_iff_ne] at hletter
  obtain ⟨⟨⟨hlarge, hblank⟩, hparen⟩, ⟨hsmall, hblank'⟩, hparen'⟩ := hletter
  rcases h with rfl | rfl
  · exact ⟨hlarge, hblank, hparen⟩
  · exact ⟨hsmall, hblank', hparen'⟩

/-- The letters of a spelled name. -/
theorem SpellsName.letters {w name : List Char} (h : SpellsName w name)
    (hname : ∀ d ∈ name, d.isUpper = true) :
    (∀ c ∈ w, isBlank c = false ∧ c ≠ '(') ∧ w.map Char.toUpper = name := by
  induction h with
  | nil => exact ⟨fun _ hc => absurd hc List.not_mem_nil, rfl⟩
  | @cons c d w name hcd _ ih =>
      obtain ⟨hrest, hupper⟩ := ih fun e he => hname e (List.mem_cons_of_mem d he)
      obtain ⟨hc, hletter⟩ := letter_of_isUpper (hname d List.mem_cons_self) hcd
      exact ⟨List.forall_mem_cons.2 ⟨hletter, hrest⟩, by rw [List.map_cons, hupper, hc]⟩

namespace DataType

/-! ### Spellings -/

/-- The name that is written for a type. -/
def name : DataType → String
  | .boolean => "BOOLEAN"
  | .tinyInt => "TINYINT"
  | .smallInt => "SMALLINT"
  | .int => "INT"
  | .bigInt => "BIGINT"
  | .float => "FLOAT"
  | .double => "DOUBLE"
  | .decimal .. => "DECIMAL"
  | .char _ => "CHAR"
  | .varchar _ => "VARCHAR"
  | .text => "TEXT"
  | .json => "JSON"
  | .blob => "BLOB"
  | .date => "DATE"
  | .time => "TIME"
  | .timestamp => "TIMESTAMP"

/-- The numbers that are written behind the name. -/
def arguments : DataType → List Nat
  | .decimal (some p) (some s) => [p.toNat, s.toNat]
  | .decimal (some p) none => [p.toNat]
  | .char (some n) | .varchar (some n) => [n.toNat]
  | _ => []

/-- Whether a type has a scale that is not written. -/
def hasHiddenScale : DataType → Bool
  | .decimal none (some _) => true
  | _ => false

/-- Numbers in digits, with blanks around each of them. -/
def SpellsNumbers (words : List (List Char)) (ns : List Nat) : Prop :=
  List.Forall₂ (fun word n => Surrounds word (Nat.toDigits 10 n)) words ns

/-- The spellings of a type: its name with letters of any case, and its numbers in
    parentheses if there are any, with blanks around the name, around each number and
    around everything. -/
inductive Spells (t : DataType) : List Char → Prop
  | bare {w text : List Char} (hnone : t.arguments = []) (hname : SpellsName w t.name.toList)
      (htext : Surrounds text w) : Spells t text
  | applied {w padded text : List Char} {words : List (List Char)} (hsome : t.arguments ≠ [])
      (hname : SpellsName w t.name.toList) (hpadded : Surrounds padded w)
      (hwords : SpellsNumbers words t.arguments)
      (htext : Surrounds text (padded ++ '(' :: ([','].intercalate words ++ [')']))) :
      Spells t text

theorem spellsName_refl (name : List Char) : SpellsName name name :=
  List.forall₂_same.2 fun _ _ => .inl rfl

/-- A name and numbers without more blanks than they have. -/
theorem Spells.of_words {t : DataType} {words : List (List Char)} (hsome : t.arguments ≠ [])
    (hwords : SpellsNumbers words t.arguments) :
    Spells t (t.name.toList ++ '(' :: ([','].intercalate words ++ [')'])) :=
  .applied hsome (spellsName_refl _) (.refl _) hwords (.refl _)

/-- What stands between the parentheses that are written. -/
theorem toList_applied {opened : String} {name : List Char} (h : opened.toList = name ++ ['('])
    (inner : String) :
    (opened ++ inner ++ ")").toList = name ++ '(' :: (inner.toList ++ [')']) := by
  rw [String.toList_append, String.toList_append, h, List.append_assoc, List.append_assoc]
  rfl

theorem surrounds_toString (n : Nat) : Surrounds (toString n).toList (Nat.toDigits 10 n) := by
  rw [Nat.toString_eq_repr, Nat.toList_repr]
  exact .refl _

/-- One number is written between the parentheses. -/
theorem spells_withLength {t : DataType} {n : Nat} (h : t.arguments = [n]) {opened : String}
    (hopened : opened.toList = t.name.toList ++ ['(']) :
    Spells t (opened ++ toString n ++ ")").toList := by
  have hword : SpellsNumbers [(toString n).toList] t.arguments := by
    rw [h]
    exact .cons (surrounds_toString n) .nil
  have hjoined : [','].intercalate [(toString n).toList] = (toString n).toList :=
    List.intercalate_singleton
  rw [toList_applied hopened, ← hjoined]
  exact .of_words (by rw [h]; exact List.cons_ne_nil n []) hword

theorem toList_decimalOpened : "DECIMAL(".toList = "DECIMAL".toList ++ ['('] := rfl

/-- Two numbers are written with a comma and a blank between them. -/
theorem spells_decimal (p s : UInt8) :
    Spells (decimal (some p) (some s)) (decimal (some p) (some s)).display.toList := by
  have hsecond := (surrounds_toString s.toNat).cons (c := ' ') (by decide)
  have hinner : (toString p.toNat ++ ", " ++ toString s.toNat).toList
      = [','].intercalate [(toString p.toNat).toList, ' ' :: (toString s.toNat).toList] := by
    rw [List.intercalate_cons_cons, List.intercalate_singleton, String.toList_append,
      String.toList_append, List.append_assoc, List.append_assoc]
    rfl
  have htext : (decimal (some p) (some s)).display
      = "DECIMAL(" ++ (toString p.toNat ++ ", " ++ toString s.toNat) ++ ")" := by
    simp only [display, String.append_assoc]
  rw [htext, toList_applied toList_decimalOpened, hinner]
  exact .of_words (t := decimal (some p) (some s)) (List.cons_ne_nil _ _)
    (.cons (surrounds_toString _) (.cons hsecond .nil))

/-- What is written is a spelling. -/
theorem spells_display (t : DataType) : Spells t t.display.toList := by
  have hopened : ∀ name : String, (name ++ "(").toList = name.toList ++ ['('] :=
    fun name => String.toList_append
  cases t with
  | decimal precision scale =>
      cases precision with
      | none => exact .bare rfl (spellsName_refl _) (.refl _)
      | some p =>
          cases scale with
          | none => exact spells_withLength (t := .decimal (some p) none) rfl toList_decimalOpened
          | some s => exact spells_decimal p s
  | char length =>
      cases length with
      | none => exact .bare rfl (spellsName_refl _) (.refl _)
      | some n => exact spells_withLength (t := .char (some n)) rfl (hopened "CHAR")
  | varchar length =>
      cases length with
      | none => exact .bare rfl (spellsName_refl _) (.refl _)
      | some n => exact spells_withLength (t := .varchar (some n)) rfl (hopened "VARCHAR")
  | _ => exact .bare rfl (spellsName_refl _) (.refl _)

/-! ### Reading -/

theorem name_isUpper (t : DataType) : ∀ d ∈ t.name.toList, d.isUpper = true := by
  have hall : t.name.toList.all Char.isUpper = true := by cases t <;> rw [name] <;> rfl
  exact List.all_eq_true.1 hall

theorem name_ne_nil (t : DataType) : t.name.toList ≠ [] := by
  cases t <;> rw [name] <;> decide

/-- A spelled name has neither blanks nor parentheses, and in capitals it is the name. -/
theorem spelled_name {t : DataType} {w : List Char} (h : SpellsName w t.name.toList) :
    Solid w ∧ (∀ c ∈ w, c ≠ '(') ∧ w.map Char.toUpper = t.name.toList := by
  have hne : w ≠ [] := by
    rintro rfl
    exact name_ne_nil t (List.forall₂_nil_left_iff.1 h)
  obtain ⟨hletters, hupper⟩ := h.letters t.name_isUpper
  exact ⟨⟨hne, fun c hc => (hletters c hc).1⟩, fun c hc => (hletters c hc).2, hupper⟩

theorem splitArguments_bare {w : List Char} (h : ∀ c ∈ w, c ≠ '(') :
    splitArguments w = .ok (w, []) := by
  have hall : ∀ c ∈ w, decide (c ≠ '(') = true := fun c hc => decide_eq_true (h c hc)
  rw [splitArguments, List.dropWhile_eq_nil_iff.2 hall, List.takeWhile_eq_self_iff.2 hall]

/-- The arguments stand between the first opening and the last closing parenthesis. -/
theorem splitArguments_applied {front : List Char} (h : ∀ c ∈ front, c ≠ '(')
    (inner : List Char) : splitArguments (front ++ '(' :: (inner ++ [')']))
      = .ok (front, (splitAt ',' inner).map trimBlanks) := by
  have hall : ∀ c ∈ front, decide (c ≠ '(') = true := fun c hc => decide_eq_true (h c hc)
  have hlast : beforeLastParen (inner ++ [')']) = some inner := by
    rw [beforeLastParen, List.reverse_append, List.reverse_singleton, List.singleton_append,
      List.dropWhile_cons_of_neg (by decide)]
    exact congrArg some (List.reverse_reverse inner)
  have hfront : (front ++ '(' :: (inner ++ [')'])).takeWhile (· ≠ '(') = front := by
    rw [List.takeWhile_append_of_pos hall, List.takeWhile_cons_of_neg (by decide),
      List.append_nil]
  have hrest : (front ++ '(' :: (inner ++ [')'])).dropWhile (· ≠ '(')
      = '(' :: (inner ++ [')']) := by
    rw [List.dropWhile_append_of_pos hall, List.dropWhile_cons_of_neg (by decide)]
  simp only [splitArguments, hfront, hrest, hlast]

/-- Trimming takes the blanks off the ends only. Those behind the name stay. -/
theorem trimBlanks_applied {w padded text inner : List Char} (hw : Solid w)
    (hpadded : Surrounds padded w) (htext : Surrounds text (padded ++ (inner ++ [')']))) :
    ∃ back, (∀ c ∈ back, isBlank c = true) ∧
      RegionScan.trimBlanks text = (w ++ back) ++ (inner ++ [')']) := by
  have hparen : Solid [')'] := .of_all (by decide)
  have hnone : ∀ c ∈ ([] : List Char), isBlank c = true := fun _ hc => absurd hc List.not_mem_nil
  obtain ⟨hfront, hback⟩ := htext
  obtain @⟨front, _, back, hfront', hback'⟩ := hpadded
  refine ⟨back, hback', ?_⟩
  have hinner := trimBlanks_blanks_append hfront' hnone (w ++ ((back ++ inner) ++ [')']))
  rw [trimBlanks_append hw hparen, List.append_nil] at hinner
  rw [trimBlanks_blanks_append hfront hback]
  simpa only [List.append_assoc] using hinner

/-- A number is found between the blanks around it, and commas are neither. -/
theorem spelled_number {word : List Char} {n : Nat} (h : Surrounds word (Nat.toDigits 10 n)) :
    (∀ c ∈ word, c ≠ ',') ∧ trimBlanks word = Nat.toDigits 10 n := by
  have hdigit : ∀ c ∈ Nat.toDigits 10 n, c.isDigit = true := fun c hc =>
    Nat.isDigit_of_mem_toDigits (by omega) (by omega) hc
  have hsolid : Solid (Nat.toDigits 10 n) :=
    ⟨Nat.toDigits_ne_nil, fun c hc => isBlank_of_isDigit (hdigit c hc)⟩
  refine ⟨?_, hsolid.trimBlanks_of_surrounds h⟩
  have hcomma : isBlank ',' = false := by decide
  generalize Nat.toDigits 10 n = digits at h hdigit
  obtain ⟨hfront, hback⟩ := h
  intro c hc
  rcases List.mem_append.1 hc with hc | hc
  · exact ne_of_isBlank hcomma (hfront c hc)
  · rcases List.mem_append.1 hc with hc | hc
    · rintro rfl
      exact absurd (hdigit ',' hc) (by decide)
    · exact ne_of_isBlank hcomma (hback c hc)

/-- The arguments are the numbers that were put together with commas. -/
theorem splitAt_words {words : List (List Char)} {ns : List Nat} (hne : ns ≠ [])
    (h : SpellsNumbers words ns) :
    (splitAt ',' ([','].intercalate words)).map trimBlanks = ns.map (Nat.toDigits 10) := by
  have hwords : (∀ w ∈ words, ∀ c ∈ w, c ≠ ',') ∧
      words.map trimBlanks = ns.map (Nat.toDigits 10) := by
    clear hne
    induction h with
    | nil => exact ⟨fun _ hw => absurd hw List.not_mem_nil, rfl⟩
    | cons hword _ ih =>
        obtain ⟨hcomma, htrim⟩ := spelled_number hword
        exact ⟨List.forall_mem_cons.2 ⟨hcomma, ih.1⟩, by rw [List.map_cons, htrim, ih.2]; rfl⟩
  have hsome : words ≠ [] := by
    rintro rfl
    exact hne (List.forall₂_nil_left_iff.1 h)
  rw [splitAt_intercalate hsome hwords.1, hwords.2]

/-- There is no argument at a place exactly if none is given there. -/
theorem argument_eq_ok_none_iff {args : List (List Char)} {i : Nat} :
    argument args i = .ok none ↔ args[i]? = none := by
  unfold argument
  cases hget : args[i]? with
  | none => exact iff_of_true rfl rfl
  | some a =>
      simp only [reduceCtorEq, iff_false]
      cases readNatural ((1 <<< 32) - 1) a with
      | error e => exact except_error_ne_ok
      | ok n => exact fun h => nomatch Except.ok.inj h

/-- The digits of a number are an argument. -/
theorem argument_toDigits {args : List (List Char)} {i n : Nat}
    (h : args[i]? = some (Nat.toDigits 10 n)) (hn : n < 2 ^ 32) :
    argument args i = .ok (some (UInt32.ofNat n)) := by
  have hread : readNatural ((1 <<< 32) - 1) (Nat.toDigits 10 n) = .ok n :=
    readNatural_toDigits (by omega)
  simp only [argument, h, hread]

/-- A small argument is an argument, so none is missing unless it is not given. -/
theorem smallArgument_eq_ok_none_iff {args : List (List Char)} {i : Nat} :
    smallArgument args i = .ok none ↔ args[i]? = none := by
  rw [← argument_eq_ok_none_iff, smallArgument, except_bind_eq_ok]
  constructor
  · rintro ⟨n?, hargument, h⟩
    cases n? with
    | none => exact hargument
    | some n =>
        simp only at h
        split at h
        · exact nomatch Except.ok.inj h
        · exact absurd h except_error_ne_ok
  · exact fun h => ⟨none, h, rfl⟩

theorem smallArgument_toDigits {args : List (List Char)} {i : Nat} {n : UInt8}
    (h : args[i]? = some (Nat.toDigits 10 n.toNat)) : smallArgument args i = .ok (some n) := by
  have hn := n.toNat_lt
  have hargument := argument_toDigits h (by omega)
  have hsmall : (UInt32.ofNat n.toNat).toNat = n.toNat :=
    UInt32.toNat_ofNat_of_lt' (Nat.lt_trans hn (by decide))
  simp only [smallArgument, hargument, bind, Except.bind, hsmall, if_pos hn, UInt8.ofNat_toNat]
  rfl

theorem ofName_decimal {args : List (List Char)} {precision scale : Option UInt8}
    (hprecision : smallArgument args 0 = .ok precision)
    (hscale : smallArgument args 1 = .ok scale) :
    ofName "DECIMAL" args = .ok (.decimal precision scale) := by
  have hread : ofName "DECIMAL" args = (do
      let precision ← smallArgument args 0
      let scale ← smallArgument args 1
      return .decimal precision scale) := rfl
  rw [hread, hprecision, hscale]
  rfl

/-- A type is found by its name and its numbers if all of it is written. -/
theorem ofName_name {t : DataType} (ht : t.hasHiddenScale = false) :
    ofName t.name (t.arguments.map (Nat.toDigits 10)) = .ok t := by
  have hlength : ∀ n : UInt32, argument [Nat.toDigits 10 n.toNat] 0 = .ok (some n) := by
    intro n
    have hargument : argument [Nat.toDigits 10 n.toNat] 0 = .ok (some (UInt32.ofNat n.toNat)) :=
      argument_toDigits rfl n.toNat_lt
    rwa [UInt32.ofNat_toNat] at hargument
  cases t with
  | decimal precision scale =>
      cases precision with
      | none =>
          cases scale with
          | none => rfl
          | some s => cases ht
      | some p =>
          cases scale with
          | none =>
              exact ofName_decimal (smallArgument_toDigits rfl) (smallArgument_eq_ok_none_iff.2 rfl)
          | some s => exact ofName_decimal (smallArgument_toDigits rfl) (smallArgument_toDigits rfl)
  | char length =>
      cases length with
      | none => rfl
      | some n => exact congrArg (Except.map char) (hlength n)
  | varchar length =>
      cases length with
      | none => rfl
      | some n => exact congrArg (Except.map varchar) (hlength n)
  | _ => rfl

/-- A spelling of a type is read as the type. -/
theorem ofText_of_spells {t : DataType} {text : String} (h : t.Spells text.toList)
    (ht : t.hasHiddenScale = false) : ofText text = .ok t := by
  have hread := ofName_name ht
  rw [← String.ofList_toList (s := t.name)] at hread
  cases h with
  | bare hnone hname htext =>
      obtain ⟨hsolid, hparen, hupper⟩ := spelled_name hname
      rw [hnone, List.map_nil] at hread
      simp only [ofText, hsolid.trimBlanks_of_surrounds htext, splitArguments_bare hparen, bind,
        Except.bind, hsolid.trimBlanks, hupper, hread]
  | @applied w padded _ words hsome hname hpadded hwords htext =>
      obtain ⟨hsolid, hparen, hupper⟩ := spelled_name hname
      rw [← List.cons_append] at htext
      obtain ⟨back, hback, htrim⟩ := trimBlanks_applied hsolid hpadded htext
      have hfront : ∀ c ∈ w ++ back, c ≠ '(' := fun c hc =>
        (List.mem_append.1 hc).elim (hparen c) fun hc => ne_of_isBlank (by decide) (hback c hc)
      -- The blanks behind the name are still there when the arguments are split off.
      have hname : RegionScan.trimBlanks (w ++ back) = w := by
        have hself := trimBlanks_blanks_append (fun c hc => absurd hc List.not_mem_nil) hback w
        rwa [List.nil_append, hsolid.trimBlanks] at hself
      simp only [ofText, htrim, List.cons_append, splitArguments_applied hfront, bind, Except.bind,
        splitAt_words hsome hwords, hname, hupper, hread]

/-- What is written for a type is read as the type, unless a part of it is not written. -/
theorem ofText_display {t : DataType} (ht : t.hasHiddenScale = false) :
    ofText t.display = .ok t :=
  ofText_of_spells (spells_display t) ht

/-- A decimal type has its precision and its scale from the first two arguments. -/
theorem smallArgument_of_ofName {name : String} {args : List (List Char)}
    {precision scale : Option UInt8} (h : ofName name args = .ok (.decimal precision scale)) :
    smallArgument args 0 = .ok precision ∧ smallArgument args 1 = .ok scale := by
  have hdecimal : (do
      let precision ← smallArgument args 0
      let scale ← smallArgument args 1
      return DataType.decimal precision scale) = .ok (.decimal precision scale) →
      smallArgument args 0 = .ok precision ∧ smallArgument args 1 = .ok scale := by
    intro h
    obtain ⟨p, hp, h⟩ := except_bind_eq_ok.1 h
    obtain ⟨s, hs, h⟩ := except_bind_eq_ok.1 h
    cases h
    exact ⟨hp, hs⟩
  unfold ofName at h
  -- The other names give other types.
  split at h <;> try cases h
  · exact hdecimal h
  · exact hdecimal h
  · obtain ⟨_, _, h⟩ := except_map_eq_ok.1 h
    cases h
  · obtain ⟨_, _, h⟩ := except_map_eq_ok.1 h
    cases h

/-- A type that is read from a text is always written in full: the scale is the second
    argument, and where there is a second one there is a first one. -/
theorem not_hasHiddenScale_of_ofText {text : String} {t : DataType} (h : ofText text = .ok t) :
    t.hasHiddenScale = false := by
  obtain ⟨⟨name, args⟩, _, h⟩ := except_bind_eq_ok.1 h
  cases t with
  | decimal precision scale =>
      obtain ⟨hprecision, hscale⟩ := smallArgument_of_ofName h
      cases precision with
      | none =>
          have hnil := List.getElem?_eq_none_iff.1 (smallArgument_eq_ok_none_iff.1 hprecision)
          have hnone : smallArgument args 1 = .ok none :=
            smallArgument_eq_ok_none_iff.2 (List.getElem?_eq_none_iff.2 (by omega))
          rw [hnone] at hscale
          cases hscale
          rfl
      | some p => rfl
  | _ => rfl

/-! ### Both ways -/

/-- Types and their texts. A type that is written in full is read from what is written for
    it and from all other spellings of that. A type that was read from any text, by whichever
    of its names, is written in full, so it is read again from what is written for it. -/
theorem ofText_roundTrip :
    (∀ t : DataType, t.hasHiddenScale = false →
        ofText t.display = .ok t ∧ ∀ text : String, t.Spells text.toList → ofText text = .ok t) ∧
      ∀ (text : String) (t : DataType), ofText text = .ok t →
        t.hasHiddenScale = false ∧ ofText t.display = .ok t := by
  constructor
  · exact fun t ht => ⟨ofText_display ht, fun text h => ofText_of_spells h ht⟩
  · intro text t h
    have ht := not_hasHiddenScale_of_ofText h
    exact ⟨ht, ofText_display ht⟩

/-- A name in mixed case with blanks wherever they may stand, and another name of a type. -/
theorem ofText_roundTrip_mixedCase :
    ofText " Char ( 7\t)\n" = .ok (.char (some 7)) ∧
      ofText "numeric(9)" = .ok (.decimal (some 9) none) ∧
      ofText "DECIMAL(9)" = .ok (.decimal (some 9) none) := by
  have hspells : (char (some 7)).Spells " Char ( 7\t)\n".toList :=
    .applied (List.cons_ne_nil 7 [])
      (.cons (.inl rfl) (.cons (.inr rfl) (.cons (.inr rfl) (.cons (.inr rfl) .nil))))
      (@Surrounds.intro [] ['C', 'h', 'a', 'r'] [' '] (List.forall_mem_nil _)
        (List.forall_mem_singleton.2 rfl))
      (.cons (@Surrounds.intro [' '] ['7'] ['\t'] (List.forall_mem_singleton.2 rfl)
        (List.forall_mem_singleton.2 rfl)) .nil)
      (@Surrounds.intro [' '] "Char ( 7\t)".toList ['\n'] (List.forall_mem_singleton.2 rfl)
        (List.forall_mem_singleton.2 rfl))
  have hread : ofText "numeric(9)" = .ok (.decimal (some 9) none) := rfl
  exact ⟨(ofText_roundTrip.1 _ rfl).2 _ hspells, hread, (ofText_roundTrip.2 _ _ hread).2⟩

end DataType

end RegionScan
