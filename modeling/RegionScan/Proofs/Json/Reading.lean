import RegionScan.Proofs.Json.Literals
import RegionScan.Proofs.OrderedMap

/-!
# Reading Spelled JSON

What the grammar says of a text is what is read.

The reader follows the grammar. It skips white space where the grammar allows it, and at
each token the first character tells it what comes, because no value begins with white
space or with a closing bracket. An array ends where the reader finds a bracket in place of
a comma. The reader takes the members of an object as bindings of their names, which are
the members themselves if the names ascend.

How many characters a text has bounds how many elements and members it has, so the bound
that the reader works with is never in its way. The bound on open brackets is: it is the one
that the grammar counts.

## Main definitions

* `Json.StartsScalar`: What a value without brackets begins with.
* `Json.Leads`: What stands in front of an item.

## Theorems

* `Json.readElements_of_spells`, `Json.readMembers_of_spells`: Items between brackets.
* `Json.readValue_of_spells`: Values.
* `Json.run_of_spells`: Whole texts.
-/

namespace RegionScan

namespace Json

/-! ### White space -/

theorem skipBlanks_append {b : List Char} (hb : Blank b) (s : List Char) :
    skipBlanks (b ++ s) = skipBlanks s :=
  List.dropWhile_append_of_pos hb

/-- White space is skipped up to the next token. -/
theorem skipBlanks_append_cons {b : List Char} (hb : Blank b) {c : Char}
    (hc : isSeparator c = false) (s : List Char) : skipBlanks (b ++ c :: s) = c :: s := by
  rw [skipBlanks_append hb, skipBlanks,
    List.dropWhile_cons_of_neg (by rw [hc]; exact Bool.false_ne_true)]

/-! ### Values without brackets -/

/-- What a value without brackets begins with. -/
def StartsScalar (c : Char) : Prop :=
  c = 'n' ∨ c = 't' ∨ c = 'f' ∨ c = '-' ∨ c.isDigit = true ∨ c = '"'

theorem StartsScalar.not_token {c : Char} (h : StartsScalar c) :
    isSeparator c = false ∧ c ≠ ']' ∧ c ≠ '[' ∧ c ≠ openBrace := by
  rcases h with rfl | rfl | rfl | rfl | hdigit | rfl
  · decide
  · decide
  · decide
  · decide
  · have hne : ∀ d : Char, d.isDigit = false → c ≠ d := fun d hd heq => by
      rw [heq, hd] at hdigit
      cases hdigit
    refine ⟨?_, hne ']' (by decide), hne '[' (by decide), hne openBrace (by decide)⟩
    simp only [isSeparator, Bool.or_eq_false_iff, decide_eq_false_iff_not]
    exact ⟨⟨⟨hne ' ' (by decide), hne '\n' (by decide)⟩, hne '\t' (by decide)⟩,
      hne '\r' (by decide)⟩
  · decide

/-- A whole number begins with its sign or with a digit. -/
theorem exists_toString_int (n : Int) :
    ∃ c s, (toString n).toList = c :: s ∧ (c = '-' ∨ c.isDigit = true) := by
  rw [toList_toString_int]
  by_cases h : 0 ≤ n
  · rw [if_pos h, List.nil_append]
    obtain ⟨c, ds, hds, hc⟩ := exists_toDigits_eq_cons n.natAbs
    exact ⟨c, ds, hds, .inr hc⟩
  · rw [if_neg h]
    exact ⟨'-', _, rfl, .inl rfl⟩

theorem SpellsScalar.starts {w : List Char} {j : Json} (h : SpellsScalar w j) :
    ∃ c s, w = c :: s ∧ StartsScalar c := by
  cases h with
  | null => exact ⟨'n', _, rfl, .inl rfl⟩
  | bool b =>
      cases b with
      | false => exact ⟨'f', _, rfl, .inr (.inr (.inl rfl))⟩
      | true => exact ⟨'t', _, rfl, .inr (.inl rfl)⟩
  | int n =>
      obtain ⟨c, s, heq, hc⟩ := exists_toString_int n
      exact ⟨c, s, heq, hc.elim (fun h => .inr (.inr (.inr (.inl h))))
        fun h => .inr (.inr (.inr (.inr (.inl h))))⟩
  | string => exact ⟨'"', _, rfl, .inr (.inr (.inr (.inr (.inr rfl))))⟩

theorem readScalar_of_spells {room : Nat} {w rest : List Char} {j : Json} (h : SpellsScalar w j)
    (hj : Regular room j) (hrest : EndsNumber rest) :
    readScalar .kept (w ++ rest) = .ok (j, rest) := by
  cases h with
  | null => rfl
  | bool b => cases b <;> rfl
  | int n =>
      cases hj with
      | int hn =>
          obtain ⟨c, s, heq, hc⟩ := exists_toString_int n
          have hne : ∀ d : Char, d ≠ '-' → d.isDigit = false → c ≠ d := fun d hsign hd heq => by
            rw [heq] at hc
            rcases hc with hc | hc
            · exact hsign hc
            · rw [hd] at hc
              cases hc
          have hread := readNumber_toString hn hrest
          rw [heq, List.cons_append] at hread ⊢
          rw [readScalar, if_neg (hne 'n' (by decide) (by decide)),
            if_neg (hne 't' (by decide) (by decide)), if_neg (hne 'f' (by decide) (by decide)),
            if_pos hc, hread]
  | string h =>
      have hread := readString_of_spells h rest
      rw [List.append_assoc, List.cons_append, List.singleton_append, readScalar,
        if_neg (by decide), if_neg (by decide), if_neg (by decide), if_neg (by decide),
        if_pos rfl, hread]
      rfl

/-! ### Items between brackets -/

/-- What stands in front of an item: nothing if it is the first one, and otherwise a comma,
    maybe behind white space. -/
inductive Leads : Bool → List Char → Prop
  | first : Leads true []
  | comma {b : List Char} (hb : Blank b) : Leads false (b ++ [','])

/-- The reader finds the next element. -/
theorem nextElement_lead {isFirst : Bool} {lead b : List Char} (hlead : Leads isFirst lead)
    (hb : Blank b) {c : Char} (hc : isSeparator c = false) (hend : c ≠ ']') (s : List Char) :
    nextElement .kept isFirst (lead ++ (b ++ c :: s)) = .ok (true, c :: s) := by
  have hskip := skipBlanks_append_cons hb hc s
  cases hlead with
  | first =>
      rw [List.nil_append, nextElement, hskip]
      split
      · next heq => cases heq
      · next heq => exact absurd (List.cons.inj heq).1 hend
      · next heq => rw [if_pos rfl, heq]
  | comma hb' =>
      have hcomma := skipBlanks_append_cons hb' (c := ',') (by decide) (b ++ c :: s)
      rw [List.append_assoc, List.singleton_append, nextElement, hcomma]
      split
      · next heq => cases heq
      · next heq => exact absurd (List.cons.inj heq).1 (by decide)
      · next heq =>
          obtain ⟨rfl, rfl⟩ := List.cons.inj heq
          simp only [Bool.false_eq_true, if_false, if_true, hskip]
          split
          · next heq => cases heq
          · next heq => exact absurd (List.cons.inj heq).1 hend
          · rfl

/-- The reader finds the closing bracket. -/
theorem nextElement_end {b : List Char} (hb : Blank b) (isFirst : Bool) (rest : List Char) :
    nextElement .kept isFirst (b ++ ']' :: rest) = .ok (false, ']' :: rest) := by
  simp only [nextElement, skipBlanks_append_cons hb (show isSeparator ']' = false by decide)]

/-- The reader finds the name of the next member. -/
theorem nextMember_lead {isFirst : Bool} {lead b w : List Char} {name : String}
    (hlead : Leads isFirst lead) (hb : Blank b) (h : SpellsText w name.toList) (s : List Char) :
    nextMember .kept isFirst (lead ++ (b ++ '"' :: (w ++ '"' :: s))) = .ok (some name, s) := by
  have hskip := skipBlanks_append_cons hb (c := '"') (by decide) (w ++ '"' :: s)
  have hname : readName .kept ('"' :: (w ++ '"' :: s)) = .ok (some name, s) := by
    simp only [readName, readString_of_spells h, bind, Except.bind]
    rfl
  cases hlead with
  | first =>
      simp only [List.nil_append, nextMember, hskip, if_neg (show '"' ≠ closeBrace by decide),
        if_true, hname]
  | comma hb' =>
      have hcomma := skipBlanks_append_cons hb' (c := ',') (by decide)
        (b ++ '"' :: (w ++ '"' :: s))
      simp only [List.append_assoc, List.singleton_append, nextMember, hcomma, hskip,
        if_neg (show ',' ≠ closeBrace by decide), if_neg (show '"' ≠ closeBrace by decide),
        Bool.false_eq_true, if_false, if_true, hname]

/-- The reader finds the closing brace. -/
theorem nextMember_end {b : List Char} (hb : Blank b) (isFirst : Bool) (rest : List Char) :
    nextMember .kept isFirst (b ++ closeBrace :: rest) = .ok (none, closeBrace :: rest) := by
  simp only [nextMember, skipBlanks_append_cons hb (show isSeparator closeBrace = false by decide),
    if_true]

theorem SpellsItems.length_le {item : List Char → α → Prop} {w : List Char} {as : List α}
    (h : SpellsItems item w as) : as.length ≤ w.length + 1 := by
  induction h with
  | one => exact Nat.succ_le_succ (Nat.zero_le _)
  | cons hb h hb' hs ih =>
      simp only [List.length_append, List.length_cons]
      omega

/-- The elements of an array are read one by one. -/
theorem readElementsUpTo_of_spells {item : List Char → α → Prop}
    {element : List Char → Except JsonFault (α × List Char)} {w : List Char} {as : List α}
    (h : SpellsItems item w as)
    (hstart : ∀ w a, item w a → ∃ c s, w = c :: s ∧ isSeparator c = false ∧ c ≠ ']')
    (helement : ∀ w rest, ∀ a ∈ as, item w a → EndsNumber rest →
      element (w ++ rest) = .ok (a, rest)) (rest : List Char) :
    ∀ {isFirst : Bool} {lead : List Char} {n : Nat}, Leads isFirst lead → as.length < n →
      readElementsUpTo .kept element isFirst n (lead ++ (w ++ ']' :: rest)) = .ok (as, rest) := by
  -- The comma behind an item stands in front of the next one, so the induction goes
  -- through every text that can stand there.
  induction h with
  | @one b w b' a hb h hb' =>
      intro isFirst lead n hlead hn
      rw [List.length_singleton] at hn
      -- The reader counts the closing bracket as one more step.
      obtain ⟨n, rfl⟩ : ∃ k, n = k + 2 := ⟨n - 2, by omega⟩
      obtain ⟨c, s, rfl, hc, hend⟩ := hstart w a h
      have hread := helement _ (b' ++ ']' :: rest) a List.mem_cons_self h
        ((endsNumber_cons rest (.inr (.inl rfl))).blank_append hb')
      rw [List.cons_append] at hread
      simp only [List.append_assoc, List.cons_append, readElementsUpTo,
        nextElement_lead hlead hb hc hend, hread, nextElement_end hb', bind, Except.bind]
      rfl
  | @cons b w b' ws a as hb h hb' hs ih =>
      intro isFirst lead n hlead hn
      rw [List.length_cons] at hn
      obtain ⟨n, rfl⟩ : ∃ k, n = k + 1 := ⟨n - 1, by omega⟩
      obtain ⟨c, s, rfl, hc, hend⟩ := hstart w a h
      have hread := helement _ (b' ++ ',' :: (ws ++ ']' :: rest)) a List.mem_cons_self h
        ((endsNumber_cons _ (.inl rfl)).blank_append hb')
      have hnext := ih (fun w rest a ha => helement w rest a (List.mem_cons_of_mem _ ha))
        (Leads.comma hb') (n := n) (by omega)
      rw [List.append_assoc, List.singleton_append] at hnext
      rw [List.cons_append] at hread
      simp only [List.append_assoc, List.cons_append, readElementsUpTo,
        nextElement_lead hlead hb hc hend, hread, hnext, bind, Except.bind]
      rfl

/-- An array is read behind its opening bracket. -/
theorem readElements_of_spells {item : List Char → α → Prop}
    {element : List Char → Except JsonFault (α × List Char)} {w : List Char} {as : List α}
    (h : SpellsList item w as)
    (hstart : ∀ w a, item w a → ∃ c s, w = c :: s ∧ isSeparator c = false ∧ c ≠ ']')
    (helement : ∀ w rest, ∀ a ∈ as, item w a → EndsNumber rest →
      element (w ++ rest) = .ok (a, rest)) (rest : List Char) :
    readElements .kept element (w ++ ']' :: rest) = .ok (as, rest) := by
  unfold readElements
  cases h with
  | nil hb =>
      simp only [readElementsUpTo, nextElement_end hb, bind, Except.bind]
      rfl
  | items h =>
      have hlength := h.length_le
      refine readElementsUpTo_of_spells h hstart helement rest Leads.first ?_
      rw [List.length_append, List.length_cons]
      omega

/-- The members of an object are read one by one. -/
theorem readMembersUpTo_of_spells {value : List Char → Json → Prop}
    {member : σ → String → List Char → Except JsonFault (σ × List Char)}
    {step : σ → String × Json → σ} {w : List Char} {ms : List (String × Json)}
    (h : SpellsItems (SpellsMember value) w ms)
    (hmember : ∀ a b b' v rest, ∀ m ∈ ms, Blank b → Blank b' → value v m.2 → EndsNumber rest →
      member a m.1 (b ++ ':' :: (b' ++ (v ++ rest))) = .ok (step a m, rest))
    (rest : List Char) :
    ∀ {isFirst : Bool} {lead : List Char} {n : Nat} (a : σ), Leads isFirst lead → ms.length < n →
      readMembersUpTo .kept member isFirst a n (lead ++ (w ++ closeBrace :: rest))
        = .ok (ms.foldl step a, rest) := by
  induction h with
  | one hb h hb' =>
      intro isFirst lead n a hlead hn
      rw [List.length_singleton] at hn
      obtain ⟨n, rfl⟩ : ∃ k, n = k + 2 := ⟨n - 2, by omega⟩
      cases h with
      | mk hname hbefore hbehind hv =>
          have hread := hmember a _ _ _ _ _ List.mem_cons_self hbefore hbehind hv
            ((endsNumber_cons rest (.inr (.inr rfl))).blank_append hb')
          simp only [List.append_assoc, List.cons_append, readMembersUpTo,
            nextMember_lead hlead hb hname, hread, nextMember_end hb', bind, Except.bind]
          rfl
  | @cons _ _ _ ws _ _ hb h hb' hs ih =>
      intro isFirst lead n a hlead hn
      rw [List.length_cons] at hn
      obtain ⟨n, rfl⟩ : ∃ k, n = k + 1 := ⟨n - 1, by omega⟩
      cases h with
      | @mk _ _ _ _ name j hname hbefore hbehind hv =>
          have hread := hmember a _ _ _ _ _ List.mem_cons_self hbefore hbehind hv
            ((endsNumber_cons (ws ++ closeBrace :: rest) (.inl rfl)).blank_append hb')
          have hnext := ih
            (fun a b b' v rest m hm => hmember a b b' v rest m (List.mem_cons_of_mem _ hm))
            (step a (name, j)) (Leads.comma hb') (n := n) (by omega)
          rw [List.append_assoc, List.singleton_append] at hnext
          simp only [List.append_assoc, List.cons_append, readMembersUpTo,
            nextMember_lead hlead hb hname, hread, hnext, bind, Except.bind, List.foldl_cons]

/-- An object is read behind its opening brace. -/
theorem readMembers_of_spells {value : List Char → Json → Prop}
    (member : σ → String → List Char → Except JsonFault (σ × List Char))
    (step : σ → String × Json → σ) {w : List Char} {ms : List (String × Json)}
    (h : SpellsList (SpellsMember value) w ms)
    (hmember : ∀ a b b' v rest, ∀ m ∈ ms, Blank b → Blank b' → value v m.2 → EndsNumber rest →
      member a m.1 (b ++ ':' :: (b' ++ (v ++ rest))) = .ok (step a m, rest))
    (a : σ) (rest : List Char) :
    readMembers .kept member a (w ++ closeBrace :: rest) = .ok (ms.foldl step a, rest) := by
  unfold readMembers
  cases h with
  | nil hb =>
      simp only [readMembersUpTo, nextMember_end hb, bind, Except.bind]
      rfl
  | items h =>
      have hlength := h.length_le
      refine readMembersUpTo_of_spells h hmember rest a Leads.first ?_
      rw [List.length_append, List.length_cons]
      omega

/-! ### Values -/

/-- A value begins with a token that closes nothing. -/
theorem Spells.starts {room : Nat} {w : List Char} {j : Json} (h : Spells room w j) :
    ∃ c s, w = c :: s ∧ isSeparator c = false ∧ c ≠ ']' := by
  have hscalar : SpellsScalar w j → ∃ c s, w = c :: s ∧ isSeparator c = false ∧ c ≠ ']' :=
    fun h => by
      obtain ⟨c, s, heq, hc⟩ := h.starts
      exact ⟨c, s, heq, hc.not_token.1, hc.not_token.2.1⟩
  cases room with
  | zero => exact hscalar h
  | succ room =>
      rcases h with h | ⟨inner, elements, rfl, _⟩ | ⟨inner, members, rfl, _⟩
      · exact hscalar h
      · exact ⟨'[', _, rfl, by decide, by decide⟩
      · exact ⟨openBrace, _, rfl, by decide, by decide⟩

theorem readColon_append {b : List Char} (hb : Blank b) (rest : List Char) :
    readColon (b ++ ':' :: rest) = .ok rest := by
  simp only [readColon, skipBlanks_append_cons hb (show isSeparator ':' = false by decide)]

/-- Values without brackets need no room for any. -/
theorem readValue_of_spellsScalar {room : Nat} {b w rest : List Char} {j : Json} (hb : Blank b)
    (h : SpellsScalar w j) (hj : Regular room j) (hrest : EndsNumber rest) :
    readValue .kept room (b ++ (w ++ rest)) = .ok (j, rest) := by
  have hread := readScalar_of_spells h hj hrest
  obtain ⟨c, s, rfl, hc⟩ := h.starts
  obtain ⟨hseparator, _, hbracket, hbrace⟩ := hc.not_token
  have hskip := skipBlanks_append_cons hb hseparator (s ++ rest)
  rw [List.cons_append] at hread ⊢
  -- With and without room the first character is looked at, and it is no bracket.
  cases room with
  | zero => simp only [readValue, hskip, if_neg (not_or.2 ⟨hbracket, hbrace⟩), hread]
  | succ room => simp only [readValue, hskip, if_neg hbracket, if_neg hbrace, hread]

/-- A value is read as what the grammar says it is, whatever white space is in front. -/
theorem readValue_of_spells {room : Nat} : ∀ {w : List Char} {j : Json}, Spells room w j →
    Regular room j → ∀ {b rest : List Char}, Blank b → EndsNumber rest →
      readValue .kept room (b ++ (w ++ rest)) = .ok (j, rest) := by
  induction room with
  | zero => exact fun h hj _ _ hb hrest => readValue_of_spellsScalar hb h hj hrest
  | succ room ih =>
      intro w j h hj b rest hb hrest
      rcases h with h | ⟨inner, elements, rfl, rfl, h⟩ | ⟨inner, members, rfl, rfl, h⟩
      · exact readValue_of_spellsScalar hb h hj hrest
      · cases hj with
        | array helements =>
            have hread := readElements_of_spells h (fun _ _ => Spells.starts)
              (fun w rest a ha hw hrest => ih hw (helements a ha) blank_nil hrest) rest
            simp only [List.cons_append, List.append_assoc, List.nil_append, readValue,
              skipBlanks_append_cons hb (show isSeparator '[' = false by decide), if_true, hread,
              bind, Except.bind]
            rfl
      · cases hj with
        | object hnames hmembers =>
            simp only [List.cons_append, List.append_assoc, List.nil_append, readValue,
              skipBlanks_append_cons hb (show isSeparator openBrace = false by decide),
              if_neg (show openBrace ≠ '[' by decide), if_true]
            rw [readMembers_of_spells _ (fun members m => OrderedMap.insert members m.1 m.2) h]
            · -- The bindings of names that ascend are the members themselves.
              exact congrArg (fun entries => Except.ok (Json.object entries, rest))
                (OrderedMap.entries_ofList hnames)
            · intro members b b' v rest m hm hb hb' hv hrest
              simp only [readColon_append hb, ih hv (hmembers m hm) hb' hrest, bind, Except.bind]
              rfl

/-- So is a whole text. -/
theorem run_of_spells {text : String} {b w b' : List Char} {j : Json}
    (htext : text.toList = b ++ (w ++ b')) (hb : Blank b) (h : Spells maxDepth w j)
    (hb' : Blank b') (hj : Regular maxDepth j) :
    JsonReader.run (readValue .kept) text = .ok j := by
  have hread := readValue_of_spells h hj hb
    (List.append_nil b' ▸ endsNumber_nil.blank_append hb')
  have hskip : skipBlanks b' = [] := List.dropWhile_eq_nil_iff.2 hb'
  simp only [JsonReader.run, htext, hread, bind, Except.bind, hskip]
  rfl

end Json

end RegionScan
