import RegionScan.Proofs.Json.Grammar
import RegionScan.Proofs.Text.Digits

/-!
# Literals of Spelled JSON

Strings and whole numbers are read as what the grammar says they stand for.

A string literal ends at its closing quote, so what stands behind it does not matter. The
reader sees every character either as it is or behind a backslash, and it knows all the
escapes that there are.

A number has no closing mark. It ends where a character stands that cannot go on with it,
and this is the one thing that its reader asks of the text behind. A whole number is written
without zeros in front, which JSON does not allow, and one that fits into 64 bits is read
exactly and not as a floating-point number.

## Main definitions

* `Json.EndsNumber`: A text that does not go on with a number.

## Theorems

* `Json.readEscape_of_spells`, `Json.readString_of_spells`: Strings.
* `Json.readNumber_toString`: Whole numbers.
-/

namespace RegionScan

namespace Json

/-! ### Strings -/

theorem readHex_of_spells {w : List Char} {n : Nat} (h : SpellsUnit w n) (rest : List Char) :
    readHex (w ++ rest) = .ok (n, rest) := by
  cases h with
  | @digits a b c d _ _ _ _ ha hb hc hd =>
      -- The four characters have at least four bytes, so the text does not end too early.
      have hsize : ¬ a.utf8Size + b.utf8Size + c.utf8Size + d.utf8Size < 4 := by
        have hsizes := And.intro a.utf8Size_pos (And.intro b.utf8Size_pos
          (And.intro c.utf8Size_pos d.utf8Size_pos))
        omega
      simp only [readHex, List.cons_append, List.nil_append, List.take_succ_cons, List.take_zero,
        List.foldl_cons, List.foldl_nil, Nat.zero_add, if_neg hsize, List.mapM_cons, List.mapM_nil,
        ha, hb, hc, hd, Option.pure_def, Option.bind_eq_bind, Option.bind_some, Nat.mul_zero,
        List.drop_succ_cons, List.drop_zero]

/-- No character is a code unit of a pair. -/
theorem not_surrogate (c : Char) : isLeading c.toNat = false ∧ isTrailing c.toNat = false := by
  have hvalid : c.toNat < 0xD800 ∨ 0xDFFF < c.toNat ∧ c.toNat < 0x110000 := c.valid
  simp only [isLeading, isTrailing, Bool.and_eq_false_iff, decide_eq_false_iff_not]
  omega

/-- A code unit of a pair comes first or second. -/
theorem isTrailing_of_isLeading {n : Nat} (h : isLeading n = true) : isTrailing n = false := by
  simp only [isLeading, Bool.and_eq_true, decide_eq_true_eq] at h
  simp only [isTrailing, Bool.and_eq_false_iff, decide_eq_false_iff_not]
  omega

/-- What stands behind the backslash of an escape is read as the character it stands for. -/
theorem readEscape_of_spells {w : List Char} {c : Char} (h : SpellsEscape w c)
    (rest : List Char) : readEscape .kept (w ++ rest) = .ok (c, rest) := by
  cases h with
  | short h =>
      simp only [shortEscapes, List.mem_cons, Prod.mk.injEq, List.not_mem_nil, or_false] at h
      rcases h with h | h | h | h | h | h | h | h <;> rw [h.1, h.2] <;> rfl
  | unit h =>
      simp only [List.cons_append, readEscape, readUnicodeEscape, readHex_of_spells h, bind,
        Except.bind, reduceCtorEq, if_false, not_surrogate c, Bool.false_eq_true,
        Char.ofNat_toNat]
      rfl
  | @pair w w' n m _ h h' hn hm hc =>
      have hmark : ∀ (mark : Char) s, readPairMark mark (mark :: s) = .ok s :=
        fun mark s => if_pos rfl
      simp only [List.cons_append, List.append_assoc, readEscape, readUnicodeEscape,
        readHex_of_spells h, bind, Except.bind, reduceCtorEq, if_false,
        isTrailing_of_isLeading hn, hn, Bool.false_eq_true, if_true, hmark,
        readHex_of_spells h', hm, ← hc, Char.ofNat_toNat]
      rfl

/-- The characters of a string are read one by one, whatever was read before. -/
theorem readStringUpTo_of_spells {w s : List Char} (h : SpellsText w s) (rest : List Char) :
    ∀ {n : Nat} (done : List Char), s.length < n →
      readStringUpTo .kept n done (w ++ '"' :: rest)
        = .ok (String.ofList (done.reverse ++ s), rest) := by
  induction h with
  | nil =>
      intro n done hn
      obtain ⟨n, rfl⟩ := Nat.exists_eq_add_one_of_ne_zero (by omega : n ≠ 0)
      rw [List.append_nil]
      rfl
  | @cons w ws s c hchar hs ih =>
      intro n done hn
      rw [List.length_cons] at hn
      obtain ⟨n, rfl⟩ := Nat.exists_eq_add_one_of_ne_zero (by omega : n ≠ 0)
      have hnext := ih (n := n) (c :: done) (by omega)
      rw [List.reverse_cons, List.append_assoc, List.singleton_append] at hnext
      rw [List.append_assoc]
      cases hchar with
      | plain hquote hslash hcontrol =>
          rw [List.singleton_append, readStringUpTo, if_neg hquote, if_neg hslash,
            if_neg (by omega : ¬ c.toNat < 0x20), hnext]
      | escaped hescape =>
          rw [List.cons_append, readStringUpTo, if_neg (by decide), if_pos rfl,
            readEscape_of_spells hescape]
          exact hnext

/-- Every character of a text takes at least one in its literal. -/
theorem SpellsText.length_le {w s : List Char} (h : SpellsText w s) : s.length ≤ w.length := by
  induction h with
  | nil => exact Nat.le_refl 0
  | @cons w ws s c hchar hs ih =>
      have hpos : 0 < w.length := by
        cases hchar with
        | plain => exact Nat.one_pos
        | escaped => exact Nat.succ_pos _
      rw [List.length_append, List.length_cons]
      omega

/-- A string literal is read behind its opening quote. -/
theorem readString_of_spells {w : List Char} {s : String} (h : SpellsText w s.toList)
    (rest : List Char) : readString .kept (w ++ '"' :: rest) = .ok (s, rest) := by
  have hlength := h.length_le
  rw [readString, readStringUpTo_of_spells h]
  · rw [List.reverse_nil, List.nil_append, String.ofList_toList]
  · rw [List.length_append, List.length_cons]
    omega

/-! ### Numbers -/

/-- A text that does not go on with a number. -/
def EndsNumber (rest : List Char) : Prop :=
  ∀ c, rest.head? = some c → c.isDigit = false ∧ c ≠ '.' ∧ c ≠ 'e' ∧ c ≠ 'E'

theorem endsNumber_nil : EndsNumber [] := fun _ h => nomatch h

theorem endsNumber_cons {c : Char} (rest : List Char) (hc : c = ',' ∨ c = ']' ∨ c = closeBrace) :
    EndsNumber (c :: rest) := by
  intro d hd
  obtain rfl := Option.some.inj hd
  rcases hc with rfl | rfl | rfl <;> decide

/-- White space ends a number. -/
theorem EndsNumber.blank_append {b rest : List Char} (h : EndsNumber rest) (hb : Blank b) :
    EndsNumber (b ++ rest) := by
  intro c hc
  cases b with
  | nil => exact h c hc
  | cons d b =>
      obtain rfl := Option.some.inj hc
      have hd := hb d List.mem_cons_self
      simp only [isSeparator, Bool.or_eq_true, decide_eq_true_eq] at hd
      rcases hd with ((rfl | rfl) | rfl) | rfl <;> decide

/-- All digits are appended if the number that they make is not too large. -/
theorem appendDigits_eq {largest : Nat} (ds : List Char) :
    ∀ {n : Nat}, Nat.ofDigitChars 10 ds n ≤ largest →
      NumberLiteral.appendDigits largest n ds = (Nat.ofDigitChars 10 ds n, []) := by
  induction ds with
  | nil => exact fun _ => rfl
  | cons c ds ih =>
      intro n h
      rw [Nat.ofDigitChars_cons] at h ⊢
      have hle := le_ofDigitChars ds (10 * n + (c.toNat - '0'.toNat))
      rw [NumberLiteral.appendDigits, if_neg (by omega)]
      exact ih h

/-- Only the number zero is written with a zero in front. -/
theorem eq_nil_of_toDigits {n : Nat} {ds : List Char} (h : Nat.toDigits 10 n = '0' :: ds) :
    ds = [] := by
  by_contra hne
  have hdigits : ∀ c ∈ ds, c.isDigit = true := fun c hc =>
    Nat.isDigit_of_mem_toDigits (b := 10) (n := n) (by omega) (by omega)
      (h ▸ List.mem_cons_of_mem '0' hc)
  -- The digits behind the zero make up the number, and there are too few of them.
  have hvalue := Nat.ofDigitChars_toDigits (b := 10) (n := n) (by omega) (by omega)
  rw [h, Nat.ofDigitChars_cons, Nat.sub_self, Nat.mul_zero, Nat.add_zero,
    ← digitsValue_eq] at hvalue
  have hlt := digitsValue_lt ds hdigits
  rw [hvalue, ← Nat.length_toDigits_le_iff (by omega) (List.length_pos_iff.2 hne), h,
    List.length_cons] at hlt
  omega

/-- The digits of a number are read as far as they go. -/
theorem readWhole_toDigits (n : Nat) {rest : List Char} (hrest : EndsNumber rest) :
    readWhole .kept (Nat.toDigits 10 n ++ rest) = .ok (Nat.toDigits 10 n, rest) := by
  have hdigit : ∀ c ∈ Nat.toDigits 10 n, c.isDigit = true := fun c hc =>
    Nat.isDigit_of_mem_toDigits (by omega) (by omega) hc
  have hnone : rest.head?.any Char.isDigit = false := by
    cases hhead : rest.head? with
    | none => rfl
    | some c => exact (hrest c hhead).1
  cases hds : Nat.toDigits 10 n with
  | nil => exact absurd hds Nat.toDigits_ne_nil
  | cons c ds =>
      rw [List.cons_append]
      by_cases hzero : c = '0'
      · rw [hzero] at hds ⊢
        rw [eq_nil_of_toDigits hds, List.nil_append, readWhole, hnone, if_neg Bool.false_ne_true]
      · have hstop : rest.takeWhile Char.isDigit = [] ∧ rest.dropWhile Char.isDigit = rest := by
          cases rest with
          | nil => exact ⟨rfl, rfl⟩
          | cons d rest =>
              have hd := (hrest d rfl).1
              exact ⟨List.takeWhile_cons_of_neg (by rw [hd]; exact Bool.false_ne_true),
                List.dropWhile_cons_of_neg (by rw [hd]; exact Bool.false_ne_true)⟩
        rw [hds] at hdigit
        rw [readWhole, ← List.cons_append]
        · unfold readDigits
          rw [List.takeWhile_append_of_pos hdigit, List.dropWhile_append_of_pos hdigit, hstop.1,
            hstop.2, List.append_nil]
        · intro rest' heq
          exact hzero (List.cons.inj heq).1

/-- Behind a whole number there is no point and no exponent. -/
theorem readLiteral_toDigits (n : Nat) {rest : List Char} (hrest : EndsNumber rest) :
    readLiteral .kept (Nat.toDigits 10 n ++ rest)
      = .ok (⟨Nat.toDigits 10 n, [], none⟩, rest) := by
  have hfraction : readFraction .kept rest = .ok ([], rest) := by
    unfold readFraction
    split
    · exact absurd rfl (hrest '.' rfl).2.1
    · rfl
  have hexponent : readExponentPart .kept rest = .ok (none, rest) := by
    cases rest with
    | nil => rfl
    | cons c rest =>
        have hc := (hrest c rfl).2.2
        rw [readExponentPart, if_neg (not_or.2 hc)]
  simp only [readLiteral, readWhole_toDigits n hrest, bind, Except.bind, hfraction, hexponent]
  rfl

/-- A whole number is written with the digits of its magnitude. -/
theorem toList_toString_int (n : Int) :
    (toString n).toList = (if 0 ≤ n then [] else ['-']) ++ Nat.toDigits 10 n.natAbs := by
  rw [Int.toString_eq_repr, Int.repr_eq_if]
  by_cases h : 0 ≤ n
  · rw [if_pos h, if_pos h, Nat.toList_repr, List.nil_append]
    congr 1
    omega
  · rw [if_neg h, if_neg h, String.toList_append, Nat.toList_repr]
    congr 2
    omega

/-- A digit is no sign. -/
theorem splitSign_toDigits (n : Nat) (rest : List Char) :
    splitSign (Nat.toDigits 10 n ++ rest) = (false, Nat.toDigits 10 n ++ rest) := by
  obtain ⟨c, ds, hds, hc⟩ := exists_toDigits_eq_cons n
  rw [hds, List.cons_append]
  unfold splitSign
  split
  · next heq =>
      rw [(List.cons.inj heq).1] at hc
      cases hc
  · next heq =>
      rw [(List.cons.inj heq).1] at hc
      cases hc
  · rfl

/-- A whole number of 64 bits is read exactly. -/
theorem readNumber_toString {n : Int} (hn : IsWord n) {rest : List Char} (hrest : EndsNumber rest) :
    readNumber .kept ((toString n).toList ++ rest) = .ok (.int n, rest) := by
  have hlargest : NumberLiteral.maxSignificand = 18446744073709551615 := rfl
  have hpower : (1 : Nat) <<< 63 = 9223372036854775808 := rfl
  obtain ⟨hlower, hupper⟩ := isWord_iff.1 hn
  have hvalue := Nat.ofDigitChars_toDigits (b := 10) (n := n.natAbs) (by omega) (by omega)
  have hdigits : NumberLiteral.appendDigits NumberLiteral.maxSignificand 0
      (Nat.toDigits 10 n.natAbs) = (n.natAbs, []) := by
    rw [appendDigits_eq _ (by rw [hvalue]; omega), hvalue]
  have hwhole : NumberLiteral.isWhole ⟨Nat.toDigits 10 n.natAbs, [], none⟩ = true := rfl
  rw [toList_toString_int]
  by_cases h : 0 ≤ n
  · have hint : (n.natAbs : Int) = n := by omega
    rw [if_pos h, List.nil_append]
    simp only [readNumber, splitSign_toDigits, readLiteral_toDigits _ hrest, bind, Except.bind,
      NumberLiteral.toJson, hwhole, hdigits, Bool.not_false, if_true, hint]
    rfl
  · -- The magnitude of a negative number is not zero, so the number is no negative zero.
    have hint : -(n.natAbs : Int) = n := by omega
    have hsign : splitSign ('-' :: (Nat.toDigits 10 n.natAbs ++ rest))
        = (true, Nat.toDigits 10 n.natAbs ++ rest) := rfl
    rw [if_neg h, List.append_assoc, List.singleton_append]
    simp only [readNumber, hsign, readLiteral_toDigits _ hrest, bind, Except.bind,
      NumberLiteral.toJson, hwhole, hdigits, Bool.not_true, Bool.false_eq_true, if_false, hint,
      if_pos (show 0 < n.natAbs ∧ n.natAbs ≤ 1 <<< 63 by omega)]
    rfl

end Json

end RegionScan
