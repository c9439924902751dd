import RegionScan.Proofs.Number.Exact
import RegionScan.Proofs.Text.Digits

/-!
# Decimals as Text

Which texts are decimals, and that a decimal comes back from its text.

A literal is a sign and digits on both sides of a point. The sign may be missing, the
digits may be missing on one side, and without digits behind it so may the point. That
is the whole grammar (`DecimalLiteral.Spells`), and it knows no sizes. A text is
that of one literal only, since no digit is a sign or a point, so a reader that
looks for the sign first and for the first point then has found all there is. What
it refuses besides is too long: the places have to be counted by eight bits, and the
digits together have to be a number of 128 bits before they get their sign.

The last point leaves out one number, the least one of 128 bits, which is its
sign and a number that is too large. It is written like all others, and its text is
the one text of a decimal that is not read.

A decimal is written if it has at most thirty-eight places, and its literal has as many.

## Main definitions

* `DecimalLiteral`, `DecimalLiteral.Spells`: Literals and their texts.
* `DecimalLiteral.toRat`: The number that a literal denotes.
* `DecimalLiteral.Fits`, `DecimalLiteral.decimal`: The literals that are decimals.
* `Decimal.literal`: The literal that a decimal is written as.

## Theorems

* `DecimalLiteral.toRat_eq`: A literal denotes its unscaled number and its places.
* `Decimal.ofText?_of_spells`, `Decimal.exists_spells`: What is read.
* `Decimal.display?_eq_some`, `Decimal.spells_display?`: What is written.
* `coerce_string_decimal_iff`: Texts that are converted to decimals.
* `coerce_decimal_text_roundTrip`: Decimals as text and back.
-/

namespace RegionScan

/-- A decimal literal of any length. -/
structure DecimalLiteral where
  negative : Bool
  /-- The digits in front of the point. -/
  whole : List Char
  /-- The digits behind the point. -/
  fraction : List Char
  isDigit : ∀ c ∈ whole ++ fraction, c.isDigit = true
  ne_nil : whole ++ fraction ≠ []

/-- The signs in front of a literal, and whether they make it negative. -/
inductive LiteralSign : List Char → Bool → Prop
  | none : LiteralSign [] false
  | plus : LiteralSign ['+'] false
  | minus : LiteralSign ['-'] true

/-- A point and the digits behind it, or neither. -/
inductive LiteralFraction : List Char → List Char → Prop
  | none : LiteralFraction [] []
  | point (fraction : List Char) : LiteralFraction ('.' :: fraction) fraction

namespace DecimalLiteral

/-- The texts of a literal. -/
inductive Spells (l : DecimalLiteral) : List Char → Prop
  | intro {sign tail : List Char} (hsign : LiteralSign sign l.negative)
      (htail : LiteralFraction tail l.fraction) : Spells l (sign ++ (l.whole ++ tail))

variable (l : DecimalLiteral)

/-- The number of digits behind the point. -/
def places : Nat := l.fraction.length

/-- The number that all digits spell together. -/
def magnitude : Nat := Nat.ofDigitChars 10 (l.whole ++ l.fraction) 0

/-- That number with the sign of the literal. -/
def unscaled : Int := if l.negative then -(l.magnitude : Int) else l.magnitude

/-- The number that a literal denotes. -/
def toRat : ℚ :=
  (if l.negative then -1 else 1) *
    (Nat.ofDigitChars 10 l.whole 0 + Nat.ofDigitChars 10 l.fraction 0 / 10 ^ l.places)

/-- The literals that are not too long. -/
def Fits : Prop := l.places ≤ 255 ∧ l.magnitude ≤ 2 ^ 127 - 1

instance : Decidable l.Fits := inferInstanceAs (Decidable (_ ∧ _))

variable {l}

theorem Fits.unscaled_mem (h : l.Fits) : -(1 <<< 127) ≤ l.unscaled ∧ l.unscaled < 1 <<< 127 := by
  have hle := h.2
  rw [unscaled]
  split
  · omega
  · omega

/-- The decimal that a literal is. -/
def decimal (l : DecimalLiteral) (h : l.Fits) : Decimal :=
  ⟨⟨l.unscaled, h.unscaled_mem⟩, UInt8.ofNat l.places⟩

theorem toNat_scale_decimal (h : l.Fits) : (l.decimal h).scale.toNat = l.places :=
  UInt8.toNat_ofNat_of_lt' (Nat.lt_succ_of_le h.1)

/-- A literal denotes its unscaled number divided by a power of ten. -/
theorem toRat_eq (l : DecimalLiteral) : l.toRat = l.unscaled / 10 ^ l.places := by
  have hten : (10 : ℚ) ^ l.places ≠ 0 := pow_ne_zero _ (by norm_num)
  have hmagnitude : (l.magnitude : ℚ)
      = 10 ^ l.places * Nat.ofDigitChars 10 l.whole 0 + Nat.ofDigitChars 10 l.fraction 0 := by
    rw [magnitude, Nat.ofDigitChars_append, Nat.ofDigitChars_eq_ofDigitChars_zero, places]
    push_cast
    rfl
  have hunscaled : (l.unscaled : ℚ) = (if l.negative then -1 else 1) * l.magnitude := by
    rw [unscaled]
    split
    · rw [Int.cast_neg, Int.cast_natCast, neg_one_mul]
    · rw [Int.cast_natCast, one_mul]
  rw [toRat, hunscaled, hmagnitude, mul_div_assoc, add_div, mul_div_cancel_left₀ _ hten]

/-! ### Reading -/

theorem isDigit_whole (l : DecimalLiteral) : ∀ c ∈ l.whole, c.isDigit = true :=
  fun c hc => l.isDigit c (List.mem_append_left _ hc)

/-- The first point is the one of the literal. -/
theorem splitPoint_append {whole tail fraction : List Char} (hwhole : ∀ c ∈ whole, c.isDigit = true)
    (htail : LiteralFraction tail fraction) :
    Decimal.splitPoint (whole ++ tail) = (whole, fraction) := by
  have hnot : ∀ c ∈ whole, decide (c ≠ '.') = true := by
    intro c hc
    refine decide_eq_true ?_
    rintro rfl
    cases hwhole _ hc
  rw [Decimal.splitPoint, List.takeWhile_append_of_pos hnot, List.dropWhile_append_of_pos hnot]
  cases htail with
  | none => rw [List.takeWhile_nil, List.dropWhile_nil, List.append_nil, List.drop_nil]
  | point => rw [List.takeWhile_cons_of_neg (by decide), List.dropWhile_cons_of_neg (by decide),
      List.append_nil, List.drop_succ_cons, List.drop_zero]

/-- A text that starts with no sign has none. -/
theorem splitSign_cons {c : Char} (hplus : c ≠ '+') (hminus : c ≠ '-') (rest : List Char) :
    splitSign (c :: rest) = (false, c :: rest) := by
  rw [splitSign]
  · rintro _ ⟨rfl, _⟩
    exact hminus rfl
  · rintro _ ⟨rfl, _⟩
    exact hplus rfl

/-- The digits of a literal and its point start with no sign. -/
theorem exists_front (l : DecimalLiteral) {tail : List Char} (htail : LiteralFraction tail l.fraction) :
    ∃ c rest, l.whole ++ tail = c :: rest ∧ (c.isDigit = true ∨ c = '.') := by
  cases hwhole : l.whole with
  | cons c rest => exact ⟨c, rest ++ tail, rfl, .inl (l.isDigit_whole c (hwhole ▸ List.mem_cons_self))⟩
  | nil =>
      -- Without digits in front of the point there are some behind it.
      have hne := l.ne_nil
      rw [hwhole, List.nil_append] at hne
      generalize l.fraction = fraction at htail hne
      cases htail with
      | none => exact absurd rfl hne
      | point => exact ⟨'.', fraction, rfl, .inr rfl⟩

namespace Spells

variable {text : List Char}

/-- The sign of a literal is split off its text, and no digit with it. -/
theorem splitSign_eq (h : l.Spells text) :
    ∃ tail, LiteralFraction tail l.fraction ∧ splitSign text = (l.negative, l.whole ++ tail) := by
  obtain ⟨hsign, htail⟩ := h
  refine ⟨_, htail, ?_⟩
  generalize l.negative = negative at hsign
  cases hsign with
  | none =>
      obtain ⟨c, rest, heq, hc⟩ := l.exists_front htail
      rw [List.nil_append, heq]
      rcases hc with hc | rfl
      · refine splitSign_cons ?_ ?_ rest
        · rintro rfl
          cases hc
        · rintro rfl
          cases hc
      · exact splitSign_cons (by decide) (by decide) rest
  | plus => rfl
  | minus => rfl

/-- Nothing of a literal is blank. -/
theorem solid (h : l.Spells text) : Solid text := by
  obtain @⟨sign, tail, hsign, htail⟩ := h
  have hdigits : ∀ c ∈ l.whole ++ l.fraction, isBlank c = false := fun c hc =>
    isBlank_of_isDigit (l.isDigit c hc)
  obtain ⟨c, rest, heq, _⟩ := l.exists_front htail
  have hunsigned : Solid (l.whole ++ tail) := by
    refine ⟨by rw [heq]; exact List.cons_ne_nil c rest, fun d hd => ?_⟩
    rcases List.mem_append.1 hd with hd | hd
    · exact hdigits d (List.mem_append_left _ hd)
    · generalize hfraction : l.fraction = fraction at htail
      cases htail with
      | none => cases hd
      | point =>
          rcases List.mem_cons.1 hd with rfl | hd
          · rfl
          · exact hdigits d (List.mem_append_right _ (hfraction ▸ hd))
  generalize l.negative = negative at hsign
  cases hsign with
  | none => exact hunsigned
  | plus => exact hunsigned.cons rfl
  | minus => exact hunsigned.cons rfl

end Spells

end DecimalLiteral

namespace Decimal

open DecimalLiteral

/-- A text is a sign and what is split off it. -/
theorem exists_sign (s : List Char) :
    ∃ sign, LiteralSign sign (splitSign s).1 ∧ s = sign ++ (splitSign s).2 := by
  unfold splitSign
  split
  · exact ⟨['-'], .minus, rfl⟩
  · exact ⟨['+'], .plus, rfl⟩
  · exact ⟨[], .none, rfl⟩

/-- It is what stands in front of the first point, and the point with what stands behind
    it. -/
theorem exists_fraction (s : List Char) :
    ∃ tail, LiteralFraction tail (splitPoint s).2 ∧ s = (splitPoint s).1 ++ tail := by
  refine ⟨s.dropWhile (· ≠ '.'), ?_, List.takeWhile_append_dropWhile.symm⟩
  have hhead := List.head?_dropWhile_not (· ≠ '.') s
  rw [splitPoint]
  cases hrest : s.dropWhile (· ≠ '.') with
  | nil => exact .none
  | cons c rest =>
      rw [hrest] at hhead
      obtain rfl : c = '.' := by simpa using hhead
      exact .point rest

/-- The text of a literal is read as its decimal, if it is not too long for one. -/
theorem ofText?_of_spells {s : String} {text : List Char} {l : DecimalLiteral}
    (hs : Surrounds s.toList text) (hl : l.Spells text) :
    ofText? s = if h : l.Fits then some (l.decimal h) else none := by
  have htrim : trimBlanks s.toList = text := hl.solid.trimBlanks_of_surrounds hs
  obtain ⟨tail, htail, hsign⟩ := hl.splitSign_eq
  have hpoint := splitPoint_append l.isDigit_whole htail
  have hspelled : ¬ ((l.whole ++ l.fraction).isEmpty = true ∨
      (!(l.whole ++ l.fraction).all Char.isDigit) = true ∨ 255 < l.fraction.length) ↔
      l.places ≤ 255 := by
    rw [List.isEmpty_iff, List.all_eq_true.2 l.isDigit, places, or_iff_right l.ne_nil,
      or_iff_right (by decide), Nat.not_lt]
  have hvalue : digitsValue (l.whole ++ l.fraction) = l.magnitude := digitsValue_eq _
  rw [ofText?, htrim, hsign]
  dsimp only
  rw [hpoint]
  dsimp only
  rw [hvalue]
  by_cases hplaces : l.places ≤ 255
  · rw [if_neg (hspelled.2 hplaces)]
    by_cases hsmall : l.magnitude < 1 <<< 127
    · have hfits : l.Fits := ⟨hplaces, by omega⟩
      rw [if_pos hsmall, dif_pos hfits]
      have hsome : Int128.ofInt? l.unscaled = some ⟨l.unscaled, hfits.unscaled_mem⟩ :=
        (Int128.ofInt?_eq_some_iff _ _).2 rfl
      exact congrArg (Option.map fun n => (⟨n, UInt8.ofNat l.places⟩ : Decimal)) hsome
    · rw [if_neg hsmall, dif_neg fun hfits => hsmall (by have := hfits.2; omega)]
  · rw [if_pos (not_not.1 (mt hspelled.1 hplaces)), dif_neg fun hfits => hplaces hfits.1]

/-- What is read is the text of a literal. -/
theorem exists_spells {s : String} {d : Decimal} (h : ofText? s = some d) :
    ∃ (text : List Char) (l : DecimalLiteral), Surrounds s.toList text ∧ l.Spells text := by
  refine ⟨trimBlanks s.toList, ?_⟩
  obtain ⟨sign, hsign, htext⟩ := exists_sign (trimBlanks s.toList)
  rw [ofText?] at h
  rcases hsplit : splitSign (trimBlanks s.toList) with ⟨negative, unsigned⟩
  obtain ⟨tail, htail, hunsigned⟩ := exists_fraction unsigned
  rcases hpoint : splitPoint unsigned with ⟨whole, fraction⟩
  rw [hsplit] at h hsign htext
  rw [hpoint] at htail hunsigned
  dsimp only at h
  rw [hpoint] at h
  dsimp only at h
  split at h
  · cases h
  · rename_i hspelled
    rw [not_or, not_or, List.isEmpty_iff, Bool.not_eq_true, Bool.not_eq_false',
      List.all_eq_true] at hspelled
    refine ⟨⟨negative, whole, fraction, hspelled.2.1, hspelled.1⟩, surrounds_trimBlanks _, ?_⟩
    rw [htext, hunsigned]
    exact .intro hsign htail

/-- The texts that are read, and the decimals that they are read as. -/
theorem ofText?_eq_some_iff {s : String} {d : Decimal} :
    ofText? s = some d ↔
      ∃ (text : List Char) (l : DecimalLiteral) (h : l.Fits),
        Surrounds s.toList text ∧ l.Spells text ∧ d = l.decimal h := by
  constructor
  · intro h
    obtain ⟨text, l, hs, hl⟩ := exists_spells h
    rw [ofText?_of_spells hs hl] at h
    split at h
    · rename_i hfits
      exact ⟨text, l, hfits, hs, hl, (Option.some.inj h).symm⟩
    · cases h
  · rintro ⟨text, l, hfits, hs, hl, rfl⟩
    rw [ofText?_of_spells hs hl, dif_pos hfits]

example : ofText? " -.50" = some ⟨.ofInt64 (-50), 2⟩ := by decide

/-! ### Writing -/

/-- The literal that a decimal is written as. It has a digit in front of the point. -/
def literal (d : Decimal) : DecimalLiteral where
  negative := decide (d.unscaled.val < 0)
  whole := Nat.toDigits 10 (d.unscaled.val.natAbs / 10 ^ d.scale.toNat)
  fraction := if d.scale.toNat = 0 then []
    else zeroPadded d.scale.toNat (d.unscaled.val.natAbs % 10 ^ d.scale.toNat)
  isDigit c hc := by
    rcases List.mem_append.1 hc with hc | hc
    · exact Nat.isDigit_of_mem_toDigits (by omega) (by omega) hc
    · split at hc
      · cases hc
      · exact isDigit_of_mem_zeroPadded hc
  ne_nil hnil := Nat.toDigits_ne_nil (List.append_eq_nil_iff.1 hnil).1

/-- The sign of a decimal is written if it is negative. -/
theorem literalSign_literal (d : Decimal) :
    LiteralSign (if d.unscaled.val < 0 then ['-'] else []) d.literal.negative := by
  rw [literal]
  by_cases hnegative : d.unscaled.val < 0
  · rw [if_pos hnegative, decide_eq_true hnegative]
    exact .minus
  · rw [if_neg hnegative, decide_eq_false hnegative]
    exact .none

/-- A decimal has a text if it has no more places than the largest power of ten. -/
theorem display?_eq_some {d : Decimal} (h : d.scale.toNat ≤ maxPlaces) :
    d.display? = some d.display := by
  rw [display, display?, if_neg (Nat.not_lt.2 h)]
  by_cases hzero : d.scale.toNat = 0
  · rw [if_pos hzero]
    rfl
  · rw [if_neg hzero]
    rfl

/-- A decimal is written as its literal. -/
theorem spells_display? {d : Decimal} {text : String} (h : d.display? = some text) :
    d.literal.Spells text.toList := by
  have hwhole : (toString (d.unscaled.val.natAbs / Nat.pow 10 d.scale.toNat)).toList
      = d.literal.whole := by
    rw [Nat.toString_eq_repr, Nat.toList_repr]
    rfl
  obtain ⟨tail, htail, htext⟩ : ∃ tail, LiteralFraction tail d.literal.fraction ∧
      text.toList = (if d.unscaled.val < 0 then ['-'] else []) ++ (d.literal.whole ++ tail) := by
    unfold display? at h
    by_cases hmany : maxPlaces < d.scale.toNat
    · rw [if_pos hmany] at h
      cases h
    · rw [if_neg hmany] at h
      by_cases hzero : d.scale.toNat = 0
      · have hfraction : d.literal.fraction = [] := if_pos hzero
        rw [if_pos hzero] at h
        refine ⟨[], hfraction ▸ .none, ?_⟩
        rw [← Option.some.inj h, String.toList_ofList, hwhole, List.append_nil]
      · have hfraction : d.literal.fraction
            = zeroPadded d.scale.toNat (d.unscaled.val.natAbs % Nat.pow 10 d.scale.toNat) :=
          if_neg hzero
        rw [if_neg hzero] at h
        refine ⟨'.' :: d.literal.fraction, .point _, ?_⟩
        rw [← Option.some.inj h, String.toList_ofList, hwhole, hfraction, List.append_assoc]
  rw [htext]
  exact .intro d.literalSign_literal htail

/-- The literal of a decimal has as many places as its scale says. -/
theorem places_literal (d : Decimal) : d.literal.places = d.scale.toNat := by
  rw [places, literal]
  dsimp only
  split
  · rename_i hzero
    rw [hzero, List.length_nil]
  · rename_i hne
    exact length_zeroPadded (Nat.pos_of_ne_zero hne) (Nat.mod_lt _ (Nat.pow_pos (by omega)))

/-- Its digits are the unscaled number. -/
theorem magnitude_literal (d : Decimal) : d.literal.magnitude = d.unscaled.val.natAbs := by
  have hfraction : Nat.ofDigitChars 10 d.literal.fraction 0
      = d.unscaled.val.natAbs % 10 ^ d.scale.toNat := by
    rw [literal]
    dsimp only
    split
    · rename_i hzero
      rw [hzero, Nat.pow_zero, Nat.mod_one, Nat.ofDigitChars_nil]
    · rw [← digitsValue_eq, digitsValue_zeroPadded]
  have hwhole : Nat.ofDigitChars 10 d.literal.whole 0
      = d.unscaled.val.natAbs / 10 ^ d.scale.toNat :=
    Nat.ofDigitChars_toDigits (by omega) (by omega)
  have hplaces : d.literal.fraction.length = d.scale.toNat := d.places_literal
  rw [magnitude, Nat.ofDigitChars_append, Nat.ofDigitChars_eq_ofDigitChars_zero, hplaces, hwhole,
    hfraction, Nat.div_add_mod]

theorem unscaled_literal (d : Decimal) : d.literal.unscaled = d.unscaled.val := by
  rw [DecimalLiteral.unscaled, magnitude_literal, literal]
  dsimp only
  split
  · rename_i hnegative
    have := of_decide_eq_true hnegative
    omega
  · rename_i hnot
    have := of_decide_eq_false (Bool.not_eq_true _ ▸ hnot)
    omega

/-- The literal of a decimal denotes the decimal. -/
theorem toRat_literal (d : Decimal) : d.literal.toRat = d.toRat := by
  rw [DecimalLiteral.toRat_eq, unscaled_literal, places_literal, toRat]

/-- All decimals fit but those of the least number, whose digits are one more than
    the greatest number. -/
theorem fits_literal_iff (d : Decimal) : d.literal.Fits ↔ d.unscaled.val ≠ -2 ^ 127 := by
  have hplaces := d.scale.toNat_lt
  have hmem := d.unscaled.val_mem
  rw [DecimalLiteral.Fits, places_literal, magnitude_literal]
  omega

theorem decimal_literal {d : Decimal} (h : d.literal.Fits) : d.literal.decimal h = d := by
  have hunscaled : (d.literal.decimal h).unscaled = d.unscaled :=
    Int128.ext d.unscaled_literal
  have hscale : (d.literal.decimal h).scale = d.scale :=
    UInt8.toNat_inj.1 ((toNat_scale_decimal h).trans d.places_literal)
  cases d
  exact congrArg₂ Decimal.mk hunscaled hscale

/-- What is written is read again, but for the least number. -/
theorem ofText?_of_display? {d : Decimal} {text : String} (h : d.display? = some text) :
    ofText? text = if d.unscaled.val = -2 ^ 127 then none else some d := by
  rw [ofText?_of_spells (.refl text.toList) (spells_display? h)]
  by_cases hleast : d.unscaled.val = -2 ^ 127
  · rw [if_pos hleast, dif_neg (mt d.fits_literal_iff.1 (not_not_intro hleast))]
  · have hfits := d.fits_literal_iff.2 hleast
    rw [if_neg hleast, dif_pos hfits, decimal_literal hfits]

example : (⟨.ofInt64 (-5), 2⟩ : Decimal).display? = some "-0.05" := by decide

end Decimal

/-- All values have a text but decimals of too many places. -/
theorem Value.display?_eq_some {v : Value} (h : ∀ d, v = .decimal d → d.scale.toNat ≤ 38) :
    v.display? = some v.display := by
  cases v with
  | decimal d => exact Decimal.display?_eq_some (h d rfl)
  | _ => rfl

/-- A text is converted to a decimal without a scale as it is read. -/
theorem coerce_string_decimal (s : String) (precision : Option UInt8) (pattern : Option Pattern) :
    coerce (.string s) (.decimal precision none) pattern
      = match Decimal.ofText? s with
        | some d => .ok (.decimal d)
        | none => .error (.notDecimal s) := by
  have hread : coerce (.string s) (.decimal precision none) pattern
      = (Coercion.toDecimal none (.string s)).map .decimal := rfl
  rw [hread, Coercion.toDecimal, Coercion.toExactDecimal, Coercion.readDecimal]
  cases Decimal.ofText? s <;> rfl

/-- A text is converted to a decimal without a scale if and only if it is, but for
    blanks around it, a literal that is not too long. -/
theorem coerce_string_decimal_iff (s : String) (precision : Option UInt8)
    (pattern : Option Pattern) (v : Value) :
    coerce (.string s) (.decimal precision none) pattern = .ok v ↔
      ∃ (text : List Char) (l : DecimalLiteral) (h : l.Fits),
        Surrounds s.toList text ∧ l.Spells text ∧ v = .decimal (l.decimal h) := by
  rw [coerce_string_decimal]
  constructor
  · intro h
    cases hread : Decimal.ofText? s with
    | none =>
        rw [hread] at h
        cases h
    | some d =>
        rw [hread] at h
        cases h
        obtain ⟨text, l, hfits, hs, hl, rfl⟩ := Decimal.ofText?_eq_some_iff.1 hread
        exact ⟨text, l, hfits, hs, hl, rfl⟩
  · rintro ⟨text, l, hfits, hs, hl, rfl⟩
    rw [Decimal.ofText?_eq_some_iff.2 ⟨text, l, hfits, hs, hl, rfl⟩]

/-- A decimal of at most thirty-eight places is converted to its text, which denotes it
    with all its places, and the text is converted to the decimal again. The text of the
    least number is refused. -/
theorem coerce_decimal_text_roundTrip {d : Decimal} (hscale : d.scale.toNat ≤ 38)
    (precision : Option UInt8) (pattern pattern' : Option Pattern) :
    (Value.decimal d).display? = some (Value.decimal d).display ∧
    coerce (.decimal d) .text pattern = .ok (.string (Value.decimal d).display) ∧
    (∃ l : DecimalLiteral, l.Spells (Value.decimal d).display.toList ∧
      l.places = d.scale.toNat ∧ l.toRat = d.toRat) ∧
    coerce (.string (Value.decimal d).display) (.decimal precision none) pattern'
      = if d.unscaled.val = -2 ^ 127 then .error (.notDecimal (Value.decimal d).display)
        else .ok (.decimal d) := by
  have htext : d.display? = some d.display := Decimal.display?_eq_some hscale
  refine ⟨htext, rfl,
    ⟨d.literal, Decimal.spells_display? htext, d.places_literal, d.toRat_literal⟩, ?_⟩
  rw [coerce_string_decimal, Value.display, Decimal.ofText?_of_display? htext]
  by_cases hleast : d.unscaled.val = -2 ^ 127
  · rw [if_pos hleast, if_pos hleast]
  · rw [if_neg hleast, if_neg hleast]

/-- A negative number of as many places as there can be. -/
def smallestStep : Decimal := ⟨.ofInt64 (-5), 38⟩

theorem display?_smallestStep :
    smallestStep.display? = some "-0.00000000000000000000000000000000000005" := by
  decide

/-- It is written with all its places, and read again. -/
theorem coerce_smallestStep :
    coerce (.decimal smallestStep) .text none
      = .ok (.string "-0.00000000000000000000000000000000000005") ∧
    coerce (.string "-0.00000000000000000000000000000000000005") (.decimal none none) none
      = .ok (.decimal smallestStep) := by
  have hround := coerce_decimal_text_roundTrip (d := smallestStep) (by decide) none none none
  rw [← Option.some.inj (display?_smallestStep.symm.trans hround.1)] at hround
  exact ⟨hround.2.1, hround.2.2.2⟩

end RegionScan
