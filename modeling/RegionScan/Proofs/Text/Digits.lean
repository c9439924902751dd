import Mathlib.Algebra.GroupWithZero.Nat
import Mathlib.Data.List.Induction
import RegionScan.Binary.Text
import RegionScan.Calendar.Writer
import RegionScan.Proofs.Text.Trimming
import RegionScan.Text.Integer

/-!
# Digits

The numbers that digits spell.

Digits spell one number, and so many digits of one number are the same digits. So
where it is known how many there are, they are the number with zeros in front.

## Theorems

* `le_ofDigitChars`, `digitsValue_lt`, `eq_of_digitsValue_eq`: Values of digits.
* `readNatural_toDigits`: Digits that are read.
* `digitsValue_zeroPadded`, `length_zeroPadded`: Padded numbers.
* `zeroPadded_digitsValue`: Digits are a padded number.
-/

namespace RegionScan

theorem toNat_of_isDigit {c : Char} (h : c.isDigit = true) :
    '0'.toNat ≤ c.toNat ∧ c.toNat < '0'.toNat + 10 := by
  have hzero : '0'.toNat = 48 := rfl
  have hrange : 48 ≤ c.toNat ∧ c.toNat ≤ 57 := by
    simp only [Char.isDigit, Bool.and_eq_true, decide_eq_true_eq] at h
    exact h
  omega

/-- Digits are not blank. -/
theorem isBlank_of_isDigit {c : Char} (h : c.isDigit = true) : isBlank c = false := by
  have hzero : '0'.toNat = 48 := rfl
  have hrange := toNat_of_isDigit h
  simp only [isBlank, Bool.or_eq_false_iff, Bool.and_eq_false_iff, decide_eq_false_iff_not,
    beq_eq_false_iff_ne]
  omega

theorem digitsValue_eq (ds : List Char) : digitsValue ds = Nat.ofDigitChars 10 ds 0 := by
  rw [Nat.ofDigitChars_eq_foldl, digitsValue]

/-- Digits only make a number larger. -/
theorem le_ofDigitChars (ds : List Char) : ∀ n : Nat, n ≤ Nat.ofDigitChars 10 ds n := by
  induction ds with
  | nil => exact Nat.le_refl
  | cons c ds ih =>
      intro n
      have hnext := ih (10 * n + (c.toNat - '0'.toNat))
      rw [Nat.ofDigitChars_cons]
      omega

/-- A number has a first digit. -/
theorem exists_toDigits_eq_cons (n : Nat) :
    ∃ c ds, Nat.toDigits 10 n = c :: ds ∧ c.isDigit = true := by
  cases hds : Nat.toDigits 10 n with
  | nil => exact absurd hds Nat.toDigits_ne_nil
  | cons c ds =>
      exact ⟨c, ds, rfl, Nat.isDigit_of_mem_toDigits (b := 10) (n := n) (by omega) (by omega)
        (hds ▸ List.mem_cons_self)⟩

/-- Digits are read as their number if it is not too large. -/
theorem readMagnitude_eq {largest : Nat} (overflow : IntegerTextError) {ds : List Char}
    (hdigits : ∀ c ∈ ds, c.isDigit = true) :
    ∀ {n : Nat}, Nat.ofDigitChars 10 ds n ≤ largest →
      readMagnitude largest overflow n ds = .ok (Nat.ofDigitChars 10 ds n) := by
  induction ds with
  | nil => exact fun _ => rfl
  | cons c ds ih =>
      intro n h
      rw [Nat.ofDigitChars_cons] at h ⊢
      have hle := le_ofDigitChars ds (10 * n + (c.toNat - '0'.toNat))
      rw [readMagnitude, if_pos (hdigits c List.mem_cons_self), if_neg (by omega)]
      exact ih (fun d hd => hdigits d (List.mem_cons_of_mem c hd)) h

/-- The digits of a number that is not too large are read as the number. -/
theorem readNatural_toDigits {largest n : Nat} (h : n ≤ largest) :
    readNatural largest (Nat.toDigits 10 n) = .ok n := by
  have hvalue := Nat.ofDigitChars_toDigits (b := 10) (n := n) (by omega) (by omega)
  have hdigits : ∀ c ∈ Nat.toDigits 10 n, c.isDigit = true := fun c hc =>
    Nat.isDigit_of_mem_toDigits (by omega) (by omega) hc
  have hmagnitude : readMagnitude largest .tooLarge 0 (Nat.toDigits 10 n) = .ok n := by
    rw [readMagnitude_eq .tooLarge hdigits (by rwa [hvalue]), hvalue]
  obtain ⟨c, ds, hds, hc⟩ := exists_toDigits_eq_cons n
  rw [hds] at hmagnitude ⊢
  -- The first digit is no sign, so all of them make up the magnitude.
  unfold readNatural readInteger
  split
  · next heq => cases heq
  · next heq =>
      rw [(List.cons.inj heq).1] at hc
      cases hc
  · next heq =>
      rw [(List.cons.inj heq).1] at hc
      cases hc
  · rw [hmagnitude]
    rfl

/-- A padded number is the zeros and the digits. -/
theorem zeroPadded_eq (width n : Nat) :
    zeroPadded width n
      = List.replicate (width - (Nat.toDigits 10 n).length) '0' ++ Nat.toDigits 10 n := by
  rw [zeroPadded, Nat.toString_eq_repr, Nat.toList_repr]

theorem digitsValue_zeroPadded (width n : Nat) : digitsValue (zeroPadded width n) = n := by
  rw [digitsValue_eq, zeroPadded_eq, Nat.ofDigitChars_append, Nat.ofDigitChars_replicate_zero,
    Nat.mul_zero, Nat.ofDigitChars_toDigits (by omega) (by omega)]

theorem isDigit_of_mem_zeroPadded {width n : Nat} {c : Char} (h : c ∈ zeroPadded width n) :
    c.isDigit = true := by
  rw [zeroPadded_eq, List.mem_append] at h
  rcases h with h | h
  · rw [List.eq_of_mem_replicate h]
    rfl
  · exact Nat.isDigit_of_mem_toDigits (by omega) (by omega) h

/-- A number that has no more digits than the width is as long as the width. -/
theorem length_zeroPadded {width n : Nat} (hwidth : 0 < width) (hn : n < 10 ^ width) :
    (zeroPadded width n).length = width := by
  have hle := (Nat.length_toDigits_le_iff (by omega : 1 < 10) hwidth).2 hn
  rw [zeroPadded_eq, List.length_append, List.length_replicate]
  omega

theorem solid_zeroPadded (width n : Nat) : Solid (zeroPadded width n) where
  ne_nil h := by
    rw [zeroPadded_eq, List.append_eq_nil_iff] at h
    exact Nat.toDigits_ne_nil h.2
  not_isBlank _ hc := isBlank_of_isDigit (isDigit_of_mem_zeroPadded hc)

theorem digitsValue_append (ds : List Char) (c : Char) :
    digitsValue (ds ++ [c]) = 10 * digitsValue ds + (c.toNat - '0'.toNat) := by
  rw [digitsValue, List.foldl_append, List.foldl_cons, List.foldl_nil, ← digitsValue]

theorem digitsValue_lt (ds : List Char) :
    (∀ c ∈ ds, c.isDigit = true) → digitsValue ds < 10 ^ ds.length := by
  induction ds using List.reverseRecOn with
  | nil => exact fun _ => Nat.one_pos
  | append_singleton ds c ih =>
      intro h
      have hds := ih fun d hd => h d (List.mem_append_left _ hd)
      have hc := toNat_of_isDigit (h c (List.mem_append_right _ List.mem_cons_self))
      rw [digitsValue_append, List.length_append, List.length_singleton, Nat.pow_succ]
      omega

/-- As many digits of the same value are the same digits. -/
theorem eq_of_digitsValue_eq (ds : List Char) :
    (∀ c ∈ ds, c.isDigit = true) → ∀ es : List Char, (∀ c ∈ es, c.isDigit = true) →
      ds.length = es.length → digitsValue ds = digitsValue es → ds = es := by
  induction ds using List.reverseRecOn with
  | nil => exact fun _ es _ hlength _ => (List.length_eq_zero_iff.1 hlength.symm).symm
  | append_singleton ds c ih =>
      intro hds es hes hlength hvalue
      rcases List.eq_nil_or_concat es with rfl | ⟨es, e, rfl⟩
      · rw [List.length_append, List.length_singleton] at hlength
        cases hlength
      · simp only [List.concat_eq_append] at hes hlength hvalue ⊢
        rw [List.length_append, List.length_append, List.length_singleton, List.length_singleton]
          at hlength
        have hc := toNat_of_isDigit (hds c (List.mem_append_right _ List.mem_cons_self))
        have he := toNat_of_isDigit (hes e (List.mem_append_right _ List.mem_cons_self))
        rw [digitsValue_append, digitsValue_append] at hvalue
        -- The last digit is the remainder by ten, and the others are the quotient.
        have hlast : c = e := Char.toNat_inj.1 (by omega)
        have hothers := ih (fun d hd => hds d (List.mem_append_left _ hd)) es
          (fun d hd => hes d (List.mem_append_left _ hd)) (by omega) (by omega)
        rw [hlast, hothers]

/-- Digits are the padded number of their value. -/
theorem zeroPadded_digitsValue {ds : List Char} (hne : ds ≠ [])
    (h : ∀ c ∈ ds, c.isDigit = true) : zeroPadded ds.length (digitsValue ds) = ds := by
  have hpos : 0 < ds.length := List.length_pos_iff.2 hne
  refine eq_of_digitsValue_eq _ (fun c hc => isDigit_of_mem_zeroPadded hc) ds h ?_ ?_
  · exact length_zeroPadded hpos (digitsValue_lt ds h)
  · exact digitsValue_zeroPadded _ _

end RegionScan
