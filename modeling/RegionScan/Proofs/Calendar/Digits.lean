import RegionScan.Proofs.Calendar.Scanning

/-!
# Digits at the Front of a Text

Which numbers a text starts with, exactly.

A reader of numbers takes the digits in front, up to its width. It stops at the
width, or before it at the first character that is no digit, and it is this second
way that lets a number of any length be read in front of what cannot be mistaken for
a digit. Both ways are one statement about the digits that are taken and what stands
behind them (`TakesDigits`), from which a reader's result follows and which follows
from the result.

## Main definitions

* `StopsDigits`: A text that does not start with a digit.
* `TakesDigits`: Digits that a reader of a width takes.

## Theorems

* `scanNumber_eq_ok_iff`, `scanFraction_eq_ok_iff`: What the readers take.
* `scanYear_writeYear`: Years of any length are read again.
* `exists_writeFraction`: What is written of a fraction.
-/

namespace RegionScan

/-- A text that does not start with a digit. -/
def StopsDigits (rest : List Char) : Prop := ∀ c ∈ rest.head?, c.isDigit = false

theorem stopsDigits_nil : StopsDigits [] := nofun

theorem stopsDigits_cons {c : Char} (hc : c.isDigit = false) (rest : List Char) :
    StopsDigits (c :: rest) := fun _ hd => Option.some.inj hd ▸ hc

theorem stopsDigits_dropWhile (s : List Char) : StopsDigits (s.dropWhile Char.isDigit) := by
  intro c hc
  have hnot := List.head?_dropWhile_not Char.isDigit s
  rw [hc] at hnot
  exact hnot

theorem StopsDigits.dropWhile_eq {rest : List Char} (h : StopsDigits rest) :
    rest.dropWhile Char.isDigit = rest := by
  cases rest with
  | nil => rfl
  | cons c rest => rw [List.dropWhile_cons_of_neg (Bool.eq_false_iff.1 (h c rfl))]

/-- Digits that a reader of a width takes from the front of a text. -/
structure TakesDigits (width : Nat) (ds rest : List Char) : Prop where
  ne_nil : ds ≠ []
  isDigit : ∀ c ∈ ds, c.isDigit = true
  length_le : ds.length ≤ width
  stops : ds.length < width → StopsDigits rest

namespace TakesDigits

variable {width : Nat} {ds rest : List Char}

/-- The digits that are taken are those among the first characters. -/
theorem takeWhile_eq (h : TakesDigits width ds rest) :
    ((ds ++ rest).take width).takeWhile Char.isDigit = ds := by
  have hstop : (rest.take (width - ds.length)).takeWhile Char.isDigit = [] := by
    cases hroom : width - ds.length with
    | zero => rfl
    | succ k =>
        -- There is room for another digit, so the next character is none.
        cases rest with
        | nil => rfl
        | cons c rest =>
            have hc := h.stops (by omega) c rfl
            rw [List.take_succ_cons, List.takeWhile_cons_of_neg (Bool.eq_false_iff.1 hc)]
  rw [List.take_append, List.take_of_length_le h.length_le,
    List.takeWhile_append_of_pos h.isDigit, hstop, List.append_nil]

/-- The other way round, the digits among the first characters are taken. -/
theorem of_takeWhile {s : List Char} (hds : (s.take width).takeWhile Char.isDigit = ds)
    (hne : ds ≠ []) : TakesDigits width ds (s.drop ds.length) ∧ s = ds ++ s.drop ds.length := by
  have hfront : ds <+: s.take width := hds ▸ List.takeWhile_prefix _
  have hsplit : ds ++ s.drop ds.length = s :=
    List.prefix_iff_eq_append.1 (hfront.trans (List.take_prefix width s))
  have hle : ds.length ≤ width := by
    have hshort := hfront.length_le
    rw [List.length_take] at hshort
    omega
  refine ⟨⟨hne, fun c hc => ?_, hle, fun hroom c hc => ?_⟩, hsplit.symm⟩
  · rw [← hds] at hc
    exact List.mem_takeWhile_imp hc
  · -- The next character is the first one that the digits leave behind.
    have hleft : ((s.take width).dropWhile Char.isDigit).head? = some c := by
      have hparts : ds ++ (s.take width).dropWhile Char.isDigit = s.take width :=
        hds ▸ List.takeWhile_append_dropWhile
      have hdrop : (s.take width).drop ds.length = (s.take width).dropWhile Char.isDigit :=
        (congrArg (List.drop ds.length) hparts.symm).trans List.drop_left
      rw [← hdrop, List.drop_take, List.head?_take, if_neg (by omega)]
      exact hc
    exact stopsDigits_dropWhile (s.take width) c hleft

/-- More digits are left behind the ones taken only if the width has been reached. -/
theorem take_append_takeWhile (h : TakesDigits width ds rest) :
    (ds ++ rest.takeWhile Char.isDigit).take width = ds := by
  by_cases hroom : ds.length < width
  · have hnone : rest.takeWhile Char.isDigit = [] := by
      have hparts : rest.takeWhile Char.isDigit ++ rest.dropWhile Char.isDigit = rest :=
        List.takeWhile_append_dropWhile
      rw [(h.stops hroom).dropWhile_eq] at hparts
      exact List.append_left_eq_self.1 hparts
    rw [hnone, List.append_nil, List.take_of_length_le h.length_le]
  · have hlength : ds.length = width := Nat.le_antisymm h.length_le (Nat.not_lt.1 hroom)
    rw [← hlength, List.take_left]

/-- Of the digits in front of a text the first ones are taken. -/
theorem of_stopsDigits (hwidth : 0 < width) (hne : ds ≠ [])
    (hdigits : ∀ c ∈ ds, c.isDigit = true) (hstops : StopsDigits rest) :
    TakesDigits width (ds.take width) (ds.drop width ++ rest) where
  ne_nil hnil := (List.take_eq_nil_iff.1 hnil).elim (Nat.ne_of_gt hwidth) hne
  isDigit c hc := hdigits c (List.mem_of_mem_take hc)
  length_le := List.length_take_le _ _
  stops hroom := by
    rw [List.length_take] at hroom
    rw [List.drop_eq_nil_of_le (by omega), List.nil_append]
    exact hstops

/-- Nine digits or less spell a small number. -/
theorem digitsValue_lt (h : TakesDigits 9 ds rest) : digitsValue ds < 1 <<< 63 := by
  have hlt := RegionScan.digitsValue_lt ds h.isDigit
  have hle : 10 ^ ds.length ≤ 10 ^ 9 := Nat.pow_le_pow_right (by omega) h.length_le
  omega

end TakesDigits

/-- A number takes digits from the front up to its width. -/
theorem scanNumber_eq_ok_iff {width : Nat} {s rest : List Char} {n : Nat} :
    scanNumber width s = .ok (n, rest) ↔
      ∃ ds, TakesDigits width ds rest ∧ s = ds ++ rest ∧ digitsValue ds = n ∧ n < 1 <<< 63 := by
  cases s with
  | nil =>
      refine iff_of_false except_error_ne_ok ?_
      rintro ⟨ds, htakes, hnil, _⟩
      exact htakes.ne_nil (List.append_eq_nil_iff.1 hnil.symm).1
  | cons c s =>
      rw [scanNumber]
      · constructor
        · intro h
          split at h
          · cases h
          · rename_i hne
            dsimp only at h
            split at h
            · cases h
            · rename_i hsmall
              obtain ⟨hvalue, hrest⟩ := Prod.mk.inj (Except.ok.inj h)
              obtain ⟨htakes, hs⟩ := TakesDigits.of_takeWhile rfl (mt List.isEmpty_iff.2 hne)
              rw [hrest] at htakes hs
              exact ⟨_, htakes, hs, hvalue, hvalue ▸ Nat.not_le.1 hsmall⟩
        · rintro ⟨ds, htakes, hs, rfl, hsmall⟩
          have hne : ¬ ds.isEmpty = true := mt List.isEmpty_iff.1 htakes.ne_nil
          simp only [hs, htakes.takeWhile_eq, if_neg hne, if_neg (Nat.not_le.2 hsmall),
            List.drop_left]
      · exact List.cons_ne_nil c s

/-- The nanoseconds that the digits of a fraction show. Those behind the ninth do not
    count. -/
def fractionNanos (ds : List Char) : Nat :=
  digitsValue (ds.take 9) * Nat.pow 10 (9 - (ds.take 9).length)

/-- A fraction takes all digits from the front. -/
theorem scanFraction_eq_ok_iff {s rest : List Char} {nanos : Nat} :
    scanFraction s = .ok (nanos, rest) ↔
      ∃ ds, ds ≠ [] ∧ (∀ c ∈ ds, c.isDigit = true) ∧ StopsDigits rest ∧ s = ds ++ rest ∧
        fractionNanos ds = nanos := by
  constructor
  · intro h
    obtain ⟨⟨n, r⟩, hscan, h⟩ := except_bind_eq_ok.1 h
    obtain ⟨hnanos, rfl⟩ := Prod.mk.inj (Except.ok.inj h)
    obtain ⟨ds, htakes, rfl, rfl, _⟩ := scanNumber_eq_ok_iff.1 hscan
    have hcount : (ds ++ r).length - r.length = ds.length := by
      rw [List.length_append, Nat.add_sub_cancel]
    refine ⟨ds ++ r.takeWhile Char.isDigit, ?_, ?_, stopsDigits_dropWhile r, ?_, ?_⟩
    · exact fun hnil => htakes.ne_nil (List.append_eq_nil_iff.1 hnil).1
    · exact fun c hc => (List.mem_append.1 hc).elim (htakes.isDigit c) List.mem_takeWhile_imp
    · rw [List.append_assoc, List.takeWhile_append_dropWhile]
    · rw [fractionNanos, htakes.take_append_takeWhile, ← hnanos, hcount]
  · rintro ⟨ds, hne, hdigits, hstops, rfl, rfl⟩
    have htakes : TakesDigits 9 (ds.take 9) (ds.drop 9 ++ rest) :=
      .of_stopsDigits (by omega) hne hdigits hstops
    have hscan : scanNumber 9 (ds ++ rest) = .ok (digitsValue (ds.take 9), ds.drop 9 ++ rest) := by
      refine scanNumber_eq_ok_iff.2 ⟨ds.take 9, htakes, ?_, rfl, htakes.digitsValue_lt⟩
      rw [← List.append_assoc, List.take_append_drop]
    refine except_bind_eq_ok.2 ⟨_, hscan, ?_⟩
    have hcount : (ds ++ rest).length - (ds.drop 9 ++ rest).length = (ds.take 9).length := by
      simp only [List.length_append, List.length_drop, List.length_take]
      omega
    have hrest : (ds.drop 9 ++ rest).dropWhile Char.isDigit = rest := by
      rw [List.dropWhile_append_of_pos fun c hc => hdigits c (List.mem_of_mem_drop hc),
        hstops.dropWhile_eq]
    dsimp only
    rw [hcount, hrest]
    rfl

/-- A year of any length is read up to what cannot be mistaken for a digit. -/
theorem scanYear_writeYear {year : Int} (hyear : minYear ≤ year ∧ year ≤ maxYear)
    {rest : List Char} (hrest : StopsDigits rest) :
    scanYear (writeYear year ++ rest) = .ok (year, rest) := by
  simp only [minYear, maxYear] at hyear
  by_cases hplain : 0 ≤ year ∧ year ≤ 9999
  · have hscan := scanYear_zeroPadded (by omega : year.toNat < 10 ^ 4) rest
    rw [writeYear, if_pos hplain, hscan, Int.toNat_of_nonneg hplain.1]
  · -- A sign lets the year take all digits there are.
    have hscan : scanNumber (zeroPadded 4 year.natAbs ++ rest).length
        (zeroPadded 4 year.natAbs ++ rest) = .ok (year.natAbs, rest) := by
      refine scanNumber_eq_ok_iff.2 ⟨_, ⟨(solid_zeroPadded 4 _).ne_nil,
        fun c hc => isDigit_of_mem_zeroPadded hc, ?_, fun _ => hrest⟩, rfl,
        digitsValue_zeroPadded 4 _, by omega⟩
      rw [List.length_append]
      exact Nat.le_add_right _ _
    rw [writeYear, if_neg hplain, List.cons_append]
    by_cases hnegative : year < 0
    · rw [if_pos hnegative, scanYear, hscan]
      refine congrArg (fun y => Except.ok (y, rest)) ?_
      omega
    · rw [if_neg hnegative, scanYear, hscan]
      refine congrArg (fun y => Except.ok (y, rest)) ?_
      omega

theorem fractionNanos_lt {ds : List Char} (h : ∀ c ∈ ds, c.isDigit = true) :
    fractionNanos ds < nanosPerSecond := by
  have hlt := digitsValue_lt (ds.take 9) fun c hc => h c (List.mem_of_mem_take hc)
  have hpow : 10 ^ (ds.take 9).length * Nat.pow 10 (9 - (ds.take 9).length) = nanosPerSecond := by
    rw [Nat.pow_eq, ← Nat.pow_add, Nat.add_sub_cancel' (List.length_take_le 9 ds)]
    rfl
  rw [fractionNanos, ← hpow]
  exact Nat.mul_lt_mul_of_pos_right hlt (Nat.pow_pos (by decide))

/-- A padded number of some digits of a fraction shows as many of its nanoseconds. -/
theorem fractionNanos_zeroPadded {width n : Nat} (hpos : 0 < width) (hwidth : width ≤ 9)
    (hn : n < 10 ^ width) : fractionNanos (zeroPadded width n) = n * Nat.pow 10 (9 - width) := by
  have hlength := length_zeroPadded hpos hn
  rw [fractionNanos, List.take_of_length_le (by omega), digitsValue_zeroPadded, hlength]

/-- A fraction that is not zero is written as digits that show it whole. -/
theorem exists_writeFraction {nanos : Nat} (hne : nanos ≠ 0) (hlt : nanos < 10 ^ 9) :
    ∃ width n, writeFraction nanos = '.' :: zeroPadded width n ∧
      fractionNanos (zeroPadded width n) = nanos := by
  rw [writeFraction, if_neg hne]
  by_cases hmillis : nanos % 1000000 = 0
  · rw [if_pos hmillis]
    refine ⟨3, nanos / 1000000, rfl, ?_⟩
    rw [fractionNanos_zeroPadded (by omega) (by omega) (by omega)]
    exact Nat.div_mul_cancel (Nat.dvd_of_mod_eq_zero hmillis)
  · rw [if_neg hmillis]
    by_cases hmicros : nanos % 1000 = 0
    · rw [if_pos hmicros]
      refine ⟨6, nanos / 1000, rfl, ?_⟩
      rw [fractionNanos_zeroPadded (by omega) (by omega) (by omega)]
      exact Nat.div_mul_cancel (Nat.dvd_of_mod_eq_zero hmicros)
    · rw [if_neg hmicros]
      refine ⟨9, nanos, rfl, ?_⟩
      rw [fractionNanos_zeroPadded (by omega) (by omega) hlt]
      exact Nat.mul_one nanos

end RegionScan
