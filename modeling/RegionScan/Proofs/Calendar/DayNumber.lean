import RegionScan.Calendar.Fields
import Mathlib.Algebra.GroupWithZero.Nat

/-!
# Day Numbers

A date and its day number name each other.

Counting the days before a year takes the years apart into cycles of four
centuries, centuries, blocks of four years and single years. Finding the year of
a day takes the same units off the day number again. Both agree because the day
that makes a unit longer than its fellows is always the last day of its last part:
a quotient that would point past the last part is capped, and the day stays in it.

The days of a year go to months in the same manner, with units of unequal length.

## Theorems

* `isLeapYear_iff`: The leap years in terms of the units.
* `Date.daysBeforeYear_eq`, `Date.yearOfDay_eq`: Both directions for years.
* `Date.splitByMonths_eq`: One direction for months.
* `Date.ofDayNumber?_dayNumber`: The date of a date's day number.
-/

namespace RegionScan

/-- A year is a leap year if it ends a block of four years, and a cycle if it ends a
    century. -/
theorem isLeapYear_iff {a : Int} {b c e : Nat} (hb : b ≤ 3) (hc : c ≤ 24) (he : e ≤ 3) :
    isLeapYear (400 * a + (100 * b + 4 * c + e + 1 : Nat)) = true ↔ e = 3 ∧ (c = 24 → b = 3) := by
  simp only [isLeapYear, Bool.and_eq_true, Bool.or_eq_true, beq_iff_eq, bne_iff_ne]
  omega

namespace Date

/-- The days before a year, by units. -/
theorem daysBeforeYear_eq (a : Int) {b c e : Nat} (hb : b ≤ 3) (hc : c ≤ 24) (he : e ≤ 3) :
    daysBeforeYear (400 * a + (100 * b + 4 * c + e + 1 : Nat))
      = 146097 * a + (36524 * b + 1461 * c + 365 * e : Nat) := by
  simp only [daysBeforeYear]
  omega

/-- The year of a day, by units. Only the last year of a unit has a day more. -/
theorem yearOfDay_eq (a : Int) {b c e k : Nat} (hb : b ≤ 3) (hc : c ≤ 24) (he : e ≤ 3)
    (hk : k < if e = 3 ∧ (c = 24 → b = 3) then 366 else 365) :
    yearOfDay (146097 * a + (36524 * b + 1461 * c + 365 * e + k : Nat))
      = (400 * a + (100 * b + 4 * c + e + 1 : Nat), k) := by
  have hlast : k ≤ 365 ∧ (k = 365 → e = 3 ∧ (c = 24 → b = 3)) := by
    split at hk
    · rename_i hleap
      exact ⟨by omega, fun _ => hleap⟩
    · exact ⟨by omega, by omega⟩
  have hcycle : (146097 * a + (36524 * b + 1461 * c + 365 * e + k : Nat)) / 146097 = a := by omega
  have hinCycle : ((146097 * a + (36524 * b + 1461 * c + 365 * e + k : Nat)) % 146097).toNat
      = 36524 * b + 1461 * c + 365 * e + k := by omega
  -- Without the cap the last day of a cycle would be in a fifth century.
  have hcentury : min 3 ((36524 * b + 1461 * c + 365 * e + k) / 36524) = b := by omega
  have hinCentury : 36524 * b + 1461 * c + 365 * e + k - 36524 * b = 1461 * c + 365 * e + k := by
    omega
  have hblock : (1461 * c + 365 * e + k) / 1461 = c := by omega
  have hinBlock : (1461 * c + 365 * e + k) % 1461 = 365 * e + k := by omega
  -- Likewise the last day of a block would be in a fifth year.
  have hyear : min 3 ((365 * e + k) / 365) = e := by omega
  simp only [yearOfDay, hcycle, hinCycle, hcentury, hinCentury, hblock, hinBlock, hyear,
    Nat.add_sub_cancel_left]

/-- A day of a month, counted from the start of the year, falls into that month. -/
theorem splitByMonths_eq (lengths : List Nat) :
    ∀ {m n : Nat}, (h : m < lengths.length) → n < lengths[m] →
      splitByMonths lengths ((lengths.take m).sum + n) = (m, n) := by
  induction lengths with
  | nil => exact fun h => absurd h (Nat.not_lt_zero _)
  | cons length rest ih =>
      intro m n hm hn
      cases m with
      | zero =>
          rw [List.getElem_cons_zero] at hn
          rw [List.take_zero, List.sum_nil, Nat.zero_add, splitByMonths, if_pos hn]
      | succ m =>
          have hge : ¬ length + (rest.take m).sum + n < length := by omega
          have hrest : length + (rest.take m).sum + n - length = (rest.take m).sum + n := by omega
          rw [List.take_succ_cons, List.sum_cons, splitByMonths, if_neg hge, hrest,
            ih (Nat.lt_of_succ_lt_succ hm) hn]

/-- The lengths of the months before one and of a day within it add up to no more
    than the length of the year. -/
theorem sum_take_add_lt (lengths : List Nat) :
    ∀ {m n : Nat}, (h : m < lengths.length) → n < lengths[m] →
      (lengths.take m).sum + n < lengths.sum := by
  induction lengths with
  | nil => exact fun h => absurd h (Nat.not_lt_zero _)
  | cons length rest ih =>
      intro m n hm hn
      cases m with
      | zero =>
          rw [List.getElem_cons_zero] at hn
          rw [List.take_zero, List.sum_nil, List.sum_cons]
          omega
      | succ m =>
          have hlt := ih (Nat.lt_of_succ_lt_succ hm) hn
          rw [List.take_succ_cons, List.sum_cons, List.sum_cons]
          omega

/-- The months of a year add up to its days. -/
theorem sum_monthLengths (leap : Bool) :
    (monthLengths leap).sum = if leap = true then 366 else 365 := by
  cases leap with
  | false => rfl
  | true => rfl

/-- The month of a date is one of its year's months, and the day is in it. -/
theorem lt_monthLengths (d : Date) :
    ∃ h : d.month - 1 < (monthLengths (isLeapYear d.year)).length,
      d.day - 1 < (monthLengths (isLeapYear d.year))[d.month - 1] ∧ 1 ≤ d.month := by
  obtain ⟨hday, hle⟩ := d.day_mem
  cases hmonth : d.month with
  | zero =>
      rw [hmonth, daysInMonth] at hle
      omega
  | succ m =>
      rw [hmonth, daysInMonth] at hle
      by_cases hm : m < (monthLengths (isLeapYear d.year)).length
      · rw [List.getElem?_eq_getElem hm, Option.getD_some] at hle
        refine ⟨hm, ?_, Nat.succ_pos m⟩
        simp only [Nat.add_sub_cancel]
        omega
      · rw [List.getElem?_eq_none (Nat.le_of_not_lt hm), Option.getD_none] at hle
        omega

theorem foldl_add (lengths : List Nat) :
    ∀ n : Nat, lengths.foldl (· + ·) n = lengths.sum + n := by
  induction lengths with
  | nil => exact fun n => (Nat.zero_add n).symm
  | cons length rest ih =>
      intro n
      rw [List.foldl_cons, ih, List.sum_cons]
      omega

/-- The day within the year counts the months before and the days of the month. -/
theorem ordinal_eq (d : Date) :
    d.ordinal = ((monthLengths (isLeapYear d.year)).take (d.month - 1)).sum + (d.day - 1) + 1 := by
  have hday := d.day_mem.1
  rw [ordinal, foldl_add]
  omega

/-- The date of a year and a day within it is the date they are of. -/
theorem ofOrdinal?_ordinal (d : Date) : ofOrdinal? d.year d.ordinal = some d := by
  obtain ⟨hm, hn, hmonth⟩ := d.lt_monthLengths
  have hday := d.day_mem.1
  rw [ordinal_eq, ofOrdinal?, splitByMonths_eq _ hm hn]
  dsimp only
  rw [Nat.sub_add_cancel hmonth, Nat.sub_add_cancel hday, ofYmd?, dif_pos ⟨d.year_mem, d.day_mem⟩]

theorem ordinal_le (d : Date) : 1 ≤ d.ordinal ∧ d.ordinal ≤ daysInYear d.year := by
  obtain ⟨hm, hn, _⟩ := d.lt_monthLengths
  have hlt := sum_take_add_lt _ hm hn
  rw [sum_monthLengths] at hlt
  rw [ordinal_eq, daysInYear]
  omega

/-- Every year has a place in a cycle of four centuries. -/
theorem exists_units (year : Int) :
    ∃ (a : Int) (b c e : Nat), b ≤ 3 ∧ c ≤ 24 ∧ e ≤ 3 ∧
      year = 400 * a + (100 * b + 4 * c + e + 1 : Nat) := by
  generalize hr : ((year - 1) % 400).toNat = r
  refine ⟨(year - 1) / 400, r / 100, r % 100 / 4, r % 4, ?_, ?_, ?_, ?_⟩
  · omega
  · omega
  · omega
  · omega

/-- A date is found again by its day number. -/
theorem ofDayNumber?_dayNumber (d : Date) : ofDayNumber? d.dayNumber = some d := by
  obtain ⟨a, b, c, e, hb, hc, he, hyear⟩ := exists_units d.year
  obtain ⟨hpos, hle⟩ := d.ordinal_le
  -- The day within the year is below the length that the units give the year.
  have hk : d.ordinal - 1 < if e = 3 ∧ (c = 24 → b = 3) then 366 else 365 := by
    rw [daysInYear, hyear] at hle
    simp only [isLeapYear_iff hb hc he] at hle
    omega
  have hnumber : d.dayNumber
      = 146097 * a + (36524 * b + 1461 * c + 365 * e + (d.ordinal - 1) : Nat) := by
    rw [dayNumber, hyear, daysBeforeYear_eq a hb hc he]
    omega
  rw [ofDayNumber?, hnumber, yearOfDay_eq a hb hc he hk]
  dsimp only
  rw [← hyear, Nat.sub_add_cancel hpos]
  exact d.ofOrdinal?_ordinal

theorem ofUnixDay?_unixDay (d : Date) : ofUnixDay? d.unixDay = some d := by
  rw [ofUnixDay?, unixDay, Int.sub_add_cancel]
  exact d.ofDayNumber?_dayNumber

end Date

end RegionScan
