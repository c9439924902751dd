import RegionScan.Proofs.Calendar.DayNumber
import Mathlib.Algebra.Group.Int.Defs

/-!
# Days and Instants of the Calendar

Which days the calendar has, and which date-time an instant is.

Every day number falls into a year, and taking off the units gives the year and the
day within it even where the calendar has no such year. So there is a date for
exactly the day numbers from the first day of the first year to the last day of the
last one, and it is the date with that day number. The same holds of instants. A
date-time is found from seconds and nanoseconds exactly if it has them, so taking an
offset off a date-time moves its instant by the offset and does nothing else.

## Main definitions

* `Date.firstDay`, `Date.lastDay`: The day numbers where the calendar ends.

## Theorems

* `Date.exists_year`, `Date.daysBeforeYear_add_one`: Which years the days fall into.
* `Date.exists_dayNumber_eq_iff`: The days of the calendar.
* `Date.ofDayNumber?_eq_some_iff`: The date of a day number.
* `DateTime.ofUnix?_eq_some_iff`, `DateTime.minusOffset?_eq_some_iff`: The date-time
  of an instant, and of one moved by an offset.
* `DateTime.exists_ofUnix?`: There is one for every instant of the calendar.
-/

namespace RegionScan

namespace Date

/-- The day number of the first day of the calendar. -/
def firstDay : Int := daysBeforeYear minYear

/-- The day number of the last day of the calendar. -/
def lastDay : Int := daysBeforeYear (maxYear + 1) - 1

/-- Every day number has a place in a cycle of four centuries. -/
theorem exists_dayUnits (n : Int) :
    ∃ (a : Int) (b c e k : Nat), b ≤ 3 ∧ c ≤ 24 ∧ e ≤ 3 ∧
      (k < if e = 3 ∧ (c = 24 → b = 3) then 366 else 365) ∧
      n = 146097 * a + (36524 * b + 1461 * c + 365 * e + k : Nat) := by
  generalize hr : (n % 146097).toNat = r
  generalize hb : min 3 (r / 36524) = b
  generalize hc : (r - 36524 * b) / 1461 = c
  generalize he : min 3 ((r - 36524 * b) % 1461 / 365) = e
  refine ⟨n / 146097, b, c, e, (r - 36524 * b) % 1461 - 365 * e, ?_, ?_, ?_, ?_, ?_⟩
  · omega
  · omega
  · omega
  · -- Only the cap leaves a day more than 365, and only in the last year of a unit.
    split
    · omega
    · rename_i hshort
      have hlast : ¬ (e = 3 ∧ (c ≠ 24 ∨ b = 3)) := fun h => hshort ⟨h.1, fun h24 => by omega⟩
      omega
  · omega

/-- Every day number falls into a year. -/
theorem exists_year (n : Int) :
    ∃ (year : Int) (k : Nat), k < daysInYear year ∧ n = daysBeforeYear year + k ∧
      ofDayNumber? n = ofOrdinal? year (k + 1) := by
  obtain ⟨a, b, c, e, k, hb, hc, he, hk, rfl⟩ := exists_dayUnits n
  refine ⟨400 * a + (100 * b + 4 * c + e + 1 : Nat), k, ?_, ?_, ?_⟩
  · rw [daysInYear]
    simp only [isLeapYear_iff hb hc he]
    exact hk
  · rw [daysBeforeYear_eq a hb hc he]
    omega
  · rw [ofDayNumber?, yearOfDay_eq a hb hc he hk]

/-- A day of a run of months falls into one of them. -/
theorem exists_month (lengths : List Nat) :
    ∀ {n : Nat}, n < lengths.sum →
      ∃ (m j : Nat) (h : m < lengths.length), j < lengths[m] ∧ (lengths.take m).sum + j = n := by
  induction lengths with
  | nil => exact fun h => absurd h (Nat.not_lt_zero _)
  | cons length rest ih =>
      intro n hn
      rw [List.sum_cons] at hn
      by_cases hfirst : n < length
      · exact ⟨0, n, Nat.succ_pos _, hfirst, Nat.zero_add n⟩
      · obtain ⟨m, j, hm, hj, hsum⟩ := ih (by omega : n - length < rest.sum)
        refine ⟨m + 1, j, Nat.succ_lt_succ hm, hj, ?_⟩
        rw [List.take_succ_cons, List.sum_cons]
        omega

/-- Every day of a year of the calendar is a date. -/
theorem exists_ordinal_eq {year : Int} (hyear : minYear ≤ year ∧ year ≤ maxYear) {k : Nat}
    (hk : k < daysInYear year) : ∃ d : Date, d.year = year ∧ d.ordinal = k + 1 := by
  have hsum : k < (monthLengths (isLeapYear year)).sum := by
    rw [sum_monthLengths]
    exact hk
  obtain ⟨m, j, hm, hj, hplace⟩ := exists_month _ hsum
  have hday : j + 1 ≤ daysInMonth year (m + 1) := by
    rw [daysInMonth, List.getElem?_eq_getElem hm, Option.getD_some]
    exact hj
  refine ⟨⟨year, m + 1, j + 1, hyear, Nat.succ_pos j, hday⟩, rfl, ?_⟩
  rw [ordinal_eq]
  dsimp only
  rw [Nat.add_sub_cancel, Nat.add_sub_cancel, hplace]

theorem ofOrdinal?_of_notMem {year : Int} (hyear : ¬ (minYear ≤ year ∧ year ≤ maxYear))
    (ordinal : Nat) : ofOrdinal? year ordinal = none := by
  cases ordinal with
  | zero => rfl
  | succ k =>
      rw [ofOrdinal?]
      exact dif_neg fun h => hyear h.1

/-- The date of a day number is the one that has it. -/
theorem ofDayNumber?_eq_some_iff {n : Int} {d : Date} :
    ofDayNumber? n = some d ↔ d.dayNumber = n := by
  refine ⟨fun h => ?_, fun h => h ▸ d.ofDayNumber?_dayNumber⟩
  obtain ⟨year, k, hk, hn, heq⟩ := exists_year n
  by_cases hyear : minYear ≤ year ∧ year ≤ maxYear
  · obtain ⟨found, rfl, hordinal⟩ := exists_ordinal_eq hyear hk
    have hnumber : found.dayNumber = n := by
      rw [dayNumber, hordinal, hn]
      omega
    have hfound := found.ofDayNumber?_dayNumber
    rw [hnumber, h] at hfound
    rw [Option.some.inj hfound, hnumber]
  · rw [h, ofOrdinal?_of_notMem hyear] at heq
    cases heq

theorem ofUnixDay?_eq_some_iff {n : Int} {d : Date} : ofUnixDay? n = some d ↔ d.unixDay = n := by
  rw [ofUnixDay?, ofDayNumber?_eq_some_iff, unixDay]
  omega

/-- A year ends where the next one begins. -/
theorem daysBeforeYear_add_one (year : Int) :
    daysBeforeYear (year + 1) = daysBeforeYear year + daysInYear year := by
  obtain ⟨a, b, c, e, hb, hc, he, rfl⟩ := exists_units year
  simp only [daysInYear, isLeapYear_iff hb hc he]
  split
  · simp only [daysBeforeYear]
    omega
  · simp only [daysBeforeYear]
    omega

theorem daysBeforeYear_mono {year later : Int} (h : year ≤ later) :
    daysBeforeYear year ≤ daysBeforeYear later := by
  simp only [daysBeforeYear]
  omega

/-- The day number of a date lies within its year. -/
theorem dayNumber_mem (d : Date) :
    daysBeforeYear d.year ≤ d.dayNumber ∧ d.dayNumber < daysBeforeYear (d.year + 1) := by
  obtain ⟨hpos, hle⟩ := d.ordinal_le
  rw [daysBeforeYear_add_one, dayNumber]
  omega

/-- The day numbers of dates are those from the first to the last day of the
    calendar. -/
theorem exists_dayNumber_eq_iff (n : Int) :
    (∃ d : Date, d.dayNumber = n) ↔ firstDay ≤ n ∧ n ≤ lastDay := by
  constructor
  · rintro ⟨d, rfl⟩
    obtain ⟨hlow, hhigh⟩ := d.dayNumber_mem
    have hfirst := daysBeforeYear_mono d.year_mem.1
    have hlast := daysBeforeYear_mono (Int.add_le_add_right d.year_mem.2 1)
    rw [firstDay, lastDay]
    omega
  · rintro ⟨hlow, hhigh⟩
    obtain ⟨year, k, hk, hn, _⟩ := exists_year n
    have hend := daysBeforeYear_add_one year
    have hyear : minYear ≤ year ∧ year ≤ maxYear := by
      refine ⟨Int.not_lt.1 fun hbefore => ?_, Int.not_lt.1 fun hafter => ?_⟩
      · have hle := daysBeforeYear_mono (Int.add_one_le_of_lt hbefore)
        rw [firstDay] at hlow
        omega
      · have hle := daysBeforeYear_mono (Int.add_one_le_of_lt hafter)
        rw [lastDay] at hhigh
        omega
    obtain ⟨d, rfl, hordinal⟩ := exists_ordinal_eq hyear hk
    refine ⟨d, ?_⟩
    rw [dayNumber, hordinal, hn]
    omega

/-- The days of the calendar, counted from the epoch. -/
theorem unixDay_mem (d : Date) : -96465292 ≤ d.unixDay ∧ d.unixDay ≤ 95026236 := by
  have hmem := (exists_dayNumber_eq_iff d.dayNumber).1 ⟨d, rfl⟩
  simp only [firstDay, lastDay, daysBeforeYear, minYear, maxYear] at hmem
  rw [unixDay, unixEpoch]
  omega

end Date

/-- A time is found again by its second and its nanoseconds. -/
theorem TimeOfDay.ofSeconds?_seconds (t : TimeOfDay) : ofSeconds? t.seconds t.nanos = some t := by
  rw [ofSeconds?, dif_pos ⟨t.seconds_lt, t.nanos_lt, t.leap_second⟩]

/-- A time of day is found from a second and nanoseconds exactly if it has them. -/
theorem TimeOfDay.ofSeconds?_eq_some_iff {seconds nanos : Nat} {t : TimeOfDay} :
    ofSeconds? seconds nanos = some t ↔ t.seconds = seconds ∧ t.nanos = nanos := by
  constructor
  · intro h
    rw [ofSeconds?] at h
    split at h
    · obtain rfl := Option.some.inj h
      exact ⟨rfl, rfl⟩
    · cases h
  · rintro ⟨rfl, rfl⟩
    exact t.ofSeconds?_seconds

namespace DateTime

/-- The day and the second of the day are the quotient and the remainder of the
    seconds. -/
theorem unixSeconds_divMod (t : DateTime) :
    t.unixSeconds / (secondsPerDay : Int) = t.date.unixDay ∧
      t.unixSeconds % (secondsPerDay : Int) = t.time.seconds := by
  have hlt := t.time.seconds_lt
  rw [unixSeconds]
  simp only [secondsPerDay] at hlt ⊢
  omega

/-- A date-time is found from seconds and nanoseconds exactly if it has them. -/
theorem ofUnix?_eq_some_iff {seconds : Int} {nanos : Nat} {t : DateTime} :
    ofUnix? seconds nanos = some t ↔ t.unixSeconds = seconds ∧ t.time.nanos = nanos := by
  constructor
  · intro h
    obtain ⟨date, hdate, h⟩ := Option.bind_eq_some_iff.1 h
    obtain ⟨time, htime, h⟩ := Option.bind_eq_some_iff.1 h
    obtain rfl := Option.some.inj h
    obtain ⟨hseconds, hnanos⟩ := TimeOfDay.ofSeconds?_eq_some_iff.1 htime
    have hday := Date.ofUnixDay?_eq_some_iff.1 hdate
    refine ⟨?_, hnanos⟩
    simp only [unixSeconds, hday, hseconds, secondsPerDay]
    omega
  · rintro ⟨rfl, rfl⟩
    obtain ⟨hday, hsecond⟩ := t.unixSeconds_divMod
    rw [ofUnix?, hday, hsecond, Date.ofUnixDay?_unixDay, Int.toNat_natCast,
      TimeOfDay.ofSeconds?_seconds]
    rfl

theorem ofUnixMillis?_eq_some_iff {millis : Int} {t : DateTime} :
    ofUnixMillis? millis = some t ↔
      t.unixSeconds = millis / 1000 ∧ t.time.nanos = (millis % 1000).toNat * 1000000 :=
  ofUnix?_eq_some_iff

/-- There is a date-time for every instant of the calendar. -/
theorem exists_ofUnix? {seconds : Int} {nanos : Nat} (hnanos : nanos < nanosPerSecond)
    (hday : Date.firstDay ≤ seconds / (secondsPerDay : Int) + Date.unixEpoch ∧
      seconds / (secondsPerDay : Int) + Date.unixEpoch ≤ Date.lastDay) :
    ∃ t, ofUnix? seconds nanos = some t := by
  obtain ⟨date, hdate⟩ := (Date.exists_dayNumber_eq_iff _).2 hday
  have hsecond : (seconds % (secondsPerDay : Int)).toNat < secondsPerDay := by
    simp only [secondsPerDay]
    omega
  have htime : ∃ time, TimeOfDay.ofSeconds? (seconds % (secondsPerDay : Int)).toNat nanos
      = some time :=
    ⟨_, dif_pos ⟨hsecond, by omega, fun hleap => absurd hleap (Nat.not_le.2 hnanos)⟩⟩
  obtain ⟨time, htime⟩ := htime
  refine ⟨⟨date, time⟩, ?_⟩
  rw [ofUnix?, Date.ofUnixDay?, Date.ofDayNumber?_eq_some_iff.2 hdate, htime]
  rfl

/-- The milliseconds of an instant of the calendar are far from the end of their type. -/
theorem unixMillis_lt (t : DateTime) : t.unixMillis < 2 ^ 63 := by
  have hday := t.date.unixDay_mem
  have hsecond := t.time.seconds_lt
  have hnanos := t.time.nanos_lt
  rw [unixMillis, unixSeconds]
  simp only [secondsPerDay, nanosPerSecond] at hsecond hnanos ⊢
  omega

/-- Taking off an offset moves the instant and leaves the fraction alone. -/
theorem minusOffset?_eq_some_iff {t utc : DateTime} {minutes : Int} :
    t.minusOffset? minutes = some utc ↔
      utc.unixSeconds = t.unixSeconds - 60 * minutes ∧ utc.time.nanos = t.time.nanos :=
  ofUnix?_eq_some_iff

theorem minusOffset?_zero (t : DateTime) : t.minusOffset? 0 = some t := by
  rw [minusOffset?_eq_some_iff]
  omega

end DateTime

/-- A date-time read at an offset of nothing is one in UTC. -/
theorem DateFields.applyOffset_zero (t : DateTime) : applyOffset t 0 = .ok t := by
  rw [applyOffset, if_pos (by decide), t.minusOffset?_zero]

end RegionScan
