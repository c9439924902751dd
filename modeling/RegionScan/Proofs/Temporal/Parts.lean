import RegionScan.Coercion
import RegionScan.Proofs.Calendar.Instant
import RegionScan.Proofs.Results

/-!
# Parts of Timestamps

A timestamp is made of its date and its time of day.

The store counts dates in days and times of day and timestamps in microseconds, and
a timestamp is converted on a way of its own, by seconds and nanoseconds. Its date
and its time are nevertheless those of the whole days and of the microseconds that
remain, rounded down, so also before the epoch. For the seconds of the microseconds
and the days of the seconds are the days of the microseconds, and the type of a day
has room for all days that a timestamp can have. The other way round, every day of the
calendar starts at a timestamp, because the calendar ends before the microseconds do.

## Main definitions

* `microsPerDay`: The microseconds of a day.

## Theorems

* `TimeOfDay.ofMicros?_eq_some_iff`, `DateTime.ofUnixMicros?_eq_some_iff`: The time and
  the date-time of some microseconds.
* `coerce_date_eq_ok`, `coerce_time_eq_ok`, `coerce_timestamp_eq_ok`: Which raw values
  there is a date, a time or a timestamp for.
* `coerce_timestamp_parts`: The parts of a timestamp, and the start of a date.
-/

namespace RegionScan

/-- The microseconds of a day. -/
def microsPerDay : Int := 86400000000

/-- The time of some microseconds has their seconds and nanoseconds. There is none
    outside of the day, because no time has so many seconds. -/
theorem TimeOfDay.ofMicros?_eq_some_iff {micros : Int} {t : TimeOfDay} :
    ofMicros? micros = some t ↔
      (t.seconds : Int) = micros / 1000000 ∧ t.nanos = (micros % 1000000).toNat * 1000 := by
  have hlt := t.seconds_lt
  simp only [secondsPerDay] at hlt
  rw [ofMicros?]
  by_cases hday : 0 ≤ micros ∧ micros < 86400000000
  · rw [if_pos hday, ofSeconds?_eq_some_iff]
    omega
  · rw [if_neg hday]
    refine iff_of_false (Option.some_ne_none t).symm fun h => ?_
    omega

/-- The date-time of some microseconds has their seconds and nanoseconds. -/
theorem DateTime.ofUnixMicros?_eq_some_iff {micros : Int} {t : DateTime} :
    ofUnixMicros? micros = some t ↔
      t.unixSeconds = micros / 1000000 ∧ t.time.nanos = (micros % 1000000).toNat * 1000 :=
  ofUnix?_eq_some_iff

namespace Coercion

theorem require_eq_ok_iff {fault : CoercionFault} {found : Option α} {a : α} :
    require fault found = .ok a ↔ found = some a := by
  cases found with
  | none => exact iff_of_false except_error_ne_ok (Option.some_ne_none a).symm
  | some b => rw [require, Except.ok.injEq, Option.some.injEq]

end Coercion

section

variable {pattern : Option Pattern} {v : Value}

/-- A raw date is converted to the date of its days. -/
theorem coerce_date_eq_ok {days : Int32} :
    coerce (.date days) .date pattern = .ok v ↔ ∃ d : Date, v = .date d ∧ d.unixDay = days.toInt := by
  have heq : coerce (.date days) .date pattern
      = (Coercion.dateOfDays days.toInt).map .date := rfl
  rw [heq, except_map_eq_ok]
  simp only [Coercion.dateOfDays, Coercion.require_eq_ok_iff, Date.ofUnixDay?_eq_some_iff]
  exact ⟨fun ⟨d, hd, h⟩ => ⟨d, h.symm, hd⟩, fun ⟨d, h, hd⟩ => ⟨d, hd, h.symm⟩⟩

/-- A raw time is converted to the time of its microseconds. -/
theorem coerce_time_eq_ok {micros : Int64} :
    coerce (.time micros) .time pattern = .ok v ↔
      ∃ t : TimeOfDay, v = .time t ∧ (t.seconds : Int) = micros.toInt / 1000000 ∧
        t.nanos = (micros.toInt % 1000000).toNat * 1000 := by
  have heq : coerce (.time micros) .time pattern = (Coercion.timeOfMicros micros).map .time := rfl
  rw [heq, except_map_eq_ok]
  simp only [Coercion.timeOfMicros, Coercion.require_eq_ok_iff, TimeOfDay.ofMicros?_eq_some_iff]
  exact ⟨fun ⟨t, ht, h⟩ => ⟨t, h.symm, ht⟩, fun ⟨t, h, ht⟩ => ⟨t, ht, h.symm⟩⟩

theorem timestampOfMicros_eq_ok {m : Int64} {t : DateTime} :
    Coercion.timestampOfMicros m = .ok t ↔
      t.unixSeconds = m.toInt / 1000000 ∧ t.time.nanos = (m.toInt % 1000000).toNat * 1000 := by
  rw [Coercion.timestampOfMicros, Coercion.require_eq_ok_iff, DateTime.ofUnixMicros?_eq_some_iff]

/-- A raw timestamp is converted to the date-time of its microseconds. -/
theorem coerce_timestamp_eq_ok {m : Int64} :
    coerce (.timestamp m) .timestamp pattern = .ok v ↔
      ∃ t : DateTime, v = .timestamp t ∧ t.unixSeconds = m.toInt / 1000000 ∧
        t.time.nanos = (m.toInt % 1000000).toNat * 1000 := by
  have heq : coerce (.timestamp m) .timestamp pattern
      = (Coercion.timestampOfMicros m).map .timestamp := rfl
  rw [heq, except_map_eq_ok]
  simp only [timestampOfMicros_eq_ok]
  exact ⟨fun ⟨t, ht, h⟩ => ⟨t, h.symm, ht⟩, fun ⟨t, h, ht⟩ => ⟨t, ht, h.symm⟩⟩

end

/-- The date and the time of a timestamp have its whole days and what remains. -/
theorem DateTime.unixDay_of_micros {m : Int} {t : DateTime}
    (hseconds : t.unixSeconds = m / 1000000) :
    t.date.unixDay = m / microsPerDay ∧ (t.time.seconds : Int) = m % microsPerDay / 1000000 := by
  obtain ⟨hday, hsecond⟩ := t.unixSeconds_divMod
  rw [hseconds] at hday hsecond
  simp only [secondsPerDay] at hday hsecond
  simp only [microsPerDay]
  omega

/-- The start of a date has its days in microseconds. -/
theorem DateTime.unixSeconds_midnight (d : Date) :
    (midnight d).unixSeconds = d.unixDay * microsPerDay / 1000000 ∧
      (midnight d).time.nanos = (d.unixDay * microsPerDay % 1000000).toNat * 1000 := by
  simp only [midnight, unixSeconds, TimeOfDay.midnight, secondsPerDay, microsPerDay]
  omega

/-- A raw timestamp that is converted has a date and a time of day. They are what a raw
    date of its whole days and a raw time of the remaining microseconds are converted to.
    A raw date that is converted starts at the raw timestamp of its days. -/
theorem coerce_timestamp_parts (pattern other : Option Pattern) :
    (∀ (m : Int64) (v : Value), coerce (.timestamp m) .timestamp pattern = .ok v →
      ∃ (t : DateTime) (days : Int32) (micros : Int64), v = .timestamp t ∧
        days.toInt = m.toInt / microsPerDay ∧ micros.toInt = m.toInt % microsPerDay ∧
        coerce (.timestamp m) .date pattern = .ok (.date t.date) ∧
        coerce (.date days) .date other = .ok (.date t.date) ∧
        coerce (.timestamp m) .time pattern = .ok (.time t.time) ∧
        coerce (.time micros) .time other = .ok (.time t.time)) ∧
      ∀ (days : Int32) (v : Value), coerce (.date days) .date pattern = .ok v →
        ∃ (d : Date) (m : Int64), v = .date d ∧ m.toInt = days.toInt * microsPerDay ∧
          coerce (.date days) .timestamp pattern = .ok (.timestamp (.midnight d)) ∧
          coerce (.timestamp m) .timestamp other = .ok (.timestamp (.midnight d)) := by
  constructor
  · intro m v hv
    obtain ⟨t, rfl, hseconds, hnanos⟩ := coerce_timestamp_eq_ok.1 hv
    obtain ⟨hday, hsecond⟩ := DateTime.unixDay_of_micros hseconds
    have hfound := timestampOfMicros_eq_ok.2 ⟨hseconds, hnanos⟩
    have hrange := t.date.unixDay_mem
    have hdays : (Int32.ofInt (m.toInt / microsPerDay)).toInt = m.toInt / microsPerDay :=
      Int32.toInt_ofInt_of_le (by omega) (by omega)
    have hmicros : (Int64.ofInt (m.toInt % microsPerDay)).toInt = m.toInt % microsPerDay := by
      simp only [microsPerDay]
      exact Int64.toInt_ofInt_of_le (by omega) (by omega)
    refine ⟨t, .ofInt (m.toInt / microsPerDay), .ofInt (m.toInt % microsPerDay), rfl, hdays, hmicros,
      ?_, ?_, ?_, ?_⟩
    · exact congrArg (fun found => (found.map DateTime.date).map Value.date) hfound
    · exact coerce_date_eq_ok.2 ⟨t.date, rfl, hday.trans hdays.symm⟩
    · exact congrArg (fun found => (found.map DateTime.time).map Value.time) hfound
    · refine coerce_time_eq_ok.2 ⟨t.time, rfl, ?_, ?_⟩
      · rw [hmicros, hsecond]
      · -- A day has a whole number of seconds, so the rest of a second is the same.
        rw [hmicros, hnanos]
        simp only [microsPerDay]
        omega
  · intro days v hv
    obtain ⟨d, rfl, hday⟩ := coerce_date_eq_ok.1 hv
    have hrange := d.unixDay_mem
    have hm : (Int64.ofInt (days.toInt * microsPerDay)).toInt = days.toInt * microsPerDay := by
      simp only [microsPerDay]
      exact Int64.toInt_ofInt_of_le (by omega) (by omega)
    have hfound : Coercion.dateOfDays days.toInt = .ok d :=
      Coercion.require_eq_ok_iff.2 (Date.ofUnixDay?_eq_some_iff.2 hday)
    obtain ⟨hseconds, hnanos⟩ := DateTime.unixSeconds_midnight d
    rw [hday, ← hm] at hseconds hnanos
    refine ⟨d, .ofInt (days.toInt * microsPerDay), rfl, hm, ?_, ?_⟩
    · exact congrArg (fun found => (found.map DateTime.midnight).map Value.timestamp) hfound
    · exact coerce_timestamp_eq_ok.2 ⟨_, rfl, hseconds, hnanos⟩

/-- The last microsecond before the epoch. -/
def beforeEpoch : DateTime :=
  ⟨⟨1969, 12, 31, by decide, by decide⟩, ⟨86399, 999999000, by decide, by decide, by decide⟩⟩

/-- It is in the day before the epoch, near the end of it. -/
theorem coerce_parts_beforeEpoch :
    coerce (.timestamp (-1)) .timestamp none = .ok (.timestamp beforeEpoch) ∧
      (∃ (days : Int32) (micros : Int64), days.toInt = -1 ∧ micros.toInt = 86399999999 ∧
        coerce (.timestamp (-1)) .date none = .ok (.date beforeEpoch.date) ∧
        coerce (.date days) .date none = .ok (.date beforeEpoch.date) ∧
        coerce (.timestamp (-1)) .time none = .ok (.time beforeEpoch.time) ∧
        coerce (.time micros) .time none = .ok (.time beforeEpoch.time)) ∧
      coerce (.date (-1)) .date none = .ok (.date beforeEpoch.date) ∧
      ∃ m : Int64, m.toInt = -86400000000 ∧
        coerce (.date (-1)) .timestamp none = .ok (.timestamp (.midnight beforeEpoch.date)) ∧
        coerce (.timestamp m) .timestamp none = .ok (.timestamp (.midnight beforeEpoch.date)) := by
  obtain ⟨t, days, micros, ht, hparts⟩ :=
    (coerce_timestamp_parts none none).1 (-1) (.timestamp beforeEpoch) rfl
  obtain rfl := Value.timestamp.inj ht
  obtain ⟨d, m, hd, hstart⟩ := (coerce_timestamp_parts none none).2 (-1) (.date beforeEpoch.date) rfl
  obtain rfl := Value.date.inj hd
  exact ⟨rfl, ⟨days, micros, hparts⟩, rfl, m, hstart⟩

end RegionScan
