import RegionScan.Proofs.Calendar.IsoText
import RegionScan.Proofs.Temporal.Parts

/-!
# Temporal Values as Text

A date, a time or a timestamp comes back from its text.

There are two texts of a value. A raw value is converted to text by the layouts
without a pattern, and a value is shown in tables. They differ only in a timestamp,
which has a blank between its parts in the one and a `T` in the other, and both are
read. So nothing is lost on either way, wherever the value lies in the calendar and
however many digits its fraction has. The text of a raw value is that of the value it
is converted to, so it is read as this value.

The text of a date is also read as a timestamp. It is the start of the date, as the
raw date is.

## Main definitions

* `Value.temporalType?`, `RawValue.temporalType?`: The type of a temporal value.

## Theorems

* `coerce_display`: A value that is shown is read again.
* `coerce_text_date`, `coerce_text_time`, `coerce_text_timestamp`: The text of a raw
  value.
* `coerce_text_roundTrip`: Both, and the text of a date as a timestamp.
-/

namespace RegionScan

/-- The type of a date, a time or a timestamp. -/
def Value.temporalType? : Value → Option DataType
  | .date _ => some .date
  | .time _ => some .time
  | .timestamp _ => some .timestamp
  | _ => none

/-- The type that a raw date, time or timestamp is of. -/
def RawValue.temporalType? : RawValue → Option DataType
  | .date _ => some .date
  | .time _ => some .time
  | .timestamp _ => some .timestamp
  | _ => none

section

variable (s : String)

/-- A text is converted without a pattern by reading it in ISO form. -/
theorem coerce_string_date : coerce (.string s) .date none
    = ((Coercion.dateLayout.readDate (trim s)).mapError (.notDate s ·)).map .date := rfl

theorem coerce_string_time : coerce (.string s) .time none
    = ((Coercion.timeLayout.readTime (trim s)).mapError (.notDate s ·)).map .time := rfl

theorem coerce_string_timestamp : coerce (.string s) .timestamp none
    = (Coercion.readDefaultTimestamp s).map .timestamp := rfl

end

/-- A value that is shown is read again. -/
theorem coerce_display {v : Value} {type : DataType} (htype : v.temporalType? = some type) :
    coerce (.string v.display) type none = .ok v := by
  cases v with
  | date d =>
      obtain rfl := Option.some.inj htype
      rw [Value.display, coerce_string_date, Coercion.readDate_display]
      rfl
  | time t =>
      obtain rfl := Option.some.inj htype
      rw [Value.display, coerce_string_time, Coercion.readTime_display]
      rfl
  | timestamp t =>
      obtain rfl := Option.some.inj htype
      rw [Value.display, coerce_string_timestamp, DateTime.display,
        Coercion.readDefaultTimestamp_displayWith (.inr rfl)]
      rfl
  | _ => cases htype

/-- The text of a raw date is its value as shown. -/
theorem coerce_text_date {days : Int32} {d : Date}
    (hfound : Coercion.dateOfDays days.toInt = .ok d) :
    coerce (.date days) .text none = .ok (.string d.display) := by
  have hwritten : Coercion.toText none (.date days) = .ok d.display := by
    rw [Coercion.toText, hfound]
    exact congrArg (fun s => Except.ok (s.getD "")) (Coercion.write?_dateLayout (.midnight d))
  rw [coerce, hwritten]
  rfl

/-- So is that of a raw time. -/
theorem coerce_text_time {micros : Int64} {t : TimeOfDay}
    (hfound : Coercion.timeOfMicros micros = .ok t) :
    coerce (.time micros) .text none = .ok (.string t.display) := by
  -- The layout of a time is applied to a date-time, that of the epoch.
  have hepoch : Coercion.dateOfDays 0 = .ok ⟨1970, 1, 1, by decide, by decide⟩ := rfl
  have hwritten : Coercion.toText none (.time micros) = .ok t.display := by
    rw [Coercion.toText, hepoch, hfound]
    exact congrArg (fun s => Except.ok (s.getD "")) (Coercion.write?_timeLayout ⟨_, t⟩)
  rw [coerce, hwritten]
  rfl

/-- That of a raw timestamp has a blank between its parts. -/
theorem coerce_text_timestamp {m : Int64} {t : DateTime}
    (hfound : Coercion.timestampOfMicros m = .ok t) :
    coerce (.timestamp m) .text none = .ok (.string (t.displayWith " ")) := by
  have hwritten : Coercion.toText none (.timestamp m) = .ok (t.displayWith " ") := by
    rw [Coercion.toText, hfound]
    exact congrArg (fun s => Except.ok (s.getD "")) (Coercion.write?_timestampLayout t)
  rw [coerce, hwritten]
  rfl

/-- The text of a raw date, time or timestamp that is converted to its own type is read
    as the same value, and so is the value as shown. The text of a date is also read as
    the timestamp that the raw date is converted to. -/
theorem coerce_text_roundTrip {raw : RawValue} {type : DataType} {pattern : Option Pattern}
    {v : Value} (htype : raw.temporalType? = some type) (hv : coerce raw type pattern = .ok v) :
    ∃ s, coerce raw .text none = .ok (.string s) ∧
      coerce (.string s) type none = .ok v ∧
      coerce (.string v.display) type none = .ok v ∧
      (type = .date → ∃ start, coerce raw .timestamp pattern = .ok start ∧
        coerce (.string s) .timestamp none = .ok start ∧
        coerce (.string start.display) .timestamp none = .ok start) := by
  cases raw with
  | date days =>
      obtain rfl := Option.some.inj htype
      have hmap : (Coercion.dateOfDays days.toInt).map Value.date = .ok v := hv
      obtain ⟨d, hfound, rfl⟩ := except_map_eq_ok.1 hmap
      have hshown := coerce_display (rfl : (Value.date d).temporalType? = some .date)
      refine ⟨d.display, coerce_text_date hfound, hshown, hshown, fun _ => ?_⟩
      -- Both ways to a timestamp end at the start of the date.
      refine ⟨.timestamp (.midnight d), ?_, ?_, coerce_display rfl⟩
      · exact congrArg (fun found => (found.map DateTime.midnight).map Value.timestamp) hfound
      · rw [coerce_string_timestamp, Coercion.readDefaultTimestamp_date]
        rfl
  | time micros =>
      obtain rfl := Option.some.inj htype
      have hmap : (Coercion.timeOfMicros micros).map Value.time = .ok v := hv
      obtain ⟨t, hfound, rfl⟩ := except_map_eq_ok.1 hmap
      have hshown := coerce_display (rfl : (Value.time t).temporalType? = some .time)
      exact ⟨t.display, coerce_text_time hfound, hshown, hshown, nofun⟩
  | timestamp m =>
      obtain rfl := Option.some.inj htype
      have hmap : (Coercion.timestampOfMicros m).map Value.timestamp = .ok v := hv
      obtain ⟨t, hfound, rfl⟩ := except_map_eq_ok.1 hmap
      refine ⟨t.displayWith " ", coerce_text_timestamp hfound, ?_, coerce_display rfl, nofun⟩
      rw [coerce_string_timestamp, Coercion.readDefaultTimestamp_displayWith (.inl rfl)]
      rfl
  | _ => cases htype

/-- The last day before the year 0. -/
def lastDayBeforeYearZero : Date := ⟨-1, 12, 31, by decide, by decide⟩

/-- Its year has a sign, in the text and as shown. -/
theorem coerce_text_lastDayBeforeYearZero :
    RawValue.temporalType? (.date (-719529)) = some .date ∧
      coerce (.date (-719529)) .date none = .ok (.date lastDayBeforeYearZero) ∧
      ∃ s, coerce (.date (-719529)) .text none = .ok (.string s) ∧
        coerce (.string s) .date none = .ok (.date lastDayBeforeYearZero) ∧
        coerce (.string (Value.date lastDayBeforeYearZero).display) .date none
          = .ok (.date lastDayBeforeYearZero) ∧
        ∃ start, coerce (.date (-719529)) .timestamp none = .ok start ∧
          coerce (.string s) .timestamp none = .ok start ∧
          coerce (.string start.display) .timestamp none = .ok start := by
  have hv : coerce (.date (-719529)) .date none = .ok (.date lastDayBeforeYearZero) := rfl
  obtain ⟨s, htext, hread, hshown, hstart⟩ := coerce_text_roundTrip rfl hv
  exact ⟨rfl, hv, s, htext, hread, hshown, hstart rfl⟩

end RegionScan
