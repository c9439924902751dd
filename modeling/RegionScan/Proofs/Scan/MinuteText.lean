import RegionScan.Proofs.Calendar.LenientText
import RegionScan.Scan.ReadPoint

/-!
# Instants Without Seconds

Which texts are read as a date-time and an offset without seconds, and which instant
they name.

This form is read by a layout, which is more lenient than the one that has seconds.
What a text shows is found in the fields that the items of the layout set, one after
the other. No field is set twice. So the fields at the end are all known, no two of
them can disagree, and the date and the time are made up of what the text shows.

## Main definitions

* `ReadPoint.ShowsMinute`: Texts of a date-time and an offset without seconds.
* `ReadPoint.minuteFields`: The fields that such a text has.

## Theorems

* `ReadPoint.of_readItems_minuteLayout`: What the items of the layout take.
* `ReadPoint.of_readUtc_minuteLayout`: What is read is shown.
-/

namespace RegionScan

namespace ReadPoint

theorem minuteLayout_eq : minuteLayout = Coercion.dateLayout ++ [.literal ['T'],
    .number .hour true, .literal [':'], .number .minute true, .offset true] := rfl

/-- The texts of a date-time and an offset without seconds. -/
inductive ShowsMinute : List Char → DateTime → Int → Prop
  | intro {year month day hour minute zone : List Char} {t : DateTime} {offset : Int}
      (hyear : ShowsYear year t.date.year) (hmonth : ShowsNumber 2 month t.date.month)
      (hday : ShowsNumber 2 day t.date.day) (hhour : ShowsNumber 2 hour t.time.hour)
      (hminute : ShowsNumber 2 minute t.time.minute) (hsecond : t.time.second = 0)
      (hfraction : t.time.fraction = 0) (hzone : ShowsOffset zone offset) :
      ShowsMinute (year ++ '-' :: (month ++ '-' :: (day ++ 'T' :: (hour ++ ':' :: (minute ++ zone)))))
        t offset

/-- The fields that such a text has. -/
def minuteFields (year : Int) (month day hour minute : Nat) (offset : Int) : DateFields :=
  { DateFields.ofDate year month day with
    afternoon := some (decide (12 ≤ hour)), hourOfHalfDay := some (hour % 12),
    minute := some minute, offset := some offset }

/-- What the items of the layout take. -/
theorem of_readItems_minuteLayout {f : DateFields} {s rest : List Char}
    (h : Layout.readItems .none s minuteLayout = .ok (f, rest)) :
    ∃ (y mo d ho mi z : List Char) (year : Int) (month day hour minute : Nat) (offset : Int),
      ShowsYear y year ∧ ShowsNumber 2 mo month ∧ ShowsNumber 2 d day ∧ ShowsNumber 2 ho hour ∧
      ShowsNumber 2 mi minute ∧ ShowsOffset z offset ∧ hour < 24 ∧
      s = y ++ '-' :: (mo ++ '-' :: (d ++ 'T' :: (ho ++ ':' :: (mi ++ (z ++ rest))))) ∧
      f = minuteFields year month day hour minute offset := by
  rw [minuteLayout_eq] at h
  obtain ⟨y, mo, d, s₀, year, month, day, hyshows, hmoshows, hdshows, hs, h⟩ :=
    Layout.of_readItems_date h
  obtain ⟨⟨f₁, s₁⟩, hletter, h⟩ := except_bind_eq_ok.1 h
  obtain ⟨⟨f₂, s₂⟩, hhour, h⟩ := except_bind_eq_ok.1 h
  obtain ⟨⟨f₃, s₃⟩, hcolon, h⟩ := except_bind_eq_ok.1 h
  obtain ⟨⟨f₄, s₄⟩, hminute, h⟩ := except_bind_eq_ok.1 h
  obtain ⟨⟨f₅, s₅⟩, hzone, h⟩ := except_bind_eq_ok.1 h
  obtain ⟨rfl, rfl⟩ := Prod.mk.inj (Except.ok.inj h)
  obtain ⟨rfl, rfl⟩ := LayoutItem.of_read_literal hletter
  obtain ⟨ho, hour, hhoshows, rfl, hhoset⟩ := LayoutItem.of_read_number (by decide) hhour
  obtain ⟨rfl, rfl⟩ := LayoutItem.of_read_literal hcolon
  obtain ⟨mi, minute, hmishows, rfl, hmiset⟩ := LayoutItem.of_read_number (by decide) hminute
  obtain ⟨z, offset, hzshows, rfl, known, hagree, rfl⟩ := LayoutItem.of_read_offset hzone
  -- A date has no hour, minute or offset, so these are set for the first time, too.
  obtain ⟨hlt, rfl⟩ := DateFields.of_setHour rfl rfl hhoset
  obtain rfl := DateFields.of_given (fun known => { DateFields.ofDate year month day with
    afternoon := some (decide (12 ≤ hour)), hourOfHalfDay := some (hour % 12),
    minute := known }) hmiset
  obtain rfl := Except.ok.inj hagree
  exact ⟨y, mo, d, ho, mi, z, year, month, day, hour, minute, offset, hyshows, hmoshows, hdshows,
    hhoshows, hmishows, hzshows, hlt, hs, rfl⟩

section

variable {year : Int} {month day hour minute : Nat} {offset : Int}

/-- Their date has the year, the month and the day. -/
theorem of_toDate_minuteFields {d : Date}
    (h : (minuteFields year month day hour minute offset).toDate = .ok d) :
    d.year = year ∧ d.month = month ∧ d.day = day := by
  rw [DateFields.toDate] at h
  obtain ⟨known, hyear, h⟩ := except_bind_eq_ok.1 h
  obtain rfl := Except.ok.inj hyear
  dsimp only [minuteFields, DateFields.ofDate] at h
  split at h
  · -- There is no other field that the date could disagree with.
    rename_i found hfound
    obtain rfl := Except.ok.inj h
    exact Date.ofYmd?_eq_some_iff.1 hfound
  · cases h

/-- Their time has the hour and the minute, and starts the minute. -/
theorem of_toTime_minuteFields {t : TimeOfDay} (hlt : hour < 24)
    (h : (minuteFields year month day hour minute offset).toTime = .ok t) :
    t.hour = hour ∧ t.minute = minute ∧ t.second = 0 ∧ t.fraction = 0 := by
  have hhour : (if decide (12 ≤ hour) = true then 12 else 0) + hour % 12 = hour := by
    by_cases hnoon : 12 ≤ hour
    · rw [if_pos (decide_eq_true hnoon)]
      omega
    · rw [if_neg (mt of_decide_eq_true hnoon)]
      omega
  rw [DateFields.toTime] at h
  dsimp only [minuteFields, DateFields.ofDate, DateFields.none] at h
  rw [hhour] at h
  split at h
  · rename_i found hfound
    obtain rfl := Except.ok.inj h
    exact (TimeOfDay.ofHms?_clock_eq_some_iff (by decide : 0 < nanosPerSecond)).1 hfound
  · cases h

end

/-- What is read by the layout without seconds shows a date-time and an offset below a
    day, and is the date-time of the instant in UTC. -/
theorem of_readUtc_minuteLayout {s : String} {utc : DateTime}
    (h : minuteLayout.readUtc s = .ok utc) :
    ∃ t offset, ShowsMinute s.toList t offset ∧ offset.natAbs < 1440 ∧
      t.minusOffset? offset = some utc := by
  obtain ⟨f, hfields, h⟩ := except_bind_eq_ok.1 h
  obtain ⟨⟨f, rest⟩, hitems, hend⟩ := except_bind_eq_ok.1 hfields
  obtain ⟨y, mo, d, ho, mi, z, year, month, day, hour, minute, offset, hy, hmo, hd, hho, hmi, hz,
    hlt, hs, rfl⟩ := of_readItems_minuteLayout hitems
  cases rest with
  | cons c rest => cases hend
  | nil =>
      obtain rfl := Except.ok.inj hend
      obtain ⟨t, ht, hutc⟩ := except_bind_eq_ok.1 h
      obtain ⟨hdate, htime⟩ := DateFields.toDateTime_eq_ok_iff.1 ht
      obtain ⟨hyear, hmonth, hday⟩ := of_toDate_minuteFields hdate
      obtain ⟨hhour, hminute, hsecond, hfraction⟩ := of_toTime_minuteFields hlt htime
      subst hyear hmonth hday hhour hminute
      refine ⟨t, offset, ?_, DateFields.applyOffset_eq_ok_iff.1 hutc⟩
      rw [hs, List.append_nil]
      exact .intro hy hmo hd hho hmi hsecond hfraction hz

end ReadPoint

end RegionScan
