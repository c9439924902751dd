import RegionScan.Proofs.Calendar.Instant
import RegionScan.Proofs.Calendar.Scanning

/-!
# Fields That Are Shown

What the items of a layout tell of a date-time, and what can be made of it.

Some items show a field whole and with a fixed width: the four digits of a year, two
digits of a month, a day, an hour, a minute or a second, so many digits of the
fraction, and the offset. Such an item is read again for what it was written,
whatever stands behind it. So once some of them have been read, the fields that are
known are those that they show, each with its value in the date-time
(`DateFields.shown`). Reading one more item adds that item, and reading one twice
changes nothing, since it is the same value.

The date is found again if its three fields are shown, and the time if its three
are, up to the digits of the fraction that are not shown. An instant needs all of
them.

## Main definitions

* `LayoutItem.isFixed`: Items of a fixed width.
* `TimeOfDay.cut`: A time with so many digits of the fraction.
* `DateFields.shown`: The fields that some items show.

## Theorems

* `LayoutItem.read_fixed`: An item is read again.
* `DateFields.toDate_shown`, `DateFields.toTime_shown`: The date and the time.
* `DateFields.toUtc_shown`: Both, with an offset.
-/

namespace RegionScan

/-- Whether an item stands for itself, or for a field of a fixed width. All items for
    the fraction have so many places. -/
def LayoutItem.isFixed (places : Nat) : LayoutItem → Bool
  | .literal _ | .percent | .space _ => true
  | .number .yearOfCentury _ | .number .dayOfYear _ | .number .hourOfHalfDay _ => false
  | .number _ padded => padded
  | .fractionDigits digits => digits == places && 0 < digits && digits ≤ 9
  | .offset colon => colon
  | _ => false

/-- Nanoseconds, of which so many digits are kept. -/
def cutNanos (places nanos : Nat) : Nat := nanos / Nat.pow 10 (9 - places) * Nat.pow 10 (9 - places)

theorem cutNanos_le (places nanos : Nat) : cutNanos places nanos ≤ nanos :=
  Nat.div_mul_le_self nanos _

/-- A time with so many digits of the fraction of its second. -/
def TimeOfDay.cut (places : Nat) (t : TimeOfDay) : TimeOfDay where
  seconds := t.seconds
  nanos := cutNanos places t.nanos
  seconds_lt := t.seconds_lt
  nanos_lt := Nat.lt_of_le_of_lt (cutNanos_le places t.nanos) t.nanos_lt
  leap_second h := t.leap_second (Nat.le_trans h (cutNanos_le places t.nanos))

namespace DateFields

/-- The fields that some items show of a date-time. -/
def shown (t : DateTime) (places : Nat) (items : Layout) : DateFields :=
  { none with
    year := if .number .year true ∈ items then some t.date.year else .none
    month := if .number .month true ∈ items then some t.date.month else .none
    day := if .number .day true ∈ items then some t.date.day else .none
    afternoon := if .number .hour true ∈ items then some (decide (12 ≤ t.time.hour)) else .none
    hourOfHalfDay := if .number .hour true ∈ items then some (t.time.hour % 12) else .none
    minute := if .number .minute true ∈ items then some t.time.minute else .none
    second := if .number .second true ∈ items then some t.time.second else .none
    nanos :=
      if .fractionDigits places ∈ items then some (cutNanos places t.time.fraction) else .none
    offset := if .offset true ∈ items then some 0 else .none }

theorem shown_nil (t : DateTime) (places : Nat) : shown t places [] = none := by
  simp only [shown, List.not_mem_nil, if_false, none]

/-- A field that has its value, or none, agrees with it. -/
theorem agree_ite [DecidableEq α] (p : Prop) [Decidable p] (a : α) :
    agree (if p then some a else .none) a = .ok (some a) := by
  by_cases h : p
  · rw [if_pos h, agree, if_pos rfl]
  · rw [if_neg h, agree]

end DateFields

/-- The ranges of what a date shows. -/
theorem Date.month_le (d : Date) : 1 ≤ d.month ∧ d.month ≤ 12 := by
  obtain ⟨hm, _, hpos⟩ := d.lt_monthLengths
  have hlength : (monthLengths (isLeapYear d.year)).length = 12 := rfl
  omega

theorem Date.day_le (d : Date) : 1 ≤ d.day ∧ d.day ≤ 31 := by
  obtain ⟨hm, hn, _⟩ := d.lt_monthLengths
  have hall : ∀ leap : Bool, ∀ n ∈ monthLengths leap, n ≤ 31 := by decide
  have hle := hall (isLeapYear d.year) _ (List.getElem_mem hm)
  have hday := d.day_mem.1
  omega

namespace TimeOfDay

/-- The ranges of what a time shows. -/
theorem hour_lt (t : TimeOfDay) : t.hour < 24 := by
  have hlt := t.seconds_lt
  simp only [secondsPerDay] at hlt
  rw [hour]
  omega

theorem minute_lt (t : TimeOfDay) : t.minute < 60 := Nat.mod_lt _ (by omega)

theorem second_le (t : TimeOfDay) : t.second ≤ 60 := by
  have hlt := t.nanos_lt
  simp only [nanosPerSecond] at hlt
  rw [second]
  simp only [nanosPerSecond]
  omega

end TimeOfDay

namespace DateFields

/-- Setting a number to what is shown shows it. -/
theorem setNumber_shown {field : NumberField} (hfield : field ≠ .year)
    {places : Nat} (hfixed : LayoutItem.isFixed places (.number field true) = true)
    (t : DateTime) (items : Layout) :
    (shown t places items).setNumber field (field.value t)
      = .ok (shown t places (items ++ [.number field true])) := by
  cases field with
  | year => exact absurd rfl hfield
  | yearOfCentury => cases hfixed
  | dayOfYear => cases hfixed
  | hourOfHalfDay => cases hfixed
  | month =>
      refine except_bind_eq_ok.2 ⟨_, if_pos t.date.month_le, ?_⟩
      exact except_bind_eq_ok.2 ⟨_, agree_ite _ _, congrArg Except.ok (by simp [shown])⟩
  | day =>
      refine except_bind_eq_ok.2 ⟨_, if_pos t.date.day_le, ?_⟩
      exact except_bind_eq_ok.2 ⟨_, agree_ite _ _, congrArg Except.ok (by simp [shown])⟩
  | hour =>
      refine except_bind_eq_ok.2 ⟨_, if_pos ⟨Nat.zero_le _, Nat.le_of_lt_succ t.time.hour_lt⟩, ?_⟩
      refine except_bind_eq_ok.2 ⟨_, agree_ite _ _, ?_⟩
      exact except_bind_eq_ok.2 ⟨_, agree_ite _ _, congrArg Except.ok (by simp [shown])⟩
  | minute =>
      refine except_bind_eq_ok.2 ⟨_, if_pos ⟨Nat.zero_le _, Nat.le_of_lt_succ t.time.minute_lt⟩, ?_⟩
      exact except_bind_eq_ok.2 ⟨_, agree_ite _ _, congrArg Except.ok (by simp [shown])⟩
  | second =>
      refine except_bind_eq_ok.2 ⟨_, if_pos ⟨Nat.zero_le _, t.time.second_le⟩, ?_⟩
      exact except_bind_eq_ok.2 ⟨_, agree_ite _ _, congrArg Except.ok (by simp [shown])⟩

/-- So does setting the year. -/
theorem setYear_shown (t : DateTime) (places : Nat) (items : Layout) :
    (shown t places items).setYear t.date.year
      = .ok (shown t places (items ++ [.number .year true])) := by
  have hyear := t.date.year_mem
  simp only [minYear, maxYear] at hyear
  rw [setYear, if_pos (by omega)]
  exact except_bind_eq_ok.2 ⟨_, agree_ite _ _, congrArg Except.ok (by simp [shown])⟩

end DateFields

/-- A number that is shown has no more digits than its field is wide. -/
theorem NumberField.value_lt {field : NumberField} (hfield : field ≠ .year) {places : Nat}
    (hfixed : LayoutItem.isFixed places (.number field true) = true) (t : DateTime) :
    field.value t < 10 ^ 2 := by
  have hmonth := t.date.month_le
  have hday := t.date.day_le
  have hhour := t.time.hour_lt
  have hminute := t.time.minute_lt
  have hsecond := t.time.second_le
  cases field with
  | year => exact absurd rfl hfield
  | yearOfCentury => cases hfixed
  | dayOfYear => cases hfixed
  | hourOfHalfDay => cases hfixed
  | month =>
      rw [value]
      omega
  | day =>
      rw [value]
      omega
  | hour =>
      rw [value]
      omega
  | minute =>
      rw [value]
      omega
  | second =>
      rw [value]
      omega

/-- The fraction that is shown has no more digits than places. -/
theorem TimeOfDay.fraction_div_lt (t : TimeOfDay) {places : Nat} (hplaces : places ≤ 9) :
    t.fraction / Nat.pow 10 (9 - places) < 10 ^ places := by
  have hlt : t.fraction < 10 ^ 9 := Nat.mod_lt _ (by decide)
  refine Nat.div_lt_of_lt_mul ?_
  rw [Nat.pow_eq, ← Nat.pow_add, Nat.sub_add_cancel hplaces]
  exact hlt

namespace LayoutItem

variable {places : Nat} {t : DateTime} {w : List Char}

/-- Whether an item is white space. -/
def isSpace : LayoutItem → Bool
  | .space _ => true
  | _ => false

/-- A number of two digits is read again. -/
theorem read_number {field : NumberField} (hfield : field ≠ .year)
    (hfixed : isFixed places (.number field true) = true) (items : Layout) (rest : List Char) :
    (number field true).read (.shown t places items) (field.write true t ++ rest)
      = .ok (.shown t places (items ++ [.number field true]), rest) := by
  have hlt := NumberField.value_lt hfield hfixed t
  have hwrite : field.write true t = zeroPadded 2 (field.value t) := by
    cases field with
    | year => exact absurd rfl hfield
    | dayOfYear => cases hfixed
    | _ => rfl
  have hwidth : field.width = 2 := by
    cases field with
    | year => exact absurd rfl hfield
    | dayOfYear => cases hfixed
    | _ => rfl
  have hscan := scanNumber_zeroPadded (by omega) hlt rest (by omega)
  rw [hwrite, read]
  · rw [(solid_zeroPadded 2 _).trimStart_append, hwidth]
    refine except_bind_eq_ok.2 ⟨_, hscan, ?_⟩
    exact except_bind_eq_ok.2 ⟨_, DateFields.setNumber_shown hfield hfixed t items, rfl⟩
  · exact hfield

/-- So is a year of four digits. -/
theorem read_year (hyear : 0 ≤ t.date.year ∧ t.date.year ≤ 9999) (items : Layout)
    (rest : List Char) :
    (number .year true).read (.shown t places items) (writeYear t.date.year ++ rest)
      = .ok (.shown t places (items ++ [.number .year true]), rest) := by
  have hscan := scanYear_zeroPadded (by omega : t.date.year.toNat < 10 ^ 4) rest
  have hcast : (t.date.year.toNat : Int) = t.date.year := Int.toNat_of_nonneg hyear.1
  rw [hcast] at hscan
  rw [writeYear, if_pos hyear, read, (solid_zeroPadded 4 _).trimStart_append]
  refine except_bind_eq_ok.2 ⟨_, hscan, ?_⟩
  exact except_bind_eq_ok.2 ⟨_, DateFields.setYear_shown t places items, rfl⟩

/-- So are the digits of the fraction. -/
theorem read_fractionDigits (hpos : 0 < places) (hplaces : places ≤ 9) (items : Layout)
    (rest : List Char) :
    (fractionDigits places).read (.shown t places items)
        (writeFractionDigits places t.time.fraction ++ rest)
      = .ok (.shown t places (items ++ [.fractionDigits places]), rest) := by
  have hscan := scanFractionDigits_zeroPadded hpos (t.time.fraction_div_lt hplaces) rest
  refine except_bind_eq_ok.2 ⟨_, hscan, ?_⟩
  exact except_bind_eq_ok.2 ⟨_, DateFields.agree_ite _ _,
    congrArg Except.ok (by simp [DateFields.shown, cutNanos])⟩

/-- So is the offset. -/
theorem read_offset (items : Layout) (rest : List Char) :
    (offset true).read (.shown t places items) ("+00:00".toList ++ rest)
      = .ok (.shown t places (items ++ [.offset true]), rest) := by
  have hsolid : Solid "+00:00".toList := .of_all rfl
  rw [read, hsolid.trimStart_append]
  refine except_bind_eq_ok.2 ⟨_, scanOffset_utc rest, ?_⟩
  exact except_bind_eq_ok.2 ⟨_, DateFields.agree_ite _ _,
    congrArg Except.ok (by simp [DateFields.shown])⟩

/-- What stands for itself shows no field. -/
theorem shown_append_text {item : LayoutItem}
    (h : (∃ text, item = .literal text) ∨ item = .percent ∨ ∃ text, item = .space text)
    (items : Layout) :
    DateFields.shown t places (items ++ [item]) = .shown t places items := by
  rcases h with ⟨text, rfl⟩ | rfl | ⟨text, rfl⟩
  · simp [DateFields.shown]
  · simp [DateFields.shown]
  · simp [DateFields.shown]

/-- An item of a fixed width is read again, whatever was read before and whatever
    stands behind it. -/
theorem read_fixed {item : LayoutItem} (hfixed : item.isFixed places = true)
    (hspace : item.isSpace = false) (hyear : 0 ≤ t.date.year ∧ t.date.year ≤ 9999)
    (hw : item.write? t = some w) (items : Layout) (rest : List Char) :
    item.read (.shown t places items) (w ++ rest)
      = .ok (.shown t places (items ++ [item]), rest) := by
  cases item with
  | literal text =>
      obtain rfl := Option.some.inj hw
      rw [shown_append_text (.inl ⟨_, rfl⟩)]
      exact except_bind_eq_ok.2 ⟨_, readLiteral_append _ rest, rfl⟩
  | percent =>
      obtain rfl := Option.some.inj hw
      rw [shown_append_text (.inr (.inl rfl))]
      exact except_bind_eq_ok.2 ⟨_, readLiteral_append _ rest, rfl⟩
  | space text => cases hspace
  | number field padded =>
      obtain rfl := Option.some.inj hw
      cases padded with
      | false => cases field with
        | _ => cases hfixed
      | true =>
          by_cases hfield : field = .year
          · subst hfield
            exact read_year hyear items rest
          · exact read_number hfield hfixed items rest
  | fractionDigits digits =>
      obtain rfl := Option.some.inj hw
      simp only [isFixed, Bool.and_eq_true, beq_iff_eq, decide_eq_true_eq] at hfixed
      obtain ⟨⟨rfl, hpos⟩, hplaces⟩ := hfixed
      exact read_fractionDigits hpos hplaces items rest
  | offset colon =>
      obtain rfl : colon = true := hfixed
      obtain rfl := Option.some.inj hw
      exact read_offset items rest
  | monthName _ => cases hfixed
  | weekdayName _ => cases hfixed
  | halfDay => cases hfixed
  | fraction _ => cases hfixed
  | unknown => cases hfixed

/-- What an item of a fixed width shows has no blank, unless it is literal text that
    has one. -/
theorem solid_of_isFixed {item : LayoutItem} (hfixed : item.isFixed places = true)
    (hspace : item.isSpace = false) (hliteral : ∀ text, item = .literal text → Solid text)
    (hyear : 0 ≤ t.date.year ∧ t.date.year ≤ 9999) :
    ∃ w, item.write? t = some w ∧ Solid w := by
  cases item with
  | literal text => exact ⟨text, rfl, hliteral text rfl⟩
  | percent => exact ⟨_, rfl, .of_all rfl⟩
  | space _ => cases hspace
  | number field padded =>
      refine ⟨_, rfl, ?_⟩
      cases padded with
      | false => cases field with
        | _ => cases hfixed
      | true =>
          cases field with
          | year =>
              rw [NumberField.write, writeYear, if_pos hyear]
              exact solid_zeroPadded 4 _
          | _ => exact solid_zeroPadded _ _
  | fractionDigits digits => exact ⟨_, rfl, solid_zeroPadded _ _⟩
  | offset colon =>
      obtain rfl : colon = true := hfixed
      exact ⟨_, rfl, .of_all rfl⟩
  | monthName _ => cases hfixed
  | weekdayName _ => cases hfixed
  | halfDay => cases hfixed
  | fraction _ => cases hfixed
  | unknown => cases hfixed

end LayoutItem

/-- The digits that are not shown are those of the fraction, also in a leap second. -/
theorem TimeOfDay.cutNanos_eq (t : TimeOfDay) {places : Nat} (hplaces : places ≤ 9) :
    cutNanos places t.nanos
      = t.nanos / nanosPerSecond * nanosPerSecond + cutNanos places t.fraction := by
  have hsplit : nanosPerSecond = Nat.pow 10 places * Nat.pow 10 (9 - places) := by
    rw [Nat.pow_eq, Nat.pow_eq, ← Nat.pow_add, Nat.add_sub_cancel' hplaces]
    rfl
  have hpos : 0 < Nat.pow 10 (9 - places) := Nat.pow_pos (by decide)
  -- A whole second is a multiple of what is cut off.
  have hnanos : t.nanos = t.fraction + t.nanos / nanosPerSecond * Nat.pow 10 places
      * Nat.pow 10 (9 - places) := by
    rw [Nat.mul_assoc, ← hsplit, fraction, Nat.mul_comm, Nat.mod_add_div]
  have hdiv : t.nanos / Nat.pow 10 (9 - places)
      = t.fraction / Nat.pow 10 (9 - places) + t.nanos / nanosPerSecond * Nat.pow 10 places :=
    (congrArg (· / Nat.pow 10 (9 - places)) hnanos).trans (Nat.add_mul_div_right _ _ hpos)
  rw [cutNanos, hdiv, Nat.add_mul, Nat.mul_assoc, ← hsplit, cutNanos, Nat.add_comm]

/-- A leap second is shown as second 60, and read as second 59 and a whole second
    more. -/
theorem TimeOfDay.second_split (t : TimeOfDay) :
    (if t.second = 60 then (59, nanosPerSecond) else (t.second, 0))
      = (t.seconds % 60, t.nanos / nanosPerSecond * nanosPerSecond) := by
  have hmod : t.seconds % 60 < 60 := Nat.mod_lt _ (by omega)
  by_cases h : nanosPerSecond ≤ t.nanos
  · have hone : t.nanos / nanosPerSecond = 1 := Nat.div_eq_of_lt_le (by omega) t.nanos_lt
    rw [second, hone, t.leap_second h, if_pos rfl, Nat.one_mul]
  · have hzero : t.nanos / nanosPerSecond = 0 := Nat.div_eq_of_lt (Nat.lt_of_not_le h)
    rw [second, hzero, Nat.add_zero, if_neg (Nat.ne_of_lt hmod), Nat.zero_mul]

/-- Hour, minute and second make up the second of the day. -/
theorem TimeOfDay.ofHms?_eq (t : TimeOfDay) (nanos : Nat) :
    ofHms? t.hour t.minute (t.seconds % 60) nanos = ofSeconds? t.seconds nanos := by
  have hseconds : 3600 * t.hour + 60 * t.minute + t.seconds % 60 = t.seconds := by
    rw [hour, minute]
    omega
  rw [ofHms?, if_pos ⟨t.hour_lt, t.minute_lt, Nat.mod_lt _ (by omega)⟩, hseconds]

namespace DateFields

variable {t : DateTime} {places : Nat} {items : Layout}

/-- A date is found again if its year, month and day are shown. -/
theorem toDate_shown (hyear : .number .year true ∈ items) (hmonth : .number .month true ∈ items)
    (hday : .number .day true ∈ items) : (shown t places items).toDate = .ok t.date := by
  have hfound : Date.ofYmd? t.date.year t.date.month t.date.day = some t.date := by
    rw [Date.ofYmd?, dif_pos ⟨t.date.year_mem, t.date.day_mem⟩]
  have hresolved : (shown t places items).resolveYear = .ok (some t.date.year) := by
    simp only [resolveYear, shown, none, if_pos hyear]
  refine except_bind_eq_ok.2 ⟨_, hresolved, ?_⟩
  simp only [shown, none, if_pos hmonth, if_pos hday, hfound]
  rfl

/-- A time is found again if its hour, minute and second are shown, up to the digits
    of the fraction that are not. -/
theorem toTime_shown (hhour : .number .hour true ∈ items)
    (hminute : .number .minute true ∈ items) (hsecond : .number .second true ∈ items)
    (hplaces : places ≤ 9) (hnanos : .fractionDigits places ∈ items ∨ places = 0) :
    (shown t places items).toTime = .ok (t.time.cut places) := by
  -- An hour is known by its half of the day and the hour in it.
  have hhourOfDay : (if decide (12 ≤ t.time.hour) = true then 12 else 0) + t.time.hour % 12
      = t.time.hour := by
    have hlt := t.time.hour_lt
    by_cases hnoon : 12 ≤ t.time.hour
    · rw [if_pos (decide_eq_true hnoon)]
      omega
    · rw [if_neg (mt of_decide_eq_true hnoon)]
      omega
  have hcut : (if .fractionDigits places ∈ items then some (cutNanos places t.time.fraction)
      else .none).getD 0 = cutNanos places t.time.fraction := by
    by_cases hmem : .fractionDigits places ∈ items
    · rw [if_pos hmem, Option.getD_some]
    · -- No digit is shown, and a fraction cut to no digits is nothing.
      obtain rfl := hnanos.resolve_left hmem
      have hlt : t.time.fraction < Nat.pow 10 (9 - 0) := Nat.mod_lt _ (by decide)
      rw [if_neg hmem, Option.getD_none, cutNanos, Nat.div_eq_of_lt hlt, Nat.zero_mul]
  simp only [toTime, shown, none, if_pos hhour, if_pos hminute, if_pos hsecond, hhourOfDay,
    t.time.second_split, hcut, t.time.ofHms?_eq, ← t.time.cutNanos_eq hplaces]
  have hfound := (t.time.cut places).ofSeconds?_seconds
  rw [TimeOfDay.cut] at hfound
  rw [hfound]
  rfl

/-- Without a year there is no date. -/
theorem toDate_shown_of_notMem (hyear : .number .year true ∉ items) :
    (shown t places items).toDate = .error .notEnough := by
  have hresolved : (shown t places items).resolveYear = .ok .none := by
    simp only [resolveYear, shown, none, if_neg hyear]
  rw [toDate, hresolved]
  rfl

/-- Without an hour there is no time. -/
theorem toTime_shown_of_notMem (hhour : .number .hour true ∉ items) :
    (shown t places items).toTime = .error .notEnough := by
  simp only [toTime, shown, if_neg hhour]

/-- The offset that is shown is that of UTC, so it changes nothing. -/
theorem toUtc_shown (hoffset : .offset true ∈ items) :
    (shown t places items).toUtc = (shown t places items).toDateTime := by
  have hzero : (shown t places items).offset = some 0 := if_pos hoffset
  rw [toUtc, hzero]
  dsimp only
  cases (shown t places items).toDateTime with
  | error _ => rfl
  | ok found => exact applyOffset_zero found

end DateFields

end RegionScan
