import RegionScan.Coercion
import RegionScan.Proofs.Calendar.Digits
import RegionScan.Proofs.Calendar.WrittenLayout

/-!
# ISO Text

Dates, times and date-times in ISO form are read again, over the whole calendar.

The ISO forms are those without a pattern. They differ from what patterns show in two
places. A year outside of four digits has a sign and is read up to the hyphen behind
it. And the fraction has as many digits as it needs, down to none at all, so it can
only stand at the end.

A date-time is tried in three layouts one after the other. A text of one of them is
not taken for one of those before. What stands behind the date is a `T` or nothing, and
the first layout wants an hour there, perhaps behind blanks.

## Main definitions

* `Date.text`, `TimeOfDay.clock`, `TimeOfDay.text`: The ISO forms as characters.
* `clockLayout`: The layout of hour, minute and second.

## Theorems

* `Layout.readItems_date`, `Layout.readItems_clock`: The parts of an ISO form are read.
* `Coercion.readDate_display`, `Coercion.readTime_display`: Dates and times.
* `Coercion.readDefaultTimestamp_displayWith`, `Coercion.readDefaultTimestamp_date`:
  Date-times, and the starts of dates.
-/

namespace RegionScan

/-- A date in ISO form, as characters. -/
def Date.text (d : Date) : List Char :=
  writeYear d.year ++ '-' :: (zeroPadded 2 d.month ++ '-' :: zeroPadded 2 d.day)

/-- Hour, minute and second in ISO form, as characters. -/
def TimeOfDay.clock (t : TimeOfDay) : List Char :=
  zeroPadded 2 t.hour ++ ':' :: (zeroPadded 2 t.minute ++ ':' :: zeroPadded 2 t.second)

/-- A time in ISO form, as characters. -/
def TimeOfDay.text (t : TimeOfDay) : List Char := t.clock ++ writeFraction t.fraction

theorem Date.toList_display (d : Date) : d.display.toList = d.text := by
  rw [display, String.toList_ofList, text, List.append_assoc, List.cons_append]

theorem TimeOfDay.toList_display (t : TimeOfDay) : t.display.toList = t.text := by
  simp only [display, String.toList_ofList, text, clock, List.append_assoc, List.cons_append]

/-- The layout of hour, minute and second. -/
def clockLayout : Layout :=
  [.number .hour true, .literal [':'], .number .minute true, .literal [':'], .number .second true]

namespace Coercion

theorem dateLayout_eq : dateLayout = [.number .year true, .literal ['-'], .number .month true,
    .literal ['-'], .number .day true] := rfl

theorem timeLayout_eq : timeLayout = clockLayout ++ [.fraction none] := rfl

theorem timestampLayout_eq : timestampLayout = dateLayout ++ .space [' '] :: timeLayout := rfl

theorem timestampLayoutT_eq : timestampLayoutT = dateLayout ++ .literal ['T'] :: timeLayout := rfl

end Coercion

section

variable (t : DateTime)

/-- A layout writes what its parts write. -/
theorem Layout.text?_append (layout more : Layout) :
    text? t (layout ++ more) = (text? t layout).bind fun s => (text? t more).map (s ++ ·) := by
  induction layout with
  | nil =>
      rw [List.nil_append]
      exact Option.map_id'.symm
  | cons item layout ih =>
      rw [List.cons_append, text?_cons, text?_cons, ih]
      cases item.write? t with
      | none => rfl
      | some w =>
          cases text? t layout with
          | none => rfl
          | some s =>
              cases text? t more with
              | none => rfl
              | some s' => simp only [Option.bind_some, Option.map_some, List.append_assoc]

theorem Layout.text?_nil : text? t [] = some [] := rfl

namespace Coercion

theorem text?_dateLayout : dateLayout.text? t = some t.date.text := by
  rw [dateLayout_eq]
  simp only [Layout.text?_cons, Layout.text?_nil, LayoutItem.write?, NumberField.write,
    NumberField.value, NumberField.width, if_true, Option.bind_some, Option.map_some,
    List.append_nil, List.cons_append, List.nil_append, Date.text]

theorem text?_clockLayout : clockLayout.text? t = some t.time.clock := by
  rw [clockLayout]
  simp only [Layout.text?_cons, Layout.text?_nil, LayoutItem.write?, NumberField.write,
    NumberField.value, NumberField.width, if_true, Option.bind_some, Option.map_some,
    List.append_nil, List.cons_append, List.nil_append, TimeOfDay.clock]

theorem text?_timeLayout : timeLayout.text? t = some t.time.text := by
  rw [timeLayout_eq, Layout.text?_append, text?_clockLayout, Layout.text?_cons, Layout.text?_nil]
  simp only [LayoutItem.write?, Option.bind_some, Option.map_some, List.append_nil, TimeOfDay.text]

theorem text?_timestampLayout :
    timestampLayout.text? t = some (t.date.text ++ ' ' :: t.time.text) := by
  rw [timestampLayout_eq, Layout.text?_append, text?_dateLayout, Layout.text?_cons,
    text?_timeLayout]
  simp only [LayoutItem.write?, Option.bind_some, Option.map_some, List.singleton_append]

/-- The layouts write the ISO forms. -/
theorem write?_dateLayout : dateLayout.write? t = some t.date.display := by
  rw [Layout.write?_eq, text?_dateLayout, ← t.date.toList_display, Option.map_some,
    String.ofList_toList]

theorem write?_timeLayout : timeLayout.write? t = some t.time.display := by
  rw [Layout.write?_eq, text?_timeLayout, ← t.time.toList_display, Option.map_some,
    String.ofList_toList]

theorem write?_timestampLayout : timestampLayout.write? t = some (t.displayWith " ") := by
  have hblank : " ".toList = [' '] := rfl
  have htext : (t.displayWith " ").toList = t.date.text ++ ' ' :: t.time.text := by
    simp only [DateTime.displayWith, String.toList_append, t.date.toList_display,
      t.time.toList_display, hblank, List.append_assoc, List.singleton_append]
  rw [Layout.write?_eq, text?_timestampLayout, ← htext, Option.map_some, String.ofList_toList]

end Coercion

end

/-! ### Blanks -/

theorem solid_writeYear (year : Int) : Solid (writeYear year) := by
  rw [writeYear]
  split
  · exact solid_zeroPadded 4 _
  · split
    · exact (solid_zeroPadded 4 _).cons rfl
    · exact (solid_zeroPadded 4 _).cons rfl

theorem Date.solid_text (d : Date) : Solid d.text := by
  refine (solid_writeYear d.year).append (List.forall_mem_cons.2 ⟨rfl, ?_⟩)
  refine ((solid_zeroPadded 2 d.month).append (List.forall_mem_cons.2 ⟨rfl, ?_⟩)).not_isBlank
  exact (solid_zeroPadded 2 d.day).not_isBlank

theorem TimeOfDay.solid_text (t : TimeOfDay) : Solid t.text := by
  have hclock : Solid t.clock := by
    refine (solid_zeroPadded 2 t.hour).append (List.forall_mem_cons.2 ⟨rfl, ?_⟩)
    refine ((solid_zeroPadded 2 t.minute).append (List.forall_mem_cons.2 ⟨rfl, ?_⟩)).not_isBlank
    exact (solid_zeroPadded 2 t.second).not_isBlank
  refine hclock.append fun c hc => ?_
  by_cases hzero : t.fraction = 0
  · rw [hzero] at hc
    cases hc
  · obtain ⟨width, n, hwritten, _⟩ := exists_writeFraction hzero (Nat.mod_lt _ (by decide))
    rw [hwritten] at hc
    rcases List.mem_cons.1 hc with rfl | hdigit
    · rfl
    · exact isBlank_of_isDigit (isDigit_of_mem_zeroPadded hdigit)

/-! ### What is read -/

/-- A time that shows all its digits is not cut. -/
theorem TimeOfDay.cut_eq {t : TimeOfDay} {places : Nat} (h : cutNanos places t.nanos = t.nanos) :
    t.cut places = t := by
  cases t
  simp only [cut, mk.injEq, true_and]
  exact h

namespace Layout

variable {t : DateTime} {places : Nat}

/-- The first item is read, and then the others. -/
theorem readItems_cons {f f' : DateFields} {s s' : List Char} {item : LayoutItem}
    (h : item.read f s = .ok (f', s')) (layout : Layout) :
    readItems f s (item :: layout) = readItems f' s' layout := by
  rw [readItems, h]
  rfl

/-- A character that stands for itself is read. -/
theorem readItems_literal (c : Char) (before : Layout) (rest : List Char) (layout : Layout) :
    readItems (.shown t places before) (c :: rest) (.literal [c] :: layout)
      = readItems (.shown t places (before ++ [.literal [c]])) rest layout := by
  refine readItems_cons ?_ layout
  rw [LayoutItem.shown_append_text (.inl ⟨_, rfl⟩)]
  exact except_bind_eq_ok.2 ⟨_, readLiteral_append [c] rest, rfl⟩

/-- So is a number of two digits. -/
theorem readItems_number (field : NumberField) (hfield : field ≠ .year)
    (hfixed : LayoutItem.isFixed places (.number field true) = true) (before : Layout)
    (rest : List Char) (layout : Layout) :
    readItems (.shown t places before) (field.write true t ++ rest) (.number field true :: layout)
      = readItems (.shown t places (before ++ [.number field true])) rest layout :=
  readItems_cons (LayoutItem.read_number hfield hfixed before rest) layout

/-- So is a year of any length in front of what cannot be mistaken for a digit. -/
theorem readItems_year (before : Layout) {rest : List Char} (hrest : StopsDigits rest)
    (layout : Layout) :
    readItems (.shown t places before) (writeYear t.date.year ++ rest)
        (.number .year true :: layout)
      = readItems (.shown t places (before ++ [.number .year true])) rest layout := by
  refine readItems_cons ?_ layout
  rw [LayoutItem.read, (solid_writeYear _).trimStart_append]
  refine except_bind_eq_ok.2 ⟨_, scanYear_writeYear t.date.year_mem hrest, ?_⟩
  exact except_bind_eq_ok.2 ⟨_, DateFields.setYear_shown t places before, rfl⟩

/-- The date in ISO form is read in front of anything. -/
theorem readItems_date (t : DateTime) (places : Nat) (rest : List Char) (layout : Layout) :
    readItems .none (t.date.text ++ rest) (Coercion.dateLayout ++ layout)
      = readItems (.shown t places Coercion.dateLayout) rest layout := by
  have hhyphen (s : List Char) : StopsDigits ('-' :: s) := stopsDigits_cons rfl s
  have htext : t.date.text ++ rest = writeYear t.date.year ++ '-' ::
      (NumberField.month.write true t ++ '-' :: (NumberField.day.write true t ++ rest)) := by
    simp only [Date.text, List.append_assoc, List.cons_append]
    rfl
  rw [htext, Coercion.dateLayout_eq, ← DateFields.shown_nil t places]
  simp only [List.cons_append, List.nil_append]
  rw [readItems_year _ (hhyphen _), readItems_literal,
    readItems_number .month (by decide) rfl, readItems_literal,
    readItems_number .day (by decide) rfl]
  simp only [List.cons_append, List.nil_append]

/-- So are hour, minute and second. -/
theorem readItems_clock (t : DateTime) (places : Nat) (before : Layout) (rest : List Char)
    (layout : Layout) :
    readItems (.shown t places before) (t.time.clock ++ rest) (clockLayout ++ layout)
      = readItems (.shown t places (before ++ clockLayout)) rest layout := by
  have htext : t.time.clock ++ rest = NumberField.hour.write true t ++ ':' ::
      (NumberField.minute.write true t ++ ':' :: (NumberField.second.write true t ++ rest)) := by
    simp only [TimeOfDay.clock, List.append_assoc, List.cons_append]
    rfl
  rw [htext, clockLayout]
  simp only [List.cons_append, List.nil_append]
  rw [readItems_number .hour (by decide) rfl, readItems_literal,
    readItems_number .minute (by decide) rfl, readItems_literal,
    readItems_number .second (by decide) rfl]
  simp only [List.append_assoc, List.cons_append, List.nil_append]

/-- A fraction at the end shows as many places as it needs, and then the time is shown
    whole. -/
theorem exists_readItems_fraction (t : DateTime) :
    ∃ (places : Nat) (more : Layout), places ≤ 9 ∧ t.time.cut places = t.time ∧
      (.fractionDigits places ∈ more ∨ places = 0) ∧ ∀ before : Layout,
        readItems (.shown t places before) (writeFraction t.time.fraction) [.fraction none]
          = .ok (.shown t places (before ++ more), []) := by
  have hlt : t.time.fraction < 10 ^ 9 := Nat.mod_lt _ (by decide)
  by_cases hzero : t.time.fraction = 0
  · -- Nothing is written, and nothing is read.
    refine ⟨0, [], Nat.zero_le 9, TimeOfDay.cut_eq ?_, .inr rfl, fun before => ?_⟩
    · exact Nat.div_mul_cancel (Nat.dvd_of_mod_eq_zero hzero)
    · rw [hzero, List.append_nil]
      rfl
  · obtain ⟨width, n, hwritten, hnanos⟩ := exists_writeFraction hzero hlt
    have hscan : scanFraction (zeroPadded width n) = .ok (t.time.fraction, []) :=
      scanFraction_eq_ok_iff.2 ⟨_, (solid_zeroPadded width n).ne_nil,
        fun c hc => isDigit_of_mem_zeroPadded hc, stopsDigits_nil, (List.append_nil _).symm, hnanos⟩
    have hwhole (nanos : Nat) : cutNanos 9 nanos = nanos := by
      rw [cutNanos]
      exact (Nat.mul_one _).trans (Nat.div_one nanos)
    refine ⟨9, [.fractionDigits 9], Nat.le_refl 9, TimeOfDay.cut_eq (hwhole _),
      .inl List.mem_cons_self, fun before => ?_⟩
    rw [hwritten]
    refine readItems_cons (except_bind_eq_ok.2 ⟨_, hscan, ?_⟩) []
    have hagree : DateFields.agree (DateFields.shown t 9 before).nanos t.time.fraction
        = .ok (some t.time.fraction) := by
      simp only [DateFields.shown, hwhole]
      exact DateFields.agree_ite _ _
    refine except_bind_eq_ok.2 ⟨_, hagree, congrArg Except.ok ?_⟩
    simp [DateFields.shown, hwhole]

/-- A time in ISO form is read at the end of a text, and found again. -/
theorem exists_readItems_time (t : DateTime) :
    ∃ (places : Nat) (more : Layout), ∀ before : Layout,
      readItems (.shown t places before) t.time.text Coercion.timeLayout
          = .ok (.shown t places (before ++ more), []) ∧
        (DateFields.shown t places (before ++ more)).toTime = .ok t.time := by
  obtain ⟨places, more, hplaces, hcut, hnanos, hread⟩ := exists_readItems_fraction t
  refine ⟨places, clockLayout ++ more, fun before => ⟨?_, ?_⟩⟩
  · rw [Coercion.timeLayout_eq, TimeOfDay.text, readItems_clock, hread, List.append_assoc]
  · have hclock {item : LayoutItem} (h : item ∈ clockLayout) :
        item ∈ before ++ (clockLayout ++ more) :=
      List.mem_append_right _ (List.mem_append_left _ h)
    have hmore {item : LayoutItem} (h : item ∈ more) : item ∈ before ++ (clockLayout ++ more) :=
      List.mem_append_right _ (List.mem_append_right _ h)
    have hfound := DateFields.toTime_shown (t := t) (hclock (by decide)) (hclock (by decide))
      (hclock (by decide)) hplaces (hnanos.imp_left hmore)
    rw [hfound, hcut]

/-- A date-time is read if what stands between its date and its time is read. -/
theorem readDateTime_text {t : DateTime} {item : LayoutItem} {sep : List Char}
    (hsep : ∀ places rest, Solid rest → item.read (.shown t places Coercion.dateLayout) (sep ++ rest)
      = .ok (.shown t places (Coercion.dateLayout ++ [item]), rest)) :
    (Coercion.dateLayout ++ item :: Coercion.timeLayout).readDateTime
      (String.ofList (t.date.text ++ (sep ++ t.time.text))) = .ok t := by
  obtain ⟨places, more, htime⟩ := exists_readItems_time t
  obtain ⟨hread, hfound⟩ := htime (Coercion.dateLayout ++ [item])
  have hfields : (Coercion.dateLayout ++ item :: Coercion.timeLayout).read
      (String.ofList (t.date.text ++ (sep ++ t.time.text)))
        = .ok (.shown t places (Coercion.dateLayout ++ [item] ++ more)) := by
    rw [read, String.toList_ofList, readItems_date t places,
      readItems_cons (hsep places _ t.time.solid_text), hread]
    rfl
  have hdate {field : LayoutItem} (h : field ∈ Coercion.dateLayout) :
      field ∈ Coercion.dateLayout ++ [item] ++ more :=
    List.mem_append_left _ (List.mem_append_left _ h)
  refine except_bind_eq_ok.2 ⟨_, hfields, ?_⟩
  rw [DateFields.toDateTime, DateFields.toDate_shown (hdate (by decide)) (hdate (by decide))
    (hdate (by decide)), hfound]

end Layout

namespace Coercion

/-- A date in ISO form is read again. -/
theorem readDate_display (d : Date) : dateLayout.readDate (trim d.display) = .ok d := by
  have hfields : dateLayout.read (trim d.display) = .ok (.shown (.midnight d) 0 dateLayout) := by
    have hread := Layout.readItems_date (.midnight d) 0 [] []
    rw [List.append_nil, List.append_nil] at hread
    rw [trim, d.toList_display, d.solid_text.trimBlanks, Layout.read, String.toList_ofList]
    exact except_bind_eq_ok.2 ⟨_, hread, rfl⟩
  exact except_bind_eq_ok.2 ⟨_, hfields,
    DateFields.toDate_shown (by decide) (by decide) (by decide)⟩

/-- So is a time. -/
theorem readTime_display (t : TimeOfDay) : timeLayout.readTime (trim t.display) = .ok t := by
  -- Any day will do.
  obtain ⟨places, more, htime⟩ :=
    Layout.exists_readItems_time ⟨⟨1970, 1, 1, by decide, by decide⟩, t⟩
  obtain ⟨hread, hfound⟩ := htime []
  rw [DateFields.shown_nil] at hread
  have hfields : timeLayout.read (trim t.display)
      = .ok (.shown ⟨⟨1970, 1, 1, by decide, by decide⟩, t⟩ places ([] ++ more)) := by
    rw [trim, t.toList_display, t.solid_text.trimBlanks, Layout.read, String.toList_ofList]
    exact except_bind_eq_ok.2 ⟨_, hread, rfl⟩
  exact except_bind_eq_ok.2 ⟨_, hfields, hfound⟩

/-- A text that starts with a date is no date-time in the first layout if what follows,
    behind blanks, is no digit. -/
theorem readDateTime_timestampLayout_error (d : Date) {rest : List Char}
    (hstops : StopsDigits (trimStart (trimStart rest))) :
    ∃ e, timestampLayout.readDateTime (String.ofList (d.text ++ rest)) = .error e := by
  cases hread : timestampLayout.readDateTime (String.ofList (d.text ++ rest)) with
  | error e => exact ⟨e, rfl⟩
  | ok t =>
      obtain ⟨f, hfields, _⟩ := except_bind_eq_ok.1 hread
      obtain ⟨⟨f, left⟩, hitems, _⟩ := except_bind_eq_ok.1 hfields
      rw [String.toList_ofList, timestampLayout_eq] at hitems
      have hdate := Layout.readItems_date (.midnight d) 0 rest (.space [' '] :: timeLayout)
      -- The white space is read, and then there has to be an hour.
      obtain ⟨⟨f, s⟩, hspace, hitems⟩ := except_bind_eq_ok.1 (hdate.symm.trans hitems)
      obtain ⟨rfl, rfl⟩ := Prod.mk.inj (Except.ok.inj hspace)
      obtain ⟨⟨f, s⟩, hhour, _⟩ := except_bind_eq_ok.1 hitems
      obtain ⟨⟨n, s⟩, hscan, _⟩ := except_bind_eq_ok.1 hhour
      obtain ⟨ds, htakes, hs, _⟩ := scanNumber_eq_ok_iff.1 hscan
      rw [hs] at hstops
      cases hds : ds with
      | nil => exact absurd hds htakes.ne_nil
      | cons c ds =>
          have hc := htakes.isDigit c (hds ▸ List.mem_cons_self)
          rw [hds] at hstops
          rw [hstops c rfl] at hc
          cases hc

/-- A date-time in ISO form is read again, with a blank between its parts or a `T`. -/
theorem readDefaultTimestamp_displayWith {t : DateTime} {sep : String}
    (hsep : sep = " " ∨ sep = "T") : readDefaultTimestamp (t.displayWith sep) = .ok t := by
  have htext : (t.displayWith sep).toList = t.date.text ++ (sep.toList ++ t.time.text) := by
    simp only [DateTime.displayWith, String.toList_append, t.date.toList_display,
      t.time.toList_display, List.append_assoc]
  have htrim : trim (t.displayWith sep)
      = String.ofList (t.date.text ++ (sep.toList ++ t.time.text)) := by
    rw [trim, htext, trimBlanks_append t.date.solid_text t.time.solid_text]
  rcases hsep with rfl | rfl
  · have hread : timestampLayout.readDateTime (trim (t.displayWith " ")) = .ok t := by
      rw [htrim, timestampLayout_eq]
      refine Layout.readDateTime_text fun places rest hrest => ?_
      have hfront := hrest.trimStart_append []
      rw [List.append_nil] at hfront
      rw [LayoutItem.shown_append_text (.inr (.inr ⟨_, rfl⟩))]
      exact congrArg (fun s => Except.ok (_, s)) hfront
    unfold readDefaultTimestamp
    rw [hread]
  · have hread : timestampLayoutT.readDateTime (trim (t.displayWith "T")) = .ok t := by
      rw [htrim, timestampLayoutT_eq]
      refine Layout.readDateTime_text fun places rest _ => ?_
      rw [LayoutItem.shown_append_text (.inl ⟨_, rfl⟩)]
      exact except_bind_eq_ok.2 ⟨_, readLiteral_append ['T'] rest, rfl⟩
    have hletter : "T".toList = ['T'] := rfl
    have hfront : trimStart ('T' :: t.time.text) = 'T' :: t.time.text :=
      List.dropWhile_cons_of_neg (by decide)
    have hstops : StopsDigits (trimStart (trimStart ("T".toList ++ t.time.text))) := by
      rw [hletter, List.singleton_append, hfront, hfront]
      exact stopsDigits_cons rfl t.time.text
    obtain ⟨e, hfirst⟩ := readDateTime_timestampLayout_error t.date hstops
    rw [← htrim] at hfirst
    unfold readDefaultTimestamp
    rw [hfirst, hread]

/-- A date in ISO form is read as its start. -/
theorem readDefaultTimestamp_date (d : Date) :
    readDefaultTimestamp d.display = .ok (.midnight d) := by
  have htrim : trim d.display = String.ofList (d.text ++ []) := by
    rw [trim, d.toList_display, d.solid_text.trimBlanks, List.append_nil]
  have hstops : StopsDigits (trimStart (trimStart [])) := stopsDigits_nil
  obtain ⟨e, hfirst⟩ := readDateTime_timestampLayout_error d hstops
  have hsecond : timestampLayoutT.readDateTime (String.ofList (d.text ++ [])) = .error .tooShort := by
    have hdate := Layout.readItems_date (.midnight d) 0 [] (.literal ['T'] :: timeLayout)
    have hitems : Layout.readItems .none (d.text ++ []) timestampLayoutT = .error .tooShort :=
      hdate
    rw [Layout.readDateTime, Layout.read, String.toList_ofList, hitems]
    rfl
  rw [← htrim] at hfirst hsecond
  unfold readDefaultTimestamp
  rw [hfirst, hsecond, readDate_display]
  rfl

end Coercion

end RegionScan
