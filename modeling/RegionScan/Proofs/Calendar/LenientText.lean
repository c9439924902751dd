import RegionScan.Proofs.Calendar.Rfc3339

/-!
# Lenient Text

What a layout takes from a text that it has not written.

A layout reads more than it writes. Blanks may stand in front of a number and of an
offset, a number may have fewer digits than its field, and a year may have a sign and
any number of digits. Between the hours and the minutes of an offset there may be
colons and blanks, or nothing. Each item is taken from the front of the text and sets
its field to what it shows, and a field that is set has been given one value only.

## Main definitions

* `ShowsNumber`, `ShowsYear`, `ShowsOffset`: Texts of numbers, years and offsets.
* `DateFields.ofDate`: The fields of a date.

## Theorems

* `LayoutItem.of_read_number`, `LayoutItem.of_read_year`, `LayoutItem.of_read_offset`:
  What the items take.
* `Layout.of_readItems_date`: What the layout of a date takes.
* `DateFields.of_given`, `DateFields.of_setYear`, `DateFields.of_setHour`: What the fields
  are set to.
* `DateFields.toDateTime_eq_ok_iff`: The date and the time that are found.
-/

namespace RegionScan

/-- The texts of a number up to a width. -/
inductive ShowsNumber (width : Nat) : List Char → Nat → Prop
  | intro {blanks ds : List Char} (hblanks : ∀ c ∈ blanks, isBlank c = true) (hne : ds ≠ [])
      (hdigits : ∀ c ∈ ds, c.isDigit = true) (hwidth : ds.length ≤ width) :
      ShowsNumber width (blanks ++ ds) (digitsValue ds)

/-- The texts of a year: a number of up to four digits, or a sign and any digits. -/
inductive ShowsYear : List Char → Int → Prop
  | plain {w : List Char} {n : Nat} (h : ShowsNumber 4 w n) : ShowsYear w n
  | plus {blanks ds : List Char} (hblanks : ∀ c ∈ blanks, isBlank c = true) (hne : ds ≠ [])
      (hdigits : ∀ c ∈ ds, c.isDigit = true) : ShowsYear (blanks ++ '+' :: ds) (digitsValue ds)
  | minus {blanks ds : List Char} (hblanks : ∀ c ∈ blanks, isBlank c = true) (hne : ds ≠ [])
      (hdigits : ∀ c ∈ ds, c.isDigit = true) :
      ShowsYear (blanks ++ '-' :: ds) (-(digitsValue ds : Int))

/-- The texts of an offset, with any colons and blanks in it. -/
inductive ShowsOffset : List Char → Int → Prop
  | intro {blanks gap : List Char} {sign : Char} {negative : Bool} {hours minutes : Nat}
      (hblanks : ∀ c ∈ blanks, isBlank c = true) (hsign : OffsetSign sign negative)
      (hh : hours < 100) (hgap : ∀ c ∈ gap, c = ':' ∨ isBlank c = true) (hm : minutes < 60) :
      ShowsOffset (blanks ++ sign :: (zeroPadded 2 hours ++ (gap ++ zeroPadded 2 minutes)))
        (offsetMinutes negative hours minutes)

/-- A number is read behind blanks. -/
theorem of_scanNumber_trimStart {width n : Nat} {s rest : List Char}
    (h : scanNumber width (trimStart s) = .ok (n, rest)) :
    ∃ w, ShowsNumber width w n ∧ s = w ++ rest := by
  obtain ⟨ds, htakes, hs, rfl, _⟩ := scanNumber_eq_ok_iff.1 h
  obtain ⟨blanks, hblanks, hfront⟩ := exists_blanks_append s
  refine ⟨blanks ++ ds, .intro hblanks htakes.ne_nil htakes.isDigit htakes.length_le, ?_⟩
  rw [hfront, hs, List.append_assoc]

/-- The number of a year is read without its sign. -/
theorem of_scanNumber_map (signed : Nat → Int) {width : Nat} {s rest : List Char} {year : Int}
    (h : (scanNumber width s).map (fun found => (signed found.1, found.2)) = .ok (year, rest)) :
    ∃ n, scanNumber width s = .ok (n, rest) ∧ signed n = year := by
  obtain ⟨⟨n, r⟩, hscan, hresult⟩ := except_map_eq_ok.1 h
  obtain ⟨hyear, rfl⟩ := Prod.mk.inj hresult
  exact ⟨n, hscan, hyear⟩

/-- A year is read behind blanks, too. -/
theorem of_scanYear_trimStart {s rest : List Char} {year : Int}
    (h : scanYear (trimStart s) = .ok (year, rest)) : ∃ w, ShowsYear w year ∧ s = w ++ rest := by
  obtain ⟨blanks, hblanks, hfront⟩ := exists_blanks_append s
  unfold scanYear at h
  split at h
  · rename_i tail hminus
    obtain ⟨n, hscan, rfl⟩ := of_scanNumber_map (fun n => -(n : Int)) h
    obtain ⟨ds, htakes, rfl, rfl, _⟩ := scanNumber_eq_ok_iff.1 hscan
    refine ⟨_, .minus hblanks htakes.ne_nil htakes.isDigit, ?_⟩
    rw [hfront, hminus, List.append_assoc, List.cons_append]
  · rename_i tail hplus
    obtain ⟨n, hscan, rfl⟩ := of_scanNumber_map (fun n => (n : Int)) h
    obtain ⟨ds, htakes, rfl, rfl, _⟩ := scanNumber_eq_ok_iff.1 hscan
    refine ⟨_, .plus hblanks htakes.ne_nil htakes.isDigit, ?_⟩
    rw [hfront, hplus, List.append_assoc, List.cons_append]
  · obtain ⟨n, hscan, rfl⟩ := of_scanNumber_map (fun n => (n : Int)) h
    obtain ⟨w, hshows, hs⟩ := of_scanNumber_trimStart hscan
    exact ⟨w, .plain hshows, hs⟩

namespace LayoutItem

variable {f f' : DateFields} {s rest : List Char}

theorem of_read_literal {c : Char} (h : (literal [c]).read f s = .ok (f', rest)) :
    f' = f ∧ s = c :: rest := by
  obtain ⟨s', hread, h⟩ := except_bind_eq_ok.1 h
  obtain ⟨rfl, rfl⟩ := Prod.mk.inj (Except.ok.inj h)
  refine ⟨rfl, ?_⟩
  unfold readLiteral at hread
  split at hread
  · cases hread
  · split at hread
    · rename_i hfront
      obtain ⟨tail, rfl⟩ := List.isPrefixOf_iff_prefix.1 hfront
      obtain rfl := Except.ok.inj hread
      rfl
    · cases hread

theorem of_read_number {field : NumberField} (hfield : field ≠ .year) {padded : Bool}
    (h : (number field padded).read f s = .ok (f', rest)) :
    ∃ w n, ShowsNumber field.width w n ∧ s = w ++ rest ∧ f.setNumber field n = .ok f' := by
  have hread : ∃ n, scanNumber field.width (trimStart s) = .ok (n, rest) ∧
      f.setNumber field n = .ok f' := by
    cases field with
    | year => exact absurd rfl hfield
    | _ =>
        obtain ⟨⟨n, s'⟩, hscan, h⟩ := except_bind_eq_ok.1 h
        obtain ⟨g, hset, h⟩ := except_bind_eq_ok.1 h
        obtain ⟨rfl, rfl⟩ := Prod.mk.inj (Except.ok.inj h)
        exact ⟨n, hscan, hset⟩
  obtain ⟨n, hscan, hset⟩ := hread
  obtain ⟨w, hshows, hs⟩ := of_scanNumber_trimStart hscan
  exact ⟨w, n, hshows, hs, hset⟩

theorem of_read_year {padded : Bool} (h : (number .year padded).read f s = .ok (f', rest)) :
    ∃ w year, ShowsYear w year ∧ s = w ++ rest ∧ f.setYear year = .ok f' := by
  obtain ⟨⟨year, s'⟩, hscan, h⟩ := except_bind_eq_ok.1 h
  obtain ⟨g, hset, h⟩ := except_bind_eq_ok.1 h
  obtain ⟨rfl, rfl⟩ := Prod.mk.inj (Except.ok.inj h)
  obtain ⟨w, hshows, hs⟩ := of_scanYear_trimStart hscan
  exact ⟨w, year, hshows, hs, hset⟩

theorem of_read_offset {colon : Bool} (h : (offset colon).read f s = .ok (f', rest)) :
    ∃ w minutes, ShowsOffset w minutes ∧ s = w ++ rest ∧
      ∃ known, DateFields.agree f.offset minutes = .ok known ∧ f' = { f with offset := known } := by
  obtain ⟨⟨minutes, s'⟩, hscan, h⟩ := except_bind_eq_ok.1 h
  obtain ⟨known, hagree, h⟩ := except_bind_eq_ok.1 h
  obtain ⟨rfl, rfl⟩ := Prod.mk.inj (Except.ok.inj h)
  obtain ⟨blanks, hblanks, hfront⟩ := exists_blanks_append s
  obtain ⟨sign, negative, hours, between, m, hsign, hh, hm, hs, hskip, rfl⟩ :=
    scanOffset_eq_ok_iff.1 hscan
  -- All colons and blanks are skipped, and the minutes start behind them.
  have hbetween : ∃ gap, (∀ c ∈ gap, c = ':' ∨ isBlank c = true) ∧
      between = gap ++ (zeroPadded 2 m ++ s') := by
    refine ⟨between.takeWhile fun c => c == ':' || isBlank c, fun c hc => ?_, ?_⟩
    · have hskipped := List.mem_takeWhile_imp hc
      rwa [Bool.or_eq_true, beq_iff_eq] at hskipped
    · rw [← Except.ok.inj hskip, List.takeWhile_append_dropWhile]
  obtain ⟨gap, hgap, rfl⟩ := hbetween
  refine ⟨_, _, .intro hblanks hsign hh hgap hm, ?_, known, hagree, rfl⟩
  rw [hfront, hs]
  simp only [List.append_assoc, List.cons_append]

end LayoutItem

namespace DateFields

variable {f' : DateFields}

theorem of_inRange {low high n m : Nat} (h : inRange low high n = .ok m) :
    m = n ∧ low ≤ n ∧ n ≤ high := by
  rw [inRange] at h
  split at h
  · rename_i hrange
    exact ⟨(Except.ok.inj h).symm, hrange⟩
  · cases h

/-- A number that is given to a field without a value is its value. -/
theorem of_given {low high n : Nat} (set : Option Nat → DateFields)
    (h : (inRange low high n >>= fun m => agree .none m >>= fun known => .ok (set known)) = .ok f') :
    f' = set (some n) := by
  obtain ⟨m, hrange, hset⟩ := except_bind_eq_ok.1 h
  obtain ⟨rfl, _⟩ := of_inRange hrange
  exact (Except.ok.inj hset).symm

/-- So is a year. -/
theorem of_setYear {year : Int} (h : DateFields.none.setYear year = .ok f') :
    f' = { DateFields.none with year := some year } := by
  rw [setYear] at h
  split at h
  · exact (Except.ok.inj h).symm
  · cases h

/-- An hour of the day gives two fields their values. -/
theorem of_setHour {f : DateFields} {hour : Nat} (hafternoon : f.afternoon = .none)
    (hhour : f.hourOfHalfDay = .none) (h : f.setNumber .hour hour = .ok f') :
    hour < 24 ∧ f' = { f with
      afternoon := some (decide (12 ≤ hour)), hourOfHalfDay := some (hour % 12) } := by
  obtain ⟨m, hrange, hset⟩ := except_bind_eq_ok.1 h
  obtain ⟨rfl, _, hle⟩ := of_inRange hrange
  rw [hafternoon, hhour] at hset
  exact ⟨Nat.lt_succ_of_le hle, (Except.ok.inj hset).symm⟩

/-- A date-time is found if its date and its time are. -/
theorem toDateTime_eq_ok_iff {f : DateFields} {t : DateTime} :
    f.toDateTime = .ok t ↔ f.toDate = .ok t.date ∧ f.toTime = .ok t.time := by
  rw [toDateTime]
  cases f.toDate with
  | error _ => exact iff_of_false except_error_ne_ok fun h => except_error_ne_ok h.1
  | ok date =>
      cases f.toTime with
      | error _ => exact iff_of_false except_error_ne_ok fun h => except_error_ne_ok h.2
      | ok time =>
          rw [Except.ok.injEq, Except.ok.injEq, Except.ok.injEq]
          constructor
          · rintro rfl
            exact ⟨rfl, rfl⟩
          · rintro ⟨rfl, rfl⟩
            rfl

end DateFields

/-- The fields of a date that is known. -/
def DateFields.ofDate (year : Int) (month day : Nat) : DateFields :=
  { DateFields.none with year := some year, month := some month, day := some day }

/-- The layout of a date takes the text of one, and leaves the rest to what follows. -/
theorem Layout.of_readItems_date {s : List Char} {layout : Layout} {found : DateFields × List Char}
    (h : readItems .none s (Coercion.dateLayout ++ layout) = .ok found) :
    ∃ (y mo d rest : List Char) (year : Int) (month day : Nat), ShowsYear y year ∧
      ShowsNumber 2 mo month ∧ ShowsNumber 2 d day ∧
      s = y ++ '-' :: (mo ++ '-' :: (d ++ rest)) ∧
      readItems (.ofDate year month day) rest layout = .ok found := by
  rw [Coercion.dateLayout_eq] at h
  obtain ⟨⟨f₁, s₁⟩, hyear, h⟩ := except_bind_eq_ok.1 h
  obtain ⟨⟨f₂, s₂⟩, hhyphen, h⟩ := except_bind_eq_ok.1 h
  obtain ⟨⟨f₃, s₃⟩, hmonth, h⟩ := except_bind_eq_ok.1 h
  obtain ⟨⟨f₄, s₄⟩, hhyphen', h⟩ := except_bind_eq_ok.1 h
  obtain ⟨⟨f₅, s₅⟩, hday, h⟩ := except_bind_eq_ok.1 h
  -- Each item takes its part of the text.
  obtain ⟨y, year, hyshows, rfl, hyset⟩ := LayoutItem.of_read_year hyear
  obtain ⟨rfl, rfl⟩ := LayoutItem.of_read_literal hhyphen
  obtain ⟨mo, month, hmoshows, rfl, hmoset⟩ := LayoutItem.of_read_number (by decide) hmonth
  obtain ⟨rfl, rfl⟩ := LayoutItem.of_read_literal hhyphen'
  obtain ⟨d, day, hdshows, rfl, hdset⟩ := LayoutItem.of_read_number (by decide) hday
  -- No field is set before, so each has the value that its part shows.
  obtain rfl := DateFields.of_setYear hyset
  obtain rfl := DateFields.of_given
    (fun known => { DateFields.none with year := some year, month := known }) hmoset
  obtain rfl := DateFields.of_given
    (fun known => { DateFields.none with year := some year, month := some month, day := known })
    hdset
  exact ⟨y, mo, d, s₅, year, month, day, hyshows, hmoshows, hdshows, rfl, h⟩

end RegionScan
