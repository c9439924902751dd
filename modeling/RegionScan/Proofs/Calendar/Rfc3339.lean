import RegionScan.Calendar.Rfc3339
import RegionScan.Proofs.Calendar.Instant
import RegionScan.Proofs.Calendar.IsoText
import Mathlib.Data.List.Basic

/-!
# RFC 3339 Exactly

Which texts name an instant in the internet's form, and which instant.

A text names a date-time and an offset. The date has a year of four digits, and apart
from that date and clock are those of the ISO form. What is free is the separator, how
many digits the fraction has, and the zone. Each piece of the reader takes exactly the
texts of its part and leaves the rest, so a text is read if and only if it is put
together from such texts, and what it names can be read off them.

Where a part ends has to be told from what follows only behind the second. A fraction
starts with a point and takes all digits, and no zone starts with either.

## Main definitions

* `OffsetSign`, `offsetMinutes`: Offsets from their sign, hours and minutes.
* `Rfc3339.ShowsFraction`, `Rfc3339.ShowsZone`: Texts of fractions and zones.
* `Rfc3339.Shows`: Texts of a date-time and an offset.

## Theorems

* `TimeOfDay.ofHms?_clock_eq_some_iff`: The time that a clock shows.
* `scanOffset_eq_ok_iff`: What a reader of offsets takes.
* `Rfc3339.scanDate_eq_ok_iff`, `Rfc3339.scanZone_eq_ok_iff`: What the parts of the
  reader take.
* `readRfc3339_eq_ok_iff`: What is read.
-/

namespace RegionScan

/-- A date is found exactly by its year, month and day. -/
theorem Date.ofYmd?_eq_some_iff {year : Int} {month day : Nat} {d : Date} :
    ofYmd? year month day = some d ↔ d.year = year ∧ d.month = month ∧ d.day = day := by
  constructor
  · intro h
    rw [ofYmd?] at h
    split at h
    · obtain rfl := Option.some.inj h
      exact ⟨rfl, rfl, rfl⟩
    · cases h
  · rintro ⟨rfl, rfl, rfl⟩
    rw [ofYmd?, dif_pos ⟨d.year_mem, d.day_mem⟩]

/-- The second that a clock shows, without the leap second, and the nanoseconds of the
    leap second. -/
def clockSecond (second : Nat) : Nat × Nat :=
  if second = 60 then (59, nanosPerSecond) else (second, 0)

/-- A time is found exactly by what a clock shows of it and its fraction. -/
theorem TimeOfDay.ofHms?_clock_eq_some_iff {hour minute second fraction : Nat}
    (hfraction : fraction < nanosPerSecond) {t : TimeOfDay} :
    ofHms? hour minute (clockSecond second).1 ((clockSecond second).2 + fraction) = some t ↔
      t.hour = hour ∧ t.minute = minute ∧ t.second = second ∧ t.fraction = fraction := by
  constructor
  · intro h
    rw [ofHms?] at h
    split at h
    · rename_i hrange
      obtain ⟨hseconds, hnanos⟩ := ofSeconds?_eq_some_iff.1 h
      unfold TimeOfDay.hour TimeOfDay.minute TimeOfDay.second TimeOfDay.fraction
      rw [hseconds, hnanos]
      unfold clockSecond at hrange ⊢
      unfold nanosPerSecond at hfraction ⊢
      -- A leap second is nanoseconds of the second before it, which a clock does not show.
      by_cases hleap : second = 60
      · rw [if_pos hleap] at hrange ⊢
        omega
      · rw [if_neg hleap] at hrange ⊢
        omega
    · cases h
  · rintro ⟨rfl, rfl, rfl, rfl⟩
    have hnanos : t.nanos / nanosPerSecond * nanosPerSecond + t.fraction = t.nanos :=
      Nat.div_add_mod' t.nanos nanosPerSecond
    rw [clockSecond, t.second_split, t.ofHms?_eq, hnanos, t.ofSeconds?_seconds]

/-! ### Two digits -/

/-- Two digits spell each number below a hundred, and nothing else does. -/
theorem two_digits_iff {s rest : List Char} {n : Nat} :
    (∃ a b, s = a :: b :: rest ∧ a.isDigit = true ∧ b.isDigit = true ∧ digitsValue [a, b] = n) ↔
      n < 100 ∧ s = zeroPadded 2 n ++ rest := by
  constructor
  · rintro ⟨a, b, rfl, ha, hb, rfl⟩
    have hdigits : ∀ c ∈ [a, b], c.isDigit = true := by
      simp only [List.forall_mem_cons, List.not_mem_nil, false_implies, implies_true, and_true]
      exact ⟨ha, hb⟩
    have hlength : [a, b].length = 2 := rfl
    have hpadded := zeroPadded_digitsValue (List.cons_ne_nil a [b]) hdigits
    rw [hlength] at hpadded
    exact ⟨digitsValue_lt _ hdigits, by rw [hpadded]; rfl⟩
  · rintro ⟨hn, rfl⟩
    have hlength : (zeroPadded 2 n).length = 2 := length_zeroPadded (by omega) hn
    obtain ⟨a, b, hab⟩ := List.length_eq_two.1 hlength
    have hdigit {c : Char} (hc : c ∈ [a, b]) : c.isDigit = true :=
      isDigit_of_mem_zeroPadded (hab ▸ hc)
    refine ⟨a, b, ?_, hdigit (by simp), hdigit (by simp), ?_⟩
    · rw [hab]
      rfl
    · rw [← hab, digitsValue_zeroPadded]

theorem Rfc3339.twoDigits_eq_ok_iff {s rest : List Char} {n : Nat} :
    twoDigits s = .ok (n, rest) ↔ n < 100 ∧ s = zeroPadded 2 n ++ rest := by
  rw [← two_digits_iff]
  unfold twoDigits
  split
  · rename_i a b tail
    constructor
    · intro h
      split at h
      · rename_i hdigits
        obtain ⟨rfl, rfl⟩ := Prod.mk.inj (Except.ok.inj h)
        exact ⟨a, b, rfl, hdigits.1, hdigits.2, rfl⟩
      · cases h
    · rintro ⟨a, b, heq, ha, hb, rfl⟩
      cases heq
      rw [if_pos ⟨ha, hb⟩]
  · rename_i hshort
    refine iff_of_false except_error_ne_ok ?_
    rintro ⟨a, b, heq, _⟩
    exact hshort a b rest heq

theorem scanTwoDigits_eq_ok_iff {s rest : List Char} {n : Nat} :
    scanTwoDigits s = .ok (n, rest) ↔ n < 100 ∧ s = zeroPadded 2 n ++ rest := by
  rw [← two_digits_iff]
  constructor
  · intro h
    unfold scanTwoDigits at h
    split at h
    · cases h
    · split at h
      · rename_i a b tail _
        split at h
        · rename_i hdigits
          obtain ⟨rfl, rfl⟩ := Prod.mk.inj (Except.ok.inj h)
          exact ⟨a, b, rfl, hdigits.1, hdigits.2, rfl⟩
        · cases h
      · cases h
  · rintro ⟨a, b, rfl, ha, hb, rfl⟩
    exact scanTwoDigits_cons ha hb rest

theorem Rfc3339.separator_eq_ok_iff {allowed s rest : List Char} :
    separator allowed s = .ok rest ↔ ∃ c ∈ allowed, s = c :: rest := by
  unfold separator
  split
  · refine iff_of_false except_error_ne_ok ?_
    rintro ⟨c, _, heq⟩
    cases heq
  · rename_i c tail
    split
    · rename_i hallowed
      rw [Except.ok.injEq]
      constructor
      · rintro rfl
        exact ⟨c, List.contains_iff_mem.1 hallowed, rfl⟩
      · rintro ⟨d, _, heq⟩
        exact (List.cons.inj heq).2
    · rename_i hother
      refine iff_of_false except_error_ne_ok ?_
      rintro ⟨d, hd, heq⟩
      obtain ⟨rfl, _⟩ := List.cons.inj heq
      exact hother (List.contains_iff_mem.2 hd)

/-- What follows two digits goes on with their number. -/
theorem Rfc3339.twoDigits_bind_eq_ok {β : Type} {s : List Char}
    {f : Nat × List Char → Except DateTextError β} {b : β} :
    (twoDigits s >>= f) = .ok b ↔
      ∃ n rest, n < 100 ∧ zeroPadded 2 n ++ rest = s ∧ f (n, rest) = .ok b := by
  rw [except_bind_eq_ok]
  constructor
  · rintro ⟨⟨n, rest⟩, hread, hf⟩
    obtain ⟨hn, hs⟩ := twoDigits_eq_ok_iff.1 hread
    exact ⟨n, rest, hn, hs.symm, hf⟩
  · rintro ⟨n, rest, hn, hs, hf⟩
    exact ⟨(n, rest), twoDigits_eq_ok_iff.2 ⟨hn, hs.symm⟩, hf⟩

/-- What follows the one separator that is allowed goes on behind it. -/
theorem Rfc3339.separator_bind_eq_ok {β : Type} {c : Char} {s : List Char}
    {f : List Char → Except DateTextError β} {b : β} :
    (separator [c] s >>= f) = .ok b ↔ ∃ rest, c :: rest = s ∧ f rest = .ok b := by
  rw [except_bind_eq_ok]
  refine exists_congr fun rest => and_congr_left' ?_
  rw [separator_eq_ok_iff]
  constructor
  · rintro ⟨d, hd, hs⟩
    obtain rfl := List.mem_singleton.1 hd
    exact hs.symm
  · intro hs
    exact ⟨c, List.mem_singleton.2 rfl, hs.symm⟩

/-- Two digits and two digits are four digits. -/
theorem zeroPadded_four {century year : Nat} (hc : century < 100) (hy : year < 100) :
    zeroPadded 4 (100 * century + year) = zeroPadded 2 century ++ zeroPadded 2 year := by
  obtain ⟨a, b, hab, ha, hb, hcentury⟩ := two_digits_iff.2 ⟨hc, (List.append_nil _).symm⟩
  obtain ⟨c, d, hcd, hc', hd, hyear⟩ := two_digits_iff.2 ⟨hy, (List.append_nil _).symm⟩
  have hdigits : ∀ x ∈ [a, b, c, d], x.isDigit = true := by
    simp only [List.forall_mem_cons, List.not_mem_nil, false_implies, implies_true, and_true]
    exact ⟨ha, hb, hc', hd⟩
  have hvalue : digitsValue [a, b, c, d] = 100 * century + year := by
    simp only [digitsValue, List.foldl_cons, List.foldl_nil] at hcentury hyear ⊢
    omega
  have hlength : [a, b, c, d].length = 4 := rfl
  have hpadded := zeroPadded_digitsValue (List.cons_ne_nil a [b, c, d]) hdigits
  rw [hvalue, hlength] at hpadded
  rw [hab, hcd, hpadded]
  rfl

/-- A date in ISO form with a year of four digits. -/
theorem Date.text_eq {d : Date} (hyear : 0 ≤ d.year ∧ d.year ≤ 9999) :
    d.text = zeroPadded 4 d.year.toNat
      ++ '-' :: (zeroPadded 2 d.month ++ '-' :: zeroPadded 2 d.day) := by
  rw [Date.text, writeYear, if_pos hyear]

/-! ### Offsets -/

/-- The signs of an offset, and whether they are negative. -/
inductive OffsetSign : Char → Bool → Prop
  | plus : OffsetSign '+' false
  | minus : OffsetSign '-' true
  | typographic : OffsetSign '\u2212' true

/-- The minutes of an offset. -/
def offsetMinutes (negative : Bool) (hours minutes : Nat) : Int :=
  if negative then -(60 * hours + minutes : Nat) else (60 * hours + minutes : Nat)

theorem scanOffsetSign_eq_ok_iff {s rest : List Char} {negative : Bool} :
    scanOffsetSign s = .ok (negative, rest) ↔ ∃ c, OffsetSign c negative ∧ s = c :: rest := by
  constructor
  · intro h
    unfold scanOffsetSign at h
    split at h
    · cases h
    · obtain ⟨rfl, rfl⟩ := Prod.mk.inj (Except.ok.inj h)
      exact ⟨_, .plus, rfl⟩
    · obtain ⟨rfl, rfl⟩ := Prod.mk.inj (Except.ok.inj h)
      exact ⟨_, .minus, rfl⟩
    · obtain ⟨rfl, rfl⟩ := Prod.mk.inj (Except.ok.inj h)
      exact ⟨_, .typographic, rfl⟩
    · cases h
  · rintro ⟨c, hsign, rfl⟩
    cases hsign with
    | plus => rfl
    | minus => rfl
    | typographic => rfl

/-- An offset is a sign, two digits, what the reader allows between, and two digits. -/
theorem scanOffset_eq_ok_iff {separator : List Char → Except DateTextError (List Char)}
    {s rest : List Char} {offset : Int} :
    scanOffset separator s = .ok (offset, rest) ↔
      ∃ sign negative hours between minutes, OffsetSign sign negative ∧ hours < 100 ∧
        minutes < 60 ∧ s = sign :: (zeroPadded 2 hours ++ between) ∧
        separator between = .ok (zeroPadded 2 minutes ++ rest) ∧
        offset = offsetMinutes negative hours minutes := by
  constructor
  · intro h
    obtain ⟨⟨negative, s₁⟩, hsign, h₁⟩ := except_bind_eq_ok.1 h
    obtain ⟨⟨hours, between⟩, hhours, h₂⟩ := except_bind_eq_ok.1 h₁
    obtain ⟨s₂, hbetween, h₃⟩ := except_bind_eq_ok.1 h₂
    obtain ⟨⟨minutes, s₃⟩, hminutes, h₄⟩ := except_bind_eq_ok.1 h₃
    obtain ⟨sign, hsign, hs⟩ := scanOffsetSign_eq_ok_iff.1 hsign
    obtain ⟨hh, hs₁⟩ := scanTwoDigits_eq_ok_iff.1 hhours
    obtain ⟨_, hs₂⟩ := scanTwoDigits_eq_ok_iff.1 hminutes
    have hlast : (if 60 ≤ minutes then .error .outOfRange
        else .ok (offsetMinutes negative hours minutes, s₃) : Except DateTextError _)
          = .ok (offset, rest) := h₄
    by_cases hm : 60 ≤ minutes
    · rw [if_pos hm] at hlast
      cases hlast
    · rw [if_neg hm] at hlast
      obtain ⟨hoffset, hrest⟩ := Prod.mk.inj (Except.ok.inj hlast)
      refine ⟨sign, negative, hours, between, minutes, hsign, hh, Nat.lt_of_not_le hm, ?_, ?_,
        hoffset.symm⟩
      · rw [hs, hs₁]
      · rw [hbetween, hs₂, hrest]
  · rintro ⟨sign, negative, hours, between, minutes, hsign, hh, hm, rfl, hbetween, rfl⟩
    refine except_bind_eq_ok.2 ⟨_, scanOffsetSign_eq_ok_iff.2 ⟨sign, hsign, rfl⟩, ?_⟩
    refine except_bind_eq_ok.2 ⟨_, scanTwoDigits_eq_ok_iff.2 ⟨hh, rfl⟩, ?_⟩
    refine except_bind_eq_ok.2 ⟨_, hbetween, ?_⟩
    refine except_bind_eq_ok.2 ⟨_, scanTwoDigits_eq_ok_iff.2 ⟨by omega, rfl⟩, ?_⟩
    exact if_neg (Nat.not_le.2 hm)

namespace Rfc3339

/-! ### The zone -/

/-- The texts of a zone. -/
inductive ShowsZone : List Char → Int → Prop
  | utc {c : Char} (hc : c = 'Z' ∨ c = 'z') : ShowsZone [c] 0
  | offset {sign : Char} {negative : Bool} {hours minutes : Nat} (hsign : OffsetSign sign negative)
      (hh : hours < 100) (hm : minutes < 60) :
      ShowsZone (sign :: (zeroPadded 2 hours ++ ':' :: zeroPadded 2 minutes))
        (offsetMinutes negative hours minutes)

/-- No zone starts with what belongs to a fraction. -/
theorem ShowsZone.front {zone : List Char} {offset : Int} (h : ShowsZone zone offset)
    (rest : List Char) : ∃ c tail, zone ++ rest = c :: tail ∧ c ≠ '.' ∧ c.isDigit = false := by
  cases h with
  | @utc c hc =>
      refine ⟨c, rest, rfl, ?_⟩
      rcases hc with rfl | rfl
      · decide
      · decide
  | @offset sign _ _ _ hsign _ _ =>
      refine ⟨sign, _, rfl, ?_⟩
      cases hsign with
      | _ => decide

theorem scanZone_eq_ok_iff {s rest : List Char} {offset : Int} :
    scanZone s = .ok (offset, rest) ↔ ∃ zone, ShowsZone zone offset ∧ s = zone ++ rest := by
  constructor
  · intro h
    unfold scanZone at h
    split at h
    · obtain ⟨rfl, rfl⟩ := Prod.mk.inj (Except.ok.inj h)
      exact ⟨_, .utc (.inl rfl), rfl⟩
    · obtain ⟨rfl, rfl⟩ := Prod.mk.inj (Except.ok.inj h)
      exact ⟨_, .utc (.inr rfl), rfl⟩
    · obtain ⟨sign, negative, hours, between, minutes, hsign, hh, hm, rfl, hcolon, rfl⟩ :=
        scanOffset_eq_ok_iff.1 h
      obtain ⟨c, hc, rfl⟩ := separator_eq_ok_iff.1 hcolon
      obtain rfl := List.mem_singleton.1 hc
      refine ⟨_, .offset hsign hh hm, ?_⟩
      simp only [List.cons_append, List.append_assoc]
  · rintro ⟨zone, hzone, rfl⟩
    cases hzone with
    | utc hc =>
        rcases hc with rfl | rfl
        · rfl
        · rfl
    | @offset sign negative hours minutes hsign hh hm =>
        have hread : scanOffset (separator [':'])
            (sign :: (zeroPadded 2 hours ++ ':' :: zeroPadded 2 minutes) ++ rest)
              = .ok (offsetMinutes negative hours minutes, rest) := by
          refine scanOffset_eq_ok_iff.2 ⟨sign, negative, hours,
            ':' :: (zeroPadded 2 minutes ++ rest), minutes, hsign, hh, hm, ?_, ?_, rfl⟩
          · simp only [List.cons_append, List.append_assoc]
          · exact separator_eq_ok_iff.2 ⟨':', List.mem_singleton.2 rfl, rfl⟩
        -- No sign is a letter for UTC, so the text is read as an offset.
        cases hsign with
        | _ => exact hread

/-! ### The date -/

/-- The date at the front of a text has a year of four digits. -/
theorem scanDate_eq_ok_iff {s rest : List Char} {d : Date} :
    scanDate s = .ok (d, rest) ↔ (0 ≤ d.year ∧ d.year ≤ 9999) ∧ s = d.text ++ rest := by
  constructor
  · intro h
    obtain ⟨century, _, hc, rfl, h₁⟩ := twoDigits_bind_eq_ok.1 h
    obtain ⟨year, _, hy, rfl, h₂⟩ := twoDigits_bind_eq_ok.1 h₁
    obtain ⟨_, rfl, h₃⟩ := separator_bind_eq_ok.1 h₂
    obtain ⟨month, _, _, rfl, h₄⟩ := twoDigits_bind_eq_ok.1 h₃
    obtain ⟨_, rfl, h₅⟩ := separator_bind_eq_ok.1 h₄
    obtain ⟨day, _, _, rfl, h₆⟩ := twoDigits_bind_eq_ok.1 h₅
    dsimp only at h₆
    split at h₆
    · rename_i found hfound
      obtain ⟨rfl, rfl⟩ := Prod.mk.inj (Except.ok.inj h₆)
      obtain ⟨hfull, rfl, rfl⟩ := Date.ofYmd?_eq_some_iff.1 hfound
      have hrange : 0 ≤ found.year ∧ found.year ≤ 9999 := by omega
      refine ⟨hrange, ?_⟩
      rw [Date.text_eq hrange, hfull, Int.toNat_natCast, zeroPadded_four hc hy]
      simp only [List.append_assoc, List.cons_append]
    · cases h₆
  · rintro ⟨hyear, rfl⟩
    -- The reader takes the four digits of a year two by two.
    have hfound : Date.ofYmd? (100 * (d.year.toNat / 100) + d.year.toNat % 100 : Nat) d.month d.day
        = some d := Date.ofYmd?_eq_some_iff.2 ⟨by omega, rfl, rfl⟩
    have hfour : zeroPadded 4 d.year.toNat
        = zeroPadded 2 (d.year.toNat / 100) ++ zeroPadded 2 (d.year.toNat % 100) := by
      rw [← zeroPadded_four (by omega) (by omega), Nat.div_add_mod]
    have hmonth := d.month_le
    have hday := d.day_le
    have htext : d.text ++ rest = zeroPadded 2 (d.year.toNat / 100)
        ++ (zeroPadded 2 (d.year.toNat % 100) ++ '-' :: (zeroPadded 2 d.month
          ++ '-' :: (zeroPadded 2 d.day ++ rest))) := by
      rw [Date.text_eq hyear, hfour]
      simp only [List.append_assoc, List.cons_append]
    rw [htext]
    refine twoDigits_bind_eq_ok.2 ⟨_, _, by omega, rfl, ?_⟩
    refine twoDigits_bind_eq_ok.2 ⟨_, _, by omega, rfl, ?_⟩
    refine separator_bind_eq_ok.2 ⟨_, rfl, ?_⟩
    refine twoDigits_bind_eq_ok.2 ⟨_, _, by omega, rfl, ?_⟩
    refine separator_bind_eq_ok.2 ⟨_, rfl, ?_⟩
    refine twoDigits_bind_eq_ok.2 ⟨_, _, by omega, rfl, ?_⟩
    dsimp only
    rw [hfound]
    rfl

/-! ### The time -/

/-- The texts of a fraction. -/
inductive ShowsFraction : List Char → Nat → Prop
  | none : ShowsFraction [] 0
  | digits {ds : List Char} (hne : ds ≠ []) (h : ∀ c ∈ ds, c.isDigit = true) :
      ShowsFraction ('.' :: ds) (fractionNanos ds)

theorem ShowsFraction.lt {w : List Char} {nanos : Nat} (h : ShowsFraction w nanos) :
    nanos < nanosPerSecond := by
  cases h with
  | none => decide
  | digits _ h => exact fractionNanos_lt h

/-- The time at the front of a text is the clock and a fraction. -/
theorem of_scanTime {s rest : List Char} {t : TimeOfDay} (h : scanTime s = .ok (t, rest)) :
    ∃ w, ShowsFraction w t.fraction ∧ s = t.clock ++ (w ++ rest) := by
  obtain ⟨hour, _, _, rfl, h₁⟩ := twoDigits_bind_eq_ok.1 h
  obtain ⟨_, rfl, h₂⟩ := separator_bind_eq_ok.1 h₁
  obtain ⟨minute, _, _, rfl, h₃⟩ := twoDigits_bind_eq_ok.1 h₂
  obtain ⟨_, rfl, h₄⟩ := separator_bind_eq_ok.1 h₃
  obtain ⟨second, s₅, _, rfl, h₅⟩ := twoDigits_bind_eq_ok.1 h₄
  have hfraction : ∃ nanos w, ShowsFraction w nanos ∧ s₅ = w ++ rest ∧
      TimeOfDay.ofHms? hour minute (clockSecond second).1 ((clockSecond second).2 + nanos)
        = some t := by
    dsimp only at h₅
    split at h₅
    · obtain ⟨⟨nanos, s₆⟩, hnanos, hlast⟩ := except_bind_eq_ok.1 h₅
      obtain ⟨ds, hne, hdigits, _, rfl, rfl⟩ := scanFraction_eq_ok_iff.1 hnanos
      split at hlast
      · rename_i found hfound
        obtain ⟨rfl, rfl⟩ := Prod.mk.inj (Except.ok.inj hlast)
        exact ⟨_, _, .digits hne hdigits, rfl, hfound⟩
      · cases hlast
    · obtain ⟨⟨nanos, s₆⟩, hnanos, hlast⟩ := except_bind_eq_ok.1 h₅
      obtain ⟨rfl, rfl⟩ := Prod.mk.inj (Except.ok.inj hnanos)
      split at hlast
      · rename_i found hfound
        obtain ⟨rfl, rfl⟩ := Prod.mk.inj (Except.ok.inj hlast)
        exact ⟨0, [], .none, rfl, hfound⟩
      · cases hlast
  obtain ⟨nanos, w, hshows, rfl, hfound⟩ := hfraction
  obtain ⟨rfl, rfl, rfl, rfl⟩ := (TimeOfDay.ofHms?_clock_eq_some_iff hshows.lt).1 hfound
  refine ⟨w, hshows, ?_⟩
  simp only [TimeOfDay.clock, List.append_assoc, List.cons_append]

/-- The other way round, what follows must not go on with the fraction. -/
theorem scanTime_text {t : TimeOfDay} {w : List Char} (h : ShowsFraction w t.fraction)
    {c : Char} (hpoint : c ≠ '.') (hdigit : c.isDigit = false) (rest : List Char) :
    scanTime (t.clock ++ (w ++ c :: rest)) = .ok (t, c :: rest) := by
  have htext : t.clock ++ (w ++ c :: rest) = zeroPadded 2 t.hour ++ ':' :: (zeroPadded 2 t.minute
      ++ ':' :: (zeroPadded 2 t.second ++ (w ++ c :: rest))) := by
    simp only [TimeOfDay.clock, List.append_assoc, List.cons_append]
  have hhour := t.hour_lt
  have hminute := t.minute_lt
  have hsecond := t.second_le
  have hfound : TimeOfDay.ofHms? t.hour t.minute (clockSecond t.second).1
      ((clockSecond t.second).2 + t.fraction) = some t :=
    (TimeOfDay.ofHms?_clock_eq_some_iff h.lt).2 ⟨rfl, rfl, rfl, rfl⟩
  rw [htext]
  refine twoDigits_bind_eq_ok.2 ⟨_, _, by omega, rfl, ?_⟩
  refine separator_bind_eq_ok.2 ⟨_, rfl, ?_⟩
  refine twoDigits_bind_eq_ok.2 ⟨_, _, by omega, rfl, ?_⟩
  refine separator_bind_eq_ok.2 ⟨_, rfl, ?_⟩
  refine twoDigits_bind_eq_ok.2 ⟨_, _, by omega, rfl, ?_⟩
  rw [clockSecond] at hfound
  generalize hnanos : t.fraction = nanos at h hfound
  cases h with
  | none =>
      dsimp only [List.nil_append]
      split
      · rename_i heq
        exact absurd (List.cons.inj heq).1 hpoint
      · refine except_bind_eq_ok.2 ⟨_, rfl, ?_⟩
        dsimp only
        rw [hfound]
        rfl
  | @digits ds hne hdigits =>
      have hscan : scanFraction (ds ++ c :: rest) = .ok (fractionNanos ds, c :: rest) :=
        scanFraction_eq_ok_iff.2 ⟨ds, hne, hdigits, stopsDigits_cons hdigit rest, rfl, rfl⟩
      refine except_bind_eq_ok.2 ⟨_, hscan, ?_⟩
      dsimp only
      rw [hfound]
      rfl

/-! ### The whole -/

/-- The texts of a date-time and an offset. -/
inductive Shows : List Char → DateTime → Int → Prop
  | intro {t : DateTime} {sep : Char} {fraction zone : List Char} {offset : Int}
      (hyear : 0 ≤ t.date.year ∧ t.date.year ≤ 9999) (hsep : sep ∈ ['T', 't', ' '])
      (hfraction : ShowsFraction fraction t.time.fraction) (hzone : ShowsZone zone offset) :
      Shows (t.date.text ++ sep :: (t.time.clock ++ (fraction ++ zone))) t offset

/-- A date and a clock are long enough for the reader to start. -/
theorem Shows.length_le {s : List Char} {t : DateTime} {offset : Int} (h : Shows s t offset) :
    19 ≤ byteLength s := by
  obtain ⟨hyear, _, _, _⟩ := h
  have hmonth := t.date.month_le
  have hday := t.date.day_le
  have hhour := t.time.hour_lt
  have hminute := t.time.minute_lt
  have hsecond := t.time.second_le
  have htwo {n : Nat} (hn : n < 10 ^ 2) : (zeroPadded 2 n).length = 2 :=
    length_zeroPadded (by omega) hn
  have hfour : (zeroPadded 4 t.date.year.toNat).length = 4 :=
    length_zeroPadded (by omega) (by omega)
  refine Nat.le_trans ?_ (length_le_byteLength _)
  rw [Date.text_eq hyear, TimeOfDay.clock]
  simp only [List.length_append, List.length_cons, hfour, htwo (by omega : t.date.month < 10 ^ 2),
    htwo (by omega : t.date.day < 10 ^ 2), htwo (by omega : t.time.hour < 10 ^ 2),
    htwo (by omega : t.time.minute < 10 ^ 2), htwo (by omega : t.time.second < 10 ^ 2)]
  omega

end Rfc3339

theorem DateFields.applyOffset_eq_ok_iff {t utc : DateTime} {offset : Int} :
    applyOffset t offset = .ok utc ↔ offset.natAbs < 1440 ∧ t.minusOffset? offset = some utc := by
  rw [applyOffset]
  by_cases hday : offset.natAbs < 1440
  · rw [if_pos hday]
    cases t.minusOffset? offset with
    | none =>
        refine iff_of_false except_error_ne_ok ?_
        rintro ⟨_, h⟩
        cases h
    | some found => simp only [Except.ok.injEq, hday, Option.some.injEq, true_and]
  · rw [if_neg hday]
    exact iff_of_false except_error_ne_ok fun h => hday h.1

open Rfc3339 in
/-- The steps of the reader behind its first check. -/
theorem readRfc3339_eq {text : String} (hlong : 19 ≤ byteLength text.toList) :
    readRfc3339 text = (scanDate text.toList >>= fun (date, s) =>
      separator ['T', 't', ' '] s >>= fun s =>
      scanTime s >>= fun (time, s) =>
      scanZone s >>= fun (offset, s) =>
      if !s.isEmpty then .error .tooLong else DateFields.applyOffset ⟨date, time⟩ offset) := by
  rw [readRfc3339]
  exact if_neg (Nat.not_lt.2 hlong)

open Rfc3339 in
/-- A text is read exactly if it shows a date-time and an offset below a day. What is read
    is the date-time of the instant in UTC. -/
theorem readRfc3339_eq_ok_iff {text : String} {utc : DateTime} :
    readRfc3339 text = .ok utc ↔
      ∃ t offset, Shows text.toList t offset ∧ offset.natAbs < 1440 ∧
        t.minusOffset? offset = some utc := by
  constructor
  · intro h
    by_cases hlong : 19 ≤ byteLength text.toList
    · rw [readRfc3339_eq hlong] at h
      obtain ⟨⟨date, s₁⟩, hdate, h₁⟩ := except_bind_eq_ok.1 h
      obtain ⟨s₂, hsep, h₂⟩ := except_bind_eq_ok.1 h₁
      obtain ⟨⟨time, s₃⟩, htime, h₃⟩ := except_bind_eq_ok.1 h₂
      obtain ⟨⟨offset, s₄⟩, hzone, h₄⟩ := except_bind_eq_ok.1 h₃
      obtain ⟨hyear, hs⟩ := scanDate_eq_ok_iff.1 hdate
      obtain ⟨sep, hmem, rfl⟩ := separator_eq_ok_iff.1 hsep
      obtain ⟨fraction, hfraction, rfl⟩ := of_scanTime htime
      obtain ⟨zone, hshows, rfl⟩ := scanZone_eq_ok_iff.1 hzone
      cases s₄ with
      | cons c s₄ => cases h₄
      | nil =>
          rw [List.append_nil] at hs
          refine ⟨⟨date, time⟩, offset, ?_, DateFields.applyOffset_eq_ok_iff.1 h₄⟩
          rw [hs]
          exact .intro (t := ⟨date, time⟩) hyear hmem hfraction hshows
    · rw [readRfc3339] at h
      cases (if_pos (Nat.lt_of_not_le hlong)).symm.trans h
  · rintro ⟨t, offset, hshows, hutc⟩
    rw [readRfc3339_eq hshows.length_le]
    generalize text.toList = s at hshows
    obtain ⟨hyear, hsep, hfraction, hzone⟩ := hshows
    refine except_bind_eq_ok.2 ⟨_, scanDate_eq_ok_iff.2 ⟨hyear, rfl⟩, ?_⟩
    refine except_bind_eq_ok.2 ⟨_, separator_eq_ok_iff.2 ⟨_, hsep, rfl⟩, ?_⟩
    -- The zone is behind the time, so nothing there belongs to the fraction.
    obtain ⟨c, tail, hfront, hpoint, hdigit⟩ := hzone.front []
    rw [List.append_nil] at hfront
    have htime := scanTime_text hfraction hpoint hdigit tail
    rw [← hfront] at htime
    refine except_bind_eq_ok.2 ⟨_, htime, ?_⟩
    refine except_bind_eq_ok.2 ⟨_, scanZone_eq_ok_iff.2 ⟨_, hzone, (List.append_nil _).symm⟩, ?_⟩
    exact DateFields.applyOffset_eq_ok_iff.2 hutc

end RegionScan
