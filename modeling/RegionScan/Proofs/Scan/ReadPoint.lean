import RegionScan.Proofs.Scan.MinuteText
import RegionScan.Proofs.Snapshot
import RegionScan.Scan.Config

/-!
# Read Points

Which snapshot a text asks for, whatever its offset.

A text shows a local date-time and an offset, in one of two forms, and asks for the
instant that both make up. The offset is whole minutes. So it moves the seconds and
leaves the fraction alone, and the same instant is asked for at any offset, on another
day or in another year if need be. An instant that the packed form of a snapshot has
room for has a date-time in a year of four digits at every offset, because these
instants end long before such years do.

What stands around the instant does not matter. Blanks are trimmed, and from the first
bracket on a text is a zone name, which can be taken off because no instant has a
bracket in it.

## Main definitions

* `ReadPoint.Wraps`: What may stand around an instant.
* `ReadPoint.instantNanos`: The instant of a date-time and an offset.
* `DateTime.millisText`: A date-time to the millisecond.

## Theorems

* `ReadPoint.of_readInstant`: What is read is shown.
* `ReadPoint.of_withoutZone`: What is taken off is a zone name.
* `ReadPoint.ofInstant_eq_ok_iff`: The snapshot at an instant.
* `ReadPoint.exists_local`: The local date-times of an instant.
* `ReadPoint.resolveSnapshot_exact`: Instants that are written are resolved, and what is
  resolved is the instant of the text.
-/

namespace RegionScan

namespace ReadPoint

/-! ### What stands around an instant -/

/-- The texts that are another one with blanks around it and perhaps a zone name in
    brackets behind it. -/
inductive Wraps : List Char → List Char → Prop
  | plain {front core back : List Char} (hfront : ∀ c ∈ front, isBlank c = true)
      (hback : ∀ c ∈ back, isBlank c = true) : Wraps (front ++ (core ++ back)) core
  | zone {front core back : List Char} (name : List Char)
      (hfront : ∀ c ∈ front, isBlank c = true) (hback : ∀ c ∈ back, isBlank c = true) :
      Wraps (front ++ ((core ++ '[' :: (name ++ [']'])) ++ back)) core

theorem withoutZone_of_notMem {s : List Char} (h : '[' ∉ s) : withoutZone s = .ok s := by
  rw [withoutZone, if_neg]
  rwa [List.contains_iff_mem]

theorem takeWhile_zone {core : List Char} (h : '[' ∉ core) (rest : List Char) :
    (core ++ '[' :: rest).takeWhile (· ≠ '[') = core := by
  rw [List.takeWhile_append_of_pos, List.takeWhile_cons_of_neg, List.append_nil]
  · simp
  · intro c hc
    exact decide_eq_true fun heq => h (heq ▸ hc)

/-- A zone name is taken off, whatever it is. -/
theorem withoutZone_zone {core : List Char} (h : '[' ∉ core) (name : List Char) :
    withoutZone (core ++ '[' :: (name ++ [']'])) = .ok core := by
  have hmem : (core ++ '[' :: (name ++ [']'])).contains '[' = true :=
    List.contains_iff_mem.2 (List.mem_append_right _ List.mem_cons_self)
  have hlast : (core ++ '[' :: (name ++ [']'])).getLast? = some ']' := by
    rw [← List.cons_append, ← List.append_assoc, List.getLast?_concat]
  rw [withoutZone, if_pos hmem, if_pos hlast, takeWhile_zone h]

/-- Nothing else is taken off. -/
theorem of_withoutZone {s core : List Char} (h : withoutZone s = .ok core) :
    '[' ∉ core ∧ (s = core ∨ ∃ name, s = core ++ '[' :: (name ++ [']'])) := by
  rw [withoutZone] at h
  split at h
  · rename_i hmem
    obtain ⟨front, rest, rfl, hnot⟩ := List.eq_append_cons_of_mem (List.contains_iff_mem.1 hmem)
    rw [takeWhile_zone hnot] at h
    split at h
    · rename_i hlast
      obtain rfl := Except.ok.inj h
      refine ⟨hnot, .inr ?_⟩
      rw [List.getLast?_append_cons] at hlast
      -- The bracket that ends the text is not the one that starts the name.
      cases rest with
      | nil => cases hlast
      | cons c rest =>
          rw [List.getLast?_cons_cons] at hlast
          obtain ⟨name, hname⟩ := List.getLast?_eq_some_iff.1 hlast
          exact ⟨name, by rw [hname]⟩
    · cases h
  · rename_i hnone
    obtain rfl := Except.ok.inj h
    exact ⟨fun hmem => hnone (List.contains_iff_mem.2 hmem), .inl rfl⟩

/-! ### Instants -/

/-- The nanoseconds from the epoch to a date-time at an offset. -/
def instantNanos (t : DateTime) (offset : Int) : Int :=
  (t.unixSeconds - 60 * offset) * 1000000000 + t.time.nanos

/-- The date-time in UTC has the milliseconds of the instant, rounded down. -/
theorem unixMillis_of_minusOffset? {t utc : DateTime} {offset : Int}
    (h : t.minusOffset? offset = some utc) : utc.unixMillis = instantNanos t offset / 1000000 := by
  obtain ⟨hseconds, hnanos⟩ := DateTime.minusOffset?_eq_some_iff.1 h
  rw [DateTime.unixMillis, instantNanos, hseconds, hnanos]
  omega

/-- The snapshot at an instant has its milliseconds, and there is one if these fit the
    packed form. -/
theorem ofInstant_eq_ok_iff {t : DateTime} {s : Snapshot} :
    ofInstant t = .ok s ↔
      (s.physical.toNat : Int) = t.unixMillis ∧ s.physical.toNat ≤ maxPhysical ∧
        s.logical.val = 0 := by
  have hlt := t.unixMillis_lt
  constructor
  · intro h
    rw [ofInstant] at h
    split at h
    · cases h
    · rename_i hnonneg
      have hmillis : (UInt64.ofNat t.unixMillis.toNat).toNat = t.unixMillis.toNat :=
        UInt64.toNat_ofNat_of_lt' (by simp only [UInt64.size]; omega)
      rw [Snapshot.checkedOfMillis] at h
      by_cases hfits : (UInt64.ofNat t.unixMillis.toNat).toNat ≤ maxPhysical
      · rw [if_pos hfits] at h
        obtain rfl := Except.ok.inj h
        refine ⟨?_, hfits, rfl⟩
        rw [Snapshot.ofMillis, Snapshot.ofParts, hmillis]
        omega
      · rw [if_neg hfits] at h
        cases h
  · rintro ⟨hmillis, hfits, hlogical⟩
    have hphysical : UInt64.ofNat t.unixMillis.toNat = s.physical := by
      rw [← hmillis, Int.toNat_natCast, UInt64.ofNat_toNat]
    have hsnapshot : Snapshot.ofMillis s.physical = s := by
      cases s
      simp only [Snapshot.ofMillis, Snapshot.ofParts, Snapshot.mk.injEq, true_and]
      exact Fin.ext hlogical.symm
    rw [ofInstant, if_neg (by omega), hphysical, Snapshot.checkedOfMillis, if_pos hfits, hsnapshot]

/-- What is read is the instant of a date-time and an offset that the text shows. -/
theorem of_readInstant {s : String} {utc : DateTime} (h : readInstant s = .ok utc) :
    ∃ t offset, (Rfc3339.Shows s.toList t offset ∨ ShowsMinute s.toList t offset) ∧
      offset.natAbs < 1440 ∧ t.minusOffset? offset = some utc := by
  rw [readInstant] at h
  cases hread : readRfc3339 s with
  | ok t =>
      rw [hread] at h
      obtain rfl := Except.ok.inj h
      obtain ⟨t, offset, hshows, hutc⟩ := readRfc3339_eq_ok_iff.1 hread
      exact ⟨t, offset, .inl hshows, hutc⟩
  | error e =>
      rw [hread] at h
      cases hminute : minuteLayout.readUtc s with
      | ok t =>
          rw [hminute] at h
          obtain rfl := Except.ok.inj h
          obtain ⟨t, offset, hshows, hutc⟩ := of_readUtc_minuteLayout hminute
          exact ⟨t, offset, .inr hshows, hutc⟩
      | error _ =>
          rw [hminute] at h
          cases h

theorem readInstant_of_readRfc3339 {s : String} {utc : DateTime} (h : readRfc3339 s = .ok utc) :
    readInstant s = .ok utc := by
  rw [readInstant, h]

/-! ### Written instants -/

end ReadPoint

/-- A date-time to the millisecond, as characters. -/
def DateTime.millisText (t : DateTime) : List Char :=
  t.date.text ++ 'T' :: (t.time.clock ++ '.' :: zeroPadded 3 (t.time.fraction / 1000000))

namespace ReadPoint

/-- A date-time that has whole milliseconds and a year of four digits is shown by its text
    to the millisecond, at the offset of the zone behind it. -/
theorem shows_millisText {t : DateTime} (hyear : 0 ≤ t.date.year ∧ t.date.year ≤ 9999)
    (hmillis : t.time.fraction % 1000000 = 0) {zone : List Char} {offset : Int}
    (hzone : Rfc3339.ShowsZone zone offset) :
    Rfc3339.Shows (t.millisText ++ zone) t offset := by
  have hlt : t.time.fraction < 1000000000 := Nat.mod_lt _ (by decide)
  have hnanos : fractionNanos (zeroPadded 3 (t.time.fraction / 1000000)) = t.time.fraction := by
    rw [fractionNanos_zeroPadded (by omega) (by omega) (by omega)]
    exact Nat.div_mul_cancel (Nat.dvd_of_mod_eq_zero hmillis)
  have hfraction : Rfc3339.ShowsFraction ('.' :: zeroPadded 3 (t.time.fraction / 1000000))
      t.time.fraction := by
    have hdigits := Rfc3339.ShowsFraction.digits (solid_zeroPadded 3 (t.time.fraction / 1000000)).ne_nil
      fun c hc => isDigit_of_mem_zeroPadded hc
    rwa [hnanos] at hdigits
  have htext : t.millisText ++ zone = t.date.text ++ 'T' ::
      (t.time.clock ++ ('.' :: zeroPadded 3 (t.time.fraction / 1000000) ++ zone)) := by
    simp only [DateTime.millisText, List.append_assoc, List.cons_append]
  rw [htext]
  exact .intro hyear (by decide) hfraction hzone

/-- An instant that the packed form has room for has a date-time at any offset below a
    day, in a year of four digits. -/
theorem exists_local {p : Nat} (hp : p ≤ maxPhysical) {offset : Int} (hoffset : offset.natAbs < 1440) :
    ∃ t, DateTime.ofUnixMillis? (p + 60000 * offset) = some t ∧
      (0 ≤ t.date.year ∧ t.date.year ≤ 9999) ∧ t.time.fraction % 1000000 = 0 := by
  have hmax : maxPhysical = 70368744177663 := rfl
  have hfirst : Date.firstDay = -95746130 := rfl
  have hlast : Date.lastDay = 95745398 := rfl
  have hnanos : ((p + 60000 * offset) % 1000).toNat * 1000000 < nanosPerSecond := by
    simp only [nanosPerSecond]
    omega
  have hday : Date.firstDay
        ≤ (p + 60000 * offset) / 1000 / (secondsPerDay : Int) + Date.unixEpoch ∧
      (p + 60000 * offset) / 1000 / (secondsPerDay : Int) + Date.unixEpoch ≤ Date.lastDay := by
    simp only [secondsPerDay, Date.unixEpoch]
    omega
  obtain ⟨t, ht⟩ := DateTime.exists_ofUnix? hnanos hday
  obtain ⟨hseconds, hfraction⟩ := DateTime.ofUnix?_eq_some_iff.1 ht
  refine ⟨t, ht, ?_, ?_⟩
  · -- The day is close to those from 1970 to 4199, and the years are in the order of days.
    obtain ⟨hunix, _⟩ := t.unixSeconds_divMod
    obtain ⟨hlow, hhigh⟩ := t.date.dayNumber_mem
    have hnumber : t.date.dayNumber = t.date.unixDay + Date.unixEpoch := by
      rw [Date.unixDay, Int.sub_add_cancel]
    rw [hseconds] at hunix
    simp only [secondsPerDay, Date.unixEpoch] at hunix hnumber
    refine ⟨Int.not_lt.1 fun hbefore => ?_, Int.not_lt.1 fun hafter => ?_⟩
    · have hle := Date.daysBeforeYear_mono (Int.add_one_le_of_lt hbefore)
      have hzero : Date.daysBeforeYear 0 = -366 := rfl
      omega
    · have hle := Date.daysBeforeYear_mono (Int.add_one_le_of_lt hafter)
      have hten : Date.daysBeforeYear (9999 + 1) = 3652059 := rfl
      omega
  · rw [TimeOfDay.fraction, hfraction]
    simp only [nanosPerSecond]
    omega

/-! ### Resolution -/

theorem readPoint_eq_ok_iff {s : String} {snapshot : Snapshot} :
    readPoint s = .ok snapshot ↔ ∃ core utc, withoutZone s.toList = .ok core ∧
      readInstant (String.ofList core) = .ok utc ∧ ofInstant utc = .ok snapshot := by
  rw [readPoint, except_bind_eq_ok]
  simp only [except_bind_eq_ok]
  constructor
  · rintro ⟨core, hcore, utc, hread, h⟩
    exact ⟨core, utc, hcore, hread, h⟩
  · rintro ⟨core, utc, hcore, hread, h⟩
    exact ⟨core, hcore, utc, hread, h⟩

/-- A text is resolved to a snapshot exactly if it is one when it is trimmed. -/
theorem resolveSnapshot_eq_ok_some_iff {text : String} {s : Snapshot} :
    ScanConfig.resolveSnapshot (some text) = .ok (some s) ↔ readPoint (trim text) = .ok s := by
  rw [ScanConfig.resolveSnapshot]
  by_cases hempty : (trim text).isEmpty = true
  · rw [if_pos hempty, String.isEmpty_iff.1 hempty]
    refine iff_of_false (fun h => ?_) except_error_ne_ok
    cases h
  · rw [if_neg hempty]
    cases readPoint (trim text) with
    | ok found => simp only [Except.ok.injEq, Option.some.injEq]
    | error _ => exact iff_of_false except_error_ne_ok except_error_ne_ok

theorem solid_of_showsZone {zone : List Char} {offset : Int} (h : Rfc3339.ShowsZone zone offset) :
    Solid zone := by
  cases h with
  | @utc c hc =>
      rcases hc with rfl | rfl
      · exact .of_all rfl
      · exact .of_all rfl
  | @offset sign _ hours minutes hsign _ _ =>
      have hparts : Solid (zeroPadded 2 hours ++ ':' :: zeroPadded 2 minutes) :=
        (solid_zeroPadded 2 hours).append ((solid_zeroPadded 2 minutes).cons rfl).not_isBlank
      refine hparts.cons ?_
      cases hsign with
      | _ => rfl

/-- Nothing is trimmed off an instant in RFC 3339 form, nor off a zone name behind it. -/
theorem trimBlanks_of_shows {s : List Char} {t : DateTime} {offset : Int}
    (h : Rfc3339.Shows s t offset) :
    trimBlanks s = s ∧ ∀ name, trimBlanks (s ++ '[' :: (name ++ [']'])) = s ++ '[' :: (name ++ [']']) := by
  cases h with
  | @intro t sep fraction zone offset _ _ _ hzone =>
      have hdate := t.date.solid_text
      have hbracket : Solid [']'] := .of_all rfl
      constructor
      · have htrim := trimBlanks_append hdate (solid_of_showsZone hzone)
          (sep :: (t.time.clock ++ fraction))
        simpa only [List.cons_append, List.append_assoc] using htrim
      · intro name
        have htrim := trimBlanks_append hdate hbracket
          (sep :: (t.time.clock ++ (fraction ++ (zone ++ '[' :: name))))
        simpa only [List.cons_append, List.append_assoc] using htrim

theorem bracket_notMem_digits {ds : List Char} (h : ∀ c ∈ ds, c.isDigit = true) : '[' ∉ ds :=
  fun hmem => absurd (h '[' hmem) (by decide)

theorem bracket_notMem_zeroPadded (width n : Nat) : '[' ∉ zeroPadded width n :=
  bracket_notMem_digits fun _ hc => isDigit_of_mem_zeroPadded hc

theorem bracket_notMem_zone {zone : List Char} {offset : Int} (h : Rfc3339.ShowsZone zone offset) :
    '[' ∉ zone := by
  cases h with
  | utc hc =>
      rcases hc with rfl | rfl
      · decide
      · decide
  | offset hsign _ _ =>
      refine List.not_mem_cons_of_ne_of_not_mem ?_ (by simp [bracket_notMem_zeroPadded])
      cases hsign with
      | _ => decide

theorem bracket_notMem_fraction {w : List Char} {nanos : Nat} (h : Rfc3339.ShowsFraction w nanos) :
    '[' ∉ w := by
  cases h with
  | none => exact List.not_mem_nil
  | digits _ hdigits =>
      exact List.not_mem_cons_of_ne_of_not_mem (by decide) (bracket_notMem_digits hdigits)

/-- An instant in RFC 3339 form has no bracket. -/
theorem bracket_notMem_of_shows {s : List Char} {t : DateTime} {offset : Int}
    (h : Rfc3339.Shows s t offset) : '[' ∉ s := by
  obtain ⟨hyear, hsep, hfraction, hzone⟩ := h
  have hdate : '[' ∉ t.date.text := by
    rw [Date.text_eq hyear]
    simp [bracket_notMem_zeroPadded]
  have hclock : '[' ∉ t.time.clock := by
    rw [TimeOfDay.clock]
    simp [bracket_notMem_zeroPadded]
  have hsep' : '[' ≠ _ := fun heq => absurd (heq ▸ hsep) (by decide : '[' ∉ ['T', 't', ' '])
  simp only [List.mem_append, List.mem_cons, not_or]
  exact ⟨hdate, hsep', hclock, bracket_notMem_fraction hfraction, bracket_notMem_zone hzone⟩

/-- An instant in RFC 3339 form is resolved, whatever stands around it. -/
theorem resolveSnapshot_of_shows {text : String} {core : List Char} {t utc : DateTime}
    {offset : Int} {s : Snapshot} (hwraps : Wraps text.toList core)
    (hshows : Rfc3339.Shows core t offset) (hoffset : offset.natAbs < 1440)
    (hutc : t.minusOffset? offset = some utc) (hs : ofInstant utc = .ok s) :
    ScanConfig.resolveSnapshot (some text) = .ok (some s) := by
  obtain ⟨hplain, hzone⟩ := trimBlanks_of_shows hshows
  have hnot := bracket_notMem_of_shows hshows
  have hread : readRfc3339 (String.ofList core) = .ok utc :=
    readRfc3339_eq_ok_iff.2 ⟨t, offset, by rwa [String.toList_ofList], hoffset, hutc⟩
  have hcore : withoutZone (trim text).toList = .ok core := by
    rw [trim, String.toList_ofList]
    generalize text.toList = around at hwraps
    cases hwraps with
    | plain hfront hback =>
        rw [trimBlanks_blanks_append hfront hback, hplain, withoutZone_of_notMem hnot]
    | zone name hfront hback =>
        rw [trimBlanks_blanks_append hfront hback, hzone name, withoutZone_zone hnot]
  exact resolveSnapshot_eq_ok_some_iff.2 (readPoint_eq_ok_iff.2
    ⟨core, utc, hcore, readInstant_of_readRfc3339 hread, hs⟩)

/-- What is resolved is the instant that a text shows, between what may stand around it. -/
theorem of_resolveSnapshot {text : String} {s : Snapshot}
    (h : ScanConfig.resolveSnapshot (some text) = .ok (some s)) :
    ∃ core t offset, Wraps text.toList core ∧
      (Rfc3339.Shows core t offset ∨ ShowsMinute core t offset) ∧ offset.natAbs < 1440 ∧
      (s.physical.toNat : Int) = instantNanos t offset / 1000000 ∧
      s.physical.toNat ≤ maxPhysical ∧ s.logical.val = 0 := by
  obtain ⟨core, utc, hcore, hread, hs⟩ :=
    readPoint_eq_ok_iff.1 (resolveSnapshot_eq_ok_some_iff.1 h)
  obtain ⟨t, offset, hshows, hoffset, hutc⟩ := of_readInstant hread
  rw [String.toList_ofList] at hshows
  obtain ⟨hmillis, hfits, hlogical⟩ := ofInstant_eq_ok_iff.1 hs
  rw [unixMillis_of_minusOffset? hutc] at hmillis
  refine ⟨core, t, offset, ?_, hshows, hoffset, hmillis, hfits, hlogical⟩
  obtain ⟨front, back, hfront, hback, htext⟩ := exists_blanks_trimBlanks text.toList
  rw [trim, String.toList_ofList] at hcore
  rcases (of_withoutZone hcore).2 with htrimmed | ⟨name, htrimmed⟩
  · rw [htext, htrimmed]
    exact .plain hfront hback
  · rw [htext, htrimmed]
    exact .zone name hfront hback

/-! ### Exactness -/

/-- The date-time of a snapshot is written to the millisecond, as one in UTC. -/
theorem rfc3339?_eq {p : UInt64} {t : DateTime}
    (ht : DateTime.ofUnixMillis? p.toNat = some t) :
    (Snapshot.ofMillis p).rfc3339? = some (String.ofList (t.millisText ++ ['Z'])) := by
  have hlayout : Layout.ofText "%Y-%m-%dT%H:%M:%S%.3fZ".toList
      = Coercion.dateLayout ++ .literal ['T'] :: (clockLayout ++ [.fraction (some 3), .literal ['Z']]) :=
    rfl
  have hphysical : (Snapshot.ofMillis p).physical.toNat = p.toNat := rfl
  have htext : Layout.text? t (Layout.ofText "%Y-%m-%dT%H:%M:%S%.3fZ".toList)
      = some (t.millisText ++ ['Z']) := by
    rw [hlayout, Layout.text?_append, Coercion.text?_dateLayout, Layout.text?_cons,
      Layout.text?_append, Coercion.text?_clockLayout, Layout.text?_cons, Layout.text?_cons,
      Layout.text?_nil]
    simp only [LayoutItem.write?, Option.bind_some, Option.map_some, writeFractionDigits,
      DateTime.millisText, List.append_assoc, List.cons_append, List.nil_append, List.append_nil]
  rw [Snapshot.rfc3339?, hphysical, ht]
  exact (Layout.write?_eq t _).trans (congrArg (Option.map String.ofList) htext)

/-- The local date-time of a snapshot's reading at an offset is resolved to the snapshot,
    written to the millisecond with the offset behind it. -/
theorem exists_resolveSnapshot {p : UInt64} (hp : p.toNat ≤ maxPhysical) {zone : List Char}
    {offset : Int} (hzone : Rfc3339.ShowsZone zone offset) (hoffset : offset.natAbs < 1440) :
    ∃ t, DateTime.ofUnixMillis? (p.toNat + 60000 * offset) = some t ∧
      ∀ text : String, Wraps text.toList (t.millisText ++ zone) →
        ScanConfig.resolveSnapshot (some text) = .ok (some (.ofMillis p)) := by
  obtain ⟨t, ht, hyear, hmillis⟩ := exists_local hp hoffset
  obtain ⟨utc, hutc, _⟩ := exists_local hp (by decide : (0 : Int).natAbs < 1440)
  refine ⟨t, ht, fun text hwraps => ?_⟩
  obtain ⟨hseconds, hnanos⟩ := DateTime.ofUnixMillis?_eq_some_iff.1 ht
  obtain ⟨hutcSeconds, hutcNanos⟩ := DateTime.ofUnixMillis?_eq_some_iff.1 hutc
  -- The offset is whole seconds, so it is taken off the seconds alone.
  have hminus : t.minusOffset? offset = some utc := by
    rw [DateTime.minusOffset?_eq_some_iff]
    omega
  have hinstant : ofInstant utc = .ok (.ofMillis p) := by
    refine ofInstant_eq_ok_iff.2 ⟨?_, hp, rfl⟩
    rw [DateTime.unixMillis, hutcSeconds, hutcNanos]
    have hphysical : (Snapshot.ofMillis p).physical.toNat = p.toNat := rfl
    omega
  exact resolveSnapshot_of_shows hwraps (shows_millisText hyear hmillis hzone) hoffset hminus hinstant

/-- Every reading that the packed form has room for is resolved from its date-time in UTC,
    and from its local date-time at any offset below a day, with blanks around it and a
    zone name behind it or without. What is resolved is the instant that the text shows,
    rounded down to milliseconds. It has room in the packed form and is found again in it. -/
theorem resolveSnapshot_exact :
    (∀ p : UInt64, p.toNat ≤ maxPhysical →
      (∃ s, (Snapshot.ofMillis p).rfc3339? = some s ∧ ∀ text : String, Wraps text.toList s.toList →
        ScanConfig.resolveSnapshot (some text) = .ok (some (.ofMillis p))) ∧
      ∀ (sign : Char) (negative : Bool) (hours minutes : Nat), OffsetSign sign negative →
        hours ≤ 23 → minutes ≤ 59 → ∃ t,
          DateTime.ofUnixMillis? (p.toNat + 60000 * offsetMinutes negative hours minutes) = some t ∧
          ∀ text : String, Wraps text.toList
              (t.millisText ++ sign :: (zeroPadded 2 hours ++ ':' :: zeroPadded 2 minutes)) →
            ScanConfig.resolveSnapshot (some text) = .ok (some (.ofMillis p))) ∧
    ∀ (text : String) (s : Snapshot), ScanConfig.resolveSnapshot (some text) = .ok (some s) →
      s.physical.toNat ≤ maxPhysical ∧ s.logical.val = 0 ∧ Snapshot.ofVersion s.version = s ∧
      ∃ core t offset, Wraps text.toList core ∧
        (Rfc3339.Shows core t offset ∨ ShowsMinute core t offset) ∧ offset.natAbs < 1440 ∧
        (s.physical.toNat : Int) = instantNanos t offset / 1000000 := by
  refine ⟨fun p hp => ⟨?_, ?_⟩, fun text s h => ?_⟩
  · obtain ⟨t, ht, hresolved⟩ := exists_resolveSnapshot hp (.utc (.inl rfl)) (by decide)
    rw [Int.mul_zero, Int.add_zero] at ht
    refine ⟨_, rfc3339?_eq ht, fun text hwraps => hresolved text ?_⟩
    rwa [String.toList_ofList] at hwraps
  · intro sign negative hours minutes hsign hh hm
    have hoffset : (offsetMinutes negative hours minutes).natAbs < 1440 := by
      rw [offsetMinutes]
      split
      · omega
      · omega
    exact exists_resolveSnapshot hp (.offset hsign (by omega) (by omega)) hoffset
  · obtain ⟨core, t, offset, hwraps, hshows, hoffset, hmillis, hfits, hlogical⟩ :=
      of_resolveSnapshot h
    exact ⟨hfits, hlogical, Snapshot.ofVersion_version hfits, core, t, offset, hwraps, hshows,
      hoffset, hmillis⟩

/-- The epoch is in the year before it at a negative offset, with and without seconds. -/
theorem resolveSnapshot_exact_epoch :
    ScanConfig.resolveSnapshot (some " 1969-12-31T00:01:00.000-23:59[Etc/Nowhere]")
        = .ok (some (.ofMillis 0)) ∧
      ScanConfig.resolveSnapshot (some "1969-12-31T23:59-00:01") = .ok (some (.ofMillis 0)) ∧
      ∃ core t offset, Wraps "1969-12-31T23:59-00:01".toList core ∧
        (Rfc3339.Shows core t offset ∨ ShowsMinute core t offset) ∧ offset.natAbs < 1440 ∧
        0 = instantNanos t offset / 1000000 := by
  have hminute : ScanConfig.resolveSnapshot (some "1969-12-31T23:59-00:01")
      = .ok (some (.ofMillis 0)) := rfl
  obtain ⟨_, _, _, hshown⟩ := resolveSnapshot_exact.2 _ _ hminute
  refine ⟨?_, hminute, hshown⟩
  obtain ⟨t, ht, hresolved⟩ := (resolveSnapshot_exact.1 0 (by decide)).2 '-' true 23 59 .minus
    (by decide) (by decide)
  have hlocal : DateTime.ofUnixMillis? ((0 : UInt64).toNat + 60000 * offsetMinutes true 23 59)
      = some ⟨⟨1969, 12, 31, by decide, by decide⟩, ⟨60, 0, by decide, by decide, by decide⟩⟩ := rfl
  obtain rfl := Option.some.inj (ht.symm.trans hlocal)
  refine hresolved _ ?_
  have htext : " 1969-12-31T00:01:00.000-23:59[Etc/Nowhere]".toList
      = [' '] ++ (("1969-12-31T00:01:00.000-23:59".toList ++ '[' :: ("Etc/Nowhere".toList ++ [']'])) ++ []) :=
    rfl
  rw [htext]
  exact .zone _ (List.forall_mem_singleton.2 rfl) (List.forall_mem_nil _)

end ReadPoint

end RegionScan
