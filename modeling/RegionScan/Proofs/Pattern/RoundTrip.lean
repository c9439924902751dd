import RegionScan.Proofs.Pattern.Layout

/-!
# Round Trips of Patterns

Date-times that are written by a pattern and read by it again.

A pattern whose fields have a fixed width reads what it has written, in any order of
the fields, with any text between them and with fields given twice. What it reads is
what it shows: a date-time up to the digits of the fraction that are left out. What
it is asked for must be what it shows, though. A pattern for a date reads the date,
and the start of the date as a date-time. A pattern for a time of day reads the time.
With an offset besides, such a pattern is accepted and writes texts that it cannot
read. An offset asks for an instant, and there is none without both a date and a
time.

## Main definitions

* `PatternPiece.dateRuns`, `PatternPiece.timeRuns`, `PatternPiece.offsetRun`,
  `PatternPiece.fractionRuns`: Runs for fields of a fixed width.
* `PatternPiece.MadeOf`: Pieces made of some runs.
* `PatternPiece.IsFixed`: Pieces that stand for tokens that are read back.
* `Pattern.ofPieces`: The pattern of such pieces.

## Theorems

* `Pattern.compile_eq`: Which patterns are accepted.
* `Pattern.readTimestamp_write`: Patterns for a date and a time.
* `Pattern.readDate_write`, `Pattern.readTime_write`, `Pattern.readPart_write`:
  Patterns for one of them.
-/

namespace RegionScan

namespace PatternPiece

/-- Whether a piece is a character that stands for itself. -/
def isLiteral : PatternPiece → Bool
  | .literal _ => true
  | _ => false

/-- The runs for a date: `yyyy`, `MM`, `dd`. -/
def dateRuns : List PatternPiece := [.run 'y' 4, .run 'M' 2, .run 'd' 2]

/-- The runs for a time of day: `HH`, `mm`, `ss`. -/
def timeRuns : List PatternPiece := [.run 'H' 2, .run 'm' 2, .run 's' 2]

/-- The run for an offset: `XXX`. -/
def offsetRun : PatternPiece := .run 'X' 3

/-- The run for the fraction of the second, if there is one: so many letters `S`. -/
def fractionRuns (letters : Option Nat) : List PatternPiece := letters.toList.map (.run 'S')

/-- The number of digits of the fraction that so many letters `S` show. -/
def fractionPlaces : Option Nat → Nat
  | none => 0
  | some n => if n = 3 then 3 else if n ≤ 6 then 6 else 9

/-- Pieces made of some runs, each of them there and perhaps several times, with any
    literals between them, and perhaps an offset. -/
structure MadeOf (runs pieces : List PatternPiece) : Prop where
  of_mem : ∀ piece ∈ pieces, piece.isLiteral = true ∨ piece ∈ runs ∨ piece = offsetRun
  all_mem : ∀ run ∈ runs, run ∈ pieces

/-- Whether a piece shows something of a kind. -/
def shows (kind : LayoutItem → Bool) (piece : PatternPiece) : Bool :=
  piece.token?.any (·.isField kind)

/-- A piece that stands for itself, and for a token that is read back. -/
def IsFixed (places : Nat) (piece : PatternPiece) : Prop :=
  ∃ token, piece.token? = some token ∧ token.IsFixed places

theorem isFixed_of_isLiteral {piece : PatternPiece} (h : piece.isLiteral = true) (places : Nat) :
    piece.IsFixed places := by
  cases piece with
  | literal c => exact ⟨.literal c, rfl, trivial⟩
  | run _ _ => cases h
  | openQuote => cases h

theorem isFixed_offsetRun (places : Nat) : offsetRun.IsFixed places :=
  ⟨.field (.offset true), rfl, rfl, rfl, fun _ => rfl⟩

theorem isFixed_of_mem_dateRuns {run : PatternPiece} (h : run ∈ dateRuns) (places : Nat) :
    run.IsFixed places := by
  simp only [dateRuns, List.mem_cons, List.not_mem_nil, or_false] at h
  rcases h with rfl | rfl | rfl
  · exact ⟨.field (.number .year true), rfl, rfl, rfl, fun _ => rfl⟩
  · exact ⟨.field (.number .month true), rfl, rfl, rfl, fun _ => rfl⟩
  · exact ⟨.field (.number .day true), rfl, rfl, rfl, fun _ => rfl⟩

theorem isFixed_of_mem_timeRuns {run : PatternPiece} (h : run ∈ timeRuns) (places : Nat) :
    run.IsFixed places := by
  simp only [timeRuns, List.mem_cons, List.not_mem_nil, or_false] at h
  rcases h with rfl | rfl | rfl
  · exact ⟨.field (.number .hour true), rfl, rfl, rfl, fun _ => rfl⟩
  · exact ⟨.field (.number .minute true), rfl, rfl, rfl, fun _ => rfl⟩
  · exact ⟨.field (.number .second true), rfl, rfl, rfl, fun _ => rfl⟩

/-- Digits of the fraction are shown by threes. -/
theorem fractionPlaces_some (n : Nat) :
    fractionPlaces (some n) = 3 ∨ fractionPlaces (some n) = 6 ∨ fractionPlaces (some n) = 9 := by
  unfold fractionPlaces
  dsimp only
  split
  · exact .inl rfl
  · split
    · exact .inr (.inl rfl)
    · exact .inr (.inr rfl)

/-- Three to nine letters `S` stand for the digits that they show. -/
theorem token?_fraction {n : Nat} (hn : 3 ≤ n ∧ n ≤ 9) :
    token? (.run 'S' n) = some (.field (.fractionDigits (fractionPlaces (some n)))) := by
  have hcases : n = 3 ∨ n = 4 ∨ n = 5 ∨ n = 6 ∨ n = 7 ∨ n = 8 ∨ n = 9 := by omega
  rcases hcases with rfl | rfl | rfl | rfl | rfl | rfl | rfl
  all_goals rfl

theorem isFixed_of_mem_fractionRuns {letters : Option Nat}
    (hletters : ∀ n, letters = some n → 3 ≤ n ∧ n ≤ 9) {run : PatternPiece}
    (h : run ∈ fractionRuns letters) : run.IsFixed (fractionPlaces letters) := by
  cases letters with
  | none => exact absurd h List.not_mem_nil
  | some n =>
      rw [List.mem_singleton.1 h]
      refine ⟨_, token?_fraction (hletters n rfl), ?_⟩
      rcases fractionPlaces_some n with hthree | hsix | hnine
      · rw [hthree]
        exact ⟨rfl, rfl, fun _ => rfl⟩
      · rw [hsix]
        exact ⟨rfl, rfl, fun _ => rfl⟩
      · rw [hnine]
        exact ⟨rfl, rfl, fun _ => rfl⟩

theorem fractionPlaces_le (letters : Option Nat) : fractionPlaces letters ≤ 9 := by
  cases letters with
  | none => exact Nat.zero_le 9
  | some n =>
      have hplaces := fractionPlaces_some n
      omega

/-- The runs for a date and a time show no offset. -/
theorem not_shows_of_mem_parts :
    ∀ run ∈ dateRuns ++ timeRuns, run.shows LayoutItem.isOffset = false := by
  decide

/-- Nor does a fraction. -/
theorem not_shows_of_mem_fractionRuns {letters : Option Nat}
    (hletters : ∀ n, letters = some n → 3 ≤ n ∧ n ≤ 9) {run : PatternPiece}
    (h : run ∈ fractionRuns letters) : run.shows LayoutItem.isOffset = false := by
  cases letters with
  | none => exact absurd h List.not_mem_nil
  | some n =>
      rw [List.mem_singleton.1 h, shows, token?_fraction (hletters n rfl)]
      rfl

namespace MadeOf

variable {runs pieces : List PatternPiece} {places : Nat} {kind : LayoutItem → Bool}

/-- Pieces made of runs that are read back are read back. -/
theorem isFixed (h : MadeOf runs pieces) (hruns : ∀ run ∈ runs, run.IsFixed places) :
    ∀ piece ∈ pieces, piece.IsFixed places := by
  intro piece hpiece
  rcases h.of_mem piece hpiece with hliteral | hrun | rfl
  · exact isFixed_of_isLiteral hliteral places
  · exact hruns piece hrun
  · exact isFixed_offsetRun places

/-- What none of the runs shows, nor an offset, is not shown. -/
theorem any_shows_eq_false (h : MadeOf runs pieces) (hruns : ∀ run ∈ runs, run.shows kind = false)
    (hoffset : offsetRun ∈ pieces → offsetRun.shows kind = false) :
    pieces.any (·.shows kind) = false := by
  rw [List.any_eq_false]
  intro piece hpiece
  rw [Bool.not_eq_true]
  rcases h.of_mem piece hpiece with hliteral | hrun | rfl
  · cases piece with
    | literal c => rfl
    | run _ _ => cases hliteral
    | openQuote => cases hliteral
  · exact hruns piece hrun
  · exact hoffset hpiece

/-- If no run shows an offset, it is shown only by itself. -/
theorem any_shows_isOffset_iff (h : MadeOf runs pieces)
    (hruns : ∀ run ∈ runs, run.shows LayoutItem.isOffset = false) :
    pieces.any (·.shows LayoutItem.isOffset) = true ↔ offsetRun ∈ pieces := by
  refine ⟨fun hany => ?_, fun hmem => List.any_eq_true.2 ⟨_, hmem, rfl⟩⟩
  by_contra hnone
  rw [h.any_shows_eq_false hruns fun hmem => absurd hmem hnone] at hany
  cases hany

end MadeOf

end PatternPiece

namespace Pattern

/-- The pattern of pieces that stand for themselves. -/
def ofPieces (text : String) : Pattern :=
  ⟨text, (PatternPiece.ofText text).filterMap PatternPiece.token?⟩

variable {text : String} {places : Nat}

/-- What a pattern shows is what its pieces show. -/
theorem any_isField_ofPieces (kind : LayoutItem → Bool) :
    (ofPieces text).tokens.any (·.isField kind) = (PatternPiece.ofText text).any (·.shows kind) := by
  rw [ofPieces, List.any_filterMap]
  rfl

theorem hasDate_of_dateRuns
    (h : ∀ run ∈ PatternPiece.dateRuns, run ∈ PatternPiece.ofText text) :
    (ofPieces text).hasDate = true :=
  (any_isField_ofPieces LayoutItem.isDate).trans
    (List.any_eq_true.2 ⟨.run 'y' 4, h _ (by decide), rfl⟩)

theorem hasTime_of_timeRuns
    (h : ∀ run ∈ PatternPiece.timeRuns, run ∈ PatternPiece.ofText text) :
    (ofPieces text).hasTime = true :=
  (any_isField_ofPieces LayoutItem.isTime).trans
    (List.any_eq_true.2 ⟨.run 'H' 2, h _ (by decide), rfl⟩)

/-- A pattern has an offset if and only if there is the run for one, unless another
    run shows one. -/
theorem hasOffset_iff {runs : List PatternPiece}
    (h : PatternPiece.MadeOf runs (PatternPiece.ofText text))
    (hruns : ∀ run ∈ runs, run.shows LayoutItem.isOffset = false) :
    (ofPieces text).hasOffset = true ↔ PatternPiece.offsetRun ∈ PatternPiece.ofText text := by
  rw [hasOffset, any_isField_ofPieces]
  exact h.any_shows_isOffset_iff hruns

/-- A pattern is accepted if its pieces stand for themselves and show a date or a
    time. -/
theorem compile_eq (h : ∀ piece ∈ PatternPiece.ofText text, piece.IsFixed places)
    (hfield : (ofPieces text).hasDate = true ∨ (ofPieces text).hasTime = true) :
    compile text = .ok (ofPieces text) := by
  have hsome : ∀ piece ∈ PatternPiece.ofText text, piece.token?.isSome = true := by
    intro piece hpiece
    obtain ⟨_, htoken, _⟩ := h piece hpiece
    rw [htoken]
    rfl
  have htokens := PatternToken.ofPieces_eq (PatternPiece.ofText text) hsome []
  refine except_bind_eq_ok.2 ⟨_, htokens, ?_⟩
  exact if_pos (Bool.or_eq_true _ _ ▸ hfield)

/-- Its tokens are read back. -/
theorem isFixed_ofPieces (h : ∀ piece ∈ PatternPiece.ofText text, piece.IsFixed places) :
    ∀ token ∈ (ofPieces text).tokens, token.IsFixed places := by
  intro token htoken
  obtain ⟨piece, hpiece, heq⟩ := List.mem_filterMap.1 htoken
  obtain ⟨other, hother, hfixed⟩ := h piece hpiece
  obtain rfl := Option.some.inj (heq.symm.trans hother)
  exact hfixed

/-- The field of a run is in the layout. -/
theorem mem_layout_of_mem (h : ∀ piece ∈ PatternPiece.ofText text, piece.IsFixed places)
    {run : PatternPiece} (hrun : run ∈ PatternPiece.ofText text) {item : LayoutItem}
    (hitem : run.token? = some (.field item)) (hfield : item.isField = true) :
    item ∈ (ofPieces text).layout :=
  (mem_layout_iff (isFixed_ofPieces h) hfield).2 (List.mem_filterMap.2 ⟨run, hrun, hitem⟩)

/-- A layout shows nothing that the pattern does not. -/
theorem notMem_layout_of_any (h : ∀ piece ∈ PatternPiece.ofText text, piece.IsFixed places)
    {kind : LayoutItem → Bool} (hnone : (PatternPiece.ofText text).any (·.shows kind) = false)
    {item : LayoutItem} (hkind : kind item = true) (hfield : item.isField = true) :
    item ∉ (ofPieces text).layout := by
  intro hmem
  rw [← any_isField_ofPieces, List.any_eq_false] at hnone
  exact hnone _ ((mem_layout_iff (isFixed_ofPieces h) hfield).1 hmem) hkind

section Reading

variable {p : Pattern} {s : String} {f : DateFields}
  (hread : p.layout.read (trim s) = .ok f)

include hread

/-- What is read of a text whose fields are known. -/
theorem readTimestamp_eq : p.readTimestamp s =
    if p.hasOffset then p.explain (trim s) f.toUtc
    else if !p.hasDate then .error (.noDate p.text)
    else if p.hasTime then p.explain (trim s) f.toDateTime
    else (p.explain (trim s) f.toDate).map .midnight := by
  rw [readTimestamp, Layout.readUtc, Layout.readDateTime, Layout.readDate, hread]
  rfl

theorem readDate_eq : p.readDate s =
    if p.hasTime || p.hasOffset then (p.readTimestamp s).map (·.date)
    else p.explain s f.toDate := by
  rw [readDate, Layout.readDate, hread]
  rfl

theorem readTime_eq : p.readTime s =
    if p.hasDate || p.hasOffset then (p.readTimestamp s).map (·.time)
    else p.explain s f.toTime := by
  rw [readTime, Layout.readTime, hread]
  rfl

end Reading

section Shown

variable (hfixed : ∀ piece ∈ PatternPiece.ofText text, piece.IsFixed places) (t : DateTime)

include hfixed

/-- The date is shown if its runs are there. -/
theorem toDate_ofPieces (hdate : ∀ run ∈ PatternPiece.dateRuns, run ∈ PatternPiece.ofText text) :
    (DateFields.shown t places (ofPieces text).layout).toDate = .ok t.date := by
  rw [PatternPiece.dateRuns] at hdate
  simp only [List.forall_mem_cons] at hdate
  obtain ⟨hyear, hmonth, hday, _⟩ := hdate
  exact DateFields.toDate_shown (mem_layout_of_mem hfixed hyear rfl rfl)
    (mem_layout_of_mem hfixed hmonth rfl rfl) (mem_layout_of_mem hfixed hday rfl rfl)

/-- So is the time, up to the digits of the fraction that are not. -/
theorem toTime_ofPieces (htime : ∀ run ∈ PatternPiece.timeRuns, run ∈ PatternPiece.ofText text)
    (hplaces : places ≤ 9)
    (hnanos : .fractionDigits places ∈ (ofPieces text).layout ∨ places = 0) :
    (DateFields.shown t places (ofPieces text).layout).toTime = .ok (t.time.cut places) := by
  rw [PatternPiece.timeRuns] at htime
  simp only [List.forall_mem_cons] at htime
  obtain ⟨hhour, hminute, hsecond, _⟩ := htime
  exact DateFields.toTime_shown (mem_layout_of_mem hfixed hhour rfl rfl)
    (mem_layout_of_mem hfixed hminute rfl rfl) (mem_layout_of_mem hfixed hsecond rfl rfl)
    hplaces hnanos

/-- With an offset a pattern shows what it shows without. -/
theorem toUtc_ofPieces (hoffset : PatternPiece.offsetRun ∈ PatternPiece.ofText text) :
    (DateFields.shown t places (ofPieces text).layout).toUtc
      = (DateFields.shown t places (ofPieces text).layout).toDateTime :=
  DateFields.toUtc_shown (mem_layout_of_mem hfixed hoffset rfl rfl)

end Shown

/-- A pattern for a date, perhaps with an offset, is accepted. What it writes of a
    date-time of a year of four digits is read again as the date, and as the start
    of it, but not if there is an offset. -/
theorem readDate_write
    (hmade : PatternPiece.MadeOf PatternPiece.dateRuns (PatternPiece.ofText text)) :
    ∃ p, compile text = .ok p ∧ ∀ t : DateTime, 0 ≤ t.date.year → t.date.year ≤ 9999 →
      ∃ s, p.write t = .ok s ∧
        (PatternPiece.offsetRun ∉ PatternPiece.ofText text →
          p.readDate s = .ok t.date ∧ p.readTimestamp s = .ok (.midnight t.date)) ∧
        (PatternPiece.offsetRun ∈ PatternPiece.ofText text →
          p.readDate s = .error (.mismatch (trim s) text .notEnough) ∧
            p.readTimestamp s = .error (.mismatch (trim s) text .notEnough)) := by
  have hfixed := hmade.isFixed fun run hrun => PatternPiece.isFixed_of_mem_dateRuns hrun 0
  have hdate := hasDate_of_dateRuns hmade.all_mem
  have hnoTime : (PatternPiece.ofText text).any (·.shows LayoutItem.isTime) = false :=
    hmade.any_shows_eq_false (by decide) fun _ => rfl
  have htime : (ofPieces text).hasTime = false := (any_isField_ofPieces _).trans hnoTime
  have hoffsets := hasOffset_iff hmade (by decide)
  refine ⟨ofPieces text, compile_eq hfixed (.inl hdate), fun t hlow hhigh => ?_⟩
  obtain ⟨s, hwrite, hread⟩ := read_write (isFixed_ofPieces hfixed) ⟨hlow, hhigh⟩
  refine ⟨s, hwrite, fun hnone => ?_, fun hoffset => ?_⟩
  · have hnoOffset := Bool.eq_false_iff.2 (mt hoffsets.1 hnone)
    rw [readDate_eq hread, readTimestamp_eq hread, hdate, htime, hnoOffset,
      toDate_ofPieces hfixed t hmade.all_mem]
    exact ⟨rfl, rfl⟩
  · have hsome := hoffsets.2 hoffset
    -- The offset asks for an instant, and there is no hour.
    have hhour : .number .hour true ∉ (ofPieces text).layout :=
      notMem_layout_of_any hfixed hnoTime rfl rfl
    rw [readDate_eq hread, readTimestamp_eq hread, hsome, htime, toUtc_ofPieces hfixed t hoffset,
      DateFields.toDateTime, toDate_ofPieces hfixed t hmade.all_mem,
      DateFields.toTime_shown_of_notMem hhour]
    exact ⟨rfl, rfl⟩

/-- A pattern for a time of day, perhaps with an offset, is accepted. What it writes is
    read again as the time, cut to whole seconds, but not if there is an offset. -/
theorem readTime_write
    (hmade : PatternPiece.MadeOf PatternPiece.timeRuns (PatternPiece.ofText text)) :
    ∃ p, compile text = .ok p ∧ ∀ t : DateTime, 0 ≤ t.date.year → t.date.year ≤ 9999 →
      ∃ s, p.write t = .ok s ∧
        (PatternPiece.offsetRun ∉ PatternPiece.ofText text →
          p.readTime s = .ok (t.time.cut 0)) ∧
        (PatternPiece.offsetRun ∈ PatternPiece.ofText text →
          p.readTime s = .error (.mismatch (trim s) text .notEnough)) := by
  have hfixed := hmade.isFixed fun run hrun => PatternPiece.isFixed_of_mem_timeRuns hrun 0
  have htime := hasTime_of_timeRuns hmade.all_mem
  have hnoDate : (PatternPiece.ofText text).any (·.shows LayoutItem.isDate) = false :=
    hmade.any_shows_eq_false (by decide) fun _ => rfl
  have hdate : (ofPieces text).hasDate = false := (any_isField_ofPieces _).trans hnoDate
  have hoffsets := hasOffset_iff hmade (by decide)
  refine ⟨ofPieces text, compile_eq hfixed (.inr htime), fun t hlow hhigh => ?_⟩
  obtain ⟨s, hwrite, hread⟩ := read_write (isFixed_ofPieces hfixed) ⟨hlow, hhigh⟩
  refine ⟨s, hwrite, fun hnone => ?_, fun hoffset => ?_⟩
  · have hnoOffset := Bool.eq_false_iff.2 (mt hoffsets.1 hnone)
    rw [readTime_eq hread, hdate, hnoOffset,
      toTime_ofPieces hfixed t hmade.all_mem (Nat.zero_le 9) (.inr rfl)]
    rfl
  · have hsome := hoffsets.2 hoffset
    -- The offset asks for an instant, and there is no year.
    have hyear : .number .year true ∉ (ofPieces text).layout :=
      notMem_layout_of_any hfixed hnoDate rfl rfl
    rw [readTime_eq hread, readTimestamp_eq hread, hsome, hdate, toUtc_ofPieces hfixed t hoffset,
      DateFields.toDateTime, DateFields.toDate_shown_of_notMem hyear]
    rfl

/-- A pattern for a date and a time, perhaps with a fraction of three to nine letters
    `S` and with an offset, is accepted. Every date-time of a year of four digits is
    written by it, and is read from the text again, cut to the digits of the fraction
    that the pattern shows. -/
theorem readTimestamp_write (text : String) (letters : Option Nat)
    (hletters : ∀ n, letters = some n → 3 ≤ n ∧ n ≤ 9)
    (hmade : PatternPiece.MadeOf
      (PatternPiece.dateRuns ++ PatternPiece.timeRuns ++ PatternPiece.fractionRuns letters)
      (PatternPiece.ofText text)) :
    ∃ p, compile text = .ok p ∧ ∀ t : DateTime, 0 ≤ t.date.year → t.date.year ≤ 9999 →
      ∃ s, p.write t = .ok s ∧
        p.readTimestamp s = .ok ⟨t.date, t.time.cut (PatternPiece.fractionPlaces letters)⟩ := by
  have hfixed : ∀ piece ∈ PatternPiece.ofText text,
      piece.IsFixed (PatternPiece.fractionPlaces letters) := hmade.isFixed fun run hrun => by
    simp only [List.mem_append] at hrun
    rcases hrun with (hdate | htime) | hfraction
    · exact PatternPiece.isFixed_of_mem_dateRuns hdate _
    · exact PatternPiece.isFixed_of_mem_timeRuns htime _
    · exact PatternPiece.isFixed_of_mem_fractionRuns hletters hfraction
  have hdates : ∀ run ∈ PatternPiece.dateRuns, run ∈ PatternPiece.ofText text := fun run hrun =>
    hmade.all_mem run (List.mem_append_left _ (List.mem_append_left _ hrun))
  have htimes : ∀ run ∈ PatternPiece.timeRuns, run ∈ PatternPiece.ofText text := fun run hrun =>
    hmade.all_mem run (List.mem_append_left _ (List.mem_append_right _ hrun))
  have hdate := hasDate_of_dateRuns hdates
  have htime := hasTime_of_timeRuns htimes
  have hoffsets := hasOffset_iff hmade fun run hrun => by
    rcases List.mem_append.1 hrun with hpart | hfraction
    · exact PatternPiece.not_shows_of_mem_parts run hpart
    · exact PatternPiece.not_shows_of_mem_fractionRuns hletters hfraction
  refine ⟨ofPieces text, compile_eq hfixed (.inl hdate), fun t hlow hhigh => ?_⟩
  obtain ⟨s, hwrite, hread⟩ := read_write (isFixed_ofPieces hfixed) ⟨hlow, hhigh⟩
  -- The fraction has a run of its own, or no digits of it are asked for.
  have hnanos : .fractionDigits (PatternPiece.fractionPlaces letters) ∈ (ofPieces text).layout ∨
      PatternPiece.fractionPlaces letters = 0 := by
    cases letters with
    | none => exact .inr rfl
    | some n =>
        have hrun := hmade.all_mem (.run 'S' n) (List.mem_append_right _ (List.mem_singleton.2 rfl))
        have hitem := PatternPiece.token?_fraction (hletters n rfl)
        exact .inl (mem_layout_of_mem hfixed hrun hitem rfl)
  have hfound : (DateFields.shown t (PatternPiece.fractionPlaces letters)
      (ofPieces text).layout).toDateTime
        = .ok ⟨t.date, t.time.cut (PatternPiece.fractionPlaces letters)⟩ := by
    rw [DateFields.toDateTime, toDate_ofPieces hfixed t hdates,
      toTime_ofPieces hfixed t htimes (PatternPiece.fractionPlaces_le letters) hnanos]
  refine ⟨s, hwrite, ?_⟩
  rw [readTimestamp_eq hread, hdate, htime, hfound]
  cases hsome : (ofPieces text).hasOffset with
  | false => rfl
  | true =>
      -- The offset that is written is that of UTC, and there is all that it asks for.
      have hoffset := hoffsets.1 hsome
      rw [toUtc_ofPieces hfixed t hoffset, hfound]
      rfl

/-- The start of the evening of 1 May 2021, and a fraction. -/
def mayEvening : DateTime :=
  ⟨⟨2021, 5, 1, by decide, by decide⟩, ⟨64800, 123456789, by decide, by decide, by decide⟩⟩

/-- A pattern without separators, with digits and a percent sign in its text and the year
    given twice. -/
theorem readTimestamp_write_dense :
    ∃ p s, compile "yyyyMMddHHmmssSSSS'5%'XXX yyyy" = .ok p ∧ p.write mayEvening = .ok s ∧
      p.readTimestamp s = .ok ⟨mayEvening.date, mayEvening.time.cut 6⟩ := by
  obtain ⟨p, hp, h⟩ := readTimestamp_write "yyyyMMddHHmmssSSSS'5%'XXX yyyy" (some 4)
    (fun n hn => by
      obtain rfl := Option.some.inj hn
      decide)
    ⟨by decide, by decide⟩
  obtain ⟨s, hwrite, hread⟩ := h mayEvening (by decide) (by decide)
  exact ⟨p, s, hp, hwrite, hread⟩

/-- A pattern for a date, perhaps with an offset, is accepted, and so is one for a time
    of day. What they write of a date-time of a year of four digits is read again,
    as the date and the start of it, or as the time cut to whole seconds, if there is
    no offset. If there is one, none of it is read: an instant is asked for, and the
    text is not enough for that. -/
theorem readPart_write (text : String) :
    (PatternPiece.MadeOf PatternPiece.dateRuns (PatternPiece.ofText text) →
      ∃ p, compile text = .ok p ∧ ∀ t : DateTime, 0 ≤ t.date.year → t.date.year ≤ 9999 →
        ∃ s, p.write t = .ok s ∧
          (PatternPiece.offsetRun ∉ PatternPiece.ofText text →
            p.readDate s = .ok t.date ∧ p.readTimestamp s = .ok (.midnight t.date)) ∧
          (PatternPiece.offsetRun ∈ PatternPiece.ofText text →
            p.readDate s = .error (.mismatch (trim s) text .notEnough) ∧
              p.readTimestamp s = .error (.mismatch (trim s) text .notEnough))) ∧
      (PatternPiece.MadeOf PatternPiece.timeRuns (PatternPiece.ofText text) →
        ∃ p, compile text = .ok p ∧ ∀ t : DateTime, 0 ≤ t.date.year → t.date.year ≤ 9999 →
          ∃ s, p.write t = .ok s ∧
            (PatternPiece.offsetRun ∉ PatternPiece.ofText text →
              p.readTime s = .ok (t.time.cut 0)) ∧
            (PatternPiece.offsetRun ∈ PatternPiece.ofText text →
              p.readTime s = .error (.mismatch (trim s) text .notEnough))) :=
  ⟨readDate_write, readTime_write⟩

/-- A date without an offset is read. -/
theorem readPart_write_plain :
    ∃ p s, compile "dd/MM/yyyy" = .ok p ∧ p.write mayEvening = .ok s ∧
      p.readDate s = .ok mayEvening.date ∧
      p.readTimestamp s = .ok (.midnight mayEvening.date) := by
  obtain ⟨p, hp, h⟩ := (readPart_write "dd/MM/yyyy").1 ⟨by decide, by decide⟩
  obtain ⟨s, hwrite, hread, _⟩ := h mayEvening (by decide) (by decide)
  obtain ⟨hdate, hstart⟩ := hread (by decide)
  exact ⟨p, s, hp, hwrite, hdate, hstart⟩

/-- With an offset neither a date nor a time is read. -/
theorem not_readPart_write_offset :
    ∃ p q, compile "yyyy-MM-ddXXX" = .ok p ∧ p.write mayEvening = .ok "2021-05-01+00:00" ∧
      p.readDate "2021-05-01+00:00"
        = .error (.mismatch "2021-05-01+00:00" "yyyy-MM-ddXXX" .notEnough) ∧
      compile "HH:mm:ssXXX" = .ok q ∧ q.write mayEvening = .ok "18:00:00+00:00" ∧
      q.readTime "18:00:00+00:00"
        = .error (.mismatch "18:00:00+00:00" "HH:mm:ssXXX" .notEnough) :=
  ⟨_, _, rfl, rfl, rfl, rfl, rfl, rfl⟩

end Pattern

end RegionScan
