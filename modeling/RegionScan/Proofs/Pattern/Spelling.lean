import RegionScan.Pattern

/-!
# Spelling Patterns

Which texts spell which pieces, said by a grammar and not by a scanner.

The scanner of patterns goes from character to character and only knows whether it is
in a quotation. The grammar says what it finds. A quotation has something in it, and
the quotes around it are alone: at its start because two quotes are one quote, and at
its end because so are two quotes within it. With this the grammar leaves no choice.
Every text spells pieces in one way at most, and it spells none exactly if it ends in
a quotation.

A run has all of its letter that there are, so what follows it starts with something
else. The scanner finds runs from their last letter on, and the same letter behind a
quotation starts a run of its own.

## Main definitions

* `PatternPiece.inQuotes`: A text within quotes.
* `PatternPiece.Spells`: The grammar of patterns.

## Theorems

* `PatternPiece.Spells.ofChars_eq`: The scanner finds what is spelled.
* `PatternPiece.spells_iff`: It finds nothing else, up to an open quotation.
-/

namespace RegionScan

namespace PatternPiece

/-- A text as it stands within quotes: a quote is two. -/
def inQuotes (w : List Char) : List Char :=
  w.flatMap fun c => if c = '\'' then ['\'', '\''] else [c]

/-- The pieces that a text spells. -/
inductive Spells : List Char → List PatternPiece → Prop
  | nil : Spells [] []
  /-- A character that is no letter and no quote stands for itself. -/
  | literal {c : Char} {s : List Char} {pieces : List PatternPiece} (hletter : c.isAlpha = false)
      (hquote : c ≠ '\'') (hs : Spells s pieces) : Spells (c :: s) (.literal c :: pieces)
  /-- Two quotes are a quote. -/
  | quote {s : List Char} {pieces : List PatternPiece} (hs : Spells s pieces) :
      Spells ('\'' :: '\'' :: s) (.literal '\'' :: pieces)
  /-- What is between two lone quotes stands for itself. -/
  | quotation {c : Char} {w s : List Char} {pieces : List PatternPiece} (hopen : c ≠ '\'')
      (hclose : s.head? ≠ some '\'') (hs : Spells s pieces) :
      Spells ('\'' :: (inQuotes (c :: w) ++ '\'' :: s)) ((c :: w).map .literal ++ pieces)
  /-- So many of one letter, and no more, are a run. -/
  | run {c : Char} {n : Nat} {s : List Char} {pieces : List PatternPiece}
      (hletter : c.isAlpha = true) (hpos : 0 < n) (hmax : s.head? ≠ some c) (hs : Spells s pieces) :
      Spells (List.replicate n c ++ s) (.run c n :: pieces)

/-! ### The scanner -/

theorem ofChars_quote (inside : Bool) (s : List Char) :
    ofChars inside ('\'' :: '\'' :: s) = .literal '\'' :: ofChars inside s := by
  cases inside with
  | false => rfl
  | true => rfl

theorem ofChars_lone_quote {s : List Char} (hs : s.head? ≠ some '\'') (inside : Bool) :
    ofChars inside ('\'' :: s) = ofChars (!inside) s := by
  rw [ofChars]
  rintro rest rfl
  exact hs rfl

theorem ofChars_inside {c : Char} (hc : c ≠ '\'') (s : List Char) :
    ofChars true (c :: s) = .literal c :: ofChars true s := by
  rw [ofChars]
  · exact fun _ h _ => hc h
  · exact hc

theorem ofChars_outside {c : Char} (hc : c ≠ '\'') (s : List Char) :
    ofChars false (c :: s) =
      if c.isAlpha then consLetter c (ofChars false s) else .literal c :: ofChars false s := by
  rw [ofChars]
  · exact fun _ h _ => hc h
  · exact hc

theorem not_isAlpha_quote {c : Char} (h : c.isAlpha = true) : c ≠ '\'' := by
  rintro rfl
  cases h

/-- Within quotes the scanner finds what stands there, up to the quote that ends it. -/
theorem ofChars_inQuotes {s : List Char} (hs : s.head? ≠ some '\'') (w : List Char) :
    ofChars true (inQuotes w ++ '\'' :: s) = w.map .literal ++ ofChars false s := by
  induction w with
  | nil => exact ofChars_lone_quote hs true
  | cons c w ih =>
      by_cases hc : c = '\''
      · have hspelled : inQuotes (c :: w) ++ '\'' :: s = '\'' :: '\'' :: (inQuotes w ++ '\'' :: s) := by
          rw [inQuotes, List.flatMap_cons, if_pos hc]
          rfl
        rw [hspelled, ofChars_quote, ih, hc]
        rfl
      · have hspelled : inQuotes (c :: w) ++ '\'' :: s = c :: (inQuotes w ++ '\'' :: s) := by
          rw [inQuotes, List.flatMap_cons, if_neg hc]
          rfl
        rw [hspelled, ofChars_inside hc, ih]
        rfl

theorem consLetter_of_ne {c : Char} {pieces : List PatternPiece}
    (h : ∀ n rest, pieces ≠ .run c n :: rest) : consLetter c pieces = .run c 1 :: pieces := by
  unfold consLetter
  split
  · rename_i d n rest
    rw [if_neg]
    rintro rfl
    exact h n rest rfl
  · rfl

theorem consLetter_run (c : Char) (n : Nat) (rest : List PatternPiece) :
    consLetter c (.run c n :: rest) = .run c (n + 1) :: rest := by
  rw [consLetter, if_pos rfl]

namespace Spells

variable {c : Char} {n : Nat} {s : List Char} {pieces : List PatternPiece}

/-- What spells a run starts with it. -/
theorem of_run (h : Spells s (.run c n :: pieces)) :
    ∃ s', s = List.replicate n c ++ s' ∧ c.isAlpha = true ∧ 0 < n ∧ s'.head? ≠ some c ∧
      Spells s' pieces := by
  cases h with
  | run hletter hpos hmax hs => exact ⟨_, rfl, hletter, hpos, hmax, hs⟩

/-- A letter outside of quotes starts a run of itself. -/
theorem exists_run (h : Spells s pieces) (hs : s.head? = some c) (hletter : c.isAlpha = true) :
    ∃ n rest, pieces = .run c n :: rest := by
  cases h with
  | nil => cases hs
  | literal hother _ _ =>
      obtain rfl := Option.some.inj hs
      rw [hletter] at hother
      cases hother
  | quote _ => exact absurd (Option.some.inj hs).symm (not_isAlpha_quote hletter)
  | quotation _ _ _ => exact absurd (Option.some.inj hs).symm (not_isAlpha_quote hletter)
  | run _ hpos _ _ =>
      obtain ⟨k, rfl⟩ := Nat.exists_eq_succ_of_ne_zero (Nat.ne_of_gt hpos)
      obtain rfl := Option.some.inj hs
      exact ⟨_, _, rfl⟩

/-- A letter in front makes a run longer, or starts one. -/
theorem consLetter (h : Spells s pieces) (hletter : c.isAlpha = true) :
    Spells (c :: s) (consLetter c pieces) := by
  by_cases hrun : ∃ n rest, pieces = .run c n :: rest
  · obtain ⟨n, rest, rfl⟩ := hrun
    obtain ⟨s', rfl, _, _, hmax, hs'⟩ := h.of_run
    rw [consLetter_run]
    exact .run hletter (Nat.succ_pos n) hmax hs'
  · rw [consLetter_of_ne fun n rest heq => hrun ⟨n, rest, heq⟩]
    exact .run hletter Nat.one_pos (fun hs => hrun (h.exists_run hs hletter)) h

/-- The scanner finds a run in front of what does not go on with it. -/
theorem ofChars_replicate (hletter : c.isAlpha = true) (hmax : s.head? ≠ some c)
    (h : Spells s (ofChars false s)) (n : Nat) :
    ofChars false (List.replicate (n + 1) c ++ s) = .run c (n + 1) :: ofChars false s := by
  have hquote := not_isAlpha_quote hletter
  induction n with
  | zero =>
      have hnone : ∀ n rest, ofChars false s ≠ .run c n :: rest := by
        intro n rest heq
        rw [heq] at h
        obtain ⟨s', rfl, _, hpos, _⟩ := h.of_run
        obtain ⟨k, rfl⟩ := Nat.exists_eq_succ_of_ne_zero (Nat.ne_of_gt hpos)
        exact hmax rfl
      rw [List.replicate_succ, List.replicate_zero, List.singleton_append, ofChars_outside hquote,
        if_pos hletter, consLetter_of_ne hnone]
  | succ n ih =>
      rw [List.replicate_succ, List.cons_append, ofChars_outside hquote, if_pos hletter, ih,
        consLetter_run]

/-- The scanner finds what is spelled. -/
theorem ofChars_eq (h : Spells s pieces) : ofChars false s = pieces := by
  induction h with
  | nil => rfl
  | literal hletter hquote _ ih =>
      rw [ofChars_outside hquote, hletter, if_neg Bool.false_ne_true, ih]
  | quote _ ih => rw [ofChars_quote, ih]
  | @quotation c w s pieces hopen hclose _ ih =>
      have hstart : (inQuotes (c :: w) ++ '\'' :: s).head? ≠ some '\'' := by
        rw [inQuotes, List.flatMap_cons, if_neg hopen]
        exact fun heq => hopen (Option.some.inj heq)
      rw [ofChars_lone_quote hstart, Bool.not_false, ofChars_inQuotes hclose, ih]
  | @run c n s pieces hletter hpos hmax hs ih =>
      obtain ⟨k, rfl⟩ := Nat.exists_eq_succ_of_ne_zero (Nat.ne_of_gt hpos)
      rw [ofChars_replicate hletter hmax (ih ▸ hs), ih]

/-- A text that spells pieces does not end in a quotation. -/
theorem openQuote_notMem (h : Spells s pieces) : .openQuote ∉ pieces := by
  induction h with
  | nil => exact List.not_mem_nil
  | literal _ _ _ ih => simpa using ih
  | quote _ ih => simpa using ih
  | quotation _ _ _ ih => simpa using ih
  | run _ _ _ _ ih => simpa using ih

end Spells

theorem openQuote_mem_consLetter {c : Char} {pieces : List PatternPiece} :
    .openQuote ∈ PatternPiece.consLetter c pieces ↔ .openQuote ∈ pieces := by
  unfold PatternPiece.consLetter
  split
  · split
    · simp
    · simp
  · simp

/-- The pieces that a text spells from a place inside or outside of quotes. Inside, the
    quotation first goes on to a lone quote. -/
def SpellsFrom : Bool → List Char → List PatternPiece → Prop
  | false, s, pieces => Spells s pieces
  | true, s, pieces => ∃ w s' rest, s = inQuotes w ++ '\'' :: s' ∧ s'.head? ≠ some '\'' ∧
      pieces = w.map .literal ++ rest ∧ Spells s' rest

theorem inQuotes_cons (c : Char) (w : List Char) :
    inQuotes (c :: w) = (if c = '\'' then ['\'', '\''] else [c]) ++ inQuotes w :=
  List.flatMap_cons

/-- A character within quotes that is no quote belongs to the quotation. -/
theorem SpellsFrom.cons_inside {c : Char} (hc : c ≠ '\'') {s : List Char}
    {pieces : List PatternPiece} (h : SpellsFrom true s pieces) :
    SpellsFrom true (c :: s) (.literal c :: pieces) := by
  obtain ⟨w, s', rest, rfl, hclose, rfl, hs⟩ := h
  refine ⟨c :: w, s', rest, ?_, hclose, rfl, hs⟩
  rw [inQuotes_cons, if_neg hc]
  rfl

/-- Two quotes are a quote, inside and outside. -/
theorem SpellsFrom.quote {inside : Bool} {s : List Char} {pieces : List PatternPiece}
    (h : SpellsFrom inside s pieces) :
    SpellsFrom inside ('\'' :: '\'' :: s) (.literal '\'' :: pieces) := by
  cases inside with
  | false => exact Spells.quote h
  | true =>
      obtain ⟨w, s', rest, rfl, hclose, rfl, hs⟩ := h
      refine ⟨'\'' :: w, s', rest, ?_, hclose, rfl, hs⟩
      rw [inQuotes_cons, if_pos rfl]
      rfl

/-- A lone quote ends a quotation or starts one. -/
theorem SpellsFrom.lone_quote {inside : Bool} {s : List Char} {pieces : List PatternPiece}
    (hs : s.head? ≠ some '\'') (h : SpellsFrom (!inside) s pieces) :
    SpellsFrom inside ('\'' :: s) pieces := by
  cases inside with
  | true => exact ⟨[], s, pieces, rfl, hs, rfl, h⟩
  | false =>
      obtain ⟨w, s', rest, rfl, hclose, rfl, hspells⟩ := h
      -- The quotation starts with no quote, so it has a first character.
      cases w with
      | nil => exact absurd rfl hs
      | cons c w =>
          by_cases hc : c = '\''
          · rw [inQuotes_cons, if_pos hc] at hs
            exact absurd rfl hs
          · exact .quotation hc hclose hspells

/-- What the scanner finds is spelled, unless a quotation is left open. -/
theorem spellsFrom_ofChars (inside : Bool) (s : List Char) :
    .openQuote ∉ ofChars inside s → SpellsFrom inside s (ofChars inside s) := by
  fun_induction ofChars inside s with
  | case1 => exact fun _ => .nil
  | case2 => exact fun h => absurd List.mem_cons_self h
  | case3 inside s ih => exact fun h => (ih (mt (List.mem_cons_of_mem _) h)).quote
  | case4 inside s hs ih =>
      intro h
      refine .lone_quote ?_ (ih h)
      cases s with
      | nil => exact nofun
      | cons c s => exact fun heq => hs s (congrArg (· :: s) (Option.some.inj heq))
  | case5 c s _ hc ih => exact fun h => (ih (mt (List.mem_cons_of_mem _) h)).cons_inside hc
  | case6 c s _ _ hletter ih =>
      exact fun h => Spells.consLetter (ih (mt openQuote_mem_consLetter.2 h)) hletter
  | case7 c s _ hc hletter ih =>
      intro h
      exact .literal (Bool.eq_false_iff.2 hletter) hc (ih (mt (List.mem_cons_of_mem _) h))

/-- A text spells what the scanner finds, and spells nothing if a quotation is left
    open. -/
theorem spells_iff {s : List Char} {pieces : List PatternPiece} :
    Spells s pieces ↔ ofChars false s = pieces ∧ .openQuote ∉ pieces := by
  refine ⟨fun h => ⟨h.ofChars_eq, h.openQuote_notMem⟩, ?_⟩
  rintro ⟨rfl, h⟩
  exact spellsFrom_ofChars false s h

end PatternPiece

end RegionScan
