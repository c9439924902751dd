import RegionScan.Proofs.Pattern.Layout
import RegionScan.Proofs.Pattern.Spelling
import RegionScan.Proofs.Results

/-!
# Compiling Patterns

Which texts are patterns, and what becomes of their characters.

A pattern is compiled from its pieces. Each run stands for a field and each literal
for itself, with one exception, a short run of the letter `S`. It takes the literal
point in front of it along, and without one there is no such field. The compiler
notices this when it has already put the point down and takes it up again. So what it
has put down matters for what follows if it ends in a point and a short run comes
next, and only then.

The layout text of a pattern is cut into items again when it is used. Read back as
tokens, with literal text as its characters, these are the tokens of the pattern. No
character of a literal is taken for a part of a field then, and a percent sign is
none either.

## Main definitions

* `PatternPiece.Means`: The tokens that pieces stand for.
* `PatternPiece.RunsSupported`: Pieces that stand for tokens.
* `PatternPiece.isDateOrTime`: The runs for parts of a date or of a time.
* `Layout.tokens`: A layout as tokens.

## Theorems

* `PatternToken.ofPieces_eq_ok_iff`: The compiler finds the tokens that are meant.
* `PatternPiece.exists_means_iff`: Which pieces stand for tokens.
* `Layout.tokens_foldr_cons`: Tokens are found in their layout.
* `Pattern.compile_iff`: Which texts are patterns, and the tokens of their layouts.
-/

namespace RegionScan

namespace PatternPiece

/-- The tokens that pieces stand for. -/
inductive Means : List PatternPiece → List PatternToken → Prop
  | nil : Means [] []
  /-- A character stands for itself. -/
  | literal {c : Char} {pieces : List PatternPiece} {tokens : List PatternToken}
      (h : Means pieces tokens) : Means (.literal c :: pieces) (.literal c :: tokens)
  /-- A run stands for its field. -/
  | field {c : Char} {n : Nat} {item : LayoutItem} {pieces : List PatternPiece}
      {tokens : List PatternToken} (hitem : letterField c n = some item) (h : Means pieces tokens) :
      Means (.run c n :: pieces) (.field item :: tokens)
  /-- A point and a short run of the letter `S` stand for a fraction of any length. -/
  | fraction {n : Nat} {pieces : List PatternPiece} {tokens : List PatternToken} (hn : n < 3)
      (h : Means pieces tokens) :
      Means (.literal '.' :: .run 'S' n :: pieces) (.field (.fraction none) :: tokens)

/-- Pieces of which each run stands for a field, or is a short run of the letter `S`
    behind a point. -/
def RunsSupported (pieces : List PatternPiece) : Prop :=
  ∀ (before : List PatternPiece) (c : Char) (n : Nat) (after : List PatternPiece),
    pieces = before ++ .run c n :: after →
      (letterField c n).isSome = true ∨
        c = 'S' ∧ n < 3 ∧ before.getLast? = some (.literal '.')

/-- Whether a piece is a run for a part of a date or of a time of day. -/
def isDateOrTime : PatternPiece → Bool
  | .run c n =>
    decide (c = 'S' ∧ n < 3) || (letterField c n).any fun item => item.isDate || item.isTime
  | _ => false

/-- Whether pieces start with a short run of the letter `S`. -/
def StartsShort (pieces : List PatternPiece) : Prop := ∃ n rest, n < 3 ∧ pieces = .run 'S' n :: rest

/-- A short run of the letter `S` has no field of its own. -/
theorem letterField_short {n : Nat} (hn : n < 3) : letterField 'S' n = none := by
  have hcases : n = 0 ∨ n = 1 ∨ n = 2 := by omega
  rcases hcases with rfl | rfl | rfl
  all_goals rfl

namespace Means

variable {c : Char} {n : Nat} {pieces : List PatternPiece} {tokens : List PatternToken}

theorem run_iff : Means (.run c n :: pieces) tokens ↔
    ∃ item rest, letterField c n = some item ∧ Means pieces rest ∧ tokens = .field item :: rest := by
  constructor
  · intro h
    cases h with
    | field hitem h => exact ⟨_, _, hitem, h, rfl⟩
  · rintro ⟨item, rest, hitem, h, rfl⟩
    exact .field hitem h

/-- A character in front of anything but a short run stands for itself. -/
theorem literal_iff (hshort : c = '.' → ¬ StartsShort pieces) :
    Means (.literal c :: pieces) tokens ↔ ∃ rest, Means pieces rest ∧ tokens = .literal c :: rest := by
  constructor
  · intro h
    cases h with
    | literal h => exact ⟨_, h, rfl⟩
    | fraction hn h => exact absurd ⟨_, _, hn, rfl⟩ (hshort rfl)
  · rintro ⟨rest, h, rfl⟩
    exact .literal h

theorem fraction_iff (hn : n < 3) : Means (.literal '.' :: .run 'S' n :: pieces) tokens ↔
    ∃ rest, Means pieces rest ∧ tokens = .field (.fraction none) :: rest := by
  constructor
  · intro h
    cases h with
    | literal h =>
        obtain ⟨item, _, hitem, _⟩ := run_iff.1 h
        rw [letterField_short hn] at hitem
        cases hitem
    | fraction _ h => exact ⟨_, h, rfl⟩
  · rintro ⟨rest, h, rfl⟩
    exact .fraction hn h

end Means

end PatternPiece

namespace PatternToken

open PatternPiece

/-- A short run behind a point takes the point along. -/
theorem ofPieces_point {n : Nat} (hn : n < 3) (done : List PatternToken)
    (rest : List PatternPiece) :
    ofPieces (.literal '.' :: done) (.run 'S' n :: rest)
      = ofPieces (.field (.fraction none) :: done) rest := by
  rw [ofPieces.eq_def]
  dsimp only
  rw [if_pos ⟨rfl, hn⟩]
  rfl

/-- Behind anything else it is refused. -/
theorem ofPieces_short {n : Nat} (hn : n < 3) {done : List PatternToken}
    (hdone : done.head? ≠ some (.literal '.')) (rest : List PatternPiece) :
    ofPieces done (.run 'S' n :: rest) = .error (.strayFraction n) := by
  rw [ofPieces.eq_def]
  dsimp only
  rw [if_pos ⟨rfl, hn⟩]
  split
  · exact absurd rfl hdone
  · rfl

/-- So is any other run that has no field. -/
theorem ofPieces_unsupported {c : Char} {n : Nat} (hlong : ¬ (c = 'S' ∧ n < 3))
    (hitem : letterField c n = none) (done : List PatternToken) (rest : List PatternPiece) :
    ofPieces done (.run c n :: rest) = .error (.unsupportedLetter c n) := by
  rw [ofPieces.eq_def]
  dsimp only
  rw [if_neg hlong, hitem]

/-- A field is no point. -/
theorem head?_field_ne (item : LayoutItem) (done : List PatternToken) :
    (PatternToken.field item :: done).head? ≠ some (.literal '.') := nofun

/-- What is found behind a token that has been put down is found with it. -/
theorem exists_found_cons {P : List PatternToken → Prop} {token : PatternToken}
    {done tokens : List PatternToken} :
    (∃ found, P found ∧ tokens = (token :: done).reverse ++ found) ↔
      ∃ found, (∃ rest, P rest ∧ found = token :: rest) ∧ tokens = done.reverse ++ found := by
  simp only [List.reverse_cons, List.append_assoc, List.singleton_append]
  constructor
  · rintro ⟨rest, h, rfl⟩
    exact ⟨_, ⟨rest, h, rfl⟩, rfl⟩
  · rintro ⟨_, ⟨rest, h, rfl⟩, rfl⟩
    exact ⟨rest, h, rfl⟩

/-- The compiler finds the tokens that are meant. The tokens before them only matter if
    they end in a point and a short run comes next. -/
theorem ofPieces_eq_ok_iff : ∀ (pieces : List PatternPiece) (done tokens : List PatternToken),
    (done.head? = some (.literal '.') → ¬ StartsShort pieces) →
      (ofPieces done pieces = .ok tokens ↔
        ∃ found, Means pieces found ∧ tokens = done.reverse ++ found)
  | [], done, tokens, _ => by
      rw [ofPieces, Except.ok.injEq]
      constructor
      · rintro rfl
        exact ⟨[], .nil, (List.append_nil _).symm⟩
      · rintro ⟨found, h, rfl⟩
        cases h
        rw [List.append_nil]
  | .openQuote :: rest, done, tokens, _ => by
      refine iff_of_false except_error_ne_ok ?_
      rintro ⟨found, h, _⟩
      cases h
  | .run c n :: rest, done, tokens, hdone => by
      have hnone (h : letterField c n = none) :
          ¬ ∃ found, Means (.run c n :: rest) found ∧ tokens = done.reverse ++ found := by
        rintro ⟨found, hfound, _⟩
        obtain ⟨item, _, hitem, _⟩ := Means.run_iff.1 hfound
        rw [h] at hitem
        cases hitem
      by_cases hshort : c = 'S' ∧ n < 3
      · -- No point has been put down, so there is no fraction that the run could be.
        obtain ⟨rfl, hn⟩ := hshort
        have hpoint : done.head? ≠ some (.literal '.') := fun h => hdone h ⟨n, rest, hn, rfl⟩
        rw [ofPieces_short hn hpoint]
        exact iff_of_false except_error_ne_ok (hnone (letterField_short hn))
      · cases hitem : letterField c n with
        | none =>
            rw [ofPieces_unsupported hshort hitem]
            exact iff_of_false except_error_ne_ok (hnone hitem)
        | some item =>
            have ih := ofPieces_eq_ok_iff rest (.field item :: done) tokens fun h =>
              absurd h (head?_field_ne item done)
            rw [ofPieces_field hshort hitem, ih, exists_found_cons]
            simp only [Means.run_iff, hitem, Option.some.injEq, exists_and_left, exists_eq_left']
  | .literal c :: rest, done, tokens, _ => by
      rw [ofPieces]
      -- Only a point in front of a short run is taken up again.
      by_cases hpoint : c = '.' ∧ StartsShort rest
      · obtain ⟨rfl, n, more, hn, hrest⟩ := hpoint
        cases rest with
        | nil => cases hrest
        | cons piece rest =>
            obtain ⟨rfl, _⟩ := List.cons.inj hrest
            have ih := ofPieces_eq_ok_iff rest (.field (.fraction none) :: done) tokens fun h =>
              absurd h (head?_field_ne (.fraction none) done)
            rw [ofPieces_point hn, ih, exists_found_cons]
            simp only [Means.fraction_iff hn]
      · have hshort : c = '.' → ¬ StartsShort rest := fun hc hstarts => hpoint ⟨hc, hstarts⟩
        have hnext : (PatternToken.literal c :: done).head? = some (.literal '.') →
            ¬ StartsShort rest := by
          intro h
          exact hshort (PatternToken.literal.inj (Option.some.inj h))
        rw [ofPieces_eq_ok_iff rest (.literal c :: done) tokens hnext, exists_found_cons]
        simp only [Means.literal_iff hshort]

theorem ofPieces_nil_eq_ok_iff {pieces : List PatternPiece} {tokens : List PatternToken} :
    ofPieces [] pieces = .ok tokens ↔ Means pieces tokens := by
  rw [ofPieces_eq_ok_iff pieces [] tokens nofun]
  simp only [List.reverse_nil, List.nil_append, exists_eq_right']

end PatternToken

namespace PatternPiece

/-- Pieces do not stand for different tokens. -/
theorem Means.unique {pieces : List PatternPiece} {tokens other : List PatternToken}
    (h : Means pieces tokens) (hother : Means pieces other) : tokens = other := by
  have hfound := PatternToken.ofPieces_nil_eq_ok_iff.2 h
  rw [PatternToken.ofPieces_nil_eq_ok_iff.2 hother] at hfound
  exact (Except.ok.inj hfound).symm

/-! ### Which pieces stand for tokens -/

/-- The pieces behind some others are supported too, unless these end in a point that a
    short run takes along. -/
theorem RunsSupported.of_append (front : List PatternPiece) {pieces : List PatternPiece}
    (h : RunsSupported (front ++ pieces))
    (hfront : front.getLast? = some (.literal '.') → ¬ StartsShort pieces) :
    RunsSupported pieces := by
  rintro before c n after rfl
  rcases h (front ++ before) c n after (List.append_assoc ..).symm with hitem | ⟨rfl, hn, hlast⟩
  · exact .inl hitem
  · cases before with
    | nil =>
        rw [List.append_nil] at hlast
        exact absurd ⟨n, after, hn, rfl⟩ (hfront hlast)
    | cons piece before =>
        rw [List.getLast?_append, List.getLast?_cons, Option.some_or] at hlast
        exact .inr ⟨rfl, hn, List.getLast?_cons.trans hlast⟩

/-- A piece in front does not take support away. -/
theorem RunsSupported.cons {piece : PatternPiece} {pieces : List PatternPiece}
    (hpiece : ∀ c n, piece = .run c n → (letterField c n).isSome = true)
    (h : RunsSupported pieces) : RunsSupported (piece :: pieces) := by
  intro before c n after heq
  cases before with
  | nil => exact .inl (hpiece c n (List.cons.inj heq).1)
  | cons first before =>
      rcases h before c n after (List.cons.inj heq).2 with hitem | ⟨rfl, hn, hlast⟩
      · exact .inl hitem
      · refine .inr ⟨rfl, hn, ?_⟩
        rw [List.getLast?_cons, hlast]
        rfl

/-- Pieces that stand for tokens are supported, and no quotation is left open. -/
theorem Means.supported {pieces : List PatternPiece} {tokens : List PatternToken}
    (h : Means pieces tokens) : .openQuote ∉ pieces ∧ RunsSupported pieces := by
  induction h with
  | nil =>
      refine ⟨List.not_mem_nil, fun before c n after heq => ?_⟩
      exact absurd heq.symm (List.append_ne_nil_of_right_ne_nil _ (List.cons_ne_nil _ _))
  | literal _ ih =>
      exact ⟨by simpa using ih.1, ih.2.cons nofun⟩
  | field hitem _ ih =>
      refine ⟨by simpa using ih.1, ih.2.cons fun c n heq => ?_⟩
      obtain ⟨rfl, rfl⟩ := PatternPiece.run.inj heq
      rw [hitem]
      rfl
  | @fraction n pieces tokens hn _ ih =>
      refine ⟨by simpa using ih.1, fun before c k after heq => ?_⟩
      -- The run is the one behind the point, or one of those that follow.
      match before with
      | [] => cases heq
      | [first] =>
          simp only [List.cons_append, List.nil_append, List.cons.injEq] at heq
          obtain ⟨rfl, hrun, _⟩ := heq
          obtain ⟨rfl, rfl⟩ := PatternPiece.run.inj hrun
          exact .inr ⟨rfl, hn, rfl⟩
      | first :: second :: before =>
          simp only [List.cons_append, List.cons.injEq] at heq
          rcases ih.2 before c k after heq.2.2 with hitem | ⟨rfl, hk, hlast⟩
          · exact .inl hitem
          · refine .inr ⟨rfl, hk, ?_⟩
            rw [List.getLast?_cons, List.getLast?_cons, hlast]
            rfl

/-- Supported pieces stand for tokens if no quotation is left open. -/
theorem exists_means : ∀ pieces : List PatternPiece,
    .openQuote ∉ pieces → RunsSupported pieces → ∃ tokens, Means pieces tokens
  | [], _, _ => ⟨[], .nil⟩
  | .openQuote :: rest, hopen, _ => absurd List.mem_cons_self hopen
  | .run c n :: rest, hopen, h => by
      have hrest : RunsSupported rest :=
        .of_append [.run c n] h fun hlast => by cases hlast
      obtain ⟨tokens, htokens⟩ := exists_means rest (mt (List.mem_cons_of_mem _) hopen) hrest
      rcases h [] c n rest rfl with hitem | ⟨_, _, hlast⟩
      · obtain ⟨item, hitem⟩ := Option.isSome_iff_exists.1 hitem
        exact ⟨_, .field hitem htokens⟩
      · cases hlast
  | .literal c :: rest, hopen, h => by
      by_cases hpoint : c = '.' ∧ StartsShort rest
      · obtain ⟨rfl, n, more, hn, hrest⟩ := hpoint
        cases rest with
        | nil => cases hrest
        | cons piece rest =>
            obtain ⟨rfl, _⟩ := List.cons.inj hrest
            have hrest : RunsSupported rest :=
              .of_append [.literal '.', .run 'S' n] h fun hlast => by cases hlast
            obtain ⟨tokens, htokens⟩ := exists_means rest
              (fun hmem => hopen (List.mem_cons_of_mem _ (List.mem_cons_of_mem _ hmem))) hrest
            exact ⟨_, .fraction hn htokens⟩
      · have hrest : RunsSupported rest := by
          refine .of_append [.literal c] h fun hlast hstarts => hpoint ⟨?_, hstarts⟩
          exact PatternPiece.literal.inj (Option.some.inj hlast)
        obtain ⟨tokens, htokens⟩ := exists_means rest (mt (List.mem_cons_of_mem _) hopen) hrest
        exact ⟨_, .literal htokens⟩

/-- Which pieces stand for tokens. -/
theorem exists_means_iff (pieces : List PatternPiece) :
    (∃ tokens, Means pieces tokens) ↔ .openQuote ∉ pieces ∧ RunsSupported pieces :=
  ⟨fun ⟨_, h⟩ => h.supported, fun ⟨hopen, h⟩ => exists_means pieces hopen h⟩

/-- A run is for a part of a date or of a time exactly if its field is one, and a short
    run that stands for a fraction is. -/
theorem Means.any_isDateOrTime {pieces : List PatternPiece} {tokens : List PatternToken}
    (h : Means pieces tokens) :
    (tokens.any (·.isField LayoutItem.isDate) || tokens.any (·.isField LayoutItem.isTime))
      = pieces.any isDateOrTime := by
  induction h with
  | nil => rfl
  | literal _ ih =>
      simpa only [List.any_cons, PatternToken.isField, isDateOrTime, Bool.false_or] using ih
  | @field c n item pieces tokens hitem _ ih =>
      have hlong : ¬ (c = 'S' ∧ n < 3) := by
        rintro ⟨rfl, hn⟩
        rw [letterField_short hn] at hitem
        cases hitem
      have hrun : isDateOrTime (.run c n) = (item.isDate || item.isTime) := by
        rw [isDateOrTime, decide_eq_false hlong, hitem]
        rfl
      simp only [List.any_cons, PatternToken.isField, hrun, ← ih]
      ac_rfl
  | @fraction n pieces tokens hn _ ih =>
      have hrun : isDateOrTime (.run 'S' n) = true := by
        rw [isDateOrTime, decide_eq_true ⟨rfl, hn⟩, Bool.true_or]
      have htime : PatternToken.isField LayoutItem.isTime (.field (.fraction none)) = true := rfl
      simp only [List.any_cons, hrun, htime, Bool.true_or, Bool.or_true]

/-- The field of a run is spelled as itself. -/
theorem isSpelled_letterField {c : Char} {n : Nat} {item : LayoutItem}
    (h : letterField c n = some item) : PatternToken.IsSpelled (.field item) := by
  unfold letterField at h
  split at h
  -- The last line of the table is for runs without a field.
  all_goals first
    | obtain rfl := Option.some.inj h
      exact ⟨rfl, fun _ => rfl⟩
    | cases h

/-- So are all tokens that are meant. -/
theorem Means.isSpelled {pieces : List PatternPiece} {tokens : List PatternToken}
    (h : Means pieces tokens) : ∀ token ∈ tokens, token.IsSpelled := by
  induction h with
  | nil => exact fun _ htoken => absurd htoken List.not_mem_nil
  | literal _ ih => exact List.forall_mem_cons.2 ⟨trivial, ih⟩
  | field hitem _ ih => exact List.forall_mem_cons.2 ⟨isSpelled_letterField hitem, ih⟩
  | fraction _ _ ih => exact List.forall_mem_cons.2 ⟨⟨rfl, fun _ => rfl⟩, ih⟩

end PatternPiece

/-! ### Layouts as tokens -/

/-- An item of a layout as tokens. Literal text is its characters. -/
def LayoutItem.tokens : LayoutItem → List PatternToken
  | .literal text => text.map .literal
  | .percent => [.literal '%']
  | .space text => text.map .literal
  | item => [.field item]

/-- A layout as tokens. -/
def Layout.tokens (layout : Layout) : List PatternToken := layout.flatMap LayoutItem.tokens

namespace Layout

theorem tokens_cons (item : LayoutItem) (layout : Layout) :
    tokens (item :: layout) = item.tokens ++ tokens layout := List.flatMap_cons

/-- However a character is joined to the layout behind it, it is a token of its own. -/
theorem tokens_consChar (c : Char) (layout : Layout) :
    tokens (consChar c layout) = .literal c :: tokens layout := by
  unfold consChar
  split
  · split
    · simp only [tokens_cons, LayoutItem.tokens, List.map_cons, List.cons_append]
    · simp only [tokens_cons, LayoutItem.tokens, List.map_cons, List.map_nil, List.singleton_append]
  · split
    · simp only [tokens_cons, LayoutItem.tokens, List.map_cons, List.cons_append]
    · simp only [tokens_cons, LayoutItem.tokens, List.map_cons, List.map_nil, List.singleton_append]

/-- A token in front of a layout is its first one. -/
theorem tokens_cons_token {token : PatternToken} (h : token.IsSpelled) (layout : Layout) :
    tokens (token.cons layout) = token :: tokens layout := by
  cases token with
  | literal c =>
      unfold PatternToken.cons
      dsimp only
      split
      · rename_i hpercent
        rw [tokens_cons, hpercent]
        rfl
      · exact tokens_consChar c layout
  | field item =>
      have hitem : item.tokens = [.field item] := by
        cases item with
        | literal _ => cases h.1
        | space _ => cases h.1
        | percent => cases h.1
        | _ => rfl
      rw [PatternToken.cons, tokens_cons, hitem, List.singleton_append]

/-- Tokens are found in their layout. -/
theorem tokens_foldr_cons (tokens : List PatternToken) :
    (∀ token ∈ tokens, token.IsSpelled) → Layout.tokens (tokens.foldr PatternToken.cons []) = tokens := by
  induction tokens with
  | nil => exact fun _ => rfl
  | cons token rest ih =>
      intro h
      rw [List.foldr_cons, tokens_cons_token (h token List.mem_cons_self),
        ih fun other hother => h other (List.mem_cons_of_mem token hother)]

end Layout

namespace Pattern

open PatternPiece

/-- A text is compiled to the tokens that its pieces stand for if one of them is a part of
    a date or of a time. -/
theorem compile_eq_ok_iff {text : String} {p : Pattern} :
    compile text = .ok p ↔ p.text = text ∧ Means (ofText text) p.tokens ∧
      (ofText text).any isDateOrTime = true := by
  rw [compile, except_bind_eq_ok]
  simp only [PatternToken.ofPieces_nil_eq_ok_iff]
  constructor
  · rintro ⟨tokens, hmeans, h⟩
    have hany := hmeans.any_isDateOrTime
    by_cases hparts : (ofText text).any isDateOrTime = true
    · rw [hasDate, hasTime, hany, if_pos hparts] at h
      obtain rfl := Except.ok.inj h
      exact ⟨rfl, hmeans, hparts⟩
    · rw [hasDate, hasTime, hany, if_neg hparts] at h
      cases h
  · rintro ⟨rfl, hmeans, hparts⟩
    refine ⟨p.tokens, hmeans, ?_⟩
    rw [hasDate, hasTime, hmeans.any_isDateOrTime, if_pos hparts]
    rfl

/-- A text is a pattern exactly if it spells pieces of which each run is supported and one
    is a part of a date or of a time. The layout of a pattern has the tokens that the
    pieces stand for, and no others. -/
theorem compile_iff (text : String) :
    ((∃ p, compile text = .ok p) ↔
      ∃ pieces, Spells text.toList pieces ∧ RunsSupported pieces ∧
        ∃ piece ∈ pieces, piece.isDateOrTime = true) ∧
    ∀ p, compile text = .ok p → p.text = text ∧
      ∀ pieces tokens, Spells text.toList pieces →
        (Means pieces tokens ↔ (Layout.ofText p.layoutText.toList).tokens = tokens) := by
  constructor
  · constructor
    · rintro ⟨p, hp⟩
      obtain ⟨_, hmeans, hparts⟩ := compile_eq_ok_iff.1 hp
      obtain ⟨hopen, hruns⟩ := (exists_means_iff _).1 ⟨_, hmeans⟩
      exact ⟨ofText text, spells_iff.2 ⟨rfl, hopen⟩, hruns, List.any_eq_true.1 hparts⟩
    · rintro ⟨pieces, hspells, hruns, hparts⟩
      obtain ⟨hfound, hopen⟩ := spells_iff.1 hspells
      obtain ⟨tokens, hmeans⟩ := (exists_means_iff _).2 ⟨hopen, hruns⟩
      subst hfound
      exact ⟨⟨text, tokens⟩, compile_eq_ok_iff.2 ⟨rfl, hmeans, List.any_eq_true.2 hparts⟩⟩
  · intro p hp
    obtain ⟨htext, hmeans, _⟩ := compile_eq_ok_iff.1 hp
    refine ⟨htext, fun pieces tokens hspells => ?_⟩
    have hlayout : p.layout.tokens = p.tokens := by
      rw [layout_eq hmeans.isSpelled, Layout.tokens_foldr_cons p.tokens hmeans.isSpelled]
    rw [layout] at hlayout
    rw [hlayout, ← hspells.ofChars_eq]
    exact ⟨hmeans.unique, fun heq => heq ▸ hmeans⟩

/-- A quoted percent sign in front of a fraction whose point is quoted, and a percent sign
    between a quote and a day. -/
theorem compile_quotedPercent :
    ∃ p, compile "'at 5%.'SS''%d" = .ok p ∧ p.layoutText = "at 5%%%.f'%%%-d" ∧
      Spells "'at 5%.'SS''%d".toList (ofText "'at 5%.'SS''%d") ∧
      Means (ofText "'at 5%.'SS''%d")
        ("at 5%".toList.map .literal ++
          [.field (.fraction none), .literal '\'', .literal '%', .field (.number .day false)]) := by
  have hspells : Spells "'at 5%.'SS''%d".toList (ofText "'at 5%.'SS''%d") :=
    spells_iff.2 ⟨rfl, by decide⟩
  have hp : ∃ p, compile "'at 5%.'SS''%d" = .ok p ∧ p.layoutText = "at 5%%%.f'%%%-d" :=
    ⟨_, rfl, rfl⟩
  obtain ⟨p, hp, hlayout⟩ := hp
  obtain ⟨_, hmeans⟩ := (compile_iff "'at 5%.'SS''%d").2 p hp
  refine ⟨p, hp, hlayout, hspells, (hmeans _ _ hspells).2 ?_⟩
  rw [hlayout]
  decide

end Pattern

end RegionScan
