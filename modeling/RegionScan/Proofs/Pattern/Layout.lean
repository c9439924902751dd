import RegionScan.Pattern
import RegionScan.Proofs.Calendar.WrittenLayout

/-!
# Layouts of Patterns

What becomes of a pattern on its way to a layout.

A pattern goes through two texts. Its letters and literals are spelled as a layout
text, and the layout text is cut into items. Neither step loses anything. Each
token of the pattern is spelled so that cutting gives the token back, whatever
stands behind it: a percent sign is doubled, and no field is the beginning of
another one. So the layout of a pattern can be built from its tokens directly, and
what was written by it is read by it if its fields have a fixed width.

## Main definitions

* `PatternPiece.token?`: What a piece stands for by itself.
* `PatternToken.cons`: A token in front of a layout.
* `PatternToken.IsSpelled`: Tokens that are cut off again.
* `PatternToken.IsFixed`: Tokens that are read back.

## Theorems

* `PatternToken.ofPieces_eq`: The tokens of pieces.
* `PatternToken.ofText_spell`, `Pattern.layout_eq`: The layout of tokens.
* `Pattern.mem_layout_iff`: The fields of a layout are those of the pattern.
* `Pattern.read_write`: A date-time that was written is read.
-/

namespace RegionScan

/-- What a piece stands for by itself, whatever stands around it. -/
def PatternPiece.token? : PatternPiece → Option PatternToken
  | .literal c => some (.literal c)
  | .run c n => if c = 'S' ∧ n < 3 then none else (letterField c n).map .field
  | .openQuote => none

/-- Whether an item shows something of a date-time. -/
def LayoutItem.isField (item : LayoutItem) : Bool := item.isDate || item.isTime || item.isOffset

/-- A character that stands for itself starts its piece of a layout. -/
theorem Layout.ofText_cons {c : Char} (hc : c ≠ '%') (s : List Char) :
    ofText (c :: s) = consChar c (ofText s) := by
  rw [ofText.eq_def (c :: s)]
  split
  case h_1 heq => cases heq
  case h_11 heq =>
    obtain ⟨rfl, rfl⟩ := List.cons.inj heq
    rfl
  -- All other cases are about a percent sign.
  all_goals
    rename_i heq
    exact absurd (List.cons.inj heq).1 hc

/-- Only pieces of literal text come from characters. -/
theorem Layout.mem_consChar {c : Char} {layout : Layout} {item : LayoutItem}
    (hfield : item.isField = true) : item ∈ consChar c layout ↔ item ∈ layout := by
  have hspace : ∀ text, item ≠ .space text := fun _ heq => by
    rw [heq] at hfield
    cases hfield
  have hliteral : ∀ text, item ≠ .literal text := fun _ heq => by
    rw [heq] at hfield
    cases hfield
  unfold consChar
  split
  · split
    · simp only [List.mem_cons, hspace, false_or]
    · simp only [List.mem_cons, hspace, false_or]
  · split
    · simp only [List.mem_cons, hliteral, false_or]
    · simp only [List.mem_cons, hliteral, false_or]

/-- What holds of the items of a layout and of all pieces of text holds with a
    character in front. -/
theorem Layout.forall_mem_consChar {P : LayoutItem → Prop} (hspace : ∀ text, P (.space text))
    (hliteral : ∀ text, P (.literal text)) {layout : Layout} (h : ∀ item ∈ layout, P item)
    (c : Char) : ∀ item ∈ consChar c layout, P item := by
  unfold consChar
  split
  · split
    · exact List.forall_mem_cons.2
        ⟨hspace _, fun item hitem => h item (List.mem_cons_of_mem _ hitem)⟩
    · exact List.forall_mem_cons.2 ⟨hspace _, h⟩
  · split
    · exact List.forall_mem_cons.2
        ⟨hliteral _, fun item hitem => h item (List.mem_cons_of_mem _ hitem)⟩
    · exact List.forall_mem_cons.2 ⟨hliteral _, h⟩

namespace PatternToken

/-- A token in front of a layout. -/
def cons (token : PatternToken) (layout : Layout) : Layout :=
  match token with
  | .literal c => if c = '%' then .percent :: layout else Layout.consChar c layout
  | .field item => item :: layout

/-- A token that is cut off again: a character, or a field that is spelled as itself. -/
def IsSpelled : PatternToken → Prop
  | .literal _ => True
  | .field item => item.isField = true ∧ ∀ s, Layout.ofText (item.spell ++ s) = item :: Layout.ofText s

/-- A token that is read back: a character, or a field of a fixed width that is
    spelled as itself. -/
def IsFixed (places : Nat) : PatternToken → Prop
  | .literal _ => True
  | .field item => item.isField = true ∧ item.isFixed places = true ∧
    ∀ s, Layout.ofText (item.spell ++ s) = item :: Layout.ofText s

/-- A run for a field is put down. -/
theorem ofPieces_field {c : Char} {n : Nat} {item : LayoutItem} (hlong : ¬ (c = 'S' ∧ n < 3))
    (hitem : letterField c n = some item) (done : List PatternToken) (rest : List PatternPiece) :
    ofPieces done (.run c n :: rest) = ofPieces (.field item :: done) rest := by
  rw [ofPieces.eq_def done (.run c n :: rest)]
  dsimp only
  rw [if_neg hlong, hitem]

/-- The tokens of pieces that stand for themselves. -/
theorem ofPieces_eq (pieces : List PatternPiece) :
    (∀ piece ∈ pieces, piece.token?.isSome = true) → ∀ done,
      ofPieces done pieces = .ok (done.reverse ++ pieces.filterMap PatternPiece.token?) := by
  induction pieces with
  | nil =>
      intro _ done
      rw [ofPieces, List.filterMap_nil, List.append_nil]
  | cons piece rest ih =>
      intro h done
      have hrest := ih fun other hother => h other (List.mem_cons_of_mem piece hother)
      obtain ⟨token, htoken⟩ := Option.isSome_iff_exists.1 (h piece List.mem_cons_self)
      have hstep : ofPieces done (piece :: rest) = ofPieces (token :: done) rest := by
        cases piece with
        | openQuote => cases htoken
        | literal c =>
            obtain rfl := Option.some.inj htoken
            rw [ofPieces]
        | run c n =>
            rw [PatternPiece.token?] at htoken
            by_cases hshort : c = 'S' ∧ n < 3
            · rw [if_pos hshort] at htoken
              cases htoken
            · rw [if_neg hshort] at htoken
              obtain ⟨item, hitem, rfl⟩ := Option.map_eq_some_iff.1 htoken
              exact ofPieces_field hshort hitem done rest
      rw [hstep, hrest, List.filterMap_cons_some htoken, List.reverse_cons, List.append_assoc,
        List.singleton_append]

variable {places : Nat} {t : DateTime}

theorem IsFixed.isSpelled {token : PatternToken} (h : token.IsFixed places) : token.IsSpelled := by
  cases token with
  | literal _ => trivial
  | field _ => exact ⟨h.1, h.2.2⟩

/-- A token is spelled so that it is cut off again. -/
theorem ofText_spell {token : PatternToken} (h : token.IsSpelled) (s : List Char) :
    Layout.ofText (token.spell ++ s) = token.cons (Layout.ofText s) := by
  cases token with
  | literal c =>
      rw [spell, cons]
      by_cases hc : c = '%'
      · rw [if_pos hc, if_pos hc]
        rfl
      · rw [if_neg hc, if_neg hc]
        exact Layout.ofText_cons hc s
  | field item => exact h.2 s

/-- So are several. -/
theorem ofText_flatMap_spell (tokens : List PatternToken) :
    (∀ token ∈ tokens, token.IsSpelled) →
      Layout.ofText (tokens.flatMap spell) = tokens.foldr cons [] := by
  induction tokens with
  | nil => exact fun _ => rfl
  | cons token rest ih =>
      intro h
      rw [List.flatMap_cons, ofText_spell (h token List.mem_cons_self),
        ih fun other hother => h other (List.mem_cons_of_mem token hother), List.foldr_cons]

/-- The fields of a layout are those of its tokens. -/
theorem mem_foldr_cons (tokens : List PatternToken) {item : LayoutItem}
    (hfield : item.isField = true) : item ∈ tokens.foldr cons [] ↔ .field item ∈ tokens := by
  induction tokens with
  | nil => simp only [List.foldr_nil, List.not_mem_nil]
  | cons token rest ih =>
      rw [List.foldr_cons, List.mem_cons, ← ih]
      cases token with
      | field other => simp only [cons, List.mem_cons, PatternToken.field.injEq]
      | literal c =>
          simp only [reduceCtorEq, false_or]
          unfold cons
          dsimp only
          split
          · have hpercent : item ≠ .percent := fun heq => by
              rw [heq] at hfield
              cases hfield
            simp only [List.mem_cons, hpercent, false_or]
          · exact Layout.mem_consChar hfield

/-- All items of a layout have a fixed width if the fields of its tokens have one. -/
theorem isFixed_of_mem_foldr_cons (tokens : List PatternToken) :
    (∀ token ∈ tokens, token.IsFixed places) →
      ∀ item ∈ tokens.foldr cons [], item.isFixed places = true := by
  induction tokens with
  | nil => exact fun _ _ hitem => absurd hitem List.not_mem_nil
  | cons token rest ih =>
      intro h
      have hrest := ih fun other hother => h other (List.mem_cons_of_mem token hother)
      rw [List.foldr_cons]
      cases token with
      | field item => exact List.forall_mem_cons.2 ⟨(h (.field item) List.mem_cons_self).2.1, hrest⟩
      | literal c =>
          rw [cons]
          by_cases hc : c = '%'
          · rw [if_pos hc]
            exact List.forall_mem_cons.2 ⟨rfl, hrest⟩
          · rw [if_neg hc]
            exact Layout.forall_mem_consChar (fun _ => rfl) (fun _ => rfl) hrest c

/-- Tokens that are read back write a text that shows a date-time. -/
theorem exists_shows (tokens : List PatternToken)
    (hyear : 0 ≤ t.date.year ∧ t.date.year ≤ 9999) :
    (∀ token ∈ tokens, token.IsFixed places) →
      ∃ s, Layout.text? t (tokens.foldr cons []) = some s ∧
        Layout.Shows t (tokens.foldr cons []) s := by
  induction tokens with
  | nil => exact fun _ => ⟨[], rfl, .nil⟩
  | cons token rest ih =>
      intro h
      obtain ⟨s, hs, hshows⟩ := ih fun other hother => h other (List.mem_cons_of_mem token hother)
      rw [List.foldr_cons]
      cases token with
      | literal c =>
          rw [cons]
          by_cases hc : c = '%'
          · rw [if_pos hc, Layout.text?_cons, hs]
            exact ⟨_, rfl, .item rfl rfl (.of_all rfl) hshows⟩
          · rw [if_neg hc, Layout.text?_consChar, hs]
            exact ⟨_, rfl, hshows.consChar c⟩
      | field item =>
          obtain ⟨hfield, hfixed, _⟩ := h (.field item) List.mem_cons_self
          -- A field is neither white space nor literal text, so it has no blank.
          have hspace : item.isSpace = false := by
            cases item with
            | space _ => cases hfield
            | _ => rfl
          have hliteral : ∀ text, item = .literal text → Solid text := fun _ heq => by
            rw [heq] at hfield
            cases hfield
          obtain ⟨w, hw, hsolid⟩ :=
            LayoutItem.solid_of_isFixed hfixed hspace hliteral hyear
          rw [cons, Layout.text?_cons, hw, hs]
          exact ⟨_, rfl, .item hspace hw hsolid hshows⟩

end PatternToken

namespace Pattern

variable {p : Pattern} {places : Nat}

/-- The layout of a pattern can be built from its tokens. -/
theorem layout_eq (h : ∀ token ∈ p.tokens, token.IsSpelled) :
    p.layout = p.tokens.foldr PatternToken.cons [] := by
  rw [layout, layoutText, String.toList_ofList, PatternToken.ofText_flatMap_spell p.tokens h]

/-- The fields of a layout are those of the pattern. -/
theorem mem_layout_iff (h : ∀ token ∈ p.tokens, token.IsFixed places) {item : LayoutItem}
    (hfield : item.isField = true) : item ∈ p.layout ↔ .field item ∈ p.tokens := by
  rw [layout_eq fun token htoken => (h token htoken).isSpelled, PatternToken.mem_foldr_cons p.tokens hfield]

/-- A date-time is written by a pattern whose fields have a fixed width. When the text
    is trimmed and read again, the fields that are found are those that the pattern
    shows. -/
theorem read_write (h : ∀ token ∈ p.tokens, token.IsFixed places) {t : DateTime}
    (hyear : 0 ≤ t.date.year ∧ t.date.year ≤ 9999) :
    ∃ s, p.write t = .ok s ∧ p.layout.read (trim s) = .ok (.shown t places p.layout) := by
  obtain ⟨s, hs, hshows⟩ := PatternToken.exists_shows p.tokens hyear h
  have hfixed := PatternToken.isFixed_of_mem_foldr_cons p.tokens h
  rw [← layout_eq fun token htoken => (h token htoken).isSpelled] at hs hshows hfixed
  refine ⟨String.ofList s, ?_, ?_⟩
  · rw [write, Layout.write?_eq, hs]
    rfl
  · rw [trim, String.toList_ofList]
    exact hshows.trimBlanks.read hyear hfixed

end Pattern

end RegionScan
