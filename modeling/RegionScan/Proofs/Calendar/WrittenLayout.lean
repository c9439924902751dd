import RegionScan.Proofs.Calendar.ShownFields

/-!
# Layouts That Are Read Back

A date-time that was written by a layout is read by it again.

A layout says more about the texts that it reads than about the one that it writes:
white space may be there in any amount. `Layout.Shows` is what all these texts have in
common. White space of the layout stands for blanks that are not followed by further
ones, and every other item for what it writes, which has none. The relation does
not mind blanks at the ends of a text, which is why a text can be trimmed before it
is read. It is kept when a character is put in front of a layout and of a text, so
it holds of what a layout writes.

## Main definitions

* `Layout.text?`: What a layout writes, as characters.
* `Layout.Shows`: The texts that show a date-time by a layout.

## Theorems

* `Layout.Shows.trimBlanks`: Blanks at the ends do not matter.
* `Layout.Shows.consChar`: A character in front of a layout and of a text.
* `Layout.Shows.read`: A text that shows a date-time is read.
-/

namespace RegionScan

namespace Layout

/-- What a layout writes, as characters. -/
def text? (t : DateTime) (layout : Layout) : Option (List Char) :=
  (layout.mapM (LayoutItem.write? t)).map List.flatten

theorem write?_eq (t : DateTime) (layout : Layout) :
    layout.write? t = (layout.text? t).map String.ofList := by
  rw [write?, text?, Option.map_map]
  rfl

/-- The items write one after the other. -/
theorem text?_cons (t : DateTime) (item : LayoutItem) (layout : Layout) :
    text? t (item :: layout)
      = (item.write? t).bind fun w => (text? t layout).map fun s => w ++ s := by
  rw [text?, List.mapM_cons]
  cases item.write? t with
  | none => rfl
  | some w =>
      rw [text?]
      cases layout.mapM (LayoutItem.write? t) with
      | none => rfl
      | some parts => rfl

/-- A character that stands for itself writes itself. -/
theorem text?_consChar (t : DateTime) (c : Char) (layout : Layout) :
    text? t (consChar c layout) = (text? t layout).map fun s => c :: s := by
  unfold consChar
  split
  · split
    · rw [text?_cons, text?_cons]
      simp only [LayoutItem.write?, Option.bind_some, Option.map_map]
      rfl
    · rw [text?_cons]
      rfl
  · split
    · rw [text?_cons, text?_cons]
      simp only [LayoutItem.write?, Option.bind_some, Option.map_map]
      rfl
    · rw [text?_cons]
      rfl

/-- The texts that show a date-time by a layout. -/
inductive Shows (t : DateTime) : Layout → List Char → Prop where
  | nil : Shows t [] []
  | space {text : List Char} (blanks : List Char) {layout : Layout} {s : List Char}
      (hblanks : ∀ c ∈ blanks, isBlank c = true) (hfront : trimStart s = s)
      (h : Shows t layout s) : Shows t (.space text :: layout) (blanks ++ s)
  | item {item : LayoutItem} {w : List Char} {layout : Layout} {s : List Char}
      (hspace : item.isSpace = false) (hw : item.write? t = some w) (hsolid : Solid w)
      (h : Shows t layout s) : Shows t (item :: layout) (w ++ s)

namespace Shows

variable {t : DateTime} {layout : Layout} {s : List Char}

/-- Blanks in front do not matter. -/
theorem trimStart (h : Shows t layout s) : Shows t layout (trimStart s) := by
  cases h with
  | nil => exact .nil
  | @space text blanks layout s hblanks hfront h =>
      rw [trimStart_blanks_append hblanks, hfront]
      exact space [] (fun _ hc => nomatch hc) hfront h
  | item hspace hw hsolid h =>
      rw [hsolid.trimStart_append]
      exact item hspace hw hsolid h

/-- Nor do blanks behind. -/
theorem trimEnd (h : Shows t layout s) : Shows t layout (trimEnd s) := by
  induction h with
  | nil => exact .nil
  | @space text blanks layout s hblanks hfront h ih =>
      rw [RegionScan.trimEnd_append]
      by_cases hnil : RegionScan.trimEnd s = []
      · -- Nothing is left behind these blanks, so they go as well.
        rw [if_pos hnil, trimEnd_blanks hblanks]
        rw [hnil] at ih
        exact space [] (fun _ hc => nomatch hc) rfl ih
      · rw [if_neg hnil]
        exact space blanks hblanks (trimStart_trimEnd hfront) ih
  | item hspace hw hsolid h ih =>
      rw [hsolid.trimEnd_append]
      exact item hspace hw hsolid ih

theorem trimBlanks (h : Shows t layout s) : Shows t layout (trimBlanks s) := by
  rw [trimBlanks_eq]
  exact h.trimStart.trimEnd

/-- A text that starts with no white space of its layout starts with no blank. -/
theorem trimStart_eq (h : Shows t layout s) (hfront : ∀ text rest, layout ≠ .space text :: rest) :
    RegionScan.trimStart s = s := by
  cases h with
  | nil => rfl
  | space _ _ _ => exact absurd rfl (hfront _ _)
  | item _ _ hsolid _ => exact hsolid.trimStart_append _

/-- A character that stands for itself can be put in front. -/
theorem consChar (h : Shows t layout s) (c : Char) :
    Shows t (Layout.consChar c layout) (c :: s) := by
  unfold Layout.consChar
  cases hc : isBlank c with
  | true =>
      rw [if_pos rfl]
      split
      · -- One more blank joins the white space in front.
        cases h with
        | @space _ blanks _ s hblanks hfront h =>
            exact space (c :: blanks) (List.forall_mem_cons.2 ⟨hc, hblanks⟩) hfront h
        | item hspace _ _ _ => cases hspace
      · rename_i hnone
        have hblanks : ∀ d ∈ [c], isBlank d = true := fun d hd => List.mem_singleton.1 hd ▸ hc
        exact space [c] hblanks (h.trimStart_eq hnone) h
  | false =>
      rw [if_neg Bool.false_ne_true]
      split
      · -- So does a character join the literal text in front.
        cases h with
        | @item _ w _ s hspace hw hsolid h =>
            obtain rfl := Option.some.inj hw
            have hmore : Solid (c :: _) :=
              ⟨List.cons_ne_nil c _, List.forall_mem_cons.2 ⟨hc, hsolid.not_isBlank⟩⟩
            exact item rfl rfl hmore h
      · have hsingle : Solid [c] :=
          ⟨List.cons_ne_nil c [], fun d hd => List.mem_singleton.1 hd ▸ hc⟩
        exact item rfl rfl hsingle h

/-- A text that shows a date-time gives the fields that the items show. -/
theorem readItems {places : Nat} (hyear : 0 ≤ t.date.year ∧ t.date.year ≤ 9999)
    (h : Shows t layout s) :
    (∀ item ∈ layout, item.isFixed places = true) → ∀ before : Layout,
      readItems (.shown t places before) s layout
        = .ok (.shown t places (before ++ layout), []) := by
  induction h with
  | nil =>
      intro _ before
      rw [List.append_nil]
      rfl
  | @space text blanks layout s hblanks hfront h ih =>
      intro hfixed before
      have hread : (LayoutItem.space text).read (.shown t places before) (blanks ++ s)
          = .ok (.shown t places (before ++ [.space text]), s) := by
        -- White space reads all blanks, and these are all there are.
        rw [LayoutItem.read, trimStart_blanks_append hblanks, hfront,
          LayoutItem.shown_append_text (.inr (.inr ⟨text, rfl⟩))]
      have hrest := ih (fun item hitem => hfixed item (List.mem_cons_of_mem _ hitem))
        (before ++ [.space text])
      rw [List.append_assoc, List.singleton_append] at hrest
      exact except_bind_eq_ok.2 ⟨_, hread, hrest⟩
  | @item item w layout s hspace hw hsolid h ih =>
      intro hfixed before
      have hread := LayoutItem.read_fixed (hfixed item List.mem_cons_self) hspace hyear hw before s
      have hrest := ih (fun item hitem => hfixed item (List.mem_cons_of_mem _ hitem))
        (before ++ [item])
      rw [List.append_assoc, List.singleton_append] at hrest
      exact except_bind_eq_ok.2 ⟨_, hread, hrest⟩

/-- So the layout reads it, and uses it up. -/
theorem read {places : Nat} (hyear : 0 ≤ t.date.year ∧ t.date.year ≤ 9999)
    (h : Shows t layout s) (hfixed : ∀ item ∈ layout, item.isFixed places = true) :
    layout.read (String.ofList s) = .ok (.shown t places layout) := by
  have hitems := h.readItems hyear hfixed []
  rw [DateFields.shown_nil, List.nil_append] at hitems
  rw [Layout.read, String.toList_ofList]
  exact except_bind_eq_ok.2 ⟨_, hitems, rfl⟩

end Shows

end Layout

end RegionScan
