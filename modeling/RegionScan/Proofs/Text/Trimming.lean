import Mathlib.Data.List.TakeWhile
import RegionScan.Text.Blank

/-!
# Trimmed Texts

What is left of a text without the blanks at its ends.

A text is the blanks around it and what trimming leaves of it, and blanks that are put
around a text go away again. What is left is known if it is known where the blanks
end: a text without any blank is left as it is, whatever blanks stood around it.

## Main definitions

* `Solid`: A text that is there and has no blank.
* `trimEnd`: A text without the blanks behind it.
* `Surrounds`: A text with blanks around it.

## Theorems

* `exists_blanks_trimBlanks`, `trimBlanks_blanks_append`: Blanks at the ends.
* `Solid.trimBlanks`: A text without blanks.
* `surrounds_trimBlanks`, `Solid.trimBlanks_of_surrounds`: A text and the blanks around it.
-/

namespace RegionScan

/-- A text that is there and has no blank. -/
structure Solid (w : List Char) : Prop where
  ne_nil : w ≠ []
  not_isBlank : ∀ c ∈ w, isBlank c = false

theorem Solid.of_all {w : List Char} (h : (!w.isEmpty && w.all fun c => !isBlank c) = true) :
    Solid w := by
  simp only [Bool.and_eq_true, Bool.not_eq_true', List.isEmpty_eq_false_iff, List.all_eq_true] at h
  exact ⟨h.1, h.2⟩

theorem ne_of_isBlank {c d : Char} (hd : isBlank d = false) (hc : isBlank c = true) : c ≠ d := by
  rintro rfl
  rw [hd] at hc
  cases hc

/-- Dropping blanks in front of a text that starts with none drops nothing. -/
theorem Solid.trimStart_append {w : List Char} (h : Solid w) (s : List Char) :
    trimStart (w ++ s) = w ++ s := by
  cases w with
  | nil => exact absurd rfl h.ne_nil
  | cons c w =>
      rw [trimStart, List.cons_append, List.dropWhile_cons_of_neg]
      rw [h.not_isBlank c List.mem_cons_self]
      exact Bool.false_ne_true

/-- A text without the blanks behind it. -/
def trimEnd (s : List Char) : List Char := (trimStart s.reverse).reverse

theorem trimBlanks_eq (s : List Char) : trimBlanks s = trimEnd (trimStart s) := rfl

/-- Blanks in front of a text are dropped. -/
theorem trimStart_blanks_append {blanks : List Char} (h : ∀ c ∈ blanks, isBlank c = true)
    (s : List Char) : trimStart (blanks ++ s) = trimStart s :=
  List.dropWhile_append_of_pos h

/-- Only if nothing is left of the second part, something of the first is dropped. -/
theorem trimEnd_append (s s' : List Char) :
    trimEnd (s ++ s') = if trimEnd s' = [] then trimEnd s else s ++ trimEnd s' := by
  have hsplit : trimEnd (s ++ s') = (if (trimStart s'.reverse).isEmpty = true then
      trimStart s.reverse else trimStart s'.reverse ++ s.reverse).reverse := by
    rw [trimEnd, List.reverse_append]
    exact congrArg List.reverse List.dropWhile_append
  by_cases h : trimStart s'.reverse = []
  · have hnil : trimEnd s' = [] := by
      rw [trimEnd, h]
      rfl
    rw [hsplit, if_pos (List.isEmpty_iff.2 h), if_pos hnil]
    rfl
  · have hne : trimEnd s' ≠ [] := mt List.reverse_eq_nil_iff.1 h
    rw [hsplit, if_neg (mt List.isEmpty_iff.1 h), if_neg hne, List.reverse_append,
      List.reverse_reverse]
    rfl

theorem trimEnd_blanks {blanks : List Char} (h : ∀ c ∈ blanks, isBlank c = true) :
    trimEnd blanks = [] := by
  have hreverse : ∀ c ∈ blanks.reverse, isBlank c = true := fun c hc =>
    h c (List.mem_reverse.1 hc)
  have hnil := trimStart_blanks_append hreverse []
  rw [List.append_nil] at hnil
  rw [trimEnd, hnil]
  rfl

theorem Solid.trimEnd_append {w : List Char} (h : Solid w) (s : List Char) :
    trimEnd (w ++ s) = w ++ trimEnd s := by
  have hreverse : Solid w.reverse := ⟨mt List.reverse_eq_nil_iff.1 h.ne_nil, fun c hc =>
    h.not_isBlank c (List.mem_reverse.1 hc)⟩
  have hself : trimEnd w = w := by
    have hkept := hreverse.trimStart_append []
    rw [List.append_nil] at hkept
    rw [trimEnd, hkept, List.reverse_reverse]
  rw [RegionScan.trimEnd_append]
  by_cases hnil : trimEnd s = []
  · rw [if_pos hnil, hnil, hself, List.append_nil]
  · rw [if_neg hnil]

/-- A text is the blanks in front of it and the rest. -/
theorem exists_blanks_append (s : List Char) :
    ∃ blanks, (∀ c ∈ blanks, isBlank c = true) ∧ s = blanks ++ trimStart s :=
  ⟨s.takeWhile isBlank, fun _ hc => List.mem_takeWhile_imp hc,
    List.takeWhile_append_dropWhile.symm⟩

/-- So it is the blanks around it and what is left when it is trimmed. -/
theorem exists_blanks_trimBlanks (s : List Char) :
    ∃ front back, (∀ c ∈ front, isBlank c = true) ∧ (∀ c ∈ back, isBlank c = true) ∧
      s = front ++ (trimBlanks s ++ back) := by
  obtain ⟨front, hfront, hs⟩ := exists_blanks_append s
  obtain ⟨back, hback, hreverse⟩ := exists_blanks_append (trimStart s).reverse
  refine ⟨front, back.reverse, hfront, fun c hc => hback c (List.mem_reverse.1 hc), ?_⟩
  have hkept : trimStart s = trimBlanks s ++ back.reverse := by
    rw [trimBlanks, ← List.reverse_append, ← hreverse, List.reverse_reverse]
  rw [← hkept, ← hs]

/-- Blanks around a text do not matter. -/
theorem trimBlanks_blanks_append {front back : List Char} (hfront : ∀ c ∈ front, isBlank c = true)
    (hback : ∀ c ∈ back, isBlank c = true) (s : List Char) :
    trimBlanks (front ++ (s ++ back)) = trimBlanks s := by
  have hnil : trimStart back = [] := by
    have hall := trimStart_blanks_append hback []
    rwa [List.append_nil] at hall
  have hsplit : trimStart (s ++ back)
      = if (trimStart s).isEmpty = true then trimStart back else trimStart s ++ back :=
    List.dropWhile_append
  rw [trimBlanks_eq, trimBlanks_eq, trimStart_blanks_append hfront, hsplit]
  by_cases hempty : trimStart s = []
  · rw [if_pos (List.isEmpty_iff.2 hempty), hnil, hempty]
  · rw [if_neg (mt List.isEmpty_iff.1 hempty), trimEnd_append, if_pos (trimEnd_blanks hback)]

/-- Dropping blanks behind a text does not bring any to its front. -/
theorem trimStart_trimEnd {s : List Char} (h : trimStart s = s) :
    trimStart (trimEnd s) = trimEnd s := by
  cases s with
  | nil => rfl
  | cons c s =>
      have hc : isBlank c = false := by
        by_contra hblank
        rw [Bool.not_eq_false] at hblank
        have hle := List.dropWhile_sublist (p := isBlank) (l := s)
        rw [trimStart, List.dropWhile_cons_of_pos hblank] at h
        have hlength := hle.length_le
        rw [h, List.length_cons] at hlength
        omega
      have hsolid : Solid [c] := ⟨List.cons_ne_nil c [], fun d hd => by
        rw [List.mem_singleton.1 hd, hc]⟩
      have hend := hsolid.trimEnd_append s
      rw [List.singleton_append] at hend
      rw [hend, hsolid.trimStart_append]

theorem Solid.append {w s : List Char} (h : Solid w) (hs : ∀ c ∈ s, isBlank c = false) :
    Solid (w ++ s) where
  ne_nil hnil := h.ne_nil (List.append_eq_nil_iff.1 hnil).1
  not_isBlank c hc := (List.mem_append.1 hc).elim (h.not_isBlank c) (hs c)

theorem Solid.cons {c : Char} (hc : isBlank c = false) {w : List Char} (hw : Solid w) :
    Solid (c :: w) where
  ne_nil := List.cons_ne_nil c w
  not_isBlank := List.forall_mem_cons.2 ⟨hc, hw.not_isBlank⟩

/-- Nothing is trimmed off a text that starts and ends with no blank. -/
theorem trimBlanks_append {w w' : List Char} (h : Solid w) (h' : Solid w') (s : List Char) :
    trimBlanks (w ++ (s ++ w')) = w ++ (s ++ w') := by
  have hend : trimEnd w' = w' := by
    have hself := h'.trimEnd_append []
    rw [List.append_nil] at hself
    exact hself.trans (List.append_nil w')
  rw [trimBlanks_eq, h.trimStart_append, h.trimEnd_append, trimEnd_append, hend, if_neg h'.ne_nil]

theorem Solid.trimBlanks {w : List Char} (h : Solid w) : trimBlanks w = w := by
  have hself := h.trimEnd_append []
  have hstart := h.trimStart_append []
  rw [List.append_nil] at hself hstart
  rw [trimBlanks_eq, hstart, hself]
  exact List.append_nil w

/-- The texts that are another one with blanks around it, or with none. -/
inductive Surrounds : List Char → List Char → Prop
  | intro {front core back : List Char} (hfront : ∀ c ∈ front, isBlank c = true)
      (hback : ∀ c ∈ back, isBlank c = true) : Surrounds (front ++ (core ++ back)) core

theorem Surrounds.refl (s : List Char) : Surrounds s s := by
  have hsurrounds : Surrounds ([] ++ (s ++ [])) s :=
    .intro (fun _ hc => (List.not_mem_nil hc).elim) fun _ hc => (List.not_mem_nil hc).elim
  rwa [List.nil_append, List.append_nil] at hsurrounds

/-- One more blank in front. -/
theorem Surrounds.cons {c : Char} {s core : List Char} (hc : isBlank c = true)
    (h : Surrounds s core) : Surrounds (c :: s) core := by
  obtain ⟨hfront, hback⟩ := h
  exact @Surrounds.intro (c :: _) _ _ (List.forall_mem_cons.2 ⟨hc, hfront⟩) hback

theorem surrounds_trimBlanks (s : List Char) : Surrounds s (trimBlanks s) := by
  obtain ⟨front, back, hfront, hback, hs⟩ := exists_blanks_trimBlanks s
  have hsurrounds : Surrounds (front ++ (trimBlanks s ++ back)) (trimBlanks s) :=
    .intro hfront hback
  rwa [← hs] at hsurrounds

/-- A text without blanks is found again between the blanks around it. -/
theorem Solid.trimBlanks_of_surrounds {w s : List Char} (h : Solid w) (hs : Surrounds s w) :
    RegionScan.trimBlanks s = w := by
  obtain ⟨hfront, hback⟩ := hs
  rw [trimBlanks_blanks_append hfront hback, h.trimBlanks]

end RegionScan
