import RegionScan.Filter

/-!
# Laws of Filters

Filters that say the same in other words are answered the same, down to the failure.

Evaluation goes from left to right and stops where the rest cannot matter, so a
law of logic is not yet a law of filters. Both sides must reach the same parts, in
the same order, or they report different failures, or one of them reports a failure
and the other a truth value. Swapping two parts is no law for that reason.

What evaluation makes of the answers of two parts is written down once, as a
connective on answers. Whether the second answer counts depends on the first alone,
and a failure is an answer like any other. A conjunction is then a fold over the
answers of its parts (`Filter.evaluateAll_eq_foldr`), and a law of filters follows
from one of the connectives: the conjunction of answers is associative, and
negation turns it into the disjunction.

## Main definitions

* `FilterAnswer`: What evaluating a filter gives.
* `FilterAnswer.both`, `FilterAnswer.either`, `FilterAnswer.opposite`: The connectives.
* `CompareOp.complement`: The comparison that holds where another does not.

## Theorems

* `FilterAnswer.opposite_both`, `FilterAnswer.opposite_foldr_both`,
  `FilterAnswer.opposite_foldr_either`: Negation.
* `Filter.evaluateAll_eq_foldr`, `Filter.evaluateAny_eq_foldr`: Several parts.
* `Filter.evaluate_and`: A further condition.
* `Filter.evaluate_not_all`, `Filter.evaluate_not_any`, `Filter.evaluate_not_not`,
  `Filter.evaluate_not_compare`: Negations.
* `Filter.evaluate_laws`: All of them.
-/

namespace RegionScan

namespace CompareOp

/-- The comparison that holds of two values where another one does not. -/
def complement : CompareOp → CompareOp
  | .eq => .notEq
  | .notEq => .eq
  | .lt => .gtEq
  | .ltEq => .gt
  | .gt => .ltEq
  | .gtEq => .lt

theorem holds_complement (op : CompareOp) (order : Ordering) :
    op.complement.holds order = !op.holds order := by
  cases op <;> cases order <;> rfl

end CompareOp

/-- What evaluating a filter gives: a truth value, none if it is unknown, or a
    failure. -/
abbrev FilterAnswer := Except FilterFault (Option Bool)

namespace FilterAnswer

/-- An answer and another one behind it, which is not looked at if the first is
    false or a failure. -/
def both (first second : FilterAnswer) : FilterAnswer :=
  match first, second with
  | .error e, _ => .error e
  | .ok (some false), _ => .ok (some false)
  | .ok (some true), _ => second
  | .ok none, .ok (some true) => .ok none
  | .ok none, _ => second

/-- An answer or another one behind it, which is not looked at if the first is true
    or a failure. -/
def either (first second : FilterAnswer) : FilterAnswer :=
  match first, second with
  | .error e, _ => .error e
  | .ok (some true), _ => .ok (some true)
  | .ok (some false), _ => second
  | .ok none, .ok (some false) => .ok none
  | .ok none, _ => second

/-- The opposite of an answer. A failure stays one. -/
def opposite (answer : FilterAnswer) : FilterAnswer := answer.map fun v => v.map (!·)

variable (a b c : FilterAnswer)

theorem both_assoc : both (both a b) c = both a (both b c) := by
  rcases a with _ | _ | _ | _
  · rfl
  · -- Only an unknown first part leaves something to be told from the two others.
    rcases b with _ | _ | _ | _ <;> rcases c with _ | _ | _ | _ <;> rfl
  · rfl
  · rfl

@[simp] theorem opposite_opposite : opposite (opposite a) = a := by
  rcases a with _ | _ | _ | _ <;> rfl

/-- The opposite of a conjunction stops where the conjunction does. -/
theorem opposite_both : opposite (both a b) = either (opposite a) (opposite b) := by
  rcases a with _ | _ | _ | _
  · rfl
  · rcases b with _ | _ | _ | _ <;> rfl
  · rfl
  · rfl

/-- So it is for any number of answers. -/
theorem opposite_foldr_both (answers : List FilterAnswer) :
    opposite (answers.foldr both (.ok (some true)))
      = (answers.map opposite).foldr either (.ok (some false)) := by
  induction answers with
  | nil => rfl
  | cons a rest ih =>
      rw [List.foldr_cons, opposite_both, ih, List.map_cons, List.foldr_cons]

/-- A disjunction is the opposite of a conjunction of opposites. -/
theorem opposite_foldr_either (answers : List FilterAnswer) :
    opposite (answers.foldr either (.ok (some false)))
      = (answers.map opposite).foldr both (.ok (some true)) := by
  have hself : (answers.map opposite).map opposite = answers := by
    rw [List.map_map]
    exact (List.map_congr_left fun a _ => opposite_opposite a).trans (List.map_id answers)
  have hboth := opposite_foldr_both (answers.map opposite)
  rw [hself] at hboth
  rw [← hboth, opposite_opposite]

end FilterAnswer

namespace Filter

open FilterAnswer

variable (row : List RawValue)

/-! ### Parts -/

theorem evaluateAll_cons_eq_both (part : Filter) (rest : List Filter) :
    evaluateAll row (part :: rest) = both (part.evaluate row) (evaluateAll row rest) := by
  rw [evaluateAll]
  rcases part.evaluate row with _ | _ | _ | _
  · rfl
  · rcases evaluateAll row rest with _ | _ | _ | _ <;> rfl
  · rfl
  · rfl

theorem evaluateAny_cons_eq_either (part : Filter) (rest : List Filter) :
    evaluateAny row (part :: rest) = either (part.evaluate row) (evaluateAny row rest) := by
  rw [evaluateAny]
  rcases part.evaluate row with _ | _ | _ | _
  · rfl
  · rcases evaluateAny row rest with _ | _ | _ | _ <;> rfl
  · rfl
  · rfl

/-- A conjunction is answered by its parts in order. -/
theorem evaluateAll_eq_foldr (parts : List Filter) :
    evaluateAll row parts = (parts.map (evaluate row)).foldr both (.ok (some true)) := by
  induction parts with
  | nil => rw [evaluateAll, List.map_nil, List.foldr_nil]
  | cons part rest ih => rw [evaluateAll_cons_eq_both, ih, List.map_cons, List.foldr_cons]

/-- So is a disjunction. -/
theorem evaluateAny_eq_foldr (parts : List Filter) :
    evaluateAny row parts = (parts.map (evaluate row)).foldr either (.ok (some false)) := by
  induction parts with
  | nil => rw [evaluateAny, List.map_nil, List.foldr_nil]
  | cons part rest ih => rw [evaluateAny_cons_eq_either, ih, List.map_cons, List.foldr_cons]

/-- Two lists of parts are answered one after the other. -/
theorem evaluateAll_append (parts more : List Filter) :
    evaluateAll row (parts ++ more) = both (evaluateAll row parts) (evaluateAll row more) := by
  induction parts with
  | nil => rw [List.nil_append, evaluateAll, both]
  | cons part rest ih =>
      rw [List.cons_append, evaluateAll_cons_eq_both, ih, ← both_assoc, ← evaluateAll_cons_eq_both]

/-- A further condition is looked at behind the conditions there are, whether they
    are one conjunction with it or a part of one. -/
theorem evaluate_and (f g : Filter) :
    (f.and g).evaluate row = (Filter.all [f, g]).evaluate row := by
  cases f with
  | all parts =>
      rw [Filter.and, evaluate, evaluate, evaluateAll_append, evaluateAll_cons_eq_both row (.all parts),
        evaluate]
  | _ => rfl

/-! ### Negations -/

theorem evaluate_not (f : Filter) : (Filter.not f).evaluate row = opposite (f.evaluate row) := by
  rw [evaluate, opposite]

theorem map_evaluate_not (parts : List Filter) :
    (parts.map .not).map (evaluate row) = (parts.map (evaluate row)).map opposite := by
  rw [List.map_map, List.map_map]
  exact List.map_congr_left fun part _ => evaluate_not row part

/-- A conjunction does not hold if one of its parts does not. -/
theorem evaluate_not_all (parts : List Filter) :
    (Filter.not (.all parts)).evaluate row = (Filter.any (parts.map .not)).evaluate row := by
  rw [evaluate_not, evaluate, evaluate, evaluateAll_eq_foldr, evaluateAny_eq_foldr,
    map_evaluate_not, opposite_foldr_both]

/-- A disjunction does not hold if none of its parts does. -/
theorem evaluate_not_any (parts : List Filter) :
    (Filter.not (.any parts)).evaluate row = (Filter.all (parts.map .not)).evaluate row := by
  rw [evaluate_not, evaluate, evaluate, evaluateAny_eq_foldr, evaluateAll_eq_foldr,
    map_evaluate_not, opposite_foldr_either]

theorem evaluate_not_not (f : Filter) : (Filter.not (.not f)).evaluate row = f.evaluate row := by
  rw [evaluate_not, evaluate_not, opposite_opposite]

/-- The opposite of two values compared is that the complement holds of them. They are
    looked at for missing values, and compared, in the same way. -/
theorem compareValues_complement (left : RawValue) (op : CompareOp) (right : RawValue) :
    opposite (compareValues left op right) = compareValues left op.complement right := by
  rw [compareValues, compareValues]
  split
  · rfl
  · cases left.compare? right with
    | none => rfl
    | some order =>
        dsimp only
        rw [CompareOp.holds_complement]
        rfl

theorem evaluate_not_compare (column : Nat) (op : CompareOp) (value : RawValue) :
    (Filter.not (.compare column op value)).evaluate row
      = (Filter.compare column op.complement value).evaluate row := by
  rw [evaluate_not, evaluate, evaluate]
  cases Filter.column row column with
  | error _ => rfl
  | ok left => exact compareValues_complement left op value

/-! ### All laws -/

/-- The laws of filters. Both sides have the same truth value on every row, or both
    report the same failure: a filter with a further condition, the negations of a
    conjunction and of a disjunction, a negation negated, and the negation of a
    comparison. -/
theorem evaluate_laws (f g : Filter) (parts : List Filter) (row : List RawValue) :
    (f.and g).evaluate row = (Filter.all [f, g]).evaluate row ∧
      (Filter.not (.all parts)).evaluate row = (Filter.any (parts.map .not)).evaluate row ∧
      (Filter.not (.any parts)).evaluate row = (Filter.all (parts.map .not)).evaluate row ∧
      (Filter.not (.not f)).evaluate row = f.evaluate row ∧
      ∀ column op value, (Filter.not (.compare column op value)).evaluate row
        = (Filter.compare column op.complement value).evaluate row :=
  ⟨evaluate_and row f g, evaluate_not_all row parts, evaluate_not_any row parts,
    evaluate_not_not row f, evaluate_not_compare row⟩

end Filter

end RegionScan
