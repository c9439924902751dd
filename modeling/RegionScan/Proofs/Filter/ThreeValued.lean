import Mathlib.Data.List.Perm.Basic
import Mathlib.Order.Lattice
import RegionScan.Store.Table

/-!
# Three-Valued Logic

That filters are evaluated in Kleene's three-valued logic.

There the truth values are ordered, false below unknown and unknown below true.
A conjunction is as true as the least of its parts, a disjunction as the
greatest, and a negation turns the order around. `Filter.truth` says this
directly, with all parts of a filter looked at.

Evaluation looks at the parts from the left and stops where the rest cannot
matter. A leaf that it passes over may be one that has no truth value on the
row at all, because its column is not there or its values do not compare.
`Filter.truth` takes a guess for every such leaf, each place in the filter
having its own, and evaluation is sound in that no guess can contradict an
answer. A filter whose leaves all have truth values is answered, and then
nothing depends on the order of the parts.

## Main definitions

* `Truth`: The ordered truth values.
* `Filter.leafTruth?`: The truth value of a leaf, if it has one.
* `Filter.truth`: The truth value of a filter, with guesses for leaves without one.
* `Filter.leaves`: The leaves of a filter.
* `Filter.Decided`: All leaves of a filter have truth values.
* `Filter.Reordered`: The same filter with parts in another order.

## Theorems

* `Filter.evaluateAll_cons`, `Filter.evaluateAny_cons`: One part more.
* `Filter.truth_of_evaluate`: An answer holds under all guesses.
* `Filter.exists_evaluate_eq_ok`: A filter is answered if all its leaves are.
* `Filter.Reordered.evaluate_eq`: The order of the parts does not matter then.
* `Filter.evaluate_kleene`: The three together.
-/

namespace RegionScan

/-- A truth value of three-valued logic. -/
inductive Truth where
  | no
  | unknown
  | yes
  deriving DecidableEq

namespace Truth

/-- The place of a truth value in the order. -/
def rank : Truth → Nat
  | .no => 0
  | .unknown => 1
  | .yes => 2

theorem rank_injective : Function.Injective rank := by
  intro a b h
  cases a <;> cases b <;> first | rfl | cases h

/-- False is below unknown, and unknown below true. -/
instance : LinearOrder Truth := LinearOrder.lift' rank rank_injective

/-- The order turned around. -/
def neg : Truth → Truth
  | .no => .yes
  | .unknown => .unknown
  | .yes => .no

/-- A truth value that is known. -/
def ofBool (b : Bool) : Truth := if b then .yes else .no

/-- The truth value that an answer stands for. -/
def ofAnswer : Option Bool → Truth
  | some b => ofBool b
  | none => .unknown

@[simp] theorem no_min (t : Truth) : min .no t = .no := by cases t <;> rfl

@[simp] theorem yes_min (t : Truth) : min .yes t = t := by cases t <;> rfl

@[simp] theorem no_max (t : Truth) : max .no t = t := by cases t <;> rfl

@[simp] theorem yes_max (t : Truth) : max .yes t = .yes := by cases t <;> rfl

@[simp] theorem ofAnswer_true : ofAnswer (some true) = .yes := rfl

@[simp] theorem ofAnswer_false : ofAnswer (some false) = .no := rfl

@[simp] theorem ofAnswer_none : ofAnswer none = .unknown := rfl

theorem ofAnswer_not (v : Option Bool) : ofAnswer (v.map (!·)) = (ofAnswer v).neg := by
  rcases v with _ | _ | _ <;> rfl

@[simp] theorem ofBool_eq_ofAnswer {b : Bool} {v : Option Bool} :
    ofBool b = ofAnswer v ↔ some b = v := by
  rcases v with _ | _ | _ <;> cases b <;> decide

@[simp] theorem unknown_eq_ofAnswer {v : Option Bool} : .unknown = ofAnswer v ↔ none = v := by
  rcases v with _ | _ | _ <;> decide

@[simp] theorem ofAnswer_inj {v w : Option Bool} : ofAnswer v = ofAnswer w ↔ v = w := by
  rcases v with _ | _
  · exact unknown_eq_ofAnswer
  · exact ofBool_eq_ofAnswer

theorem exists_ofAnswer (t : Truth) : ∃ v, ofAnswer v = t := by
  cases t
  · exact ⟨some false, rfl⟩
  · exact ⟨none, rfl⟩
  · exact ⟨some true, rfl⟩

end Truth

namespace Filter

variable {row : List RawValue}

/-! ### What a filter means -/

/-- The truth value of a leaf on a row. A comparison with a missing value is
    unknown. A leaf has no truth value if its column is not in the row or if
    its two values do not compare. -/
def leafTruth? (row : List RawValue) : Filter → Option Truth
  | .compare i op right =>
    row[i]?.bind fun left =>
      if left.isNull ∨ right.isNull then some .unknown
      else (left.compare? right).map fun order => .ofBool (op.holds order)
  | .isNull i => row[i]?.map fun v => .ofBool v.isNull
  | .isNotNull i => row[i]?.map fun v => .ofBool !v.isNull
  | _ => none

mutual

/-- The truth value of a filter on a row. A place in the filter is the list of
    the positions on the way to it, and `guess` is the truth value of a leaf
    at a place that has none of its own. -/
def truth (row : List RawValue) (guess : List Nat → Truth) : Filter → Truth
  | .all parts => (truths row guess 0 parts).foldr min .yes
  | .any parts => (truths row guess 0 parts).foldr max .no
  | .not inner => (inner.truth row guess).neg
  | .compare i op value => ((Filter.compare i op value).leafTruth? row).getD (guess [])
  | .isNull i => ((Filter.isNull i).leafTruth? row).getD (guess [])
  | .isNotNull i => ((Filter.isNotNull i).leafTruth? row).getD (guess [])

/-- The truth values of several parts, the first of them at position `i`. -/
def truths (row : List RawValue) (guess : List Nat → Truth) (i : Nat) :
    List Filter → List Truth
  | [] => []
  | part :: rest =>
    part.truth row (fun place => guess (i :: place)) :: truths row guess (i + 1) rest

end

mutual

/-- The leaves of a filter. -/
def leaves : Filter → List Filter
  | .all parts => leavesOf parts
  | .any parts => leavesOf parts
  | .not inner => inner.leaves
  | leaf => [leaf]

/-- The leaves of several filters. -/
def leavesOf : List Filter → List Filter
  | [] => []
  | part :: rest => part.leaves ++ leavesOf rest

end

/-- All leaves of a filter have a truth value on a row. -/
def Decided (row : List RawValue) (f : Filter) : Prop :=
  ∀ leaf ∈ f.leaves, (leaf.leafTruth? row).isSome

/-! ### Leaves -/

/-- A comparison answers what its truth value is, and nothing if it has none. -/
theorem evaluate_compare_eq_ok_iff {i : Nat} {op : CompareOp} {right : RawValue}
    {v : Option Bool} :
    (Filter.compare i op right).evaluate row = .ok v ↔
      (Filter.compare i op right).leafTruth? row = some (.ofAnswer v) := by
  cases hcell : row[i]? with
  | none => simp [evaluate, column, leafTruth?, hcell]
  | some left =>
    -- A missing value comes first: what stands beside it need not compare.
    by_cases hnull : left.isNull ∨ right.isNull
    · simp [evaluate, column, compareValues, leafTruth?, hcell, hnull]
    · cases horder : left.compare? right <;>
        simp [evaluate, column, compareValues, leafTruth?, hcell, hnull, horder]

/-- So does a test for missing values. -/
theorem evaluate_isNull_eq_ok_iff {i : Nat} {v : Option Bool} :
    (Filter.isNull i).evaluate row = .ok v ↔
      (Filter.isNull i).leafTruth? row = some (.ofAnswer v) := by
  cases hcell : row[i]? <;> simp [evaluate, column, leafTruth?, hcell, Except.map]

/-- And a test for values that are there. -/
theorem evaluate_isNotNull_eq_ok_iff {i : Nat} {v : Option Bool} :
    (Filter.isNotNull i).evaluate row = .ok v ↔
      (Filter.isNotNull i).leafTruth? row = some (.ofAnswer v) := by
  cases hcell : row[i]? <;> simp [evaluate, column, leafTruth?, hcell, Except.map]

/-! ### One part more -/

/-- A conjunction is answered by a false first part, or by its first part and
    the others together. -/
theorem evaluateAll_cons {part : Filter} {rest : List Filter} {v : Option Bool} :
    evaluateAll row (part :: rest) = .ok v ↔
      (part.evaluate row = .ok (some false) ∧ v = some false) ∨
      ∃ a b, part.evaluate row = .ok a ∧ a ≠ some false ∧ evaluateAll row rest = .ok b ∧
        Truth.ofAnswer v = min (.ofAnswer a) (.ofAnswer b) := by
  rw [evaluateAll]
  rcases part.evaluate row with e | _ | _ | _
  · simp
  · -- An unknown part leaves the others as they are, only not true.
    rcases evaluateAll row rest with e | _ | _ | _ <;> rcases v with _ | _ | _ <;> simp <;> decide
  · simp [eq_comm]
  · simp [eq_comm]

/-- A disjunction is answered by a true first part, or by its first part and
    the others together. -/
theorem evaluateAny_cons {part : Filter} {rest : List Filter} {v : Option Bool} :
    evaluateAny row (part :: rest) = .ok v ↔
      (part.evaluate row = .ok (some true) ∧ v = some true) ∨
      ∃ a b, part.evaluate row = .ok a ∧ a ≠ some true ∧ evaluateAny row rest = .ok b ∧
        Truth.ofAnswer v = max (.ofAnswer a) (.ofAnswer b) := by
  rw [evaluateAny]
  rcases part.evaluate row with e | _ | _ | _
  · simp
  · rcases evaluateAny row rest with e | _ | _ | _ <;> rcases v with _ | _ | _ <;> simp <;> decide
  · simp [eq_comm]
  · simp [eq_comm]

/-! ### Soundness -/

mutual

/-- An answer is the truth value of the filter under every guess. -/
theorem truth_of_evaluate {v : Option Bool} (guess : List Nat → Truth) :
    ∀ f : Filter, f.evaluate row = .ok v → f.truth row guess = .ofAnswer v
  | .compare .., h => by rw [truth, evaluate_compare_eq_ok_iff.mp h, Option.getD_some]
  | .isNull _, h => by rw [truth, evaluate_isNull_eq_ok_iff.mp h, Option.getD_some]
  | .isNotNull _, h => by rw [truth, evaluate_isNotNull_eq_ok_iff.mp h, Option.getD_some]
  | .all parts, h => by
    rw [evaluate] at h
    rw [truth, least_of_evaluateAll guess 0 parts h]
  | .any parts, h => by
    rw [evaluate] at h
    rw [truth, greatest_of_evaluateAny guess 0 parts h]
  | .not inner, h => by
    rw [evaluate] at h
    cases hinner : inner.evaluate row with
    | error e => simp [hinner, Except.map] at h
    | ok a =>
      obtain rfl : a.map (!·) = v := by simpa [hinner, Except.map] using h
      rw [truth, truth_of_evaluate guess inner hinner, Truth.ofAnswer_not]

/-- The answer of a conjunction is the least truth value of its parts. -/
theorem least_of_evaluateAll {v : Option Bool} (guess : List Nat → Truth) (i : Nat) :
    ∀ parts : List Filter, evaluateAll row parts = .ok v →
      (truths row guess i parts).foldr min .yes = .ofAnswer v
  | [], h => by
    obtain rfl : some true = v := by simpa [evaluateAll] using h
    rfl
  | part :: rest, h => by
    rw [truths, List.foldr_cons]
    obtain ⟨hfalse, rfl⟩ | ⟨a, b, ha, -, hb, hv⟩ := evaluateAll_cons.mp h
    · -- Nothing is known of the parts behind a false one, and nothing needs to be.
      rw [truth_of_evaluate _ part hfalse, Truth.ofAnswer_false, Truth.no_min]
    · rw [truth_of_evaluate _ part ha, least_of_evaluateAll guess (i + 1) rest hb, hv]

/-- The answer of a disjunction is the greatest truth value of its parts. -/
theorem greatest_of_evaluateAny {v : Option Bool} (guess : List Nat → Truth) (i : Nat) :
    ∀ parts : List Filter, evaluateAny row parts = .ok v →
      (truths row guess i parts).foldr max .no = .ofAnswer v
  | [], h => by
    obtain rfl : some false = v := by simpa [evaluateAny] using h
    rfl
  | part :: rest, h => by
    rw [truths, List.foldr_cons]
    obtain ⟨htrue, rfl⟩ | ⟨a, b, ha, -, hb, hv⟩ := evaluateAny_cons.mp h
    · rw [truth_of_evaluate _ part htrue, Truth.ofAnswer_true, Truth.yes_max]
    · rw [truth_of_evaluate _ part ha, greatest_of_evaluateAny guess (i + 1) rest hb, hv]

end

/-! ### Completeness -/

/-- A leaf that answers its truth value is answered if it has one. -/
theorem exists_ok_of_leafTruth {leaf : Filter}
    (hanswer : ∀ v, leaf.evaluate row = .ok v ↔ leaf.leafTruth? row = some (.ofAnswer v))
    (hsome : (leaf.leafTruth? row).isSome) : ∃ v, leaf.evaluate row = .ok v := by
  obtain ⟨t, ht⟩ := Option.isSome_iff_exists.mp hsome
  obtain ⟨v, rfl⟩ := Truth.exists_ofAnswer t
  exact ⟨v, (hanswer v).mpr ht⟩

mutual

/-- A filter is answered if all its leaves have truth values. -/
theorem exists_evaluate_eq_ok : ∀ f : Filter, f.Decided row → ∃ v, f.evaluate row = .ok v
  | .compare i op value, h =>
    exists_ok_of_leafTruth (fun _ => evaluate_compare_eq_ok_iff)
      (h (.compare i op value) (by simp [leaves]))
  | .isNull i, h =>
    exists_ok_of_leafTruth (fun _ => evaluate_isNull_eq_ok_iff)
      (h (.isNull i) (by simp [leaves]))
  | .isNotNull i, h =>
    exists_ok_of_leafTruth (fun _ => evaluate_isNotNull_eq_ok_iff)
      (h (.isNotNull i) (by simp [leaves]))
  | .all parts, h => by
    rw [evaluate]
    exact exists_evaluateAll_eq_ok parts h
  | .any parts, h => by
    rw [evaluate]
    exact exists_evaluateAny_eq_ok parts h
  | .not inner, h => by
    obtain ⟨v, hv⟩ := exists_evaluate_eq_ok inner h
    exact ⟨v.map (!·), by rw [evaluate, hv, Except.map]⟩

/-- The same of several parts. -/
theorem exists_evaluateAll_eq_ok :
    ∀ parts : List Filter, (∀ leaf ∈ leavesOf parts, (leaf.leafTruth? row).isSome) →
      ∃ v, evaluateAll row parts = .ok v
  | [], _ => ⟨some true, by rw [evaluateAll]⟩
  | part :: rest, h => by
    -- The other parts have an answer as well, even if it is not asked for.
    rw [leavesOf] at h
    obtain ⟨a, ha⟩ := exists_evaluate_eq_ok part fun leaf hleaf => h leaf (by simp [hleaf])
    obtain ⟨b, hb⟩ := exists_evaluateAll_eq_ok rest fun leaf hleaf => h leaf (by simp [hleaf])
    by_cases hfalse : a = some false
    · exact ⟨some false, evaluateAll_cons.mpr (.inl ⟨hfalse ▸ ha, rfl⟩)⟩
    · obtain ⟨v, hv⟩ := Truth.exists_ofAnswer (min (.ofAnswer a) (.ofAnswer b))
      exact ⟨v, evaluateAll_cons.mpr (.inr ⟨a, b, ha, hfalse, hb, hv⟩)⟩

/-- The same of several parts. -/
theorem exists_evaluateAny_eq_ok :
    ∀ parts : List Filter, (∀ leaf ∈ leavesOf parts, (leaf.leafTruth? row).isSome) →
      ∃ v, evaluateAny row parts = .ok v
  | [], _ => ⟨some false, by rw [evaluateAny]⟩
  | part :: rest, h => by
    rw [leavesOf] at h
    obtain ⟨a, ha⟩ := exists_evaluate_eq_ok part fun leaf hleaf => h leaf (by simp [hleaf])
    obtain ⟨b, hb⟩ := exists_evaluateAny_eq_ok rest fun leaf hleaf => h leaf (by simp [hleaf])
    by_cases htrue : a = some true
    · exact ⟨some true, evaluateAny_cons.mpr (.inl ⟨htrue ▸ ha, rfl⟩)⟩
    · obtain ⟨v, hv⟩ := Truth.exists_ofAnswer (max (.ofAnswer a) (.ofAnswer b))
      exact ⟨v, evaluateAny_cons.mpr (.inr ⟨a, b, ha, htrue, hb, hv⟩)⟩

end

/-! ### Reordering -/

/-- One filter is another with the parts of its conjunctions and disjunctions
    in another order, at any depth. -/
inductive Reordered : Filter → Filter → Prop
  | all {parts parts' : List Filter} : parts.Perm parts' → Reordered (.all parts) (.all parts')
  | any {parts parts' : List Filter} : parts.Perm parts' → Reordered (.any parts) (.any parts')
  | inAll (before : List Filter) {part part' : Filter} (after : List Filter) :
      Reordered part part' →
      Reordered (.all (before ++ part :: after)) (.all (before ++ part' :: after))
  | inAny (before : List Filter) {part part' : Filter} (after : List Filter) :
      Reordered part part' →
      Reordered (.any (before ++ part :: after)) (.any (before ++ part' :: after))
  | not {inner inner' : Filter} : Reordered inner inner' → Reordered (.not inner) (.not inner')
  | trans {f g h : Filter} : Reordered f g → Reordered g h → Reordered f h

theorem mem_leavesOf {leaf : Filter} {parts : List Filter} :
    leaf ∈ leavesOf parts ↔ ∃ part ∈ parts, leaf ∈ part.leaves := by
  induction parts with
  | nil => simp [leavesOf]
  | cons part rest ih => simp [leavesOf, ih]

/-- If every leaf is guessed to be the same, no place matters. -/
theorem truths_const {t : Truth} {i : Nat} {parts : List Filter} :
    truths row (fun _ => t) i parts = parts.map (truth row fun _ => t) := by
  induction parts generalizing i with
  | nil => rfl
  | cons part rest ih => simp [truths, ih]

namespace Reordered

variable {f g : Filter}

/-- Reordering keeps the leaves. -/
theorem mem_leaves_iff (h : f.Reordered g) {leaf : Filter} :
    leaf ∈ f.leaves ↔ leaf ∈ g.leaves := by
  induction h with
  | all hperm | any hperm => simp only [leaves, mem_leavesOf, hperm.mem_iff]
  | inAll before after _ ih | inAny before after _ ih =>
    simp [leaves, mem_leavesOf, or_and_right, exists_or, ih]
  | not _ ih => simp only [leaves, ih]
  | trans _ _ ihf ihg => rw [ihf, ihg]

theorem decided (h : f.Reordered g) (hf : f.Decided row) : g.Decided row :=
  fun leaf hleaf => hf leaf (h.mem_leaves_iff.mpr hleaf)

/-- Reordering keeps the truth value, with one guess for all leaves. -/
theorem truth_const_eq (h : f.Reordered g) (t : Truth) :
    f.truth row (fun _ => t) = g.truth row (fun _ => t) := by
  induction h with
  | all hperm => simp only [truth, truths_const]; exact (hperm.map _).foldr_eq _
  | any hperm => simp only [truth, truths_const]; exact (hperm.map _).foldr_eq _
  | inAll before after _ ih | inAny before after _ ih => simp [truth, truths_const, ih]
  | not _ ih => simp only [truth, ih]
  | trans _ _ ihf ihg => rw [ihf, ihg]

/-- A decided filter is answered alike in any order. -/
theorem evaluate_eq (h : f.Reordered g) (hf : f.Decided row) : g.evaluate row = f.evaluate row := by
  obtain ⟨v, hv⟩ := exists_evaluate_eq_ok f hf
  obtain ⟨w, hw⟩ := exists_evaluate_eq_ok g (h.decided hf)
  -- Any guess will do, since no leaf is guessed. One for all makes places irrelevant.
  have hsame : Truth.ofAnswer w = .ofAnswer v :=
    calc Truth.ofAnswer w
      _ = g.truth row fun _ => .unknown := (truth_of_evaluate _ g hw).symm
      _ = f.truth row fun _ => .unknown := (h.truth_const_eq .unknown).symm
      _ = .ofAnswer v := truth_of_evaluate _ f hv
  rw [hv, hw, Truth.ofAnswer_inj.mp hsame]

end Reordered

/-! ### Kleene's logic -/

/-- Filters are evaluated in Kleene's logic. An answer is the truth value of
    the filter whatever truth values are given to the leaves that have none. If
    all leaves have one there is an answer, and it stays the same when parts
    are put in another order. -/
theorem evaluate_kleene (f : Filter) (row : List RawValue) :
    (∀ v, f.evaluate row = .ok v → ∀ guess, f.truth row guess = .ofAnswer v) ∧
    (f.Decided row →
      ∃ v, f.evaluate row = .ok v ∧ (∀ guess, f.truth row guess = .ofAnswer v) ∧
        ∀ g, f.Reordered g → g.evaluate row = .ok v) := by
  refine ⟨fun v hv guess => truth_of_evaluate guess f hv, fun hf => ?_⟩
  obtain ⟨v, hv⟩ := exists_evaluate_eq_ok f hf
  exact ⟨v, hv, fun guess => truth_of_evaluate guess f hv,
    fun g h => (h.evaluate_eq hf).trans hv⟩

/-- On a row of 7, "alice" and a missing value, a disjunction is true whatever
    is said of a column that is not there, and a conjunction over a missing
    value is unknown in either order. -/
theorem evaluate_kleene_missingColumn :
    let row := [RawValue.int 7, .string "alice", .null]
    let hidden := Filter.any [.compare 0 .eq (.int 7), .isNull 9]
    let seen := Filter.all [.compare 2 .eq (.int 1), .isNull 2]
    (¬ hidden.Decided row ∧ ∀ guess, hidden.truth row guess = .yes) ∧
    seen.evaluate row = .ok none ∧
    (Filter.all [.isNull 2, .compare 2 .eq (.int 1)]).evaluate row = .ok none := by
  intro row hidden seen
  have htrue : hidden.evaluate row = .ok (some true) := rfl
  have hnone : seen.evaluate row = .ok none := rfl
  have hdecided : seen.Decided row := by
    intro leaf hleaf
    obtain rfl | rfl : leaf = .compare 2 .eq (.int 1) ∨ leaf = .isNull 2 := by
      simpa [seen, leaves, leavesOf] using hleaf
    · rfl
    · rfl
  refine ⟨⟨fun h => ?_, (evaluate_kleene hidden row).1 _ htrue⟩, hnone, ?_⟩
  · have := h (.isNull 9) (by simp [hidden, leaves, leavesOf])
    simp [leafTruth?, row] at this
  · obtain ⟨v, hv, -, horder⟩ := (evaluate_kleene seen row).2 hdecided
    rw [horder _ (.all (List.Perm.swap ..)), ← hv, hnone]

end Filter

end RegionScan
