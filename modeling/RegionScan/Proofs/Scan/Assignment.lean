import Mathlib.Data.List.Nodup
import RegionScan.Scan.InputSplit

/-!
# Handing Out Splits

Where the splits of a plan are while workers take them, finish them and give them
back.

An assigner knows only the splits that it has not handed out. What becomes of the
others is up to the workers, so a state here is an assigner together with what each
of its workers holds and what is finished. A step is one call of one worker. The
assigner is locked for the length of a call, so the calls of all workers stand in one
order, and this order is all that there is to an interleaving.

Two facts are kept by every step. Each split is as often in the queue, with the
workers and among the finished ones, taken together, as it is in the plan: a step
only moves splits. And the queue is in two parts, of which the first holds the splits
that were never handed out, in the order of the plan. What is given back comes behind
it, and the queue is emptied from the front, so nothing that was given back is handed
out before the first part is used up.

## Main definitions

* `Assignment`, `Place`: An assigner with its workers, and where a split can be.
* `Assignment.Step`, `Assignment.Reachable`: The calls of workers, in any order.
* `Assignment.Accounted`: What every step keeps.

## Theorems

* `perm_flatten_set`: One of several lists is replaced by another one.
* `Assignment.Step.accounted`, `Assignment.Reachable.accounted`: One call, and all.
* `Assignment.Accounted.next_of_find?`: The first split that was never handed out.
* `Assignment.splits_accounted`: No split is lost or with two workers.
* `Engine.inputSplits_accounted`: Nor is one of an engine's own.
-/

namespace RegionScan

/-- If one of several lists is replaced, what it held is exchanged for what the new
    one holds. -/
theorem perm_flatten_set {parts : List (List α)} {i : Nat} {part : List α}
    (h : parts[i]? = some part) (part' : List α) :
    ((parts.set i part').flatten ++ part).Perm (parts.flatten ++ part') := by
  induction parts generalizing i with
  | nil => cases h
  | cons first rest ih =>
      cases i with
      | zero =>
          obtain rfl : first = part := Option.some.inj h
          rw [List.set_cons_zero, List.flatten_cons, List.flatten_cons, List.append_assoc]
          exact List.perm_append_comm.trans (List.perm_append_comm.append_right part')
      | succ i =>
          rw [List.set_cons_succ, List.flatten_cons, List.flatten_cons, List.append_assoc,
            List.append_assoc]
          exact (ih h).append_left first

section Parts

variable [DecidableEq α] {parts : List (List α)}

/-- In numbers: the lists together hold as many more and less of each. -/
theorem count_flatten_set {i : Nat} {part : List α} (h : parts[i]? = some part) (part' : List α)
    (x : α) :
    (parts.set i part').flatten.count x + part.count x
      = parts.flatten.count x + part'.count x := by
  have hcount := (perm_flatten_set h part').count_eq x
  rw [List.count_append, List.count_append] at hcount
  exact hcount

/-- One of several lists holds no more of anything than all of them. -/
theorem count_getD_le (parts : List (List α)) (i : Nat) (x : α) :
    (parts[i]?.getD []).count x ≤ parts.flatten.count x := by
  cases hi : parts[i]? with
  | none => exact Nat.zero_le _
  | some part =>
      have hset := count_flatten_set hi [] x
      rw [List.count_nil] at hset
      rw [Option.getD_some]
      omega

/-- Nor do two of them. The second one is among those left without the first. -/
theorem count_getD_add_le (parts : List (List α)) {i j : Nat} (hne : i ≠ j) (x : α) :
    (parts[i]?.getD []).count x + (parts[j]?.getD []).count x ≤ parts.flatten.count x := by
  cases hi : parts[i]? with
  | none =>
      have hle := count_getD_le parts j x
      rw [Option.getD_none, List.count_nil]
      omega
  | some part =>
      have hset := count_flatten_set hi [] x
      have hle := count_getD_le (parts.set i []) j x
      rw [List.getElem?_set_ne hne] at hle
      rw [List.count_nil] at hset
      rw [Option.getD_some]
      omega

end Parts

/-- What several lists hold is what the list at some place holds. -/
theorem mem_flatten_iff_getD {parts : List (List α)} {x : α} :
    x ∈ parts.flatten ↔ ∃ i : Nat, x ∈ parts[i]?.getD [] := by
  rw [List.mem_flatten]
  constructor
  · rintro ⟨part, hpart, hx⟩
    obtain ⟨i, hi⟩ := List.mem_iff_getElem?.1 hpart
    refine ⟨i, ?_⟩
    rw [hi]
    exact hx
  · rintro ⟨i, hx⟩
    cases hi : parts[i]? with
    | none =>
        rw [hi] at hx
        cases hx
    | some part =>
        rw [hi] at hx
        exact ⟨part, List.mem_of_getElem? hi, hx⟩

namespace SplitAssigner

/-- There is nothing to hand out if nothing is left, and this changes nothing. -/
theorem next_eq_none_iff {a b : SplitAssigner} : a.next = (none, b) ↔ a.pending = [] ∧ b = a := by
  obtain ⟨pending⟩ := a
  cases pending with
  | nil => exact ⟨fun h => ⟨rfl, (Prod.mk.inj h).2.symm⟩, fun h => by rw [h.2]; rfl⟩
  | cons split rest => exact ⟨fun h => (nomatch (Prod.mk.inj h).1), fun h => (nomatch h.1)⟩

/-- What is handed out is the first split that is left. -/
theorem next_eq_some_iff {a b : SplitAssigner} {split : InputSplit} :
    a.next = (some split, b) ↔ a.pending = split :: b.pending := by
  obtain ⟨pending⟩ := a
  obtain ⟨left⟩ := b
  cases pending with
  | nil => exact ⟨fun h => (nomatch (Prod.mk.inj h).1), fun h => nomatch h⟩
  | cons first rest => simp [next]

/-- The same, without what is left. -/
theorem next_fst (a : SplitAssigner) : a.next.1 = a.pending.head? := by
  obtain ⟨pending⟩ := a
  cases pending with
  | nil => rfl
  | cons split rest => rfl

end SplitAssigner

/-- An assigner with its workers. -/
structure Assignment where
  assigner : SplitAssigner
  /-- What each worker holds. -/
  held : List (List InputSplit)
  finished : List InputSplit
  /-- All that was ever handed out, in this order. A split that was given back and
      handed out again stands here more than once. -/
  handedOut : List InputSplit

/-- Where a split can be. -/
inductive Place where
  | pending
  | held (worker : Nat)
  | finished
  deriving DecidableEq

/-- The places in a row, with those of the workers last. -/
def Place.index : Place → Nat
  | .pending => 0
  | .finished => 1
  | .held worker => worker + 2

theorem Place.index_injective {place other : Place} (h : place.index = other.index) :
    place = other := by
  cases place <;> cases other <;> simp_all [index]

namespace Assignment

variable {plan : List InputSplit} {a a' : Assignment} {split : InputSplit}

/-- Some workers that hold nothing, and a plan of which nothing was handed out. -/
def start (plan : List InputSplit) (workers : Nat) : Assignment :=
  ⟨⟨plan⟩, List.replicate workers [], [], []⟩

/-- The splits at a place. -/
def splitsAt (a : Assignment) : Place → List InputSplit
  | .pending => a.assigner.pending
  | .held worker => a.held[worker]?.getD []
  | .finished => a.finished

/-- The splits at all places, in a row. -/
def places (a : Assignment) : List (List InputSplit) := a.assigner.pending :: a.finished :: a.held

/-- One call of one worker: it asks for the next split, which it gets if there is one,
    it finishes a split that it holds, or it gives back some of those that it holds. -/
inductive Step (a : Assignment) : Assignment → Prop
  | handOut {worker : Nat} {mine : List InputSplit} {split : InputSplit} {left : SplitAssigner}
      (hworker : a.held[worker]? = some mine) (hnext : a.assigner.next = (some split, left)) :
      Step a { a with
        assigner := left
        held := a.held.set worker (mine ++ [split])
        handedOut := a.handedOut ++ [split] }
  | nothingLeft {worker : Nat} {mine : List InputSplit} {left : SplitAssigner}
      (hworker : a.held[worker]? = some mine) (hnext : a.assigner.next = (none, left)) :
      Step a { a with assigner := left }
  | finish {worker : Nat} {mine kept : List InputSplit} {split : InputSplit}
      (hworker : a.held[worker]? = some mine) (hmine : mine.Perm (split :: kept)) :
      Step a { a with held := a.held.set worker kept, finished := a.finished ++ [split] }
  | giveBack {worker : Nat} {mine kept splits : List InputSplit}
      (hworker : a.held[worker]? = some mine) (hmine : mine.Perm (splits ++ kept)) :
      Step a { a with
        assigner := a.assigner.giveBack splits
        held := a.held.set worker kept }

/-- What can come about from a plan and some workers, by calls in any order. -/
inductive Reachable (plan : List InputSplit) (workers : Nat) : Assignment → Prop
  | start : Reachable plan workers (start plan workers)
  | step {a a' : Assignment} (h : Reachable plan workers a) (hstep : a.Step a') :
      Reachable plan workers a'

/-- What every step keeps: each split is somewhere as often as it is in the plan, and
    the queue begins with what was never handed out, in the order of the plan. -/
structure Accounted (a : Assignment) (plan : List InputSplit) : Prop where
  count_eq : ∀ split, a.assigner.pending.count split + a.held.flatten.count split
    + a.finished.count split = plan.count split
  inOrder : ∃ fresh returned, a.assigner.pending = fresh ++ returned ∧
    a.handedOut.take plan.length ++ fresh = plan

/-- Handing out the first of the queue takes it from the part that was never handed
    out, or finds that part used up. -/
theorem inOrder_handOut {handedOut fresh returned rest : List InputSplit}
    (hpending : split :: rest = fresh ++ returned)
    (hplan : handedOut.take plan.length ++ fresh = plan) :
    ∃ fresh' returned', rest = fresh' ++ returned' ∧
      (handedOut ++ [split]).take plan.length ++ fresh' = plan := by
  have hlength := congrArg List.length hplan
  rw [List.length_append, List.length_take] at hlength
  cases fresh with
  | nil =>
      -- All of the plan was handed out, so what comes now does not count.
      rw [List.length_nil] at hlength
      refine ⟨[], rest, rfl, ?_⟩
      rw [List.take_append_of_le_length (by omega)]
      exact hplan
  | cons next fresh =>
      obtain ⟨rfl, rfl⟩ := List.cons.inj hpending
      rw [List.length_cons] at hlength
      refine ⟨fresh, returned, rfl, ?_⟩
      rw [List.take_of_length_le (by omega)] at hplan
      rw [List.take_of_length_le (by rw [List.length_append, List.length_singleton]; omega),
        List.append_assoc, List.singleton_append]
      exact hplan

/-- A call of a worker moves splits, and keeps the first part of the queue in order. -/
theorem Step.accounted (hstep : a.Step a') (h : a.Accounted plan) : a'.Accounted plan := by
  obtain ⟨fresh, returned, hpending, hplan⟩ := h.inOrder
  cases hstep with
  | @handOut worker mine split left hworker hnext =>
      have hqueue := SplitAssigner.next_eq_some_iff.1 hnext
      refine ⟨fun s => ?_, inOrder_handOut (hqueue.symm.trans hpending) hplan⟩
      have hcount := h.count_eq s
      have hheld := count_flatten_set hworker (mine ++ [split]) s
      rw [hqueue, ← List.singleton_append, List.count_append] at hcount
      rw [List.count_append] at hheld
      dsimp only
      omega
  | nothingLeft hworker hnext =>
      rw [(SplitAssigner.next_eq_none_iff.1 hnext).2]
      exact h
  | @finish worker mine kept split hworker hmine =>
      refine ⟨fun s => ?_, h.inOrder⟩
      have hcount := h.count_eq s
      have hheld := count_flatten_set hworker kept s
      have hkept := hmine.count_eq s
      rw [← List.singleton_append, List.count_append] at hkept
      dsimp only
      rw [List.count_append]
      omega
  | @giveBack worker mine kept splits hworker hmine =>
      refine ⟨fun s => ?_, fresh, returned ++ splits, ?_, hplan⟩
      · have hcount := h.count_eq s
        have hheld := count_flatten_set hworker kept s
        have hkept := hmine.count_eq s
        rw [List.count_append] at hkept
        dsimp only [SplitAssigner.giveBack]
        rw [List.count_append]
        omega
      · dsimp only [SplitAssigner.giveBack]
        rw [hpending, List.append_assoc]

/-- Whatever the workers do, all splits are accounted for. -/
theorem Reachable.accounted {workers : Nat} (h : Reachable plan workers a) :
    a.Accounted plan := by
  induction h with
  | start =>
      refine ⟨fun s => ?_, plan, [], (List.append_nil plan).symm, ?_⟩
      · dsimp only [Assignment.start]
        rw [List.flatten_replicate_nil, List.count_nil]
        rfl
      · dsimp only [Assignment.start]
        rw [List.take_nil, List.nil_append]
  | step _ hstep ih => exact hstep.accounted ih

/-- The splits at a place are those at its place in the row. -/
theorem splitsAt_eq (a : Assignment) (place : Place) :
    a.splitsAt place = a.places[place.index]?.getD [] := by
  cases place with
  | pending => rfl
  | held worker => rfl
  | finished => rfl

namespace Accounted

variable (h : a.Accounted plan)
include h

/-- All places together hold the plan. -/
theorem count_places (split : InputSplit) : a.places.flatten.count split = plan.count split := by
  have hcount := h.count_eq split
  rw [places, List.flatten_cons, List.flatten_cons, List.count_append, List.count_append]
  omega

/-- No place holds more of a split than there is. -/
theorem count_le (place : Place) (split : InputSplit) :
    (a.splitsAt place).count split ≤ plan.count split := by
  rw [splitsAt_eq, ← h.count_places]
  exact count_getD_le a.places place.index split

/-- Each split is somewhere. -/
theorem exists_place (hsplit : split ∈ plan) : ∃ place, split ∈ a.splitsAt place := by
  have hpos := List.count_pos_iff.2 hsplit
  rw [← h.count_places, List.count_pos_iff, mem_flatten_iff_getD] at hpos
  obtain ⟨index, hindex⟩ := hpos
  match index with
  | 0 => exact ⟨.pending, hindex⟩
  | 1 => exact ⟨.finished, hindex⟩
  | worker + 2 => exact ⟨.held worker, hindex⟩

/-- Of different splits each is in one place only. -/
theorem place_unique (hplan : plan.Nodup) {place other : Place} (hplace : split ∈ a.splitsAt place)
    (hother : split ∈ a.splitsAt other) : place = other := by
  by_cases heq : place.index = other.index
  · exact Place.index_injective heq
  · have hone := List.nodup_iff_count_le_one.1 hplan split
    have htwo := count_getD_add_le a.places heq split
    have hfirst := List.count_pos_iff.2 hplace
    have hsecond := List.count_pos_iff.2 hother
    rw [splitsAt_eq] at hfirst hsecond
    rw [h.count_places] at htwo
    omega

/-- So each of them is in exactly one. -/
theorem existsUnique_place (hplan : plan.Nodup) (hsplit : split ∈ plan) :
    ∃! place, split ∈ a.splitsAt place := by
  obtain ⟨place, hplace⟩ := h.exists_place hsplit
  exact ⟨place, hplace, fun other hother => h.place_unique hplan hother hplace⟩

/-- Nothing else is anywhere. -/
theorem splitsAt_subset (place : Place) : a.splitsAt place ⊆ plan := by
  intro split hsplit
  have hpos := List.count_pos_iff.2 hsplit
  exact List.count_pos_iff.1 (Nat.lt_of_lt_of_le hpos (h.count_le place split))

/-- The splits in the queue are those that no worker holds and that are not finished. -/
theorem mem_pending_iff (hplan : plan.Nodup) (split : InputSplit) :
    split ∈ a.assigner.pending ↔
      split ∈ plan ∧ split ∉ a.held.flatten ∧ split ∉ a.finished := by
  have hcount := h.count_eq split
  have hone := List.nodup_iff_count_le_one.1 hplan split
  rw [← List.count_pos_iff, ← List.count_pos_iff, ← List.count_eq_zero, ← List.count_eq_zero]
  omega

/-- So the queue is as long as the list of these. -/
theorem remaining_eq (hplan : plan.Nodup) :
    a.assigner.remaining
      = (plan.filter fun split => split ∉ a.held.flatten ∧ split ∉ a.finished).length := by
  have hpending : a.assigner.pending.Nodup := by
    refine List.nodup_iff_count_le_one.2 fun split => ?_
    exact Nat.le_trans (h.count_le .pending split) (List.nodup_iff_count_le_one.1 hplan split)
  refine List.Perm.length_eq ((List.perm_ext_iff_of_nodup hpending (hplan.filter _)).2 ?_)
  intro split
  rw [h.mem_pending_iff hplan, List.mem_filter, decide_eq_true_eq]

/-- And it is empty if there are none of these. -/
theorem pending_eq_nil_iff (hplan : plan.Nodup) :
    a.assigner.pending = [] ↔ ∀ split ∈ plan, split ∈ a.held.flatten ∨ split ∈ a.finished := by
  rw [List.eq_nil_iff_forall_not_mem]
  refine forall_congr' fun split => ?_
  rw [h.mem_pending_iff hplan, not_and, not_and_or, not_not, not_not]

/-- If some split was never handed out, the first such one is the next one. -/
theorem next_of_find? (hplan : plan.Nodup)
    (hfind : plan.find? (fun s => s ∉ a.handedOut) = some split) :
    a.assigner.next.1 = some split := by
  obtain ⟨fresh, returned, hpending, hhanded⟩ := h.inOrder
  have hlength := congrArg List.length hhanded
  rw [List.length_append, List.length_take] at hlength
  cases fresh with
  | nil =>
      -- The whole plan was handed out.
      rw [List.append_nil] at hhanded
      have hmem := List.mem_of_find?_eq_some hfind
      rw [← hhanded] at hmem
      have hnot := List.find?_some hfind
      exact absurd (List.mem_of_mem_take hmem) (of_decide_eq_true hnot)
  | cons next fresh =>
      rw [List.length_cons] at hlength
      rw [List.take_of_length_le (by omega)] at hhanded
      subst hhanded
      have hnext : next ∉ a.handedOut := fun hmem =>
        (List.disjoint_of_nodup_append hplan) hmem List.mem_cons_self
      have hnone : a.handedOut.find? (fun s => s ∉ a.handedOut) = none :=
        List.find?_eq_none.2 fun s hs => by simp only [hs, not_true_eq_false, decide_false,
          Bool.false_eq_true, not_false_eq_true]
      rw [List.find?_append, hnone, Option.none_or,
        List.find?_cons_of_pos (by exact decide_eq_true hnext)] at hfind
      rw [SplitAssigner.next_fst, hpending]
      exact hfind

end Accounted

/-- Workers take different splits, finish them and give some of them back, in any order.
    At all times each split is in one place: in the queue, with one worker, or among the
    finished ones, and nothing else is anywhere. The assigner counts those that no worker
    holds and that are not finished, and it has nothing to hand out exactly if there are
    none. As long as there is a split that was never handed out, the first such one in
    the plan comes next, so what is handed out first is the plan in its order. -/
theorem splits_accounted (hplan : plan.Nodup) {workers : Nat} (h : Reachable plan workers a) :
    (∀ split ∈ plan, ∃! place, split ∈ a.splitsAt place) ∧
      (∀ place, (a.splitsAt place).Nodup ∧ a.splitsAt place ⊆ plan) ∧
      a.assigner.remaining
        = (plan.filter fun split => split ∉ a.held.flatten ∧ split ∉ a.finished).length ∧
      (a.assigner.next.1 = none ↔ ∀ split ∈ plan,
        (∃ worker, split ∈ a.splitsAt (.held worker)) ∨ split ∈ a.splitsAt .finished) ∧
      (∀ split, plan.find? (fun s => s ∉ a.handedOut) = some split →
        a.assigner.next.1 = some split) ∧
      a.handedOut.take plan.length <+: plan := by
  have hall := h.accounted
  refine ⟨fun split => hall.existsUnique_place hplan, fun place => ⟨?_, ?_⟩, ?_, ?_, ?_, ?_⟩
  · refine List.nodup_iff_count_le_one.2 fun split => ?_
    exact Nat.le_trans (hall.count_le place split) (List.nodup_iff_count_le_one.1 hplan split)
  · exact hall.splitsAt_subset place
  · exact hall.remaining_eq hplan
  · rw [SplitAssigner.next_fst, List.head?_eq_none_iff, hall.pending_eq_nil_iff hplan]
    simp only [mem_flatten_iff_getD, splitsAt]
  · exact fun split => hall.next_of_find? hplan
  · obtain ⟨fresh, _, _, hhanded⟩ := hall.inOrder
    exact ⟨fresh, hhanded⟩

/-- Of three splits one was given back and one is finished. The third, which was never
    handed out, comes before the one that was given back. -/
theorem splits_accounted_givenBack :
    ∃ a, Reachable [⟨0, 3⟩, ⟨1, 3⟩, ⟨2, 3⟩] 2 a ∧
      (∃! place, (⟨0, 3⟩ : InputSplit) ∈ a.splitsAt place) ∧ a.assigner.remaining = 2 ∧
      a.assigner.next.1 = some ⟨2, 3⟩ := by
  have hstart : Reachable [⟨0, 3⟩, ⟨1, 3⟩, ⟨2, 3⟩] 2 _ := .start
  have hfirst := hstart.step (@Step.handOut _ 0 [] ⟨0, 3⟩ ⟨[⟨1, 3⟩, ⟨2, 3⟩]⟩ rfl rfl)
  have hsecond := hfirst.step (@Step.handOut _ 1 [] ⟨1, 3⟩ ⟨[⟨2, 3⟩]⟩ rfl rfl)
  have hback := hsecond.step (@Step.giveBack _ 0 [⟨0, 3⟩] [] [⟨0, 3⟩] rfl (.refl _))
  have hdone := hback.step (@Step.finish _ 1 [⟨1, 3⟩] [] ⟨1, 3⟩ rfl (.refl _))
  obtain ⟨hplace, _, hremaining, _, hnext, _⟩ := splits_accounted (by decide) hdone
  exact ⟨_, hdone, hplace ⟨0, 3⟩ (by decide), hremaining.trans (by decide),
    hnext ⟨2, 3⟩ (by decide)⟩

end Assignment

namespace Engine

/-- The splits of an engine are different, for they are numbered. -/
theorem nodup_inputSplits (e : Engine) (minimum : Nat) : (e.inputSplits minimum).Nodup :=
  List.nodup_range.map fun _ _ h => (InputSplit.mk.inj h).1

/-- The splits of an engine have the numbers of its plan and their total. -/
theorem mem_inputSplits {e : Engine} {minimum : Nat} {split : InputSplit} :
    split ∈ e.inputSplits minimum ↔
      split.number < e.plan.splits.length ∧ split.total = e.plan.splits.length := by
  obtain ⟨number, total⟩ := split
  rw [inputSplits, List.mem_map]
  constructor
  · rintro ⟨n, hn, heq⟩
    obtain ⟨rfl, rfl⟩ := InputSplit.mk.inj heq
    exact ⟨List.mem_range.1 hn, rfl⟩
  · rintro ⟨hn, rfl⟩
    exact ⟨number, List.mem_range.2 hn, rfl⟩

/-- Workers that share the splits of an engine. Each split of its plan is in one place,
    and wherever a split is, the engine takes it for the one of that number. -/
theorem inputSplits_accounted (e : Engine) (minimum : Nat) {workers : Nat} {a : Assignment}
    (h : Assignment.Reachable (e.inputSplits minimum) workers a) :
    (∀ n < e.plan.splits.length,
      ∃! place, (⟨n, e.plan.splits.length⟩ : InputSplit) ∈ a.splitsAt place) ∧
      ∀ place, ∀ split ∈ a.splitsAt place, split.number < e.plan.splits.length ∧
        ∀ s, e.openInput s split = e.openSplit s split.number := by
  have hall := h.accounted
  refine ⟨fun n hn => ?_, fun place split hsplit => ?_⟩
  · exact hall.existsUnique_place (e.nodup_inputSplits minimum) (mem_inputSplits.2 ⟨hn, rfl⟩)
  · obtain ⟨hnumber, htotal⟩ := mem_inputSplits.1 (hall.splitsAt_subset place hsplit)
    refine ⟨hnumber, fun s => ?_⟩
    rw [openInput]
    exact if_neg (not_not.2 htotal)

end Engine

end RegionScan
