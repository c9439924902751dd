import Mathlib.Data.List.Nodup
import RegionScan.Proofs.Scan.Assignment
import RegionScan.Proofs.Scan.Sequential
import RegionScan.Scan.Parallel

/-!
# Parallel Scans

A scan by several workers gives what one engine alone would give.

Each worker counts only its own rows, so it may read more than the limit leaves
and may stop where others have not read anything yet. What saves the result is
the order in which splits are handed out. When a worker takes a split, all
splits before it have been taken, and its own count is at most the number of
rows that they gave. So it cuts the split at or behind the place where the
limit cuts the whole, and a row that is lost to a worker's limit is one that
the whole scan would have lost too.

The invariant (`ScanRun.Tracks`) puts this as an equation. Of the splits taken
so far, the rows that were read agree with the rows that there are as far as the
limit reaches. A turn takes the next split and keeps the equation
(`ScanRun.Tracks.turn`), whichever worker it is. When all splits are taken the
outputs of the workers are sorted by split, and the limit makes both sides the
same.

## Main definitions

* `Engine.Readable`: A scan on which nothing fails.
* `Worker.Serves`: A worker that reads splits of an engine.
* `ScanRun.Tracks`: What is known of a run after some splits.

## Theorems

* `Engine.remainder_zero_append`: Cutting a worker's part at its own count.
* `Worker.readSplit_eq`: A worker reads a split.
* `ScanRun.Tracks.turn`, `ScanRun.Tracks.finishAll`: Turns keep the invariant.
* `ScanRun.Tracks.rows_eq`: The rows that are put together in the end.
* `Engine.scan_eq_sequential`: A parallel scan gives the rows of a sequential one.
-/

namespace RegionScan

namespace Engine

/-- A further part that was cut at a count no larger than the number of rows before
    it. As far as the limit reaches, it does not matter that rows are missing
    before it and in it. -/
theorem remainder_zero_append {limit : Option Nat} {read all part : List α} {count : Nat}
    (h : remainder limit 0 read = remainder limit 0 all) (hcount : count ≤ read.length) :
    remainder limit 0 (read ++ remainder limit count part) = remainder limit 0 (all ++ part) := by
  cases limit with
  | none => exact congrArg (· ++ part) h
  | some limit =>
      dsimp only [remainder, Option.elim] at h ⊢
      have hlength := congrArg List.length h
      rw [List.length_take, List.length_take] at hlength
      -- A worker has counted no more than was read, so its cut is not before the limit's.
      rw [List.take_append, List.take_append, h, List.take_take]
      congr 2
      omega

/-- A scan on which nothing fails, with the rows that every split gives. -/
structure Readable (e : Engine) (s : Store) (coercer : Coercer) (outs : List (List Row)) :
    Prop where
  valid : e.Valid s
  compile_eq : Coercer.compile e.fields e.config = .ok coercer
  faults_eq : s.faults = []
  verdict : ∀ row ∈ e.visible s, ∃ answer, Filter.verdict e.filter row.2 = .ok answer
  small : ∀ split ∈ e.plan.splits, (e.matchingIn s split).length ≤ maxCursorRows
  length_outs : outs.length = e.plan.splits.length
  convert : ∀ number split, e.plan.split? number = some split → ∃ rows, outs[number]? = some rows ∧
    (e.matchingIn s split).mapM (fun row => e.convert coercer row.2) = .ok rows

end Engine

namespace Worker

/-- A worker that reads splits of an engine: its own engine is a copy with its own
    count and runtime, and it is connected unless it has finished. -/
def Serves (w : Worker) (e : Engine) (coercer : Coercer) : Prop :=
  ∃ started current runtime,
    w.engine = { e with
      recordCount := (w.output.flatMap (·.2)).length
      started := started
      currentSplit := current
      runtime := runtime } ∧
    match w.status with
    | .active => ∃ connection, runtime.link? = some (connection, coercer) ∧
        connection.isClosed = false
    | .finished => True
    | .failed _ => False

/-- A worker that stops keeps its output, and its engine is closed. -/
theorem stop_eq (w : Worker) (s : Store) (status : WorkerStatus) :
    ∃ u, w.stop s status =
      ({ w with engine := { w.engine with runtime := .closed }, status := status },
        s.withUsage u) := by
  rcases w.engine.close_eq s with ⟨u, hclose⟩
  refine ⟨u, ?_⟩
  rw [stop, hclose]

/-- A worker that finishes has served. -/
theorem Serves.stop {w : Worker} {e : Engine} {coercer : Coercer} (h : w.Serves e coercer) :
    Serves { w with engine := { w.engine with runtime := .closed }, status := .finished } e
      coercer := by
  rcases h with ⟨started, current, runtime, hengine, _⟩
  refine ⟨started, current, .closed, ?_, trivial⟩
  dsimp only
  rw [hengine]

/-- A worker reads a split whole: its output is what its own count leaves of the
    rows of the split. -/
theorem readSplit_eq {w : Worker} {e : Engine} {s : Store} {coercer : Coercer}
    {outs : List (List Row)} (h : e.Readable s coercer outs) (hw : w.Serves e coercer)
    (hactive : w.status = .active) (u : Usage) {number : Nat} {split : Split}
    (hsplit : e.plan.split? number = some split) :
    ∃ (w' : Worker) (u' : Usage) (rows : List Row),
      w.readSplit (s.withUsage u) ⟨number, e.plan.splits.length⟩ = (w', s.withUsage u') ∧
      outs[number]? = some rows ∧ w'.Serves e coercer ∧ w'.status = .active ∧
      w'.output = w.output ++
        [(number, Engine.remainder e.limit (w.output.flatMap (·.2)).length rows)] := by
  obtain ⟨engine, output, status⟩ := w
  obtain rfl : status = .active := hactive
  obtain ⟨started, current, runtime, hengine, connection, hlink, hopen⟩ := hw
  dsimp only at hengine
  subst hengine
  rcases h.convert number split hsplit with ⟨rows, hrows, hconvert⟩
  -- A copy with its own count and runtime is as valid as the engine it is of.
  have hvalid : Engine.Valid { e with
      recordCount := (output.flatMap (·.2)).length
      started := started
      currentSplit := current
      runtime := runtime } (s.withUsage u) := by
    refine ⟨h.valid.planned, h.valid.projection_lt, h.valid.fields_length, fun c k hck => ?_⟩
    obtain ⟨rfl, rfl⟩ := Prod.mk.inj (Option.some.inj (hlink.symm.trans hck))
    exact ⟨hopen, h.compile_eq⟩
  rcases hvalid.openSplit_drain hlink h.faults_eq hsplit h.verdict
    (h.small split (List.mem_of_getElem? hsplit)) hconvert with
    ⟨opened, u₁, drained, hopened, hdrained, hdrain⟩
  dsimp only at hdrain
  rw [Store.withUsage_withUsage] at hopened hdrain
  generalize hpart : Engine.remainder e.limit (output.flatMap (·.2)).length rows = part at hdrain ⊢
  rcases Engine.closeSplit_eq { e with
      started := true
      currentSplit := some number
      recordCount := (output.flatMap (·.2)).length + part.length
      runtime := drained } (s.withUsage u₁) with ⟨left, u₂, hclose, hleft⟩
  refine ⟨⟨{ e with
      started := true
      currentSplit := some number
      recordCount := (output.flatMap (·.2)).length + part.length
      runtime := left }, output ++ [(number, part)], .active⟩, u₂, rows, ?_, hrows, ?_, rfl, ?_⟩
  · -- Opening, draining and closing, none of which fails.
    rw [readSplit, Engine.openInput, if_neg (not_not_intro rfl)]
    dsimp only
    rw [hopened]
    dsimp only
    rw [hdrain]
    dsimp only
    rw [hclose]
    rfl
  · -- What was drained is counted, so the worker serves with the longer output.
    refine ⟨true, some number, left, ?_, connection, hleft.trans hdrained, hopen⟩
    dsimp only
    rw [List.flatMap_append, List.length_append, List.flatMap_singleton]
  · rw [hpart]

end Worker

namespace ScanRun

/-- What is known of a run of workers after some splits were read: `done` holds
    for each split taken so far, in order, the rows that were read of it. -/
structure Tracks (r : ScanRun) (e : Engine) (s : Store) (coercer : Coercer)
    (outs : List (List Row)) (done : List (Nat × List Row)) : Prop where
  store_eq : ∃ u, r.store = s.withUsage u
  pending_eq : r.assigner.pending = (e.inputSplits 0).drop done.length
  numbers_eq : done.map (·.1) = List.range done.length
  rows_eq : Engine.remainder e.limit 0 (done.flatMap (·.2))
    = Engine.remainder e.limit 0 (outs.take done.length).flatten
  perm : (r.workers.flatMap (·.output)).Perm done
  serves : ∀ w ∈ r.workers, w.Serves e coercer
  finished : ∀ w ∈ r.workers, w.status = .finished → r.assigner.pending = []

/-- The outputs of workers of which one has a longer output. -/
theorem perm_flatMap_set {ws : List Worker} {number : Nat} {w w' : Worker}
    (hw : ws[number]? = some w) {part : Nat × List Row} (houtput : w'.output = w.output ++ [part]) :
    ((ws.set number w').flatMap (·.output)).Perm (ws.flatMap (·.output) ++ [part]) := by
  have hparts : (ws.map (·.output))[number]? = some w.output := by
    rw [List.getElem?_map, hw]
    rfl
  have hperm := perm_flatten_set hparts w'.output
  rw [← List.map_set, houtput, ← List.flatMap_def, ← List.flatMap_def] at hperm
  -- What the worker had read before is on both sides.
  rw [← List.perm_append_right_iff w.output, List.append_assoc]
  exact hperm.trans (List.perm_append_comm.append_left _)

/-- The outputs of workers of which one has kept its output. -/
theorem flatMap_set {ws : List Worker} {number : Nat} {w w' : Worker}
    (hw : ws[number]? = some w) (houtput : w'.output = w.output) :
    (ws.set number w').flatMap (·.output) = ws.flatMap (·.output) := by
  obtain ⟨hlt, rfl⟩ := List.getElem?_eq_some_iff.1 hw
  rw [List.flatMap_def, List.map_set, houtput, ← List.map_set, List.set_getElem_self,
    ← List.flatMap_def]

/-- A worker has read no more rows than all workers together. -/
theorem length_output_le {ws : List Worker} {w : Worker} (hw : w ∈ ws) :
    (w.output.flatMap (·.2)).length ≤ ((ws.flatMap (·.output)).flatMap (·.2)).length := by
  rcases List.append_of_mem hw with ⟨before, after, rfl⟩
  rw [List.flatMap_append, List.flatMap_cons, List.flatMap_append, List.flatMap_append,
    List.length_append, List.length_append]
  omega

namespace Tracks

variable {r : ScanRun} {e : Engine} {s : Store} {coercer : Coercer} {outs : List (List Row)}
  {done : List (Nat × List Row)}

/-- The splits left are taken in order: the next one is that behind those read
    so far. -/
theorem next_eq (h : r.Tracks e s coercer outs done) {next : InputSplit} {rest : List InputSplit}
    (hpending : r.assigner.pending = next :: rest) :
    next = ⟨done.length, e.plan.splits.length⟩ ∧ done.length < e.plan.splits.length ∧
      rest = (e.inputSplits 0).drop (done.length + 1) := by
  have hdrop := h.pending_eq.symm.trans hpending
  -- There is a split left, so not all were read.
  have hlt : done.length < (e.inputSplits 0).length := by
    by_cases hlt : done.length < (e.inputSplits 0).length
    · exact hlt
    · rw [List.drop_eq_nil_of_le (Nat.le_of_not_lt hlt)] at hdrop
      cases hdrop
  rw [List.drop_eq_getElem_cons hlt] at hdrop
  obtain ⟨hnext, hrest⟩ := List.cons.inj hdrop
  rw [Engine.inputSplits, List.length_map, List.length_range] at hlt
  refine ⟨?_, hlt, hrest.symm⟩
  rw [← hnext]
  simp only [Engine.inputSplits, List.getElem_map, List.getElem_range]

/-- A worker that finds no split left finishes, which keeps the invariant. -/
theorem finish_worker (h : r.Tracks e s coercer outs done) {number : Nat} {w : Worker}
    (hw : r.workers[number]? = some w) (hpending : r.assigner.pending = []) :
    Tracks { r with
      store := (w.stop r.store .finished).2
      workers := r.workers.set number (w.stop r.store .finished).1 } e s coercer outs done := by
  rcases h.store_eq with ⟨u, hu⟩
  rcases w.stop_eq r.store .finished with ⟨u', hstop⟩
  rw [hstop, hu, Store.withUsage_withUsage]
  refine ⟨⟨u', rfl⟩, h.pending_eq, h.numbers_eq, h.rows_eq, ?_, ?_, fun _ _ _ => hpending⟩
  · dsimp only
    rw [flatMap_set hw (by rfl)]
    exact h.perm
  · intro v hv
    rcases List.mem_or_eq_of_mem_set hv with hv | rfl
    · exact h.serves v hv
    · exact (h.serves w (List.mem_of_getElem? hw)).stop

/-- A worker that takes the next split and reads it keeps the invariant. The
    splits before it were all read, by whichever workers, and no worker has
    read more rows than they gave. -/
theorem read_worker (h : r.Tracks e s coercer outs done) (he : e.Readable s coercer outs)
    {number : Nat} {w : Worker} (hw : r.workers[number]? = some w) (hactive : w.status = .active)
    {next : InputSplit} {rest : List InputSplit} (hpending : r.assigner.pending = next :: rest) :
    Tracks ⟨(w.readSplit r.store next).2, ⟨rest⟩,
        r.workers.set number (w.readSplit r.store next).1⟩ e s coercer outs
      (done ++ [(done.length, Engine.remainder e.limit (w.output.flatMap (·.2)).length
        (outs[done.length]?.getD []))]) := by
  have hmem := List.mem_of_getElem? hw
  rcases h.store_eq with ⟨u, hu⟩
  rcases h.next_eq hpending with ⟨rfl, hlt, rfl⟩
  rcases Worker.readSplit_eq he (h.serves w hmem) hactive u (List.getElem?_eq_getElem hlt) with
    ⟨w', u', rows, hread, hrows, hserves, hactive', houtput⟩
  -- The worker's own rows are some of those that were read.
  have hcount : (w.output.flatMap (·.2)).length ≤ (done.flatMap (·.2)).length := by
    rw [← (h.perm.flatMap_right _).length_eq]
    exact length_output_le hmem
  rw [hu, hread, hrows, Option.getD_some]
  refine ⟨⟨u', rfl⟩, ?_, ?_, ?_, ?_, ?_, ?_⟩
  · rw [List.length_append, List.length_singleton]
  · rw [List.map_append, h.numbers_eq, List.length_append, List.length_singleton,
      List.range_succ, List.map_singleton]
  · rw [List.flatMap_append, List.flatMap_singleton, List.length_append, List.length_singleton,
      List.take_add_one, hrows, Option.toList_some, List.flatten_append, List.flatten_singleton]
    exact Engine.remainder_zero_append h.rows_eq hcount
  · exact (perm_flatMap_set hw houtput).trans (h.perm.append_right _)
  · intro v hv
    rcases List.mem_or_eq_of_mem_set hv with hv | rfl
    · exact h.serves v hv
    · exact hserves
  · intro v hv hfinished
    rcases List.mem_or_eq_of_mem_set hv with hv | rfl
    · -- A worker that has finished found no split left, but there is one.
      have hnil := h.finished v hv hfinished
      rw [hpending] at hnil
      cases hnil
    · rw [hactive'] at hfinished
      cases hfinished

/-- A turn keeps the invariant, whichever worker takes it. -/
theorem turn (h : r.Tracks e s coercer outs done) (he : e.Readable s coercer outs)
    (number : Nat) : ∃ done', (r.turn number).Tracks e s coercer outs done' := by
  rw [ScanRun.turn]
  cases hw : r.workers[number]? with
  | none => exact ⟨done, h⟩
  | some w =>
      have hmem := List.mem_of_getElem? hw
      cases hstatus : w.status with
      | finished =>
          dsimp only
          rw [hstatus]
          exact ⟨done, h⟩
      | failed _ =>
          dsimp only
          rw [hstatus]
          exact ⟨done, h⟩
      | active =>
          dsimp only
          rw [hstatus]
          dsimp only
          cases hpending : r.assigner.pending with
          | nil =>
              rw [SplitAssigner.next, hpending]
              exact ⟨done, h.finish_worker hw hpending⟩
          | cons next rest =>
              rw [SplitAssigner.next, hpending]
              exact ⟨_, h.read_worker he hw hstatus hpending⟩

/-- A turn of a worker takes the next split, if there is one. -/
theorem pending_turn (h : r.Tracks e s coercer outs done) (number : Nat) :
    (r.turn number).assigner.pending =
      if number < r.workers.length then r.assigner.pending.tail else r.assigner.pending := by
  rw [ScanRun.turn]
  cases hw : r.workers[number]? with
  | none => rw [if_neg (Nat.not_lt.2 (List.getElem?_eq_none_iff.1 hw))]
  | some w =>
      rw [if_pos (List.getElem?_eq_some_iff.1 hw).1]
      have hmem := List.mem_of_getElem? hw
      cases hstatus : w.status with
      | finished =>
          dsimp only
          rw [hstatus, h.finished w hmem hstatus]
          rfl
      | failed _ =>
          rcases h.serves w hmem with ⟨_, _, _, _, hserves⟩
          rw [hstatus] at hserves
          exact hserves.elim
      | active =>
          dsimp only
          rw [hstatus]
          dsimp only
          cases hpending : r.assigner.pending with
          | nil =>
              rw [SplitAssigner.next, hpending]
              exact hpending
          | cons next rest =>
              rw [SplitAssigner.next, hpending]
              rfl

end Tracks

/-- A turn does not change the number of workers. -/
theorem length_workers_turn (r : ScanRun) (number : Nat) :
    (r.turn number).workers.length = r.workers.length := by
  rw [turn]
  cases r.workers[number]? with
  | none => rfl
  | some w =>
      dsimp only
      cases w.status with
      | finished => rfl
      | failed _ => rfl
      | active =>
          dsimp only
          rcases r.assigner.next with ⟨_ | split, assigner⟩
          · exact List.length_set
          · exact List.length_set

/-- Nor do several. -/
theorem length_workers_turns (numbers : List Nat) :
    ∀ r : ScanRun, (r.turns numbers).workers.length = r.workers.length := by
  induction numbers with
  | nil => exact fun _ => rfl
  | cons number numbers ih =>
      exact fun r => (ih (r.turn number)).trans (r.length_workers_turn number)

namespace Tracks

variable {r : ScanRun} {e : Engine} {s : Store} {coercer : Coercer} {outs : List (List Row)}
  {done : List (Nat × List Row)}

/-- Turns keep the invariant, whichever workers take them. -/
theorem turns (he : e.Readable s coercer outs) (numbers : List Nat) :
    ∀ {r : ScanRun} {done : List (Nat × List Row)}, r.Tracks e s coercer outs done →
      ∃ done', (r.turns numbers).Tracks e s coercer outs done' := by
  induction numbers with
  | nil => exact fun h => ⟨_, h⟩
  | cons number numbers ih =>
      intro r done h
      rcases h.turn he number with ⟨done', h'⟩
      exact ih h'

/-- A worker that goes on for some turns takes as many splits. -/
theorem pending_turns_replicate (he : e.Readable s coercer outs) (number : Nat) :
    ∀ (n : Nat) {r : ScanRun} {done : List (Nat × List Row)}, r.Tracks e s coercer outs done →
      number < r.workers.length →
      (r.turns (List.replicate n number)).assigner.pending = r.assigner.pending.drop n := by
  intro n
  induction n with
  | zero => exact fun _ _ => rfl
  | succ n ih =>
      intro r done h hlt
      rcases h.turn he number with ⟨done', h'⟩
      -- The first turn takes a split, the others those behind it.
      have hrest := ih h' (by rw [length_workers_turn]; exact hlt)
      rw [h.pending_turn, if_pos hlt, List.drop_tail] at hrest
      exact hrest

/-- When a worker has finished, no split is left. -/
theorem finish (h : r.Tracks e s coercer outs done) (he : e.Readable s coercer outs) {number : Nat}
    (hlt : number < r.workers.length) :
    ∃ done', (r.finish number).Tracks e s coercer outs done' ∧
      (r.finish number).assigner.pending = [] := by
  rcases turns he (List.replicate (r.assigner.remaining + 1) number) h with ⟨done', h'⟩
  refine ⟨done', h', ?_⟩
  rw [ScanRun.finish, pending_turns_replicate he number _ h hlt]
  exact List.drop_eq_nil_of_le (Nat.le_succ _)

/-- When some workers have finished, one at least, no split is left. -/
theorem foldl_finish (he : e.Readable s coercer outs) (numbers : List Nat) :
    ∀ {r : ScanRun} {done : List (Nat × List Row)}, r.Tracks e s coercer outs done →
      (∀ number ∈ numbers, number < r.workers.length) →
      (numbers ≠ [] ∨ r.assigner.pending = []) →
      ∃ done', (numbers.foldl ScanRun.finish r).Tracks e s coercer outs done' ∧
        (numbers.foldl ScanRun.finish r).assigner.pending = [] := by
  induction numbers with
  | nil =>
      intro r done h _ hnil
      exact ⟨done, h, hnil.resolve_left fun hne => hne rfl⟩
  | cons number numbers ih =>
      intro r done h hlt _
      rcases h.finish he (hlt number List.mem_cons_self) with ⟨done', h', hpending⟩
      refine ih h' (fun n hn => ?_) (Or.inr hpending)
      rw [ScanRun.finish, length_workers_turns]
      exact hlt n (List.mem_cons_of_mem _ hn)

/-- When all workers have finished, no split is left. -/
theorem finishAll (h : r.Tracks e s coercer outs done) (he : e.Readable s coercer outs)
    (hworkers : 0 < r.workers.length) :
    ∃ done', r.finishAll.Tracks e s coercer outs done' ∧ r.finishAll.assigner.pending = [] := by
  refine foldl_finish he (List.range r.workers.length) h (fun _ hn => List.mem_range.1 hn) ?_
  refine Or.inl fun hnil => ?_
  rw [List.range_eq_nil] at hnil
  omega

/-- No worker has failed. -/
theorem failure?_eq_none (h : r.Tracks e s coercer outs done) : r.failure? = none := by
  rw [failure?, List.findSome?_eq_none_iff]
  intro w hw
  rcases h.serves w hw with ⟨_, _, _, _, hserves⟩
  cases hstatus : w.status with
  | active => rfl
  | finished => rfl
  | failed _ =>
      rw [hstatus] at hserves
      exact hserves.elim

/-- The outputs of all workers, sorted by split, are what was read of the splits
    in order. -/
theorem rows_eq_flatMap (h : r.Tracks e s coercer outs done) : r.rows = done.flatMap (·.2) := by
  -- Both lists hold the same outputs, and both are sorted by split.
  have hperm : ((r.workers.flatMap (·.output)).mergeSort fun a b => a.1 ≤ b.1).Perm done :=
    (List.mergeSort_perm _ _).trans h.perm
  have hsorted : ((r.workers.flatMap (·.output)).mergeSort fun a b => a.1 ≤ b.1).Pairwise
      fun a b => decide (a.1 ≤ b.1) = true := by
    refine List.pairwise_mergeSort (fun a b c hab hbc => ?_) (fun a b => ?_) _
    · rw [decide_eq_true_eq] at hab hbc ⊢
      exact Nat.le_trans hab hbc
    · rw [Bool.or_eq_true, decide_eq_true_eq, decide_eq_true_eq]
      exact Nat.le_total a.1 b.1
  have hdone : done.Pairwise fun a b => decide (a.1 ≤ b.1) = true := by
    have hnumbers := List.pairwise_lt_range (n := done.length)
    rw [← h.numbers_eq, List.pairwise_map] at hnumbers
    exact hnumbers.imp fun hlt => decide_eq_true (Nat.le_of_lt hlt)
  have hnodup : (done.map (·.1)).Nodup := by
    rw [h.numbers_eq]
    exact List.nodup_range
  -- No split was read twice, so the numbers tell the outputs apart.
  have hanti : ∀ a b, a ∈ (r.workers.flatMap (·.output)).mergeSort (fun a b => a.1 ≤ b.1) →
      b ∈ done → decide (a.1 ≤ b.1) = true → decide (b.1 ≤ a.1) = true → a = b := by
    intro a b ha hb hab hba
    rw [decide_eq_true_eq] at hab hba
    exact List.inj_on_of_nodup_map hnodup (hperm.mem_iff.1 ha) hb (Nat.le_antisymm hab hba)
  rw [rows, List.Perm.eq_of_pairwise hanti hsorted hdone hperm]

/-- When no split is left, the outputs agree with the rows of all splits as far as
    the limit reaches. -/
theorem remainder_rows (h : r.Tracks e s coercer outs done) (he : e.Readable s coercer outs)
    (hpending : r.assigner.pending = []) :
    Engine.remainder e.limit 0 r.rows = Engine.remainder e.limit 0 outs.flatten := by
  -- No split is left, so the outputs are those of all splits.
  have hle : (e.inputSplits 0).length ≤ done.length := by
    rw [h.pending_eq, List.drop_eq_nil_iff] at hpending
    exact hpending
  rw [Engine.inputSplits, List.length_map, List.length_range, ← he.length_outs] at hle
  rw [h.rows_eq_flatMap, h.rows_eq, List.take_of_length_le hle]

end Tracks

/-- Workers that are started have read nothing, and all of them are connected. -/
theorem startWorkers_eq {e : Engine} {s : Store} {coercer : Coercer} {outs : List (List Row)}
    (he : e.Readable s coercer outs) (n : Nat) :
    ∀ (u : Usage) (number : Nat), ∃ ws u',
      startWorkers e (s.withUsage u) number n = (ws, s.withUsage u') ∧ ws.length = n ∧
        ws.flatMap (·.output) = [] ∧ ∀ w ∈ ws, w.Serves e coercer ∧ w.status = .active := by
  induction n with
  | zero => exact fun u _ => ⟨[], u, rfl, rfl, rfl, fun _ hw => nomatch hw⟩
  | succ n ih =>
      intro u number
      rcases Engine.configure_eq (e := e.duplicate) (s := s.withUsage u) rfl he.compile_eq
        (Store.isArmed_of_faults_eq_nil he.faults_eq _) with ⟨u₁, hconfigure⟩
      rcases ih u₁ (number + 1) with ⟨ws, u', hws, hlength, houtputs, hserves⟩
      refine ⟨⟨{ e.duplicate with runtime := .ready ⟨false⟩ coercer }, [], .active⟩ :: ws, u', ?_,
        congrArg (· + 1) hlength, houtputs, fun w hw => ?_⟩
      · rw [startWorkers, Worker.start, hconfigure]
        dsimp only
        rw [Store.withUsage_withUsage, hws]
      · rcases List.mem_cons.1 hw with rfl | hw
        · exact ⟨⟨false, none, .ready ⟨false⟩ coercer, rfl, ⟨false⟩, rfl, rfl⟩, rfl⟩
        · exact hserves w hw

/-- A run that starts tracks: no split was read yet. -/
theorem tracks_start {e : Engine} {s : Store} {coercer : Coercer} {outs : List (List Row)}
    {ws : List Worker} {u : Usage} (houtputs : ws.flatMap (·.output) = [])
    (hserves : ∀ w ∈ ws, w.Serves e coercer ∧ w.status = .active) (minimum : Nat) :
    Tracks ⟨s.withUsage u, ⟨e.inputSplits minimum⟩, ws⟩ e s coercer outs [] where
  store_eq := ⟨u, rfl⟩
  pending_eq := rfl
  numbers_eq := rfl
  rows_eq := rfl
  perm := by rw [houtputs]
  serves := fun w hw => (hserves w hw).1
  finished := fun w hw hfinished => by
    rw [(hserves w hw).2] at hfinished
    cases hfinished

end ScanRun

namespace Engine

/-- A parallel scan on which nothing fails gives the rows of all splits up to the
    limit, for any number of workers and any turns that they take. -/
theorem Readable.scan_eq {e : Engine} {s : Store} {coercer : Coercer} {outs : List (List Row)}
    (he : e.Readable s coercer outs) (workers : Nat) (turns : List Nat) :
    (e.scan s workers turns).1 =
      .ok ⟨e.producedFields, e.limit.elim outs.flatten outs.flatten.take⟩ := by
  rcases ScanRun.startWorkers_eq he (max workers 1) s.usage 0 with
    ⟨ws, u, hstart, hlength, houtputs, hserves⟩
  rcases ScanRun.Tracks.turns he turns
    (ScanRun.tracks_start (u := u) houtputs hserves (max workers 1)) with ⟨taken, hturns⟩
  -- There is at least one worker, who goes on until no split is left.
  have hworkers : 0 < (ScanRun.turns ⟨s.withUsage u, ⟨e.inputSplits (max workers 1)⟩, ws⟩
      turns).workers.length := by
    rw [ScanRun.length_workers_turns]
    dsimp only
    omega
  rcases hturns.finishAll he hworkers with ⟨done, hdone, hpending⟩
  have hrows := hdone.remainder_rows he hpending
  have hlimited : ∀ rows : List Row,
      (e.limit.map rows.take).getD rows = remainder e.limit 0 rows := by
    intro rows
    cases e.limit with
    | none => rfl
    | some limit => rfl
  have hstart' : ScanRun.startWorkers e s 0 (max workers 1) = (ws, s.withUsage u) := hstart
  rw [scan]
  dsimp only
  rw [hstart']
  dsimp only
  rw [hdone.failure?_eq_none]
  dsimp only
  rw [hlimited, hrows]
  rfl

end Engine

/-- A parallel scan gives the rows of a sequential scan without a limit, in their
    order and up to the limit, whatever the number of workers and whichever
    turns they take. -/
theorem Engine.scan_eq_sequential (clock : Clock) (actions : List HostAction) (x : Session)
    (hx : x ∈ ((Host.new clock).run actions).sessions) {coercer : Coercer}
    (hcompile : Coercer.compile x.engine.fields x.engine.config = .ok coercer)
    (hfaults : ((Host.new clock).run actions).store.faults = [])
    (hfilter : ∀ row ∈ x.engine.visible ((Host.new clock).run actions).store,
      ∃ answer, Filter.verdict x.engine.filter row.2 = .ok answer)
    (hsmall : ∀ split ∈ x.engine.plan.splits,
      (x.engine.matchingIn ((Host.new clock).run actions).store split).length ≤ maxCursorRows)
    {rows : List Row}
    (hrows : (x.engine.matching ((Host.new clock).run actions).store).mapM
      (fun row => x.engine.convert coercer row.2) = .ok rows) (workers : Nat) (turns : List Nat) :
    (∃ single s, Engine.configure { x.engine.duplicate with limit := none }
        ((Host.new clock).run actions).store = (.ok (), single, s) ∧
      (single.readAll s (List.range x.engine.plan.splits.length)).1 = rows ∧
      (single.readAll s (List.range x.engine.plan.splits.length)).2.1 = none) ∧
    (x.engine.scan ((Host.new clock).run actions).store workers turns).1
      = .ok ⟨x.engine.producedFields, x.engine.limit.elim rows rows.take⟩ := by
  have hvalid := Host.valid_run clock actions x hx
  rw [← hvalid.flatMap_matchingIn] at hrows
  constructor
  · rcases Engine.configure_eq (e := { x.engine.duplicate with limit := none }) rfl hcompile
      (Store.isArmed_of_faults_eq_nil hfaults _) with ⟨u, hconfigure⟩
    refine ⟨_, _, hconfigure, ?_⟩
    have hsingle : Engine.Valid { x.engine.duplicate with
        limit := none
        runtime := .ready ⟨false⟩ coercer } (((Host.new clock).run actions).store.withUsage u) := by
      refine ⟨hvalid.planned, hvalid.projection_lt, hvalid.fields_length, fun c k hck => ?_⟩
      obtain ⟨rfl, rfl⟩ := Prod.mk.inj (Option.some.inj hck)
      exact ⟨rfl, hcompile⟩
    exact hsingle.readAll_eq x.engine.plan.splits rfl hfaults
      (ScanPlan.map_split?_range x.engine.plan) hfilter hsmall hrows
  · rcases Engine.mapM_flatMap_eq_ok x.engine.plan.splits hrows with ⟨outs, hlength, rfl, hparts⟩
    exact Engine.Readable.scan_eq ⟨hvalid, hcompile, hfaults, hfilter, hsmall, hlength, hparts⟩
      workers turns

/-- Two workers, of which one is ahead of the other, find the first two rows. -/
theorem scan_staleRun :
    ∃ x ∈ ((Host.new (.manual 1)).run staleRun).sessions,
      (x.engine.scan ((Host.new (.manual 1)).run staleRun).store 2 [1, 1, 0]).1
        = .ok ⟨[⟨"id", .bigInt⟩], [[.bigInt 0], [.bigInt 20]]⟩ := by
  have hx := List.getElem_mem
    (by decide : 0 < ((Host.new (.manual 1)).run staleRun).sessions.length)
  refine ⟨_, hx, ?_⟩
  exact (Engine.scan_eq_sequential (.manual 1) staleRun _ hx rfl rfl (fun _ _ => ⟨true, rfl⟩)
    (by decide) rfl 2 [1, 1, 0]).2

end RegionScan
