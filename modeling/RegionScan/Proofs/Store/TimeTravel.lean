import RegionScan.Proofs.Store.Replay

/-!
# Time Travel

What a reader of an old version finds in a store that went on.

A reader at a commit, or between it and the next one, sees the newest versions
of that moment, and these are what a plain store holds after the same actions.
However long the run is continued, the reader skips what is written later. So
a read of the final store is a read of the plain store as it was.

Rows are found in a range of keys and come in ascending order of their handles.
An ascending list is settled by its elements, so it is enough to say which rows
are read.

## Main definitions

* `Store.read`: What a reader sees in a range of keys.

## Theorems

* `Store.mem_read_iff`, `Store.read_ascending`: The rows read, and their order.
* `Store.read_run_of_lt_commits`: Later commits do not change a read.
* `Store.read_run_eq_replay`: A read of the past is a read of the plain store.
-/

namespace RegionScan

/-- Two ascending lists of rows with the same elements are the same. -/
theorem ascending_ext {l l' : List (Int64 × RawRow)} (h : l.Pairwise fun a b => a.1 < b.1)
    (h' : l'.Pairwise fun a b => a.1 < b.1) (hmem : ∀ row, row ∈ l ↔ row ∈ l') : l = l' := by
  have hirrefl : ∀ {a b : Int64 × RawRow}, a.1 < b.1 → a ≠ b := by
    rintro a _ hlt rfl
    exact Int64.lt_irrefl hlt
  -- Handles that ascend do not repeat, so equal elements make a permutation.
  have hperm : l.Perm l' :=
    (List.perm_ext_iff_of_nodup (h.imp hirrefl) (h'.imp hirrefl)).2 hmem
  exact hperm.eq_of_pairwise (fun a b _ _ hab hba => absurd hba (Int64.lt_asymm hab)) h h'

namespace Store

/-- What a reader of a version sees in the range of a split, by handle. -/
def read (s : Store) (split : Split) (v : UInt64) : List (Int64 × RawRow) :=
  match s.table split.table with
  | .ok t => t.visibleRows split v
  | .error _ => []

/-- The rows that are read are those that are seen and lie in the range. -/
theorem mem_read_iff (s : Store) (split : Split) (v : UInt64) (handle : Int64) (row : RawRow) :
    (handle, row) ∈ s.read split v ↔
      s.seen? split.table v handle = some row ∧
        ∃ t, s.table split.table = .ok t ∧ split.contains (.record t.id handle) = true := by
  rw [read, seen?]
  cases hf : s.tables.find? split.table with
  | none =>
      rw [table_of_find?_none hf]
      simp only [List.not_mem_nil, Option.bind_none, reduceCtorEq, false_and]
  | some t =>
      rw [table_of_find? hf]
      simp only [Table.visibleRows_eq_filter, List.mem_filter, Table.mem_rowsAt_iff,
        Option.bind_some, Except.ok.injEq, exists_eq_left']

/-- Rows are read in ascending order of their handles. -/
theorem read_ascending (s : Store) (split : Split) (v : UInt64) :
    (s.read split v).Pairwise fun a b => a.1 < b.1 := by
  rw [read]
  cases s.table split.table with
  | error _ => exact .nil
  | ok t =>
      dsimp only
      rw [Table.visibleRows_eq_filter]
      exact ((t.rowsAt_ascending v).sublist List.filter_sublist).imp Std.compare_eq_lt.1

/-- A run whose commits are all later does not change what a reader finds. -/
theorem read_run_of_lt_commits {s : Store} {actions : List StoreAction} {v : UInt64}
    (hv : ∀ c ∈ s.commits actions, v < c.version) (split : Split) :
    (s.run actions).read split v = s.read split v := by
  refine ascending_ext ((s.run actions).read_ascending split v) (s.read_ascending split v) ?_
  rintro ⟨handle, row⟩
  rw [mem_read_iff, mem_read_iff, seen?_run actions hv]
  refine and_congr_right fun hseen => ?_
  -- Something is seen of the row, so the table was there and keeps its number.
  rw [seen?] at hseen
  rcases Option.bind_eq_some_iff.1 hseen with ⟨t, ht, _⟩
  rcases find?_run actions ht with ⟨t', ht', hid, _⟩
  rw [table_of_find? ht, table_of_find? ht']
  simp only [Except.ok.injEq, exists_eq_left', hid]

/-- A reader at the last commit or above finds what a plain store holds that
    agrees. -/
theorem Agrees.mem_read_iff {s : Store} {p : PlainStore} (h : s.Agrees p) (hs : s.Ordered)
    {v : UInt64} (hv : s.lastCommit.version ≤ v) (split : Split) (handle : Int64)
    (row : RawRow) :
    (handle, row) ∈ s.read split v ↔
      (∃ q, p split.table = some q ∧ q.rows handle = some row) ∧
        ∃ t, s.table split.table = .ok t ∧ split.contains (.record t.id handle) = true := by
  rw [Store.mem_read_iff, hs.seen?_eq_current? hv]
  rcases h.cases split.table with ⟨hf, hp⟩ | ⟨t, q, hf, hp, ht⟩
  · simp only [hf, hp, Option.bind_none, reduceCtorEq, false_and, exists_false]
  · simp only [hf, hp, Option.bind_some, ht.current?_eq, Option.some.injEq, exists_eq_left']

/-- A read between the last of some first actions and the commits after them
    finds the rows that these actions leave in a plain store, in ascending
    order of their handles. At or below that last commit, a reader finds the same
    before and after the later actions. -/
theorem read_run_eq_replay (clock : Clock) (actions : List StoreAction) (k : Nat) (v : UInt64)
    (hfit : ∀ c ∈ (new clock).commits actions, c.physical.toNat ≤ maxPhysical)
    (hlast : ((new clock).run (actions.take k)).lastCommit.version ≤ v)
    (hlater : ∀ c ∈ ((new clock).run (actions.take k)).commits (actions.drop k), v < c.version)
    (split : Split) :
    (((new clock).run actions).read split v).Pairwise (fun a b => a.1 < b.1) ∧
      (∀ handle row, (handle, row) ∈ ((new clock).run actions).read split v ↔
        (∃ q, PlainStore.replay (actions.take k) split.table = some q ∧
          q.rows handle = some row) ∧
        ∃ t, ((new clock).run actions).table split.table = .ok t ∧
          split.contains (.record t.id handle) = true) ∧
      ∀ w ≤ ((new clock).run (actions.take k)).lastCommit.version,
        ((new clock).run actions).read split w
          = ((new clock).run (actions.take k)).read split w := by
  -- The final store is the one after `k` actions, run on.
  have hsplit : ((new clock).run (actions.take k)).run (actions.drop k)
      = (new clock).run actions := by
    rw [← run_append, List.take_append_drop]
  have hcommits := (new clock).commits_append (actions.take k) (actions.drop k)
  rw [List.take_append_drop] at hcommits
  rw [hcommits] at hfit
  -- After `k` actions no version is too young for the reader, and the plain store agrees.
  have hordered := ordered_run (actions.take k) (ordered_new clock) fun c hc =>
    hfit c (List.mem_append_left _ hc)
  have hagrees : ((new clock).run (actions.take k)).Agrees (.replay (actions.take k)) :=
    agrees_run (actions.take k) (agrees_new clock)
  rw [← hsplit]
  refine ⟨read_ascending _ split v, fun handle row => ?_, fun w hw => ?_⟩
  · -- The reader skips the later actions and finds the newest rows of that moment.
    rw [read_run_of_lt_commits hlater, hagrees.mem_read_iff hordered hlast]
    refine and_congr_right fun ⟨q, hq, _⟩ => ?_
    rcases hagrees.cases split.table with ⟨_, hnone⟩ | ⟨t, _, ht, _, _⟩
    · rw [hnone] at hq
      cases hq
    · -- The range is one of keys, which hold the table's number, and that is kept.
      rcases find?_run (actions.drop k) ht with ⟨t', ht', hid, _⟩
      rw [table_of_find? ht, table_of_find? ht']
      simp only [Except.ok.injEq, exists_eq_left', hid]
  · -- Every later commit is above the last one, and so above all readers below it.
    refine read_run_of_lt_commits (fun c hc => ?_) split
    have hfit' := fun d hd => hfit d (List.mem_append_right _ hd)
    exact UInt64.lt_of_le_of_lt hw (hordered.lt_of_mem_commits (actions.drop k) hfit' c hc)

/-- A history in which a row is written and later deleted. -/
def writtenThenDeleted : List StoreAction :=
  [.createTable ⟨"db", "t"⟩ [⟨"id", .bigInt, 0, false⟩],
    .insertRows ⟨"db", "t"⟩ [[.int 10]],
    .advanceClock 1,
    .delete ⟨"db", "t"⟩ 1]

/-- A deleted row is found by a reader of the commit that wrote it. -/
theorem mem_read_before_delete :
    (1, [RawValue.int 10]) ∈ ((new (.manual 5)).run writtenThenDeleted).read
      ⟨⟨"db", "t"⟩, ⟨0⟩, .empty, .empty⟩ (Snapshot.ofMillis 5).version := by
  have hread := read_run_eq_replay (.manual 5) writtenThenDeleted 2 (Snapshot.ofMillis 5).version
    (by decide) (by decide) (by decide) ⟨⟨"db", "t"⟩, ⟨0⟩, .empty, .empty⟩
  exact (hread.2.1 1 [.int 10]).2 ⟨⟨_, rfl, rfl⟩, _, rfl, by decide⟩

end Store

end RegionScan
