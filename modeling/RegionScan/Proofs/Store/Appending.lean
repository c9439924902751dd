import Mathlib.Data.List.Perm.Subperm
import RegionScan.Proofs.Store.TimeTravel

/-!
# Appending Rows

When rows that are inserted are added, and when they take the place of others.

New rows are numbered from behind the largest handle that the table has ever
used, and the largest handle there is counts as its own successor. So the
numbers can run out. Rows that still have numbers of their own are seen behind
all others, in their order. Every row after that is written over the row at the
largest handle, which is one that was there before or one of the same call, and
the call says nothing of it.

What decides is how many handles a table has left (`Table.room`). These are the
handles from the next free one on. Only the largest of them may be taken: it is
the next free one also if it was used before, and a live row may be there. Rows
are appended exactly if they are no more than that
(`Store.insertRows_appends_iff`).

## Main definitions

* `Table.room`: The number of rows that can still be appended.
* `Table.FreeFrom`: A reader sees no row from a handle on.
* `Table.liveHandles`: The handles of the rows that are counted.
* `Store.Appended`: A table with rows appended.

## Theorems

* `Table.FreeFrom.rowsAt_addVersion`: A row written behind all others.
* `Table.FreeFrom.putRows`: Several rows written behind all others.
* `Table.rowCount_le_length`: Counting rows by their handles.
* `Table.rowCount_putRows_le`: No more rows than there are handles.
* `Store.insertRows_appends_iff`: When an insertion appends.
-/

namespace RegionScan

/-- The range of all rows of a table. -/
def Split.whole (name : TableRef) : Split := ⟨name, ⟨0⟩, .empty, .empty⟩

/-- No version is too young for a reader of the latest data. -/
theorem le_latestVersion (v : UInt64) : v ≤ latestVersion := by
  rw [UInt64.le_iff_toNat_le]
  have hlt := v.toNat_lt
  have hlatest : latestVersion.toNat = 2 ^ 64 - 1 := rfl
  omega

namespace Table

/-- A handle that is not the largest one is followed by the next number. -/
theorem toInt_nextHandle {handle : Int64} (h : handle ≠ Int64.maxValue) :
    (nextHandle handle).toInt = handle.toInt + 1 := by
  have hlow := handle.le_toInt
  have hhigh := handle.toInt_le
  have hne : handle.toInt ≠ Int64.maxValue.toInt := fun heq => h (Int64.toInt_inj.1 heq)
  have hmaximum : Int64.maxValue.toInt = 9223372036854775807 := rfl
  rw [nextHandle_eq_successor, PlainTable.successor, Int64.toInt_ofInt_of_le (by omega) (by omega)]
  omega

/-- The number of rows that can still be appended: the handles from the free one
    on, less the largest if a row is live there. -/
def room (t : Table) : Nat :=
  (Int64.maxValue.toInt - t.freeHandle.toInt).toNat +
    if t.isLive Int64.maxValue then 0 else 1

/-- A reader of a version sees no row at a handle or behind it. -/
def FreeFrom (t : Table) (v : UInt64) (handle : Int64) : Prop :=
  ∀ k, handle ≤ k → visible? (t.history k) v = none

/-- The handles at which a table has live rows. -/
def liveHandles (t : Table) : List Int64 := (t.rowsAt latestVersion).map Prod.fst

/-- Rows with their handles, numbered from one handle on. -/
def numbered (handle : Int64) : List RawRow → List (Int64 × RawRow)
  | [] => []
  | row :: rest => (handle, row) :: numbered (nextHandle handle) rest

theorem map_snd_numbered (rows : List RawRow) :
    ∀ handle : Int64, (numbered handle rows).map Prod.snd = rows := by
  induction rows with
  | nil => exact fun _ => rfl
  | cons row rest ih => exact fun handle => congrArg (row :: ·) (ih (nextHandle handle))

/-- The rows that a reader sees are as many as the table counts for it. -/
theorem rowCount_eq_length (t : Table) (v : UInt64) : t.rowCount v = (t.rowsAt v).length := by
  rw [rowCount, rowsAt]
  induction t.rows.entries with
  | nil => rfl
  | cons e rest ih =>
      rw [List.countP_cons, List.filterMap_cons]
      cases visible? e.2 v with
      | none => exact ih
      | some row => exact congrArg (· + 1) ih

/-- A reader of the latest data sees the row at a handle if the row is live. -/
theorem isLive_eq_isSome (t : Table) (handle : Int64) :
    t.isLive handle = (visible? (t.history handle) latestVersion).isSome := by
  rw [visible?_of_forall_le fun w _ => le_latestVersion w.version, isLive]
  cases (t.history handle).head? with
  | none => rfl
  | some w => rfl

/-- What is seen of a row after a version was added that the reader sees. -/
theorem visible?_addVersion (t : Table) {v : UInt64} {w : RowVersion} (hw : w.version ≤ v)
    (handle k : Int64) :
    visible? ((t.addVersion handle w).history k) v =
      if handle = k then w.values else visible? (t.history k) v := by
  rw [history_addVersion]
  by_cases hk : handle = k
  · simp only [if_pos hk, visible?, List.find?_cons, decide_eq_true hw, Option.bind_some]
  · rw [if_neg hk, if_neg hk]

section Writing

variable {t : Table} {v version : UInt64} {handle : Int64}

/-- A row that is written behind all rows that are seen is seen behind them. -/
theorem FreeFrom.rowsAt_addVersion (h : t.FreeFrom v handle) (hv : version ≤ v) (row : RawRow) :
    (t.addVersion handle ⟨version, some row⟩).rowsAt v = t.rowsAt v ++ [(handle, row)] := by
  have hbelow : ∀ other ∈ t.rowsAt v, other.1 < handle := by
    intro other hother
    have hseen := (t.mem_rowsAt_iff v other.1 other.2).1 hother
    refine Int64.not_le.1 fun hle => ?_
    rw [h other.1 hle] at hseen
    cases hseen
  -- Both lists ascend, so it is enough that the same rows are in them.
  refine ascending_ext ((rowsAt_ascending _ v).imp Std.compare_eq_lt.1) ?_ ?_
  · refine List.pairwise_append.2 ⟨(t.rowsAt_ascending v).imp Std.compare_eq_lt.1,
      List.pairwise_singleton _ _, fun other hother new hnew => ?_⟩
    rw [List.mem_singleton.1 hnew]
    exact hbelow other hother
  · rintro ⟨k, values⟩
    rw [mem_rowsAt_iff, visible?_addVersion t hv, List.mem_append, mem_rowsAt_iff,
      List.mem_singleton, Prod.mk.injEq]
    by_cases hk : handle = k
    · -- Nothing was seen at the handle before.
      rw [if_pos hk, h k (hk ▸ Int64.le_refl handle), Option.some.injEq]
      simp only [reduceCtorEq, false_or, hk, true_and]
      exact eq_comm
    · rw [if_neg hk]
      simp only [Ne.symm hk, false_and, or_false]

/-- The handles behind one that was written stay free. -/
theorem FreeFrom.addVersion (h : t.FreeFrom v handle) (hmax : handle ≠ Int64.maxValue)
    (w : RowVersion) : (t.addVersion handle w).FreeFrom v (nextHandle handle) := by
  intro k hk
  have hnext := toInt_nextHandle hmax
  rw [Int64.le_iff_toInt_le] at hk
  have hne : handle ≠ k := by
    rintro rfl
    omega
  rw [history_addVersion, if_neg hne]
  refine h k ?_
  rw [Int64.le_iff_toInt_le]
  omega

/-- Rows that are written from a free handle on are seen behind all others, in
    their order, if there are handles for all of them. The last of them may get
    the largest handle, so nothing is asked of the handle after it. -/
theorem FreeFrom.putRows (hv : version ≤ v) (rows : List RawRow) :
    ∀ {t : Table} {handle : Int64}, (rows ≠ [] → t.FreeFrom v handle) →
      (∀ row ∈ rows, row.length = t.width) →
      handle.toInt + rows.length ≤ Int64.maxValue.toInt + 1 →
      (t.putRows handle version rows).1.rowsAt v = t.rowsAt v ++ numbered handle rows := by
  induction rows with
  | nil => exact fun _ _ _ => (List.append_nil _).symm
  | cons row rest ih =>
      intro t handle hfree hwidth hroom
      have hfree := hfree (List.cons_ne_nil row rest)
      rw [List.length_cons] at hroom
      -- The first row has its place, and the others start from the next handle.
      have hput : t.put handle version row = .ok (t.addVersion handle ⟨version, some row⟩) :=
        if_pos (hwidth row List.mem_cons_self)
      have hrest : ∀ other ∈ rest,
          other.length = (t.addVersion handle ⟨version, some row⟩).width :=
        fun other hother => hwidth other (List.mem_cons_of_mem _ hother)
      rw [Table.putRows, hput]
      dsimp only
      by_cases hmax : handle = Int64.maxValue
      · -- The largest handle is the last one, so this was the last row.
        have hnil : rest = [] := by
          rw [hmax] at hroom
          exact List.eq_nil_of_length_eq_zero (by omega)
        rw [hnil]
        exact hfree.rowsAt_addVersion hv row
      · have hnext := toInt_nextHandle hmax
        rw [ih (fun _ => hfree.addVersion hmax _) hrest (by omega), hfree.rowsAt_addVersion hv,
          List.append_assoc]
        rfl

/-- Whether a row is live after one was written. -/
theorem isLive_addVersion (t : Table) (handle k : Int64) (version : UInt64) (row : RawRow) :
    (t.addVersion handle ⟨version, some row⟩).isLive k
      = if handle = k then true else t.isLive k := by
  rw [isLive, history_addVersion, isLive]
  by_cases hk : handle = k
  · rw [if_pos hk, if_pos hk]
    rfl
  · rw [if_neg hk, if_neg hk]

theorem mem_liveHandles_iff (t : Table) (k : Int64) :
    k ∈ t.liveHandles ↔ t.isLive k = true := by
  rw [liveHandles, List.mem_map, isLive_eq_isSome, Option.isSome_iff_exists]
  constructor
  · rintro ⟨⟨k, row⟩, hmem, rfl⟩
    exact ⟨row, (t.mem_rowsAt_iff _ k row).1 hmem⟩
  · rintro ⟨row, hrow⟩
    exact ⟨(k, row), (t.mem_rowsAt_iff _ k row).2 hrow, rfl⟩

theorem length_liveHandles (t : Table) : t.liveHandles.length = t.rowCount latestVersion := by
  rw [liveHandles, List.length_map, rowCount_eq_length]

/-- A table counts no more rows than there are handles at which it has live ones. -/
theorem rowCount_le_length (t : Table) (handles : List Int64)
    (h : ∀ k, t.isLive k = true → k ∈ handles) :
    t.rowCount latestVersion ≤ handles.length := by
  -- The rows ascend, so no handle occurs twice among them.
  have hnodup : t.liveHandles.Nodup := by
    refine List.pairwise_map.2 ((t.rowsAt_ascending latestVersion).imp fun {a b} hab heq => ?_)
    rw [heq, Std.ReflOrd.compare_self] at hab
    cases hab
  have hsub : t.liveHandles ⊆ handles := fun k hk => h k ((t.mem_liveHandles_iff k).1 hk)
  have hle := (hnodup.subperm hsub).length_le
  rw [length_liveHandles] at hle
  exact hle

/-- Writing a row adds one to the count at most, and nothing if a live row was
    there. -/
theorem rowCount_addVersion_le (t : Table) (handle : Int64) (version : UInt64) (row : RawRow) :
    (t.addVersion handle ⟨version, some row⟩).rowCount latestVersion ≤
      t.rowCount latestVersion + if t.isLive handle then 0 else 1 := by
  have hlives : ∀ k, (t.addVersion handle ⟨version, some row⟩).isLive k = true →
      k = handle ∨ k ∈ t.liveHandles := by
    intro k hk
    rw [isLive_addVersion] at hk
    by_cases heq : handle = k
    · exact Or.inl heq.symm
    · rw [if_neg heq] at hk
      exact Or.inr ((t.mem_liveHandles_iff k).2 hk)
  rw [← length_liveHandles t]
  by_cases hlive : t.isLive handle = true
  · rw [if_pos hlive]
    refine rowCount_le_length _ _ fun k hk => ?_
    rcases hlives k hk with rfl | hmem
    · exact (t.mem_liveHandles_iff k).2 hlive
    · exact hmem
  · rw [if_neg hlive, ← List.length_cons (a := handle)]
    exact rowCount_le_length _ _ fun k hk => List.mem_cons.2 (hlives k hk)

/-- Writing a row takes nothing from the count. -/
theorem rowCount_le_addVersion (t : Table) (handle : Int64) (version : UInt64) (row : RawRow) :
    t.rowCount latestVersion ≤
      (t.addVersion handle ⟨version, some row⟩).rowCount latestVersion := by
  rw [← length_liveHandles (t.addVersion handle ⟨version, some row⟩)]
  refine t.rowCount_le_length _ fun k hk => ?_
  rw [mem_liveHandles_iff, isLive_addVersion, hk, ite_self]

theorem rowCount_le_putRows (version : UInt64) (rows : List RawRow) :
    ∀ (t : Table) (handle : Int64),
      t.rowCount latestVersion ≤ (t.putRows handle version rows).1.rowCount latestVersion := by
  induction rows with
  | nil => exact fun _ _ => Nat.le_refl _
  | cons row rest ih =>
      intro t handle
      rw [putRows, put]
      by_cases hwidth : row.length = t.width
      · rw [if_pos hwidth]
        exact Nat.le_trans (t.rowCount_le_addVersion handle version row) (ih _ (nextHandle handle))
      · simp only [if_neg hwidth, Nat.le_refl]

/-- However many rows are written, the count grows by no more than the handles
    that no live row has. -/
theorem rowCount_putRows_le (version : UInt64) (rows : List RawRow) :
    ∀ (t : Table) (handle : Int64),
      (t.putRows handle version rows).1.rowCount latestVersion ≤
        t.rowCount latestVersion + ((Int64.maxValue.toInt - handle.toInt).toNat +
          if t.isLive Int64.maxValue then 0 else 1) := by
  induction rows with
  | nil => exact fun _ _ => Nat.le_add_right _ _
  | cons row rest ih =>
      intro t handle
      rw [putRows, put]
      by_cases hwidth : row.length = t.width
      · rw [if_pos hwidth]
        dsimp only
        have hfirst := t.rowCount_addVersion_le handle version row
        have hothers := ih (t.addVersion handle ⟨version, some row⟩) (nextHandle handle)
        rw [isLive_addVersion] at hothers
        by_cases hmax : handle = Int64.maxValue
        · -- From here on every row is written over the one before.
          rw [if_pos hmax] at hothers
          have hsame : nextHandle handle = handle := if_pos hmax
          rw [hsame] at hothers ⊢
          rw [hmax] at hfirst hothers ⊢
          simp only [if_true] at hothers
          omega
        · have hnext := toInt_nextHandle hmax
          have hle : handle.toInt ≤ Int64.maxValue.toInt := handle.toInt_le
          have hne : handle.toInt ≠ Int64.maxValue.toInt := fun h => hmax (Int64.toInt_inj.1 h)
          rw [if_neg hmax] at hothers
          have hone : (if t.isLive handle then 0 else 1) ≤ 1 := by
            split <;> omega
          omega
      · rw [if_neg hwidth]
        exact Nat.le_add_right _ _

/-- Rows are written up to the first one that has not a value for each column,
    as if they alone had been given. -/
theorem putRows_takeWhile (version : UInt64) (rows : List RawRow) :
    ∀ (t : Table) (handle : Int64), (t.putRows handle version rows).1 =
      (t.putRows handle version (rows.takeWhile fun row => row.length = t.width)).1 := by
  induction rows with
  | nil => exact fun _ _ => rfl
  | cons row rest ih =>
      intro t handle
      rw [putRows, put, List.takeWhile_cons]
      by_cases hwidth : row.length = t.width
      · rw [if_pos hwidth, if_pos (decide_eq_true hwidth), putRows, put, if_pos hwidth]
        exact ih (t.addVersion handle ⟨version, some row⟩) (nextHandle handle)
      · rw [if_neg hwidth, if_neg (mt of_decide_eq_true hwidth), putRows]

/-- Rows that all have a value for each column are all written. -/
theorem putRows_eq_ok (version : UInt64) (rows : List RawRow) :
    ∀ {t : Table} (handle : Int64), (∀ row ∈ rows, row.length = t.width) →
      (t.putRows handle version rows).2 = .ok () := by
  induction rows with
  | nil => exact fun _ _ => rfl
  | cons row rest ih =>
      intro t handle hwidth
      rw [putRows, put, if_pos (hwidth row List.mem_cons_self)]
      exact ih (nextHandle handle) fun other hother => hwidth other (List.mem_cons_of_mem _ hother)

/-- The next free handle is free indeed, unless the table is full. -/
theorem freeFrom_freeHandle (t : Table) (h : t.room ≠ 0) :
    t.FreeFrom latestVersion t.freeHandle := by
  intro k hk
  have hunused : k ∉ t.rows.keys → visible? (t.history k) latestVersion = none := by
    intro hk
    have hnone : t.rows.find? k = none := by
      refine Option.eq_none_iff_forall_ne_some.2 fun history hfind => hk ?_
      exact (OrderedMap.mem_keys_iff t.rows k).2 ⟨history, hfind⟩
    rw [history, hnone]
    rfl
  rw [freeHandle] at hk
  cases hlast : t.rows.lastKey? with
  | none =>
      refine hunused fun hmem => ?_
      rw [List.getLast?_eq_none_iff.1 hlast] at hmem
      cases hmem
  | some last =>
      rw [hlast] at hk
      dsimp only at hk
      by_cases hmax : last = Int64.maxValue
      · -- The largest handle is used, so there is room only if its row was deleted.
        have hk : k = Int64.maxValue := by
          rw [nextHandle, if_pos hmax, hmax] at hk
          exact Int64.le_antisymm k.le_maxValue hk
        have hlive : t.isLive Int64.maxValue = false := by
          refine Bool.eq_false_iff.2 fun hlive => h ?_
          rw [room, if_pos hlive, freeHandle, hlast]
          dsimp only
          rw [nextHandle, if_pos hmax, hmax, Int.sub_self]
          rfl
        rw [isLive_eq_isSome, Option.isSome_eq_false_iff, Option.isNone_iff_eq_none] at hlive
        rw [hk, hlive]
      · refine hunused fun hmem => ?_
        have hle := ((OrderedMap.lastKey?_eq_some_iff t.rows last).1 hlast).2 k hmem
        have hnext := toInt_nextHandle hmax
        rw [Std.isLE_compare, Int64.le_iff_toInt_le] at hle
        rw [Int64.le_iff_toInt_le] at hk
        omega

/-- Rows that the table has room for are seen behind all others. -/
theorem rowsAt_putRows (t : Table) (version : UInt64) {rows : List RawRow}
    (hwidth : ∀ row ∈ rows, row.length = t.width) (hroom : rows.length ≤ t.room) :
    (t.putRows t.freeHandle version rows).1.rowsAt latestVersion =
      t.rowsAt latestVersion ++ numbered t.freeHandle rows := by
  refine FreeFrom.putRows (le_latestVersion version) rows (fun hrows => ?_) hwidth ?_
  · have hpos := List.length_pos_iff.2 hrows
    exact t.freeFrom_freeHandle (by omega)
  · have hle : t.freeHandle.toInt ≤ Int64.maxValue.toInt := t.freeHandle.toInt_le
    have hone : (if t.isLive Int64.maxValue then 0 else 1) ≤ 1 := by
      split <;> omega
    rw [room] at hroom
    omega

/-- If the table has room at all, the first row is seen that it had not before. -/
theorem rowCount_lt_putRows (t : Table) (version : UInt64) {row : RawRow} (rest : List RawRow)
    (hwidth : row.length = t.width) (hroom : t.room ≠ 0) :
    t.rowCount latestVersion <
      (t.putRows t.freeHandle version (row :: rest)).1.rowCount latestVersion := by
  have hfirst := (t.freeFrom_freeHandle hroom).rowsAt_addVersion (le_latestVersion version) row
  have hmore := rowCount_le_putRows version rest
    (t.addVersion t.freeHandle ⟨version, some row⟩) (nextHandle t.freeHandle)
  rw [rowCount_eq_length _ latestVersion, hfirst, List.length_append, List.length_singleton,
    ← rowCount_eq_length] at hmore
  rw [putRows, put, if_pos hwidth]
  exact hmore

/-- Rows that the table has room for are counted. -/
theorem rowCount_putRows (t : Table) (version : UInt64) {rows : List RawRow}
    (hwidth : ∀ row ∈ rows, row.length = t.width) (hroom : rows.length ≤ t.room) :
    (t.putRows t.freeHandle version rows).1.rowCount latestVersion =
      t.rowCount latestVersion + rows.length := by
  have hnew := congrArg List.length (map_snd_numbered rows t.freeHandle)
  rw [List.length_map] at hnew
  rw [rowCount_eq_length, t.rowsAt_putRows version hwidth hroom, List.length_append, hnew,
    rowCount_eq_length]

end Writing

end Table

namespace Store

/-- Looking up the table that was just put in place. -/
theorem table_withTable (s : Store) (name : TableRef) (t : Table) :
    (s.withTable name t).table name = .ok t := by
  refine table_of_find? ?_
  rw [withTable, OrderedMap.find?_insert, if_pos rfl]

/-- Every row that is seen lies in the range of the whole table. -/
theorem read_whole {s : Store} {name : TableRef} {t : Table} (ht : s.table name = .ok t)
    (v : UInt64) : s.read (.whole name) v = t.rowsAt v := by
  have hin : ∀ k, (Split.whole name).contains k = true := by
    intro k
    rw [Split.contains, Split.whole, Bool.and_eq_true]
    refine ⟨?_, rfl⟩
    cases k with
    | mk bytes =>
        cases bytes with
        | nil => rfl
        | cons _ _ => rfl
  rw [read, Split.whole, ht]
  dsimp only
  rw [Table.visibleRows_eq_filter]
  exact List.filter_eq_self.2 fun row _ => hin _

theorem rowCount_of_table {s : Store} {name : TableRef} {t : Table} (ht : s.table name = .ok t) :
    s.rowCount name = .ok (t.rowCount latestVersion) := by
  rw [rowCount, ht]
  rfl

/-- A store in which rows were appended to a table: the table counts so many
    more, and a reader of the latest data finds all rows that it found before
    and the new ones behind them, in their order. -/
structure Appended (s s' : Store) (name : TableRef) (rows : List RawRow) : Prop where
  rowCount_eq : s'.rowCount name = (s.rowCount name).map (· + rows.length)
  read_eq : ∃ new, new.map Prod.snd = rows ∧
    s'.read (.whole name) latestVersion = s.read (.whole name) latestVersion ++ new

/-- Rows that have a value for each column are inserted without failure. They
    are appended exactly if the table has room for them. -/
theorem insertRows_appends_iff {s : Store} {name : TableRef} {t : Table}
    (ht : s.table name = .ok t) {rows : List RawRow}
    (hwidth : ∀ row ∈ rows, row.length = t.width) :
    (s.insertRows name rows).2 = .ok s.nextCommit ∧
      (s.Appended (s.insertRows name rows).1 name rows ↔ rows.length ≤ t.room) := by
  have hinsert : s.insertRows name rows =
      (s.commit.withTable name (t.putRows t.freeHandle s.nextCommit.version rows).1,
        .ok s.nextCommit) := by
    rw [insertRows, ht]
    dsimp only
    rw [Table.putRows_eq_ok _ rows _ hwidth]
    rfl
  have ht' := s.commit.table_withTable name
    (t.putRows t.freeHandle s.nextCommit.version rows).1
  rw [hinsert]
  refine ⟨rfl, fun h => ?_, fun hroom => ?_⟩
  · -- The count has grown by all rows, and it cannot grow by more than the room.
    have hcount := h.rowCount_eq
    rw [rowCount_of_table ht', rowCount_of_table ht] at hcount
    have hgrown : (t.putRows t.freeHandle s.nextCommit.version rows).1.rowCount latestVersion
        = t.rowCount latestVersion + rows.length := Except.ok.inj hcount
    have hle := Table.rowCount_putRows_le s.nextCommit.version rows t t.freeHandle
    rw [Table.room]
    omega
  · constructor
    · rw [rowCount_of_table ht', rowCount_of_table ht,
        t.rowCount_putRows s.nextCommit.version hwidth hroom]
      rfl
    · refine ⟨_, Table.map_snd_numbered rows t.freeHandle, ?_⟩
      rw [read_whole ht', read_whole ht, t.rowsAt_putRows s.nextCommit.version hwidth hroom]

/-- A table whose largest handles are used, the very largest by a row that was
    deleted again. -/
def topOfTheRange : List StoreAction :=
  [.createTable ⟨"db", "t"⟩ [⟨"id", .bigInt, 0, false⟩],
    .upsert ⟨"db", "t"⟩ (-4) [.int 10],
    .upsert ⟨"db", "t"⟩ (Int64.maxValue - 1) [.int 20],
    .upsert ⟨"db", "t"⟩ Int64.maxValue [.int 30],
    .delete ⟨"db", "t"⟩ Int64.maxValue]

/-- One row more is appended at the largest handle. -/
theorem appended_topOfTheRange :
    ((new (.manual 5)).run topOfTheRange).Appended
      (((new (.manual 5)).run topOfTheRange).insertRows ⟨"db", "t"⟩ [[.int 40]]).1
      ⟨"db", "t"⟩ [[.int 40]] := by
  refine (insertRows_appends_iff (s := (new (.manual 5)).run topOfTheRange) rfl ?_).2.2 ?_
  · decide
  · decide

/-- A table with a live row at the largest handle. -/
def fullTable : List StoreAction :=
  [.createTable ⟨"db", "t"⟩ [⟨"id", .bigInt, 0, false⟩],
    .upsert ⟨"db", "t"⟩ Int64.maxValue [.int 1]]

/-- Inserting a row into it succeeds, and the table holds one row as before. -/
theorem not_appended_fullTable :
    (((new (.manual 5)).run fullTable).insertRows ⟨"db", "t"⟩ [[.int 2]]).2
        = .ok ((new (.manual 5)).run fullTable).nextCommit ∧
      ¬ ((new (.manual 5)).run fullTable).Appended
        (((new (.manual 5)).run fullTable).insertRows ⟨"db", "t"⟩ [[.int 2]]).1
        ⟨"db", "t"⟩ [[.int 2]] := by
  refine ⟨rfl, fun h => ?_⟩
  have hcount : (1 : Nat) = 1 + 1 := Except.ok.inj h.rowCount_eq
  cases hcount

end Store

end RegionScan
