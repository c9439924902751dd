import Mathlib.Data.List.Basic
import RegionScan.Proofs.Scan.Drain
import RegionScan.Proofs.Scan.RowLimit
import RegionScan.Proofs.Store.TimeTravel

/-!
# Reading a Split

Opening a split and draining it gives the rows of the split.

This is the step of every scan, sequential or parallel. An engine that has a
connection opens a split on a store that fails nowhere. What it then drains are
the rows of the split that it sees and that pass its filter, converted: all of
them, or as many as the limit leaves after the rows returned before. The split
is one of the plan, but what is in it is what the table holds now.

A cursor can be asked for so many rows and no more. A split that has more of them
would be cut short, which is why the size of a split is a condition here.

## Main definitions

* `Engine.visible`, `Engine.matching`: The rows of the table that an engine
  sees, and those that pass its filter.
* `Engine.matchingIn`: The same for the rows of a split.
* `Engine.remainder`: As many rows as the limit leaves.
* `Engine.picked`: The rows of a split that the limit leaves to an engine.

## Theorems

* `Engine.remainder_append`: The limit over two parts of a scan.
* `Engine.Valid.exists_table`: The table of a split has the columns of the plan.
* `Engine.Valid.flatMap_matchingIn`: The splits make up the table.
* `Engine.Valid.readRows_request`: What the request of a split gets.
* `Engine.Valid.openSplit_drain`: Opening and draining a split.
-/

namespace RegionScan

/-- Projecting to columns that are numbered by their places is picking values by
    place. -/
theorem project_filterMap {columns : List Column}
    (hordinal : ∀ (place : Nat) (column : Column),
      columns[place]? = some column → column.ordinal = place) (row : RawRow) (l : List Nat) :
    (∀ place ∈ l, place < columns.length) →
      Connection.project (l.filterMap fun place => columns[place]?) row
        = l.map fun place => row[place]?.getD .null := by
  induction l with
  | nil => exact fun _ => rfl
  | cons place rest ih =>
      intro hlt
      have hplace := List.getElem?_eq_getElem (hlt place List.mem_cons_self)
      have hrest := ih fun p hp => hlt p (List.mem_cons_of_mem _ hp)
      rw [Connection.project] at hrest
      rw [Connection.project, List.filterMap_cons_some hplace, List.map_cons, List.map_cons, hrest,
        hordinal place _ hplace]

namespace Table

/-- The regions of a table are regions of its name. -/
theorem table_of_mem_splitsBetween {t : Table} {name : TableRef} {split : Split} (keys : List Key) :
    ∀ {index : Nat}, split ∈ t.splitsBetween name index keys → split.table = name := by
  induction keys with
  | nil => exact fun h => nomatch h
  | cons a rest ih =>
      intro index h
      cases rest with
      | nil => cases h
      | cons b rest =>
          rw [splitsBetween] at h
          rcases List.mem_cons.1 h with rfl | h
          · rfl
          · exact ih h

end Table

namespace Engine

/-- The rows of the table that an engine sees, by handle. -/
def visible (e : Engine) (s : Store) : List (Int64 × RawRow) :=
  match s.table e.config.table with
  | .ok t => t.rowsAt (Snapshot.lastSeen e.config.snapshot)
  | .error _ => []

/-- The rows of the table that an engine sees and that pass its filter. -/
def matching (e : Engine) (s : Store) : List (Int64 × RawRow) :=
  (e.visible s).filter fun row => Filter.passes e.filter row.2

/-- The rows of a split that an engine sees and that pass its filter. -/
def matchingIn (e : Engine) (s : Store) (split : Split) : List (Int64 × RawRow) :=
  (s.read split (Snapshot.lastSeen e.config.snapshot)).filter fun row =>
    Filter.passes e.filter row.2

/-- As many rows as a limit leaves after some were returned. -/
def remainder (limit : Option Nat) (count : Nat) (rows : List α) : List α :=
  limit.elim rows fun limit => rows.take (limit - count)

/-- The stored rows of a split that the limit leaves to an engine. -/
def picked (e : Engine) (s : Store) (split : Split) : List RawRow :=
  (remainder e.limit e.recordCount (e.matchingIn s split)).map Prod.snd

/-- The budget takes as many rows as the limit leaves, of no more than a cursor
    can be asked for. -/
theorem take_budget (e : Engine) {l : List α} (h : l.length ≤ maxCursorRows) :
    l.take e.budget = remainder e.limit e.recordCount l := by
  rw [budget_eq_budgetAfter, budgetAfter, remainder]
  cases e.limit with
  | none => exact List.take_of_length_le h
  | some limit =>
      dsimp only [Option.elim]
      rw [← List.take_take, List.take_of_length_le h]

/-- What is converted of the rows that a limit leaves. -/
theorem mapM_remainder {f : α → Except ε β} {l : List α} {out : List β}
    (h : l.mapM f = .ok out) (limit : Option Nat) (count : Nat) :
    (remainder limit count l).mapM f = .ok (remainder limit count out) := by
  cases limit with
  | none => exact h
  | some limit => exact mapM_take l h _

/-- A limit that is reached leaves nothing. -/
theorem remainder_of_limitReached {e : Engine} (h : e.limitReached = true) (rows : List α) :
    remainder e.limit e.recordCount rows = [] := by
  rw [limitReached] at h
  cases hlimit : e.limit with
  | none =>
      rw [hlimit] at h
      cases h
  | some limit =>
      rw [hlimit, Option.any_some, decide_eq_true_eq] at h
      rw [remainder, Option.elim, Nat.sub_eq_zero_of_le h, List.take_zero]

/-- The limit leaves room for the rows that it leaves. -/
theorem length_remainder_le {e : Engine} (h : e.limitReached = false) (rows : List α) {limit : Nat}
    (hlimit : e.limit = some limit) :
    e.recordCount + (remainder e.limit e.recordCount rows).length ≤ limit := by
  have hlt := lt_of_limitReached_eq h hlimit
  have hle := List.length_take_le (limit - e.recordCount) rows
  rw [hlimit, remainder, Option.elim]
  omega

/-- What a limit leaves of two parts is what it leaves of the first, and of the
    second after that. -/
theorem remainder_append (limit : Option Nat) (count : Nat) (first second : List α) :
    remainder limit count (first ++ second) = remainder limit count first ++
      remainder limit (count + (remainder limit count first).length) second := by
  cases limit with
  | none => rfl
  | some limit =>
      -- What the first part used up is gone for the second one.
      dsimp only [remainder, Option.elim]
      rw [List.take_append, List.length_take]
      congr 2
      omega

namespace Valid

variable {e : Engine} {s : Store}

/-- What an engine sees of its table, which is there. -/
theorem visible_eq (h : e.Valid s) :
    ∃ t, s.table e.config.table = .ok t ∧
      e.visible s = t.rowsAt (Snapshot.lastSeen e.config.snapshot) := by
  rcases h.planned with ⟨t, _, _, ht, _⟩
  refine ⟨t, Store.table_of_find? ht, ?_⟩
  rw [visible, Store.table_of_find? ht]

/-- The rows that an engine sees are in ascending order of their handles. -/
theorem matching_ascending (h : e.Valid s) :
    (e.matching s).Pairwise fun a b => a.1 < b.1 := by
  rcases h.visible_eq with ⟨t, _, hvisible⟩
  rw [matching, hvisible]
  exact ((t.rowsAt_ascending _).sublist List.filter_sublist).imp Std.compare_eq_lt.1

/-- The rows that match are those that are seen and pass the filter. -/
theorem mem_matching_iff (h : e.Valid s) (handle : Int64) (row : RawRow) :
    (handle, row) ∈ e.matching s ↔
      s.seen? e.config.table (Snapshot.lastSeen e.config.snapshot) handle = some row ∧
        Filter.passes e.filter row = true := by
  rcases h.planned with ⟨t, _, _, ht, _⟩
  rw [matching, List.mem_filter, visible, Store.table_of_find? ht, Store.seen?, ht,
    Option.bind_some]
  dsimp only
  rw [Table.mem_rowsAt_iff]

/-- The splits of a plan are splits of the table. -/
theorem table_of_mem_splits (h : e.Valid s) {split : Split} (hsplit : split ∈ e.plan.splits) :
    split.table = e.config.table := by
  rcases h.planned with ⟨_, planned, k, _, _, _, _, hsplits⟩
  rw [hsplits] at hsplit
  exact Table.table_of_mem_splitsBetween _ hsplit

/-- The columns of a plan are numbered by their places. -/
theorem ordinal_eq (h : e.Valid s) (place : Nat) (column : Column)
    (hget : e.plan.columns[place]? = some column) : column.ordinal = place := by
  rcases h.planned with ⟨t, _, _, _, hvalid, hcolumns, _, _⟩
  rw [hcolumns] at hget
  exact hvalid.ordinal_eq place column hget

/-- The table of a split is there, and it has the columns at all places of the plan. -/
theorem exists_table (h : e.Valid s) {split : Split} (hsplit : split ∈ e.plan.splits) :
    ∃ t, s.table split.table = .ok t ∧
      ∀ places : List Nat, (∀ place ∈ places, place < e.plan.width) →
        ∀ column ∈ places.filterMap fun place => e.plan.columns[place]?,
          column.ordinal < t.width := by
  rcases h.planned with ⟨t, _, _, ht, _, hcolumns, _, _⟩
  refine ⟨t, ?_, fun places hplaces column hcolumn => ?_⟩
  · rw [h.table_of_mem_splits hsplit]
    exact Store.table_of_find? ht
  · rcases List.mem_filterMap.1 hcolumn with ⟨place, hplace, hget⟩
    rw [h.ordinal_eq place column hget, Table.width, ← hcolumns]
    exact hplaces place hplace

/-- What an engine sees of a split is part of what it sees of the table. -/
theorem mem_visible_of_mem_read (h : e.Valid s) {split : Split} (hsplit : split ∈ e.plan.splits)
    {row : Int64 × RawRow}
    (hrow : row ∈ s.read split (Snapshot.lastSeen e.config.snapshot)) :
    row ∈ e.visible s := by
  rcases h.visible_eq with ⟨t, ht, hvisible⟩
  rw [Store.read, h.table_of_mem_splits hsplit, ht] at hrow
  rw [hvisible]
  dsimp only at hrow
  rw [Table.visibleRows_eq_filter] at hrow
  exact (List.mem_filter.1 hrow).1

/-- The splits of a plan make up the table, whatever was written since the
    plan was made. -/
theorem flatMap_matchingIn (h : e.Valid s) :
    e.plan.splits.flatMap (e.matchingIn s) = e.matching s := by
  have hread : ∀ split ∈ e.plan.splits, ∀ t, s.table e.config.table = .ok t →
      e.matchingIn s split
        = (t.visibleRows split (Snapshot.lastSeen e.config.snapshot)).filter fun row =>
            Filter.passes e.filter row.2 := by
    intro split hsplit t ht
    rw [matchingIn, Store.read, h.table_of_mem_splits hsplit, ht]
  -- `planned` is the table as it was, `t` as it is: the number is the same.
  rcases h.planned with ⟨t, planned, k, ht, _, _, hid, hsplits⟩
  have htable := Store.table_of_find? ht
  rw [List.flatMap_congr fun split hsplit => hread split hsplit t htable, ← List.filter_flatMap,
    hsplits, planned.flatMap_regions t hid, matching, visible, htable]

/-- What the request of a split gets: the rows that the engine sees in it and
    that pass its filter, projected, as many as the limit leaves. -/
theorem readRows_request (h : e.Valid s) {connection : Connection} {coercer : Coercer}
    (hlink : e.runtime.link? = some (connection, coercer)) (hfaults : s.faults = [])
    {split : Split} (hsplit : split ∈ e.plan.splits)
    (hfilter : ∀ row ∈ e.visible s, ∃ answer, Filter.verdict e.filter row.2 = .ok answer)
    (hsmall : (e.matchingIn s split).length ≤ maxCursorRows) :
    connection.readRows s (e.request split)
      = .ok ((e.picked s split).map e.cells) := by
  rcases h.exists_table hsplit with ⟨t, htable, hcolumns⟩
  refine (Connection.readRows_eq_ok_iff _ _ _ _).2
    ⟨(h.linked connection coercer hlink).1, Store.isArmed_of_faults_eq_nil hfaults _, t, htable,
      ?_, ?_⟩
  · exact hcolumns e.projection h.projection_lt
  · have hread : s.read split (Snapshot.lastSeen e.config.snapshot)
        = t.visibleRows split (Snapshot.lastSeen e.config.snapshot) := by
      rw [Store.read, htable]
    -- The columns asked for are those of the projection, in its order.
    have hproject : Connection.project (e.request split).columns = e.cells :=
      funext fun row => project_filterMap h.ordinal_eq row e.projection h.projection_lt
    -- The filter can be evaluated on the rows of the split, for it can on all.
    have hverdict : ∀ row ∈ (t.visibleRows split (Snapshot.lastSeen e.config.snapshot)).map
        (·.2), ∃ answer, Filter.verdict e.filter row = .ok answer := by
      intro row hrow
      rcases List.mem_map.1 hrow with ⟨pair, hpair, rfl⟩
      rw [← hread] at hpair
      exact hfilter pair (h.mem_visible_of_mem_read hsplit hpair)
    refine (Connection.selectRows_eq _ _ _ hverdict _).trans ?_
    rw [hproject, toNat_limit_request, List.filter_map, ← List.map_take, ← hread]
    exact congrArg (fun l => Except.ok ((l.map (·.2)).map e.cells)) (e.take_budget hsmall)

/-- Opening and draining a split of an engine that is ready. -/
theorem openSplit_drain_ready (h : e.Valid s) {connection : Connection} {coercer : Coercer}
    (hready : e.runtime = .ready connection coercer) (hfaults : s.faults = []) {number : Nat}
    {split : Split} (hsplit : e.plan.split? number = some split)
    (hfilter : ∀ row ∈ e.visible s, ∃ answer, Filter.verdict e.filter row.2 = .ok answer)
    (hsmall : (e.matchingIn s split).length ≤ maxCursorRows) {rows : List Row}
    (hrows : (e.matchingIn s split).mapM (fun row => e.convert coercer row.2) = .ok rows) :
    ∃ opened usage runtime, e.openSplit s number = (.ok (), opened, s.withUsage usage) ∧
      runtime.link? = some (connection, coercer) ∧
      opened.drain (s.withUsage usage) =
        (remainder e.limit e.recordCount rows, none,
          { e with
            started := true
            currentSplit := some number
            recordCount := e.recordCount + (remainder e.limit e.recordCount rows).length
            runtime }) := by
  rw [openSplit_ready hready, hsplit]
  dsimp only
  by_cases hlimit : e.limitReached = true
  · -- The limit is reached, so no cursor is opened and nothing is drained.
    rw [if_pos hlimit, remainder_of_limitReached hlimit]
    refine ⟨_, s.usage, e.runtime, rfl, by rw [hready]; rfl, ?_⟩
    exact drain_of_limitReached (e := { e with started := true, currentSplit := some number })
      hlimit _
  · have hread := h.readRows_request (by rw [hready]; rfl) hfaults (List.mem_of_getElem? hsplit)
      hfilter hsmall
    have hpicked : (e.picked s split).mapM (e.convert coercer)
        = .ok (remainder e.limit e.recordCount rows) := by
      rw [picked, List.mapM_map]
      exact mapM_remainder hrows _ _
    -- The cursor holds no more rows than the limit leaves.
    have hroom : ∀ limit, e.limit = some limit →
        e.recordCount + (e.picked s split).length ≤ limit := by
      intro limit hsome
      rw [picked, List.length_map]
      exact length_remainder_le (Bool.eq_false_iff.2 hlimit) _ hsome
    rw [if_neg hlimit, SplitCursor.ofRequest, Connection.openCursor_of_readRows hread]
    have hdrained := drain_eq (s := s.withUsage { s.usage with
        cursorsOpened := s.usage.cursorsOpened + 1 })
      (Store.advanceLimit?_of_faults_eq_nil hfaults)
      (e := { e with
        started := true
        currentSplit := some number
        runtime := .scanning connection coercer ⟨⟨number, some ⟨split.region,
          (e.picked s split).map e.cells, none, 0, false⟩, 0⟩, false⟩ })
      rfl hpicked hroom
    rcases hdrained with ⟨runtime, hlink, hdrain⟩
    exact ⟨_, _, runtime, rfl, hlink, hdrain⟩

/-- Opening and draining a split gives the rows of the split that the engine
    sees and that pass its filter, converted, as many as the limit leaves. -/
theorem openSplit_drain (h : e.Valid s) {connection : Connection} {coercer : Coercer}
    (hlink : e.runtime.link? = some (connection, coercer)) (hfaults : s.faults = [])
    {number : Nat} {split : Split} (hsplit : e.plan.split? number = some split)
    (hfilter : ∀ row ∈ e.visible s, ∃ answer, Filter.verdict e.filter row.2 = .ok answer)
    (hsmall : (e.matchingIn s split).length ≤ maxCursorRows) {rows : List Row}
    (hrows : (e.matchingIn s split).mapM (fun row => e.convert coercer row.2) = .ok rows) :
    ∃ opened usage runtime, e.openSplit s number = (.ok (), opened, s.withUsage usage) ∧
      runtime.link? = some (connection, coercer) ∧
      opened.drain (s.withUsage usage) =
        (remainder e.limit e.recordCount rows, none,
          { e with
            started := true
            currentSplit := some number
            recordCount := e.recordCount + (remainder e.limit e.recordCount rows).length
            runtime }) := by
  -- The split being read is closed first, which changes only the counts.
  rcases exists_openSplit_eq hlink s number with ⟨u, hopen⟩
  rw [hopen]
  have hclosed : ({ e with runtime := .ready connection coercer } : Engine).Valid
      (s.withUsage u) :=
    (h.withUsage u).of_eq rfl rfl h.projection_lt rfl fun _ hl => hlink.trans hl
  exact hclosed.openSplit_drain_ready rfl hfaults hsplit hfilter hsmall hrows

end Valid

end Engine

end RegionScan
