import Mathlib.Data.List.Forall2
import RegionScan.Proofs.Store.Reading
import RegionScan.Proofs.Store.Tiling
import RegionScan.Proofs.Store.Valid

/-!
# Rows of a Cursor

What a connection gives that is asked for a cursor.

The columns of a request are numbers, and nobody checks a stored row before it is
read at them. What is checked is that the table has so many columns, and this is
enough: in every store that can come about, all versions of all rows have a value
for each column of their table (`Store.Reachable.valid`). So a request is either
refused before any row is read, or there is a value wherever a row is read.

The limit ends the reading early and does nothing else. The fault of a row that
cannot be filtered is met with a large limit and not with a small one, but never
the other way round, and what was read up to the small limit is the same.

## Main definitions

* `Store.Step`, `Store.Reachable`: The stores that can come about.
* `ScanRequest.Within`: The columns of a request are columns of a table.
* `ScanRequest.chosen`: The stored rows that a request is about.
* `Connection.ReadFrom`: Values that were read from a stored row.

## Theorems

* `Store.Reachable.valid`: Stored rows have a value for each column.
* `Connection.selectRows_take`: Rows selected with a smaller limit.
* `Connection.selectRows_eq_error`: Why no rows are selected.
* `Connection.openCursor_of_not_within`, `Connection.readFrom_chosen`,
  `Connection.exists_fault_of_openCursor`: What a request for a cursor gives.
* `Connection.openCursor_take`: What it gives with a smaller limit.
* `Connection.openCursor_safe`: All of it, in every store that can come about.
-/

namespace RegionScan

namespace Table

/-- A reader finds rows with a value for each column. -/
theorem Valid.length_of_mem_visibleRows {t : Table} (h : t.Valid) {split : Split} {v : UInt64}
    {row : Int64 × RawRow} (hrow : row ∈ t.visibleRows split v) : row.2.length = t.width := by
  rw [visibleRows_eq_filter] at hrow
  have hvisible := (t.mem_rowsAt_iff v row.1 row.2).1 (List.mem_filter.1 hrow).1
  rcases exists_mem_of_visible? hvisible with ⟨version, hversion, hvalues⟩
  exact h.length_eq row.1 version hversion row.2 hvalues

end Table

namespace Store

/-- What can become of a store when it is written to, connected to, read or closed. -/
inductive Step (s : Store) : Store → Prop
  | act (a : StoreAction) : Step s (s.act a)
  | connect : Step s s.connect.2
  | openCursor (c : Connection) (r : ScanRequest) : Step s (c.openCursor s r).2
  | closeCursor (cursor : Cursor) : Step s (cursor.close s).2.2
  | closeConnection (c : Connection) : Step s (c.close s).2.2

/-- The stores that can come about. -/
inductive Reachable : Store → Prop
  | new (clock : Clock) : Reachable (.new clock)
  | step {s s' : Store} (h : Reachable s) (hstep : s.Step s') : Reachable s'

/-- A step keeps a store valid. All steps but the actions change only the counts. -/
theorem valid_step {s s' : Store} (h : s.Step s') (hs : s.Valid) : s'.Valid := by
  have hcounts : ∀ u, (s.withUsage u).Valid := fun _ => hs
  cases h with
  | act a => exact valid_act a hs
  | connect =>
      obtain ⟨u, hu⟩ := s.connect_store
      rw [hu]
      exact hcounts u
  | openCursor c r =>
      obtain ⟨u, hu⟩ := c.openCursor_store s r
      rw [hu]
      exact hcounts u
  | closeCursor cursor =>
      obtain ⟨u, hu⟩ := cursor.close_store s
      rw [hu]
      exact hcounts u
  | closeConnection c =>
      obtain ⟨u, hu⟩ := c.close_store s
      rw [hu]
      exact hcounts u

/-- Every store that can come about is valid. -/
theorem Reachable.valid {s : Store} (h : s.Reachable) : s.Valid := by
  induction h with
  | new clock => exact valid_new clock
  | step _ hstep ih => exact valid_step hstep ih

/-- Runs lead to stores that can come about. -/
theorem Reachable.run {s : Store} (h : s.Reachable) (actions : List StoreAction) :
    (s.run actions).Reachable := by
  induction actions generalizing s with
  | nil => exact h
  | cons a rest ih => exact ih (h.step (.act a))

end Store

namespace ScanRequest

/-- The columns of a request have their places among so many. -/
def Within (r : ScanRequest) (width : Nat) : Prop := ∀ column ∈ r.columns, column.ordinal < width

instance (r : ScanRequest) (width : Nat) : Decidable (r.Within width) :=
  inferInstanceAs (Decidable (∀ column ∈ r.columns, column.ordinal < width))

/-- The stored rows that a request is about: the first ones that it sees and that
    pass its filter. -/
def chosen (r : ScanRequest) (t : Table) : List RawRow :=
  (((t.visibleRows r.split (Snapshot.lastSeen r.snapshot)).map (·.2)).filter
    (Filter.passes r.filter)).take r.limit.toNat

/-- Of the columns of a request that are not all there, one is the first. -/
theorem exists_beyond {r : ScanRequest} {width : Nat} (h : ¬ r.Within width) :
    ∃ before beyond after, r.columns = before ++ beyond :: after ∧
      (∀ column ∈ before, column.ordinal < width) ∧ width ≤ beyond.ordinal ∧
      (r.columns.find? fun column => width ≤ column.ordinal) = some beyond := by
  cases hfind : r.columns.find? fun column => width ≤ column.ordinal with
  | none =>
      refine absurd (fun column hcolumn => ?_) h
      have hnot := List.find?_eq_none.1 hfind column hcolumn
      exact Nat.not_le.1 fun hle => hnot (decide_eq_true hle)
  | some beyond =>
      obtain ⟨hle, before, after, heq, hbefore⟩ := List.find?_eq_some_iff_append.1 hfind
      refine ⟨before, beyond, after, heq, fun column hcolumn => ?_, of_decide_eq_true hle, rfl⟩
      have hnot := hbefore column hcolumn
      rw [Bool.not_eq_true'] at hnot
      exact Nat.not_le.1 (of_decide_eq_false hnot)

end ScanRequest

namespace Connection

/-- Values that were read from a stored row: one for each column, and the one that the
    row has in its place. -/
def ReadFrom (columns : List Column) (stored values : RawRow) : Prop :=
  values.map some = columns.map fun column => stored[column.ordinal]?

/-- A row that has a value for each column is projected to what is read from it. -/
theorem readFrom_project {columns : List Column} {stored : RawRow}
    (h : ∀ column ∈ columns, column.ordinal < stored.length) :
    ReadFrom columns stored (project columns stored) := by
  rw [ReadFrom, project, List.map_map]
  refine List.map_congr_left fun column hcolumn => ?_
  rw [Function.comp_apply, List.getElem?_eq_getElem (h column hcolumn), Option.getD_some]

/-- With a smaller limit the first ones of the rows are selected, and nothing fails that
    did not fail before. -/
theorem selectRows_take {columns : List Column} {filter : Option Filter} (rows : List RawRow) :
    ∀ {limit n : Nat} {selected : List RawRow},
      selectRows columns filter limit rows = .ok selected → n ≤ limit →
        selectRows columns filter n rows = .ok (selected.take n) := by
  induction rows with
  | nil =>
      intro limit n selected h _
      rw [selectRows_nil] at h ⊢
      rw [← Except.ok.inj h, List.take_nil]
  | cons row rest ih =>
      intro limit n selected h hle
      cases n with
      | zero => rw [List.take_zero, selectRows]
      | succ n =>
          -- Both limits have room, so both look at this row.
          obtain ⟨limit, rfl⟩ := Nat.exists_eq_add_one_of_ne_zero (by omega : limit ≠ 0)
          rw [selectRows_cons]
          rcases selectRows_cons_eq_ok h with ⟨hverdict, hrest⟩ | ⟨hverdict, others, hrest, rfl⟩
          · rw [hverdict]
            exact ih hrest hle
          · rw [hverdict, List.take_succ_cons]
            dsimp only
            rw [ih hrest (Nat.le_of_succ_le_succ hle)]
            rfl

/-- If no rows are selected, the filter cannot be evaluated on one of them. -/
theorem selectRows_eq_error {columns : List Column} {filter : Option Filter} {err : StoreError}
    (rows : List RawRow) :
    ∀ {limit : Nat}, selectRows columns filter limit rows = .error err →
      ∃ row ∈ rows, ∃ fault, Filter.verdict filter row = .error fault ∧
        err = .invalidFilter fault := by
  induction rows with
  | nil =>
      intro limit h
      rw [selectRows_nil] at h
      cases h
  | cons row rest ih =>
      intro limit h
      cases limit with
      | zero => cases h
      | succ limit =>
          rw [selectRows_cons] at h
          cases hverdict : Filter.verdict filter row with
          | error fault =>
              rw [hverdict] at h
              exact ⟨row, List.mem_cons_self, fault, hverdict, (Except.error.inj h).symm⟩
          | ok answer =>
              rw [hverdict] at h
              have hrest : ∃ limit, selectRows columns filter limit rest = .error err := by
                cases answer with
                | false => exact ⟨_, h⟩
                | true => exact ⟨limit, except_map_eq_error.1 h⟩
              obtain ⟨_, hrest⟩ := hrest
              obtain ⟨other, hother, hfails⟩ := ih hrest
              exact ⟨other, List.mem_cons_of_mem row hother, hfails⟩

variable {s : Store} {c : Connection} {r : ScanRequest} {t : Table}

/-- The first column that the table has not is what a request is refused for. -/
theorem readRows_of_beyond (hopen : c.isClosed = false) (harmed : s.isArmed .openCursor = false)
    (ht : s.tables.find? r.split.table = some t) {beyond : Column}
    (hfind : (r.columns.find? fun column => t.width ≤ column.ordinal) = some beyond) :
    c.readRows s r = .error (.columnOutOfRange beyond.ordinal t.width) := by
  have hguard := (c.guard_eq_ok_iff s .openCursor .openingCursor).2 ⟨hopen, harmed⟩
  rw [readRows, hguard, Store.table_of_find? ht]
  simp only [bind, Except.bind, hfind]
  rfl

/-- If the table has all columns, the rows are selected. -/
theorem readRows_of_within (hopen : c.isClosed = false) (harmed : s.isArmed .openCursor = false)
    (ht : s.tables.find? r.split.table = some t) (hwithin : r.Within t.width) :
    c.readRows s r = selectRows r.columns r.filter r.limit.toNat
      ((t.visibleRows r.split (Snapshot.lastSeen r.snapshot)).map (·.2)) := by
  have hguard := (c.guard_eq_ok_iff s .openCursor .openingCursor).2 ⟨hopen, harmed⟩
  have hfind : (r.columns.find? fun column => t.width ≤ column.ordinal) = none :=
    List.find?_eq_none.2 fun column hcolumn hle =>
      Nat.not_le.2 (hwithin column hcolumn) (of_decide_eq_true hle)
  rw [readRows, hguard, Store.table_of_find? ht, readVersion_eq]
  simp only [bind, Except.bind, hfind]

/-- A request for a column that the table has not is refused, whatever its limit. -/
theorem openCursor_of_not_within (hopen : c.isClosed = false)
    (harmed : s.isArmed .openCursor = false) (ht : s.tables.find? r.split.table = some t)
    (hbeyond : ¬ r.Within t.width) :
    ∃ before beyond after, r.columns = before ++ beyond :: after ∧
      (∀ column ∈ before, column.ordinal < t.width) ∧ t.width ≤ beyond.ordinal ∧
      c.openCursor s r = (.error (.columnOutOfRange beyond.ordinal t.width), s) := by
  obtain ⟨before, beyond, after, heq, hbefore, hle, hfind⟩ := ScanRequest.exists_beyond hbeyond
  exact ⟨before, beyond, after, heq, hbefore, hle,
    openCursor_of_readRows_eq_error (readRows_of_beyond hopen harmed ht hfind)⟩

/-- Every row that a request sees has a value for each of its columns. -/
theorem within_of_mem_visibleRows (hs : s.Valid) (ht : s.tables.find? r.split.table = some t)
    (hwithin : r.Within t.width) :
    ∀ row ∈ t.visibleRows r.split (Snapshot.lastSeen r.snapshot), r.Within row.2.length := by
  intro row hrow
  rw [(hs _ t ht).length_of_mem_visibleRows hrow]
  exact hwithin

/-- A cursor gets what is read from the rows that were chosen. -/
theorem readFrom_chosen (hs : s.Valid) (hopen : c.isClosed = false)
    (harmed : s.isArmed .openCursor = false) (ht : s.tables.find? r.split.table = some t)
    (hwithin : r.Within t.width) {cursor : Cursor} {s' : Store}
    (h : c.openCursor s r = (.ok cursor, s')) :
    List.Forall₂ (ReadFrom r.columns) (r.chosen t) cursor.rows := by
  obtain ⟨rows, hread, rfl, _⟩ := openCursor_eq_ok h
  rw [readRows_of_within hopen harmed ht hwithin] at hread
  have hrows : rows = (r.chosen t).map (project r.columns) := selectRows_eq_ok _ hread
  rw [hrows, List.forall₂_map_right_iff, List.forall₂_same]
  intro stored hstored
  -- A row that was chosen is one that the request sees.
  obtain ⟨row, hrow, rfl⟩ := List.mem_map.1 (List.mem_of_mem_filter (List.mem_of_mem_take hstored))
  exact readFrom_project (within_of_mem_visibleRows hs ht hwithin row hrow)

/-- If the table has all columns, only the filter fails. -/
theorem exists_fault_of_openCursor (hopen : c.isClosed = false)
    (harmed : s.isArmed .openCursor = false) (ht : s.tables.find? r.split.table = some t)
    (hwithin : r.Within t.width) {err : StoreError} {s' : Store}
    (h : c.openCursor s r = (.error err, s')) :
    s' = s ∧ ∃ row ∈ t.visibleRows r.split (Snapshot.lastSeen r.snapshot), ∃ f fault,
      r.filter = some f ∧ f.accepts row.2 = .error fault ∧ err = .invalidFilter fault := by
  obtain ⟨hread, rfl⟩ := openCursor_eq_error h
  rw [readRows_of_within hopen harmed ht hwithin] at hread
  obtain ⟨stored, hstored, fault, hverdict, rfl⟩ := selectRows_eq_error _ hread
  obtain ⟨row, hrow, rfl⟩ := List.mem_map.1 hstored
  obtain ⟨f, hfilter, hfails⟩ := Filter.verdict_eq_error hverdict
  exact ⟨rfl, row, hrow, f, fault, hfilter, hfails, rfl⟩

/-- A cursor with a smaller limit gets the first ones of the rows. -/
theorem openCursor_take {n m : UInt32} (hle : n ≤ m) {cursor : Cursor} {s' : Store}
    (h : c.openCursor s { r with limit := m } = (.ok cursor, s')) :
    c.openCursor s { r with limit := n }
      = (.ok { cursor with rows := cursor.rows.take n.toNat }, s') := by
  obtain ⟨rows, hread, rfl, rfl⟩ := openCursor_eq_ok h
  obtain ⟨hopen, harmed, t, ht, hwithin, hselect⟩ := (readRows_eq_ok_iff _ _ _ _).1 hread
  refine openCursor_of_readRows ((readRows_eq_ok_iff _ _ _ _).2 ⟨hopen, harmed, t, ht, hwithin, ?_⟩)
  exact selectRows_take _ hselect (UInt32.le_iff_toNat_le.1 hle)

/-- A request for a cursor is refused if it names a column that the table has not. If
    not, every row that it sees has a value for each of its columns, the cursor gets
    these values of the rows that were chosen, and only a filter that cannot be
    evaluated is a reason for getting none. With a smaller limit a cursor gets the first
    ones of its rows. -/
theorem openCursor_safe (hs : s.Reachable) (hopen : c.isClosed = false)
    (harmed : s.isArmed .openCursor = false) (r : ScanRequest)
    (ht : s.tables.find? r.split.table = some t) :
    (¬ r.Within t.width →
      ∃ before beyond after, r.columns = before ++ beyond :: after ∧
        (∀ column ∈ before, column.ordinal < t.width) ∧ t.width ≤ beyond.ordinal ∧
        c.openCursor s r = (.error (.columnOutOfRange beyond.ordinal t.width), s)) ∧
    (r.Within t.width →
      (∀ row ∈ t.visibleRows r.split (Snapshot.lastSeen r.snapshot), r.Within row.2.length) ∧
      (∀ cursor s', c.openCursor s r = (.ok cursor, s') →
        List.Forall₂ (ReadFrom r.columns) (r.chosen t) cursor.rows) ∧
      ∀ err s', c.openCursor s r = (.error err, s') →
        s' = s ∧ ∃ row ∈ t.visibleRows r.split (Snapshot.lastSeen r.snapshot), ∃ f fault,
          r.filter = some f ∧ f.accepts row.2 = .error fault ∧ err = .invalidFilter fault) ∧
    ∀ n m : UInt32, n ≤ m → ∀ cursor s',
      c.openCursor s { r with limit := m } = (.ok cursor, s') →
        c.openCursor s { r with limit := n }
          = (.ok { cursor with rows := cursor.rows.take n.toNat }, s') := by
  refine ⟨fun hbeyond => ?_, fun hwithin => ⟨?_, fun cursor s' h => ?_, fun err s' h => ?_⟩,
    fun n m hle cursor s' h => ?_⟩
  · exact openCursor_of_not_within hopen harmed ht hbeyond
  · exact within_of_mem_visibleRows hs.valid ht hwithin
  · exact readFrom_chosen hs.valid hopen harmed ht hwithin h
  · exact exists_fault_of_openCursor hopen harmed ht hwithin h
  · exact openCursor_take hle h

/-- A store with a table of two rows. -/
def namedRows : Store :=
  (Store.new (.manual 5)).run
    [.createTable ⟨"db", "t"⟩ [⟨"id", .bigInt, 0, false⟩, ⟨"name", .text, 1, true⟩],
      .insertRows ⟨"db", "t"⟩ [[.int 1, .string "a"], [.int 2, .null]]]

/-- A request for all of it, with the columns the other way round. -/
def swappedColumns : ScanRequest where
  split := ⟨⟨"db", "t"⟩, ⟨0⟩, .empty, .empty⟩
  columns := [⟨"name", .text, 1, true⟩, ⟨"id", .bigInt, 0, false⟩]
  filter := none
  snapshot := none
  limit := 2

/-- The values are in the order of the request, and a limit of one leaves one row. -/
theorem openCursor_swappedColumns :
    List.Forall₂ (ReadFrom swappedColumns.columns)
      [[.int 1, .string "a"], [.int 2, .null]] [[.string "a", .int 1], [.null, .int 2]] ∧
    ∃ s', (⟨false⟩ : Connection).openCursor namedRows { swappedColumns with limit := 1 }
      = (.ok ⟨⟨0⟩, [[.string "a", .int 1]], none, 0, false⟩, s') := by
  have hsafe := openCursor_safe (.run (.new _) _ : namedRows.Reachable) (c := ⟨false⟩) rfl rfl
    swappedColumns rfl
  have hwithin : swappedColumns.Within 2 := by decide
  exact ⟨(hsafe.2.1 hwithin).2.1 _ _ rfl, _, hsafe.2.2 1 2 (by decide) _ _ rfl⟩

end Connection

end RegionScan
