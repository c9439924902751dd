import RegionScan.Proofs.Coercion
import RegionScan.Proofs.Scan.ReadSplit

/-!
# Opened Rows

What a split is opened on.

A cursor settles its rows when it is opened, and may then be read long after the
table has changed. They are the rows of the split that the engine sees at that
moment and that pass its filter, the first ones of them by handle, as many as
the engine's budget. A filter that cannot be evaluated on some row fails the
opening only if that row is looked at, so an opening that succeeds says enough
by itself: no condition on the filter is needed here.

The rows that are read belong to the table for good. Whatever is written later
stands in front of them in the histories (`Store.Wrote`).

## Main definitions

* `Store.Wrote`: A row was written to a table at some time.
* `Engine.Fits`: Settings that fit the plan.

## Theorems

* `Engine.Fits.eq_of_readRows`: The rows that a split is opened on.
* `Engine.Valid.wrote_of_mem_matchingIn`: They were written to the table.
-/

namespace RegionScan

namespace Store

/-- A row that was written to a table at some time, whether or not it is still
    there. -/
def Wrote (s : Store) (name : TableRef) (row : RawRow) : Prop :=
  ∃ t handle version, s.tables.find? name = some t ∧ version ∈ t.history handle ∧
    version.values = some row

/-- What was written stays written. -/
theorem Wrote.act {s : Store} {name : TableRef} {row : RawRow} (h : s.Wrote name row)
    (a : StoreAction) : (s.act a).Wrote name row := by
  rcases h with ⟨t, handle, version, ht, hversion, hrow⟩
  rcases Store.find?_act a ht with ⟨t', ht', hgrown⟩
  refine ⟨t', handle, version, ht', ?_, hrow⟩
  rcases hgrown with rfl | ⟨_, hgrows⟩
  · exact hversion
  · -- Histories only get longer.
    rcases hgrows.history_eq handle with ⟨newer, heq, _⟩
    rw [heq]
    exact List.mem_append_right newer hversion

/-- What is read was written. -/
theorem wrote_of_mem_read {s : Store} {split : Split} {v : UInt64} {row : Int64 × RawRow}
    (h : row ∈ s.read split v) : s.Wrote split.table row.2 := by
  rcases (s.mem_read_iff split v row.1 row.2).1 h with ⟨hseen, _⟩
  rw [seen?] at hseen
  rcases Option.bind_eq_some_iff.1 hseen with ⟨t, ht, hvisible⟩
  rcases exists_mem_of_visible? hvisible with ⟨version, hversion, hvalues⟩
  exact ⟨t, row.1, version, ht, hversion, hvalues⟩

end Store

namespace Engine

/-- The settings of an engine fit its plan. This does not depend on any store. -/
structure Fits (e : Engine) : Prop where
  ordinal_eq : ∀ (place : Nat) (column : Column),
    e.plan.columns[place]? = some column → column.ordinal = place
  projection_lt : ∀ column ∈ e.projection, column < e.plan.width
  length_fields : ∀ connection coercer, e.runtime.link? = some (connection, coercer) →
    coercer.fields.length = e.plan.width

/-- The rows that a split is opened on. -/
theorem Fits.eq_of_readRows {e : Engine} (h : e.Fits) {s : Store} {split : Split}
    {connection : Connection} {rows : List RawRow}
    (hread : connection.readRows s (e.request split) = .ok rows) :
    rows = ((e.matchingIn s split).take e.budget).map fun row => e.cells row.2 := by
  rcases (Connection.readRows_eq_ok_iff _ _ _ _).1 hread with ⟨_, _, t, ht, _, hselect⟩
  have htable : s.table split.table = .ok t := ht
  have hproject : Connection.project (e.request split).columns = e.cells :=
    funext fun row => project_filterMap h.ordinal_eq row e.projection h.projection_lt
  have hstored : s.read split (Snapshot.lastSeen e.config.snapshot)
      = t.visibleRows split (Snapshot.lastSeen e.config.snapshot) := by
    rw [Store.read, htable]
  have hselected := Connection.selectRows_eq_ok _ hselect
  rw [hproject, toNat_limit_request] at hselected
  rw [hselected, matchingIn, hstored, List.filter_map, ← List.map_take, List.map_map]
  rfl

namespace Valid

variable {e : Engine} {s : Store} {split : Split}

/-- The settings of a valid engine fit its plan. -/
theorem fits (h : e.Valid s) : e.Fits where
  ordinal_eq := h.ordinal_eq
  projection_lt := h.projection_lt
  length_fields := fun connection coercer hlink => by
    have hcompile := (h.linked connection coercer hlink).2
    rw [Coercer.fields_of_compile hcompile, h.fields_length]

/-- The rows of a split were written to the table of the engine. -/
theorem wrote_of_mem_matchingIn (h : e.Valid s) (hsplit : split ∈ e.plan.splits)
    {row : Int64 × RawRow} (hrow : row ∈ e.matchingIn s split) :
    s.Wrote e.config.table row.2 := by
  rw [← h.table_of_mem_splits hsplit]
  exact Store.wrote_of_mem_read (List.mem_filter.1 hrow).1

/-- A row that was written to the table has a value for each column. -/
theorem length_of_wrote (h : e.Valid s) {row : RawRow} (hrow : s.Wrote e.config.table row) :
    row.length = e.plan.width := by
  rcases h.planned with ⟨t, _, _, ht, hvalid, hcolumns, _, _⟩
  rcases hrow with ⟨u, handle, version, hu, hversion, hvalues⟩
  obtain rfl : u = t := Option.some.inj (hu.symm.trans ht)
  rw [ScanPlan.width, hcolumns]
  exact hvalid.length_eq handle version hversion row hvalues

end Valid

end Engine

end RegionScan
