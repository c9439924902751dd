import RegionScan.Proofs.Store.Action

/-!
# Valid Tables

Columns and rows that fit each other.

A table numbers its columns by their places when it is created, and accepts a row
only if it has a value for each column. Columns never change, so this holds of
every version of every row that a table ever holds, and whoever reads a column
by its number finds a value there.

## Main definitions

* `Table.Valid`, `Store.Valid`: Columns and rows that fit.

## Theorems

* `Table.Grows.valid`: A table that grows stays valid.
* `Store.valid_act`: Actions keep a store valid.
-/

namespace RegionScan

namespace Table

/-- Columns are numbered by their places, and every version of a row that has
    values has one for each column. -/
structure Valid (t : Table) : Prop where
  ordinal_eq : ∀ (place : Nat) (column : Column),
    t.columns[place]? = some column → column.ordinal = place
  length_eq : ∀ handle, ∀ v ∈ t.history handle, ∀ row, v.values = some row → row.length = t.width

/-- A new table is valid. -/
theorem valid_new (id : UInt64) (columns : List Column) :
    (Table.new id (Store.numberColumns columns)).Valid where
  ordinal_eq := fun place column h => by
    rw [Table.new, Store.numberColumns, List.getElem?_mapIdx] at h
    rcases Option.map_eq_some_iff.1 h with ⟨_, _, rfl⟩
    rfl
  length_eq := fun _ _ hv => nomatch hv

/-- A table that grows stays valid. -/
theorem Grows.valid {version : UInt64} {t u : Table} (h : Grows version t u) (ht : t.Valid) :
    u.Valid := by
  induction h with
  | refl => exact ht
  | @add w _ added values hwidth ih =>
      refine ⟨ih.ordinal_eq, fun handle v hv row hrow => ?_⟩
      rw [history_addVersion] at hv
      by_cases hh : added = handle
      · -- Only one history got a version, and that version was checked.
        rw [if_pos hh] at hv
        rcases List.mem_cons.1 hv with rfl | hv
        · exact hwidth row hrow
        · exact ih.length_eq handle v hv row hrow
      · rw [if_neg hh] at hv
        exact ih.length_eq handle v hv row hrow

end Table

namespace Store

/-- All tables are valid. -/
def Valid (s : Store) : Prop := ∀ name t, s.tables.find? name = some t → t.Valid

theorem valid_new (clock : Clock) : (Store.new clock).Valid := fun _ _ h => nomatch h

/-- An action keeps a store valid. -/
theorem valid_act {s : Store} (a : StoreAction) (h : s.Valid) : (s.act a).Valid := by
  intro name t ht
  cases hbefore : s.tables.find? name with
  | none =>
      rcases find?_act_of_none hbefore ht with ⟨columns, rfl⟩
      exact Table.valid_new _ columns
  | some u =>
      rcases find?_act a hbefore with ⟨t', ht', hgrown⟩
      obtain rfl : t' = t := Option.some.inj (ht'.symm.trans ht)
      rcases hgrown with rfl | ⟨_, hgrows⟩
      · exact h name t' hbefore
      · exact hgrows.valid (h name u hbefore)

end Store

end RegionScan
