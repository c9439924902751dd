import RegionScan.Proofs.Store.Appending
import RegionScan.Proofs.Store.Reading

/-!
# Refused Writes

What is left of a write that the store refuses.

Creating a table, writing a row and deleting one check everything before they
write anything. If they are refused, the same rows, counts and splits are found
afterwards as before, whatever may have become of the last commit.

Inserting rows does not. The rows are checked one by one as they are written,
and a row that does not fit ends it with the rows before it in place, at the
commit that was never returned. So a refused insertion leaves what a successful
one of its first rows leaves, and nothing is lost only if there are no such
rows.

## Main definitions

* `Store.refusal?`: The error that a write is refused with.
* `Store.SameData`: Stores in which the same is found.
* `Store.goodRows`: The rows of an insertion before the first that does not fit.

## Theorems

* `Store.sameData_of_tables`: What is found depends on the tables only.
* `Store.act_of_refused`: What a refused write leaves.
-/

namespace RegionScan

namespace Store

/-- The error that a write is refused with. Nothing but writes is refused. -/
def refusal? (s : Store) : StoreAction → Option StoreError
  | .createTable name columns => failureOf (s.createTable name columns).2
  | .insertRows name rows => failureOf (s.insertRows name rows).2
  | .upsert name handle values => failureOf (s.upsert name handle values).2
  | .delete name handle => failureOf (s.delete name handle).2
  | _ => none

/-- Two stores in which the same is found: the same rows in every range of keys
    at every version, the same counts, and the same splits. -/
structure SameData (s s' : Store) : Prop where
  read_eq : ∀ split v, s'.read split v = s.read split v
  rowCount_eq : ∀ name, s'.rowCount name = s.rowCount name
  planSplits_eq : ∀ (c : Connection) name, c.planSplits s' name = c.planSplits s name

/-- The rows of an insertion that stand before the first one that has not a
    value for each column. -/
def goodRows (s : Store) : StoreAction → List RawRow
  | .insertRows name rows =>
    match s.table name with
    | .ok t => rows.takeWhile fun row => row.length = t.width
    | .error _ => []
  | _ => []

variable {s s' : Store}

/-- What is found in a store depends on its tables, and on how they are cut and
    where the store is to fail. -/
theorem sameData_of_tables (htables : ∀ name, s'.tables.find? name = s.tables.find? name)
    (hsize : s'.rowsPerRegion = s.rowsPerRegion) (hfaults : s'.faults = s.faults) :
    s.SameData s' := by
  have htable : ∀ name, s'.table name = s.table name := fun name => by
    rw [table, htables, table]
  refine ⟨fun split v => ?_, fun name => ?_, fun c name => ?_⟩
  · rw [read, htable, read]
  · rw [rowCount, htable, rowCount]
  · have hguard : c.guard s' .planSplits .planningSplits
        = c.guard s .planSplits .planningSplits := by
      rw [Connection.guard, isArmed, hfaults, Connection.guard, isArmed]
    rw [Connection.planSplits, hguard, htable, hsize, Connection.planSplits]

/-- A table that is put in its own place changes nothing. -/
theorem sameData_withTable {name : TableRef} {t : Table} (ht : s.table name = .ok t) :
    s.SameData (s.commit.withTable name t) := by
  refine sameData_of_tables (fun n => ?_) rfl rfl
  rw [withTable, OrderedMap.find?_insert]
  exact (find?_eq_ite ((s.table_eq_ok_iff name t).1 ht) n).symm

theorem SameData.refl (s : Store) : s.SameData s := ⟨fun _ _ => rfl, fun _ => rfl, fun _ _ => rfl⟩

/-- What inserting rows into a table leaves, whether or not it is refused. -/
theorem act_insertRows {name : TableRef} {t : Table} (ht : s.table name = .ok t)
    (rows : List RawRow) :
    s.act (.insertRows name rows) =
      s.commit.withTable name (t.putRows t.freeHandle s.nextCommit.version rows).1 := by
  rw [act, insertRows, ht]

/-- Inserting rows leaves what inserting its good rows leaves. -/
theorem act_goodRows {name : TableRef} {t : Table} (ht : s.table name = .ok t)
    (rows : List RawRow) :
    s.act (.insertRows name rows) =
      s.act (.insertRows name (s.goodRows (.insertRows name rows))) := by
  rw [act_insertRows ht, act_insertRows ht, goodRows, ht, Table.putRows_takeWhile]

/-- All good rows have a value for each column. -/
theorem length_of_mem_goodRows {name : TableRef} {t : Table} (ht : s.table name = .ok t)
    (rows : List RawRow) :
    ∀ row ∈ s.goodRows (.insertRows name rows), row.length = t.width := by
  intro row hrow
  rw [goodRows, ht] at hrow
  have hall := List.all_eq_true.1 List.all_takeWhile row hrow
  exact of_decide_eq_true hall

/-- Inserting the good rows alone is not refused. -/
theorem refusal?_goodRows {name : TableRef} {t : Table} (ht : s.table name = .ok t)
    (rows : List RawRow) :
    s.refusal? (.insertRows name (s.goodRows (.insertRows name rows))) = none := by
  have hput := Table.putRows_eq_ok s.nextCommit.version _ t.freeHandle
    (length_of_mem_goodRows ht rows)
  rw [refusal?, insertRows, ht]
  dsimp only
  rw [hput]
  rfl

/-- A table that has room counts a row that is written. -/
theorem not_sameData_of_room {name : TableRef} {t : Table} (ht : s.table name = .ok t)
    {rows : List RawRow} (hwidth : ∀ row ∈ rows, row.length = t.width) (hrows : rows ≠ [])
    (hroom : t.room ≠ 0) : ¬ s.SameData (s.act (.insertRows name rows)) := by
  intro h
  have hcount := h.rowCount_eq name
  rw [act_insertRows ht, rowCount_of_table (table_withTable _ _ _), rowCount_of_table ht] at hcount
  cases rows with
  | nil => exact hrows rfl
  | cons row rest =>
      have hgrown := t.rowCount_lt_putRows s.nextCommit.version rest
        (hwidth row List.mem_cons_self) hroom
      rw [Except.ok.inj hcount] at hgrown
      exact Nat.lt_irrefl _ hgrown

/-- A table that is refused is not there. -/
theorem sameData_createTable {name : TableRef} {columns : List Column} {err : StoreError}
    (h : s.refusal? (.createTable name columns) = some err) :
    s.SameData (s.act (.createTable name columns)) := by
  have h := failureOf_eq_some.1 h
  rw [createTable] at h
  rw [act, createTable]
  by_cases hc : s.tables.contains name = true
  · rw [if_pos hc]
    exact .refl s
  · rw [if_neg hc] at h
    cases h

/-- Writing a row that is refused takes a commit and nothing more. -/
theorem sameData_upsert {name : TableRef} {handle : Int64} {values : RawRow} {err : StoreError}
    (h : s.refusal? (.upsert name handle values) = some err) :
    s.SameData (s.act (.upsert name handle values)) := by
  have h := failureOf_eq_some.1 h
  rw [upsert] at h
  rw [act, upsert]
  cases ht : s.table name with
  | error _ => exact .refl s
  | ok t =>
      rw [ht] at h
      dsimp only at h ⊢
      cases hput : t.put handle s.nextCommit.version values with
      | error _ => exact sameData_of_tables (fun _ => rfl) rfl rfl
      | ok u =>
          rw [hput] at h
          cases h

/-- Deleting is refused only if the table is not there. -/
theorem sameData_delete {name : TableRef} {handle : Int64} {err : StoreError}
    (h : s.refusal? (.delete name handle) = some err) :
    s.SameData (s.act (.delete name handle)) := by
  have h := failureOf_eq_some.1 h
  rw [delete] at h
  rw [act, delete]
  cases ht : s.table name with
  | error _ => exact .refl s
  | ok t =>
      rw [ht] at h
      dsimp only at h
      by_cases hlive : t.isLive handle = true
      · rw [if_pos hlive] at h
        cases h
      · rw [if_neg hlive] at h
        cases h

/-- A write that is refused leaves all rows, counts and splits as they were, unless
    it is an insertion with good rows in front. Then it leaves what inserting
    these alone leaves, and this is not what there was, unless the table had no
    handle left for them. -/
theorem act_of_refused (s : Store) (a : StoreAction) {err : StoreError}
    (h : s.refusal? a = some err) :
    (s.goodRows a = [] → s.SameData (s.act a)) ∧
      (s.goodRows a ≠ [] → ∃ name rows t, a = .insertRows name rows ∧ s.table name = .ok t ∧
        s.refusal? (.insertRows name (s.goodRows a)) = none ∧
        s.act a = s.act (.insertRows name (s.goodRows a)) ∧
        (t.room ≠ 0 → ¬ s.SameData (s.act a))) := by
  cases a with
  | createTable name columns =>
      refine ⟨fun _ => ?_, fun hgood => absurd rfl hgood⟩
      exact sameData_createTable h
  | insertRows name rows =>
      cases ht : s.table name with
      | error err' =>
          refine ⟨fun _ => ?_, fun hgood => ?_⟩
          · rw [act, insertRows, ht]
            exact .refl s
          · rw [goodRows, ht] at hgood
            exact absurd rfl hgood
      | ok t =>
          refine ⟨fun hgood => ?_, fun hgood => ⟨name, rows, t, rfl, ht, refusal?_goodRows ht rows,
            act_goodRows ht rows, fun hroom => ?_⟩⟩
          · -- No row was written, so the table was put in its own place.
            rw [act_goodRows ht, hgood, act_insertRows ht]
            exact sameData_withTable ht
          · rw [act_goodRows ht]
            exact not_sameData_of_room ht (length_of_mem_goodRows ht rows) hgood hroom
  | upsert name handle values => exact ⟨fun _ => sameData_upsert h, fun hgood => absurd rfl hgood⟩
  | delete name handle => exact ⟨fun _ => sameData_delete h, fun hgood => absurd rfl hgood⟩
  | _ => cases h

/-- A table of one column. -/
def narrowTable : List StoreAction := [.createTable ⟨"db", "t"⟩ [⟨"id", .bigInt, 0, false⟩]]

/-- An insertion that is refused at its first row leaves what there was. -/
theorem sameData_narrowTable :
    ((new (.manual 5)).run narrowTable).SameData
      (((new (.manual 5)).run narrowTable).act
        (.insertRows ⟨"db", "t"⟩ [[.int 2, .int 3], [.int 1]])) :=
  (act_of_refused ((new (.manual 5)).run narrowTable)
    (.insertRows ⟨"db", "t"⟩ [[.int 2, .int 3], [.int 1]]) rfl).1 rfl

/-- One that is refused at its second row does not. -/
theorem not_sameData_narrowTable :
    ((new (.manual 5)).run narrowTable).refusal?
        (.insertRows ⟨"db", "t"⟩ [[.int 1], [.int 2, .int 3]])
        = some (.requestFailed (.rowWidth 2 1)) ∧
      ¬ ((new (.manual 5)).run narrowTable).SameData
        (((new (.manual 5)).run narrowTable).act
          (.insertRows ⟨"db", "t"⟩ [[.int 1], [.int 2, .int 3]])) := by
  refine ⟨rfl, fun h => ?_⟩
  have hcount : (1 : Nat) = 0 := Except.ok.inj (h.rowCount_eq ⟨"db", "t"⟩)
  cases hcount

end Store

end RegionScan
