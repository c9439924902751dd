import RegionScan.Proofs.OrderedMap
import RegionScan.Store.Basic

/-!
# Histories of a Store

What can happen to a store, and what one action does to its tables.

A store is written to, its clock moves, and it is told to fail or to work
again. An action is any of these, refused or not, and a run is a list of them.
What a reader may find is then a question about runs, and every answer is an
induction over the list, so everything rests on what one action can do.

`Store.change_act` says it once: an action leaves the tables alone, or adds a
new one, or puts one table in the place of one that grew out of the other.
`Table.Grows` is that growth. Versions are put in front of the histories of
some rows, all of them numbered by the one commit that the action took. Nothing
is ever changed or dropped, and what later modules say about versions, widths
and handles follows from that alone.

## Main definitions

* `StoreAction`: What can happen to a store.
* `Store.act`, `Store.run`: The store after an action, and after a run.
* `Store.commitOf`, `Store.commits`: The commits an action and a run take.
* `Table.Grows`: A table with versions of one commit added.
* `Store.Undisturbed`: Nothing was written, opened or closed.
* `Store.Change`: What can become of the tables and of the last commit.

## Theorems

* `Table.history_addVersion`: The histories after a version was added.
* `Table.Grows.putRows`: Writing rows grows a table.
* `Store.undisturbed_act`: What the actions leave alone that are no writes.
* `Store.change_act`: What an action can do.
* `Store.lastCommit_act`: The last commit after an action.
* `Store.find?_act`: What an action does to a table that is there.
* `Store.find?_run`: What a run does to it.
* `Store.find?_act_of_none`: What a table is that was not there.
-/

namespace RegionScan

/-- What can happen to a store. -/
inductive StoreAction where
  | createTable (name : TableRef) (columns : List Column)
  | insertRows (name : TableRef) (rows : List RawRow)
  | upsert (name : TableRef) (handle : Int64) (values : RawRow)
  | delete (name : TableRef) (handle : Int64)
  /-- The clock is told to move on. -/
  | advanceClock (millis : UInt64)
  /-- The wall clock moves by itself, perhaps backwards. -/
  | wallClock (now : UInt64)
  | setRegionSize (rows : Nat)
  | inject (fault : FaultPoint)
  /-- The places where the store fails come into another order by themselves. -/
  | reorderFaults (order : List FaultPoint)
  | clearFaults

/-- Whether an action is to write to the tables. -/
def StoreAction.isWrite : StoreAction → Bool
  | .createTable _ _ | .insertRows _ _ | .upsert _ _ _ | .delete _ _ => true
  | _ => false

namespace Table

/-- A table that grew out of another one: versions of one commit were put in
    front of histories, each with a value for every column or with none. -/
inductive Grows (version : UInt64) (t : Table) : Table → Prop where
  | refl : Grows version t t
  | add {u : Table} (h : Grows version t u) (handle : Int64) (values : Option RawRow)
      (hwidth : ∀ row, values = some row → row.length = u.width) :
      Grows version t (u.addVersion handle ⟨version, values⟩)

/-- A version is added in front of one row's history, and nowhere else. -/
theorem history_addVersion (t : Table) (handle h : Int64) (v : RowVersion) :
    (t.addVersion handle v).history h = if handle = h then v :: t.history h else t.history h := by
  rw [history, addVersion, OrderedMap.find?_insert]
  by_cases hh : handle = h
  · rw [if_pos hh, if_pos hh, Option.getD_some, hh]
  · rw [if_neg hh, if_neg hh, history]

namespace Grows

variable {version : UInt64} {t u : Table}

theorem trans {w : Table} (h : Grows version t u) (h' : Grows version u w) :
    Grows version t w := by
  induction h' with
  | refl => exact h
  | add _ handle values hwidth ih => exact ih.add handle values hwidth

/-- A table that grows keeps the number in its keys. -/
theorem id_eq (h : Grows version t u) : u.id = t.id := by
  induction h with
  | refl => rfl
  | add _ _ _ _ ih => exact ih

/-- A table that grows keeps its columns. -/
theorem columns_eq (h : Grows version t u) : u.columns = t.columns := by
  induction h with
  | refl => rfl
  | add _ _ _ _ ih => exact ih

/-- Histories only get longer, by versions of the one commit in front. -/
theorem history_eq (h : Grows version t u) (handle : Int64) :
    ∃ newer, u.history handle = newer ++ t.history handle ∧
      ∀ v ∈ newer, v.version = version := by
  induction h with
  | refl => exact ⟨[], rfl, fun _ hv => absurd hv List.not_mem_nil⟩
  | add h' added values _ ih =>
      rcases ih with ⟨newer, heq, hnewer⟩
      rw [history_addVersion]
      by_cases hh : added = handle
      · refine ⟨⟨version, values⟩ :: newer, by rw [if_pos hh, heq, List.cons_append], ?_⟩
        intro v hv
        rcases List.mem_cons.1 hv with rfl | hv
        · rfl
        · exact hnewer v hv
      · exact ⟨newer, by rw [if_neg hh, heq], hnewer⟩

/-- Writing a row that has a value for each column grows a table. -/
theorem put {handle : Int64} {values : RawRow} (h : t.put handle version values = .ok u) :
    Grows version t u := by
  rw [Table.put] at h
  by_cases hw : values.length = t.width
  · rw [if_pos hw] at h
    obtain rfl := Except.ok.inj h
    refine Grows.refl.add handle (some values) fun row hrow => ?_
    rw [← Option.some.inj hrow, hw]
  · rw [if_neg hw] at h
    cases h

/-- Deleting a row grows a table. -/
theorem delete (t : Table) (handle : Int64) (version : UInt64) :
    Grows version t (t.delete handle version) :=
  Grows.refl.add handle none fun _ hrow => nomatch hrow

/-- Writing rows grows a table, also if one of them cannot be written. -/
theorem putRows (version : UInt64) (rows : List RawRow) :
    ∀ (t : Table) (handle : Int64), Grows version t (t.putRows handle version rows).1 := by
  induction rows with
  | nil => exact fun _ _ => Grows.refl
  | cons values rest ih =>
      intro t handle
      rw [Table.putRows]
      cases hput : t.put handle version values with
      | error _ => exact Grows.refl
      | ok u => exact (Grows.put hput).trans (ih u (nextHandle handle))

end Grows

end Table

namespace Store

/-- The store after an action, whether or not it was refused. -/
def act (s : Store) : StoreAction → Store
  | .createTable name columns => (s.createTable name columns).1
  | .insertRows name rows => (s.insertRows name rows).1
  | .upsert name handle values => (s.upsert name handle values).1
  | .delete name handle => (s.delete name handle).1
  | .advanceClock millis => s.advanceClock millis
  | .wallClock now =>
    match s.clock with
    | .manual _ => s
    | .wall _ => { s with clock := .wall now }
  | .setRegionSize rows => s.withRowsPerRegion rows
  | .inject fault => s.inject fault
  | .reorderFaults order => s.reorderFaults order
  | .clearFaults => s.clearFaults

/-- The store after a run. -/
def run (s : Store) (actions : List StoreAction) : Store := actions.foldl act s

/-- The commit that an action takes, also if it fails after that. -/
def commitOf (s : Store) : StoreAction → Option Snapshot
  | .insertRows name _ | .upsert name _ _ => (s.tables.find? name).map fun _ => s.nextCommit
  | .delete name handle =>
    (s.tables.find? name).bind fun t => if t.isLive handle then some s.nextCommit else none
  | _ => none

/-- The commits that a run takes, in order. -/
def commits (s : Store) : List StoreAction → List Snapshot
  | [] => []
  | a :: rest => (s.commitOf a).toList ++ (s.act a).commits rest

@[simp] theorem run_cons (s : Store) (a : StoreAction) (rest : List StoreAction) :
    s.run (a :: rest) = (s.act a).run rest := rfl

theorem run_append (s : Store) (before after : List StoreAction) :
    s.run (before ++ after) = (s.run before).run after :=
  List.foldl_append

/-- The commits of a run that is continued. -/
theorem commits_append (before after : List StoreAction) :
    ∀ s : Store,
      s.commits (before ++ after) = s.commits before ++ (s.run before).commits after := by
  induction before with
  | nil => exact fun _ => rfl
  | cons a rest ih =>
      intro s
      rw [List.cons_append, commits, commits, ih, List.append_assoc, run_cons]

/-- The table of a name is what the name is bound to. -/
theorem table_eq_ok_iff (s : Store) (name : TableRef) (t : Table) :
    s.table name = .ok t ↔ s.tables.find? name = some t := by
  rw [table]
  cases s.tables.find? name with
  | none => simp only [reduceCtorEq]
  | some u => simp only [Except.ok.injEq, Option.some.injEq]

theorem table_of_find? {s : Store} {name : TableRef} {t : Table}
    (h : s.tables.find? name = some t) : s.table name = .ok t :=
  (s.table_eq_ok_iff name t).2 h

theorem table_of_find?_none {s : Store} {name : TableRef} (h : s.tables.find? name = none) :
    s.table name = .error (.tableNotFound name) := by
  rw [table, h]

/-- A store in which nothing was written, opened or closed. -/
structure Undisturbed (s s' : Store) : Prop where
  tables_eq : s'.tables = s.tables
  lastCommit_eq : s'.lastCommit = s.lastCommit
  usage_eq : s'.usage = s.usage

/-- An action that is no write disturbs nothing. -/
theorem undisturbed_act {s : Store} {a : StoreAction} (ha : a.isWrite = false) :
    s.Undisturbed (s.act a) := by
  cases a with
  | advanceClock _ => exact ⟨rfl, rfl, rfl⟩
  | wallClock _ =>
      rw [act]
      cases s.clock with
      | manual _ => exact ⟨rfl, rfl, rfl⟩
      | wall _ => exact ⟨rfl, rfl, rfl⟩
  | setRegionSize _ => exact ⟨rfl, rfl, rfl⟩
  | inject fault =>
      rw [act, inject]
      by_cases hc : s.faults.contains fault = true
      · rw [if_pos hc]
        exact ⟨rfl, rfl, rfl⟩
      · rw [if_neg hc]
        exact ⟨rfl, rfl, rfl⟩
  | reorderFaults order =>
      rw [act, reorderFaults]
      by_cases hperm : order.isPerm s.faults = true
      · rw [if_pos hperm]
        exact ⟨rfl, rfl, rfl⟩
      · rw [if_neg hperm]
        exact ⟨rfl, rfl, rfl⟩
  | clearFaults => exact ⟨rfl, rfl, rfl⟩
  | _ => cases ha

/-- Everything that can become of the tables and of the last commit. -/
inductive Change (s : Store) (commit : Option Snapshot) (s' : Store) : Prop where
  /-- Nothing is written. -/
  | keep (hcommit : commit = none) (hlast : s'.lastCommit = s.lastCommit)
      (htables : s'.tables = s.tables)
  /-- A table is added. -/
  | create (name : TableRef) (columns : List Column) (hcommit : commit = none)
      (hlast : s'.lastCommit = s.lastCommit) (hnone : s.tables.find? name = none)
      (htables : s'.tables
        = s.tables.insert name (Table.new s.nextTableId (numberColumns columns)))
  /-- A commit is taken for a row that is then refused. -/
  | refuse (hcommit : commit = some s.nextCommit) (hlast : s'.lastCommit = s.nextCommit)
      (htables : s'.tables = s.tables)
  /-- A table grows by versions of the commit that is taken. -/
  | grow (name : TableRef) (t t' : Table) (hcommit : commit = some s.nextCommit)
      (hlast : s'.lastCommit = s.nextCommit) (ht : s.tables.find? name = some t)
      (hgrows : Table.Grows s.nextCommit.version t t')
      (htables : s'.tables = s.tables.insert name t')

theorem Change.of_undisturbed {s s' : Store} {commit : Option Snapshot} (hcommit : commit = none)
    (h : s.Undisturbed s') : s.Change commit s' :=
  .keep hcommit h.lastCommit_eq h.tables_eq

/-- What an action can do. No later proof of this module looks at single actions. -/
theorem change_act (s : Store) (a : StoreAction) : s.Change (s.commitOf a) (s.act a) := by
  cases a with
  | createTable name columns =>
      rw [act, createTable]
      by_cases hc : s.tables.contains name = true
      · rw [if_pos hc]
        exact .keep rfl rfl rfl
      · rw [if_neg hc]
        rw [OrderedMap.contains_iff] at hc
        exact .create name columns rfl rfl (Option.not_isSome_iff_eq_none.1 hc) rfl
  | insertRows name rows =>
      rw [act, insertRows, commitOf]
      cases hf : s.tables.find? name with
      | none =>
          rw [table_of_find?_none hf]
          exact .keep rfl rfl rfl
      | some t =>
          -- The commit is taken, and the rows before a bad one stay written.
          rw [table_of_find? hf]
          exact .grow name t _ rfl rfl hf (Table.Grows.putRows _ rows t _) rfl
  | upsert name handle values =>
      rw [act, upsert, commitOf]
      cases hf : s.tables.find? name with
      | none =>
          rw [table_of_find?_none hf]
          exact .keep rfl rfl rfl
      | some t =>
          rw [table_of_find? hf]
          dsimp only
          cases hput : t.put handle s.nextCommit.version values with
          | error _ => exact .refuse rfl rfl rfl
          | ok u => exact .grow name t u rfl rfl hf (Table.Grows.put hput) rfl
  | delete name handle =>
      rw [act, delete, commitOf]
      cases hf : s.tables.find? name with
      | none =>
          rw [table_of_find?_none hf]
          exact .keep rfl rfl rfl
      | some t =>
          rw [table_of_find? hf, Option.bind_some]
          dsimp only
          by_cases hl : t.isLive handle = true
          · rw [if_pos hl, if_pos hl]
            exact .grow name t _ rfl rfl hf (Table.Grows.delete t handle _) rfl
          · rw [if_neg hl, if_neg hl]
            exact .keep rfl rfl rfl
  | _ => exact .of_undisturbed rfl (undisturbed_act rfl)

/-- The commit of an action is the next one. -/
theorem commitOf_eq_nextCommit {s : Store} {a : StoreAction} {c : Snapshot}
    (h : s.commitOf a = some c) : c = s.nextCommit := by
  cases s.change_act a with
  | keep hcommit _ _ =>
      rw [hcommit] at h
      cases h
  | create _ _ hcommit _ _ _ =>
      rw [hcommit] at h
      cases h
  | refuse hcommit _ _ => exact Option.some.inj (h.symm.trans hcommit)
  | grow _ _ _ hcommit _ _ _ _ => exact Option.some.inj (h.symm.trans hcommit)

/-- The last commit after an action is the one it took, if it took one. -/
theorem lastCommit_act (s : Store) (a : StoreAction) :
    (s.act a).lastCommit = (s.commitOf a).getD s.lastCommit := by
  cases s.change_act a with
  | keep hcommit hlast _ => rw [hcommit, hlast, Option.getD_none]
  | create _ _ hcommit hlast _ _ => rw [hcommit, hlast, Option.getD_none]
  | refuse hcommit hlast _ => rw [hcommit, hlast, Option.getD_some]
  | grow _ _ _ hcommit hlast _ _ _ => rw [hcommit, hlast, Option.getD_some]

/-- What an action does to a table that is there: it stays as it is, or grows by
    versions of the commit that the action takes. -/
theorem find?_act {s : Store} {name : TableRef} {t : Table} (a : StoreAction)
    (h : s.tables.find? name = some t) :
    ∃ t', (s.act a).tables.find? name = some t' ∧
      (t' = t ∨ s.commitOf a = some s.nextCommit ∧ Table.Grows s.nextCommit.version t t') := by
  cases s.change_act a with
  | keep _ _ htables => exact ⟨t, by rw [htables, h], Or.inl rfl⟩
  | create new columns _ _ hnone htables =>
      -- A table is created under a name that has none, so it is another name.
      have hne : new ≠ name := by
        rintro rfl
        rw [h] at hnone
        cases hnone
      exact ⟨t, by rw [htables, OrderedMap.find?_insert, if_neg hne, h], Or.inl rfl⟩
  | refuse _ _ htables => exact ⟨t, by rw [htables, h], Or.inl rfl⟩
  | grow grown u u' hcommit _ hu hgrows htables =>
      by_cases hn : grown = name
      · subst hn
        obtain rfl : u = t := Option.some.inj (hu.symm.trans h)
        exact ⟨u', by rw [htables, OrderedMap.find?_insert, if_pos rfl], Or.inr ⟨hcommit, hgrows⟩⟩
      · exact ⟨t, by rw [htables, OrderedMap.find?_insert, if_neg hn, h], Or.inl rfl⟩

/-- A table stays under its name in every run, with its number and its
    columns. -/
theorem find?_run {name : TableRef} (actions : List StoreAction) :
    ∀ {s : Store} {t : Table}, s.tables.find? name = some t →
      ∃ t', (s.run actions).tables.find? name = some t' ∧ t'.id = t.id ∧
        t'.columns = t.columns := by
  induction actions with
  | nil => exact fun h => ⟨_, h, rfl, rfl⟩
  | cons a rest ih =>
      intro s t h
      rcases find?_act a h with ⟨u, hu, hgrown⟩
      rcases ih hu with ⟨t', ht', hid, hcolumns⟩
      refine ⟨t', ht', ?_⟩
      rcases hgrown with rfl | ⟨_, hg⟩
      · exact ⟨hid, hcolumns⟩
      · exact ⟨hid.trans hg.id_eq, hcolumns.trans hg.columns_eq⟩

/-- A table that an action brings about is new. -/
theorem find?_act_of_none {s : Store} {name : TableRef} {t : Table} {a : StoreAction}
    (h : s.tables.find? name = none) (h' : (s.act a).tables.find? name = some t) :
    ∃ columns, t = Table.new s.nextTableId (numberColumns columns) := by
  cases s.change_act a with
  | keep _ _ htables =>
      rw [htables, h] at h'
      cases h'
  | create new columns _ _ _ htables =>
      rw [htables, OrderedMap.find?_insert] at h'
      by_cases hn : new = name
      · rw [if_pos hn] at h'
        exact ⟨columns, (Option.some.inj h').symm⟩
      · rw [if_neg hn, h] at h'
        cases h'
  | refuse _ _ htables =>
      rw [htables, h] at h'
      cases h'
  | grow grown u u' _ _ hu _ htables =>
      -- Only a table that was there before can grow.
      rw [htables, OrderedMap.find?_insert] at h'
      by_cases hn : grown = name
      · rw [hn, h] at hu
        cases hu
      · rw [if_neg hn, h] at h'
        cases h'

end Store

end RegionScan
