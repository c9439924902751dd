import RegionScan.Proofs.Store.Tiling
import RegionScan.Proofs.Store.Version

/-!
# Replaying on Plain Tables

A store of versions holds, at every moment, what a plain store would hold.

The plain store of this module knows nothing of versions, commits or keys. A
table of it is a function from handles to rows, writing a row replaces what was
there and deleting one leaves nothing. Only the numbering of new rows remembers
more than the rows: it goes on behind the largest handle ever used, and stays
at the largest number there is.

Agreement is about the newest versions alone, so no clock and no order of
commits plays a part in it. An action that fails takes part like any other: a
row that is refused ends the writing of rows on both sides, with the rows before
it in place.

## Main definitions

* `PlainTable`, `PlainStore`: Tables and stores without versions.
* `PlainStore.act`, `PlainStore.replay`: What actions do to them.
* `Table.Agrees`, `Store.Agrees`: Holding the same rows now.

## Theorems

* `Table.Agrees.put`, `Table.Agrees.delete`, `Table.Agrees.putRows`: Writing
  keeps the agreement.
* `Store.agrees_act`, `Store.agrees_run`: So does an action, and a run.
-/

namespace RegionScan

/-- A table without versions. -/
structure PlainTable where
  width : Nat
  /-- What the rows hold. -/
  rows : Int64 → Option RawRow
  /-- The largest handle ever used. -/
  lastHandle : Option Int64

namespace PlainTable

/-- A table without rows. -/
def new (width : Nat) : PlainTable := ⟨width, fun _ => none, none⟩

/-- Put a row under a handle. -/
def put (t : PlainTable) (handle : Int64) (row : RawRow) : PlainTable where
  width := t.width
  rows := fun h => if h = handle then some row else t.rows h
  lastHandle := some (t.lastHandle.elim handle (max handle))

/-- Remove the row under a handle, if there is one. -/
def remove (t : PlainTable) (handle : Int64) : PlainTable :=
  { t with rows := fun h => if h = handle then none else t.rows h }

/-- The next handle, the largest one being its own successor. -/
def successor (handle : Int64) : Int64 := Int64.ofInt (min (handle.toInt + 1) Int64.maxValue.toInt)

theorem rows_put (t : PlainTable) (handle h : Int64) (row : RawRow) :
    (t.put handle row).rows h = if h = handle then some row else t.rows h := rfl

theorem rows_remove (t : PlainTable) (handle h : Int64) :
    (t.remove handle).rows h = if h = handle then none else t.rows h := rfl

/-- Put rows under one handle after the other, up to the first row that has not
    a value for each column. -/
def putFrom (t : PlainTable) (handle : Int64) : List RawRow → PlainTable
  | [] => t
  | row :: rest =>
    if row.length = t.width then (t.put handle row).putFrom (successor handle) rest else t

end PlainTable

/-- Tables without versions, by name. -/
abbrev PlainStore := TableRef → Option PlainTable

namespace PlainStore

/-- Put a table in the place of the one of that name. -/
def withTable (p : PlainStore) (name : TableRef) (t : PlainTable) : PlainStore :=
  fun n => if n = name then some t else p n

/-- What an action does to plain tables. -/
def act (p : PlainStore) : StoreAction → PlainStore
  | .createTable name columns =>
    match p name with
    | some _ => p
    | none => p.withTable name (.new columns.length)
  | .insertRows name rows =>
    match p name with
    | some t => p.withTable name (t.putFrom (t.lastHandle.elim 1 PlainTable.successor) rows)
    | none => p
  | .upsert name handle row =>
    match p name with
    | some t => p.withTable name (if row.length = t.width then t.put handle row else t)
    | none => p
  | .delete name handle =>
    match p name with
    | some t => p.withTable name (t.remove handle)
    | none => p
  | _ => p

/-- The plain tables after a run that starts without tables. -/
def replay (actions : List StoreAction) : PlainStore := actions.foldl act fun _ => none

end PlainStore

namespace Table

/-- A versioned table and a plain one that hold the same rows now. -/
structure Agrees (t : Table) (p : PlainTable) : Prop where
  width_eq : t.width = p.width
  current?_eq : ∀ handle, t.current? handle = p.rows handle
  lastKey?_eq : t.rows.lastKey? = p.lastHandle

/-- What a row holds after a version was added. -/
theorem current?_addVersion (t : Table) (handle h : Int64) (v : RowVersion) :
    (t.addVersion handle v).current? h = if h = handle then v.values else t.current? h := by
  rw [current?, history_addVersion, current?]
  by_cases hh : h = handle
  · rw [if_pos hh, if_pos hh.symm]
    rfl
  · rw [if_neg hh, if_neg (Ne.symm hh)]

/-- The largest handle after a version was added. -/
theorem lastKey?_addVersion (t : Table) (handle : Int64) (v : RowVersion) :
    (t.addVersion handle v).rows.lastKey? = some (t.rows.lastKey?.elim handle (max handle)) := by
  rw [addVersion, OrderedMap.lastKey?_insert]
  simp only [Std.isLE_compare]
  rfl

/-- The next handle is the next number, if there is one. -/
theorem nextHandle_eq_successor (handle : Int64) :
    nextHandle handle = PlainTable.successor handle := by
  have hlow := handle.le_toInt
  have hhigh := handle.toInt_lt
  have hmaximum : Int64.maxValue.toInt = 9223372036854775807 := rfl
  rw [nextHandle, PlainTable.successor, ← Int64.toInt_inj]
  by_cases hmax : handle = Int64.maxValue
  · -- The largest handle is its own successor on both sides.
    rw [if_pos hmax, hmax]
    decide
  · have hne : handle.toInt ≠ Int64.maxValue.toInt := fun h => hmax (Int64.toInt_inj.1 h)
    rw [if_neg hmax, Int64.toInt_add, Int64.toInt_one,
      Int64.toInt_ofInt_of_le (by omega) (by omega),
      Int.bmod_eq_of_le_mul_two (by omega) (by omega)]
    omega

namespace Agrees

variable {t : Table} {p : PlainTable}

/-- A row is live if it holds something. -/
theorem isLive_eq (h : t.Agrees p) (handle : Int64) :
    t.isLive handle = (p.rows handle).isSome := by
  rw [← h.current?_eq, isLive, current?]
  cases (t.history handle).head? with
  | none => rfl
  | some v => rfl

/-- Adding a version with values puts a row. -/
theorem put (h : t.Agrees p) (handle : Int64) (version : UInt64) (row : RawRow) :
    (t.addVersion handle ⟨version, some row⟩).Agrees (p.put handle row) where
  width_eq := h.width_eq
  current?_eq := fun k => by rw [current?_addVersion, h.current?_eq, PlainTable.rows_put]
  lastKey?_eq := by rw [lastKey?_addVersion, h.lastKey?_eq, PlainTable.put]

/-- Deleting a row that is live removes it. Its handle was used before, so the
    largest one stays what it is. -/
theorem delete (h : t.Agrees p) {handle : Int64} (version : UInt64)
    (hlive : t.isLive handle = true) :
    (t.delete handle version).Agrees (p.remove handle) where
  width_eq := h.width_eq
  current?_eq := fun k => by
    rw [Table.delete, current?_addVersion, h.current?_eq, PlainTable.rows_remove]
  lastKey?_eq := by
    -- A live row has a history, so its handle is among the keys.
    have hused : handle ∈ t.rows.keys := by
      rw [OrderedMap.mem_keys_iff]
      cases hf : t.rows.find? handle with
      | none =>
          rw [isLive, history, hf] at hlive
          cases hlive
      | some history => exact ⟨history, rfl⟩
    rw [Table.delete, lastKey?_addVersion, PlainTable.remove, ← h.lastKey?_eq]
    cases hlast : t.rows.lastKey? with
    | none =>
        rw [OrderedMap.lastKey?, List.getLast?_eq_none_iff] at hlast
        rw [hlast] at hused
        cases hused
    | some last =>
        have hle := ((OrderedMap.lastKey?_eq_some_iff t.rows last).1 hlast).2 handle hused
        exact congrArg some (if_pos (Std.isLE_compare.1 hle))

/-- Removing a row that is not live changes nothing. -/
theorem remove (h : t.Agrees p) {handle : Int64} (hlive : t.isLive handle = false) :
    t.Agrees (p.remove handle) where
  width_eq := h.width_eq
  current?_eq := fun k => by
    rw [h.current?_eq, PlainTable.rows_remove]
    by_cases hk : k = handle
    · rw [h.isLive_eq, Option.isSome_eq_false_iff, Option.isNone_iff_eq_none] at hlive
      rw [if_pos hk, hk, hlive]
    · rw [if_neg hk]
  lastKey?_eq := h.lastKey?_eq

/-- Writing rows one after the other keeps the agreement, also if one of them
    cannot be written. -/
theorem putRows (version : UInt64) (rows : List RawRow) :
    ∀ {t : Table} {p : PlainTable} (_ : t.Agrees p) (handle : Int64),
      (t.putRows handle version rows).1.Agrees (p.putFrom handle rows) := by
  induction rows with
  | nil => exact fun h _ => h
  | cons row rest ih =>
      intro t p h handle
      rw [Table.putRows, PlainTable.putFrom, Table.put, ← h.width_eq]
      by_cases hw : row.length = t.width
      · -- The row fits, and the rest is written behind it.
        rw [if_pos hw, if_pos hw, ← nextHandle_eq_successor]
        exact ih (h.put handle version row) (nextHandle handle)
      · -- The row is refused, which ends the writing on both sides.
        rw [if_neg hw, if_neg hw]
        exact h

/-- New rows are numbered alike. -/
theorem freeHandle_eq (h : t.Agrees p) :
    t.freeHandle = p.lastHandle.elim 1 PlainTable.successor := by
  rw [freeHandle, ← h.lastKey?_eq]
  cases t.rows.lastKey? with
  | none => rfl
  | some last => exact nextHandle_eq_successor last

end Agrees

end Table

namespace Store

/-- A versioned store and a plain one that have the same tables, with the same
    rows now. -/
def Agrees (s : Store) (p : PlainStore) : Prop :=
  ∀ name, Option.Rel Table.Agrees (s.tables.find? name) (p name)

/-- Stores agree if they did before one table was put in the place of another
    in both. -/
theorem Agrees.withTable {s s' : Store} {p : PlainStore} {name : TableRef} {t : Table}
    {q : PlainTable} (h : s.Agrees p) (ht : t.Agrees q)
    (hs' : ∀ n, s'.tables.find? n = if name = n then some t else s.tables.find? n) :
    s'.Agrees (p.withTable name q) := by
  intro n
  rw [hs', PlainStore.withTable]
  by_cases hn : name = n
  · rw [if_pos hn, if_pos hn.symm]
    exact .some ht
  · rw [if_neg hn, if_neg (Ne.symm hn)]
    exact h n

/-- What a plain store has under a name that the versioned one has a table
    under, and that it has nothing under any other. -/
theorem Agrees.cases {s : Store} {p : PlainStore} (h : s.Agrees p) (name : TableRef) :
    (s.tables.find? name = none ∧ p name = none) ∨
    ∃ t q, s.tables.find? name = some t ∧ p name = some q ∧ t.Agrees q := by
  have hn := h name
  cases hf : s.tables.find? name with
  | none =>
      rw [hf] at hn
      cases hp : p name with
      | none => exact Or.inl ⟨rfl, rfl⟩
      | some q =>
          rw [hp] at hn
          cases hn
  | some t =>
      rw [hf] at hn
      cases hp : p name with
      | none =>
          rw [hp] at hn
          cases hn
      | some q =>
          rw [hp] at hn
          cases hn with
          | some ht => exact Or.inr ⟨t, q, rfl, rfl, ht⟩

/-- Looking a name up in a store that has a table under it. -/
theorem find?_eq_ite {s : Store} {name : TableRef} {t : Table}
    (h : s.tables.find? name = some t) (n : TableRef) :
    s.tables.find? n = if name = n then some t else s.tables.find? n := by
  by_cases hn : name = n
  · rw [if_pos hn, ← hn, h]
  · rw [if_neg hn]

theorem Agrees.of_undisturbed {s s' : Store} {p : PlainStore} (h : s.Agrees p)
    (hs : s.Undisturbed s') : s'.Agrees p := by
  rw [Agrees, hs.tables_eq]
  exact h

/-- An action does to a versioned store what it does to a plain one. -/
theorem agrees_act {s : Store} {p : PlainStore} (h : s.Agrees p) (a : StoreAction) :
    (s.act a).Agrees (p.act a) := by
  cases a with
  | createTable name columns =>
      rw [act, createTable, PlainStore.act, OrderedMap.contains_iff]
      rcases h.cases name with ⟨hs, hp⟩ | ⟨t, q, hs, hp, ht⟩
      · rw [hs, hp]
        refine h.withTable (t := Table.new s.nextTableId (numberColumns columns)) ?_ fun n => ?_
        · refine ⟨?_, fun _ => rfl, rfl⟩
          rw [Table.width, Table.new, numberColumns, List.length_mapIdx, PlainTable.new]
        · exact OrderedMap.find?_insert s.tables name n _
      · rw [hs, hp]
        exact h
  | insertRows name rows =>
      rw [act, insertRows, PlainStore.act]
      rcases h.cases name with ⟨hs, hp⟩ | ⟨t, q, hs, hp, ht⟩
      · rw [table_of_find?_none hs, hp]
        exact h
      · rw [table_of_find? hs, hp]
        dsimp only
        rw [ht.freeHandle_eq]
        exact h.withTable (ht.putRows _ rows _) fun n => OrderedMap.find?_insert s.tables name n _
  | upsert name handle row =>
      rw [act, upsert, PlainStore.act]
      rcases h.cases name with ⟨hs, hp⟩ | ⟨t, q, hs, hp, ht⟩
      · rw [table_of_find?_none hs, hp]
        exact h
      · rw [table_of_find? hs, hp]
        dsimp only
        rw [Table.put, ← ht.width_eq]
        by_cases hw : row.length = t.width
        · rw [if_pos hw, if_pos hw]
          exact h.withTable (ht.put handle _ row) fun n => OrderedMap.find?_insert s.tables name n _
        · rw [if_neg hw, if_neg hw]
          -- Only a commit was taken, and plain tables know nothing of commits.
          exact h.withTable ht fun n => find?_eq_ite hs n
  | delete name handle =>
      rw [act, delete, PlainStore.act]
      rcases h.cases name with ⟨hs, hp⟩ | ⟨t, q, hs, hp, ht⟩
      · rw [table_of_find?_none hs, hp]
        exact h
      · rw [table_of_find? hs, hp]
        dsimp only
        by_cases hl : t.isLive handle = true
        · rw [if_pos hl]
          exact h.withTable (ht.delete _ hl) fun n => OrderedMap.find?_insert s.tables name n _
        · rw [if_neg hl]
          -- There is no row to delete, so the versioned table is left alone.
          exact h.withTable (ht.remove (Bool.eq_false_iff.2 hl)) fun n => find?_eq_ite hs n
  | _ => exact h.of_undisturbed (undisturbed_act rfl)

/-- A run does to a versioned store what it does to a plain one. -/
theorem agrees_run (actions : List StoreAction) :
    ∀ {s : Store} {p : PlainStore}, s.Agrees p →
      (s.run actions).Agrees (actions.foldl PlainStore.act p) := by
  induction actions with
  | nil => exact fun h => h
  | cons a rest ih => exact fun h => ih (agrees_act h a)

/-- A store without tables agrees with the plain one. -/
theorem agrees_new (clock : Clock) : (Store.new clock).Agrees fun _ => none :=
  fun _ => .none

end Store

end RegionScan
