import RegionScan.Proofs.Scan.Accounting
import RegionScan.Proofs.Scan.Settings
import RegionScan.Proofs.Scan.TypedRows

/-!
# Projections

A projection picks columns of the rows, and does nothing else.

Two scans of one store that differ in their projections only go through the same
states. One of them, the wide one, produces all columns. The other one, the
narrow one, produces some of them in an order of its own. A column is known by
its number in the table to the filter and to the conversion of values, and by
its place in the projection to the cursor. If the two were mixed up anywhere the
scans would part, so the argument follows every operation from opening a split
to closing it: what the narrow engine does is what the wide one does, narrowed
(`Engine.narrow`).

The two are in step also where the store fails, for a fault does not ask for
columns. Only the conversion of values can make a difference. It may fail in a
column that the narrow scan leaves out, which is why a failure of the wide scan
says nothing.

## Main definitions

* `select`: The elements of a list at some places.
* `Cursor.narrow`, `Engine.narrow`: What is read, at some places only.
* `SplitCursor.row?`: The row that a reader stands on.

## Theorems

* `Connection.selectRows_map`: The filter does not look at the projection.
* `Engine.Valid.readRows_narrow`: What a cursor is opened on.
* `SplitCursor.value_narrow`, `Engine.currentRow_narrow`: The row that a cursor
  stands on.
* `Engine.Valid.openSplit_narrow`, `Engine.drainUpTo_narrow`,
  `Engine.Valid.readAll_narrow`: Opening, draining, and a scan of several splits.
* `Session.readAll_projection`: Two scans that differ in their projections.
-/

namespace RegionScan

/-- The elements of a list at some places, in the order of the places. -/
def select (places : List Nat) (l : List α) : List α := places.filterMap fun place => l[place]?

theorem select_cons {places : List Nat} {l : List α} {place : Nat} {a : α}
    (h : l[place]? = some a) : select (place :: places) l = a :: select places l :=
  List.filterMap_cons_some h

/-- All places being places of the list, one element is selected for each. -/
theorem getElem?_select {places : List Nat} {l : List α} (h : ∀ place ∈ places, place < l.length) :
    ∀ i : Nat, (select places l)[i]? = places[i]?.bind fun place => l[place]? := by
  induction places with
  | nil => exact fun _ => rfl
  | cons place rest ih =>
      intro i
      have hplace := List.getElem?_eq_getElem (h place List.mem_cons_self)
      have hrest := ih (fun other hother => h other (List.mem_cons_of_mem _ hother))
      rw [select_cons hplace]
      cases i with
      | zero => exact hplace.symm
      | succ i => exact hrest i

/-- Selecting from what a function gives for all places is using it on the
    places selected. -/
theorem select_map_range (f : Nat → α) {width : Nat} {places : List Nat}
    (h : ∀ place ∈ places, place < width) :
    select places ((List.range width).map f) = places.map f := by
  induction places with
  | nil => rfl
  | cons place rest ih =>
      have hplace : ((List.range width).map f)[place]? = some (f place) := by
        rw [List.getElem?_map, List.getElem?_range (h place List.mem_cons_self), Option.map_some]
      rw [select_cons hplace, ih fun other hother => h other (List.mem_cons_of_mem _ hother),
        List.map_cons]

/-- What works for all places works for some of them, and gives their results. -/
theorem mapM_select {f : Nat → Except ε α} {width : Nat} {out : List α}
    (hall : (List.range width).mapM f = .ok out) {places : List Nat}
    (h : ∀ place ∈ places, place < width) : places.mapM f = .ok (select places out) := by
  induction places with
  | nil => rfl
  | cons place rest ih =>
      have hlt := h place List.mem_cons_self
      rcases (mapM_eq_ok_getElem? _ hall).2 place place (List.getElem?_range hlt) with
        ⟨a, hout, ha⟩
      rw [List.mapM_cons, ha, ih fun other hother => h other (List.mem_cons_of_mem _ hother),
        select_cons hout]
      rfl

namespace Connection

/-- The same rows are selected for other columns. What is projected from them is
    a function of what is projected for the first ones if that is so for every
    row. -/
theorem selectRows_map {columns columns' : List Column} {f : RawRow → RawRow}
    (hproject : ∀ row, project columns' row = f (project columns row)) (filter : Option Filter)
    (rows : List RawRow) :
    ∀ limit : Nat, selectRows columns' filter limit rows =
      (selectRows columns filter limit rows).map (List.map f) := by
  induction rows with
  | nil =>
      intro limit
      cases limit with
      | zero => rfl
      | succ limit => rfl
  | cons row rest ih =>
      intro limit
      cases limit with
      | zero => rfl
      | succ limit =>
          rw [selectRows_cons, selectRows_cons]
          -- The filter is asked about the stored row, whatever is projected from it.
          cases Filter.verdict filter row with
          | error _ => rfl
          | ok answer =>
              cases answer with
              | false => exact ih (limit + 1)
              | true =>
                  dsimp only
                  rw [ih limit, hproject]
                  cases selectRows columns filter limit rest with
                  | error _ => rfl
                  | ok others => rfl

/-- A request for other columns gets the same rows, or is refused for the same
    reason, if the table has the columns of both. -/
theorem readRows_map {s : Store} {r : ScanRequest} {t : Table} (ht : s.table r.split.table = .ok t)
    {columns : List Column} (hcolumns : ∀ column ∈ r.columns, column.ordinal < t.width)
    (hcolumns' : ∀ column ∈ columns, column.ordinal < t.width) {f : RawRow → RawRow}
    (hproject : ∀ row, project columns row = f (project r.columns row)) (c : Connection) :
    c.readRows s { r with columns := columns } = (c.readRows s r).map (List.map f) := by
  have hfind : ∀ l : List Column, (∀ column ∈ l, column.ordinal < t.width) →
      (l.find? fun column => t.width ≤ column.ordinal) = none := by
    intro l hl
    refine List.find?_eq_none.2 fun column hcolumn => ?_
    rw [decide_eq_true_eq]
    exact Nat.not_le.2 (hl column hcolumn)
  rw [readRows, readRows]
  cases c.guard s .openCursor .openingCursor with
  | error _ => rfl
  | ok _ =>
      dsimp only [bind, Except.bind]
      rw [ht]
      dsimp only
      rw [hfind columns hcolumns', hfind r.columns hcolumns]
      exact selectRows_map hproject r.filter _ _

end Connection

/-- A cursor over some values of its rows only. -/
def Cursor.narrow (places : List Nat) (c : Cursor) : Cursor :=
  { c with rows := c.rows.map (select places) }

/-- A reader over some values of its rows only. -/
def SplitCursor.narrow (places : List Nat) (c : SplitCursor) : SplitCursor :=
  { c with inner := c.inner.map (Cursor.narrow places) }

/-- The row that a reader stands on, if it can still give its values. -/
def SplitCursor.row? (c : SplitCursor) : Option RawRow :=
  c.inner.bind fun inner => if inner.isClosed then none else inner.current?

/-- A runtime in which some values of the rows are read only. -/
def Runtime.narrow (places : List Nat) : Runtime → Runtime
  | .scanning connection coercer reading =>
    .scanning connection coercer { reading with cursor := reading.cursor.narrow places }
  | runtime => runtime

/-- An engine that produces some columns only. -/
def Engine.narrow (places : List Nat) (e : Engine) : Engine :=
  { e with projection := places, runtime := e.runtime.narrow places }

section Cursors

variable {places : List Nat} {s : Store}

/-- A cursor moves in the same way over some values of its rows. -/
theorem Cursor.advance_narrow (c : Cursor) :
    (c.narrow places).advance s = ((c.advance s).1, (c.advance s).2.narrow places) := by
  rw [advance, advance]
  simp only [narrow, List.length_map]
  by_cases hclosed : c.isClosed = true
  · rw [if_pos hclosed, if_pos hclosed]
  · rw [if_neg hclosed, if_neg hclosed]
    by_cases hfault : s.advanceLimit? = some c.yielded
    · rw [if_pos hfault, if_pos hfault]
    · rw [if_neg hfault, if_neg hfault]
      cases c.position with
      | none =>
          dsimp only
          by_cases hlt : 0 < c.rows.length
          · rw [if_pos hlt, if_pos hlt]
          · rw [if_neg hlt, if_neg hlt]
      | some p =>
          dsimp only
          by_cases hlt : p + 1 < c.rows.length
          · rw [if_pos hlt, if_pos hlt]
          · rw [if_neg hlt, if_neg hlt]

theorem SplitCursor.advance_narrow (c : SplitCursor) :
    (c.narrow places).advance s = ((c.advance s).1, (c.advance s).2.narrow places) := by
  rw [advance, advance]
  cases hinner : c.inner with
  | none =>
      simp only [narrow, hinner, Option.map_none]
  | some inner =>
      simp only [narrow, hinner, Option.map_some, Cursor.advance_narrow]
      rcases inner.advance s with ⟨_ | moved, inner'⟩
      · rfl
      · rfl

/-- Closing it does the same to the store. -/
theorem SplitCursor.close_narrow (c : SplitCursor) :
    ((c.narrow places).close s).2 = (c.close s).2 := by
  rw [close, close]
  cases hinner : c.inner with
  | none => simp only [narrow, hinner, Option.map_none]
  | some inner =>
      simp only [narrow, hinner, Option.map_some]
      rw [Cursor.close_store_eq, Cursor.close_store_eq]
      rfl

/-- A reader gives the values of the row that it stands on, and nothing else. -/
theorem SplitCursor.value_eq_ok_iff (c : SplitCursor) (i : Nat) (v : RawValue) :
    c.value i = .ok v ↔ ∃ row, c.row? = some row ∧ row[i]? = some v := by
  rw [value, row?]
  cases c.inner with
  | none => simp only [Option.bind_none, reduceCtorEq, false_and, exists_false]
  | some inner =>
      dsimp only [Option.bind_some]
      rw [except_mapError_eq_ok, Cursor.value]
      by_cases hclosed : inner.isClosed = true
      · simp only [if_pos hclosed, reduceCtorEq, false_and, exists_false]
      · rw [if_neg hclosed, if_neg hclosed]
        cases inner.current? with
        | none => simp only [reduceCtorEq, false_and, exists_false]
        | some row =>
            simp only [Option.some.injEq, exists_eq_left']
            cases row[i]? with
            | none => simp only [reduceCtorEq]
            | some w => simp only [Except.ok.injEq, Option.some.injEq]

/-- The narrow reader stands on some values of the same row. -/
theorem SplitCursor.row?_narrow (c : SplitCursor) :
    (c.narrow places).row? = c.row?.map (select places) := by
  rw [row?, row?, narrow]
  cases c.inner with
  | none => rfl
  | some inner =>
      dsimp only [Option.map_some, Option.bind_some, Cursor.narrow]
      by_cases hclosed : inner.isClosed = true
      · rw [if_pos hclosed, if_pos hclosed]
        rfl
      · rw [if_neg hclosed, if_neg hclosed, Cursor.current?, Cursor.current?]
        cases inner.position with
        | none => rfl
        | some p => exact List.getElem?_map

/-- If a reader gives a value for each of some columns, the narrow one gives at a
    place the value of the column that is at this place. -/
theorem SplitCursor.value_narrow {c : SplitCursor}
    (h : ∀ place ∈ places, ∃ v, c.value place = .ok v) {i place : Nat}
    (hplace : places[i]? = some place) : (c.narrow places).value i = c.value place := by
  rcases h place (List.mem_of_getElem? hplace) with ⟨v, hv⟩
  rcases (c.value_eq_ok_iff place v).1 hv with ⟨row, hrow, hvalue⟩
  -- All values come from the one row, so it has all the columns.
  have hwithin : ∀ other ∈ places, other < row.length := by
    intro other hother
    rcases h other hother with ⟨w, hw⟩
    rcases (c.value_eq_ok_iff other w).1 hw with ⟨row', hrow', hvalue'⟩
    obtain rfl : row = row' := Option.some.inj (hrow.symm.trans hrow')
    exact (List.getElem?_eq_some_iff.1 hvalue').1
  have hselected : (select places row)[i]? = some v := by
    rw [getElem?_select hwithin, hplace, Option.bind_some, hvalue]
  have hstands : (c.narrow places).row? = some (select places row) := by
    rw [row?_narrow, hrow, Option.map_some]
  rw [hv]
  exact ((c.narrow places).value_eq_ok_iff i v).2 ⟨_, hstands, hselected⟩

end Cursors

namespace Engine

variable {e : Engine} {s : Store} {places : List Nat}

/-- What the request of a split gets for some columns: the values in these columns
    of what it gets for all. If it is refused, it is so for the same reason. -/
theorem Valid.readRows_narrow (h : e.Valid s) (hall : e.projection = List.range e.plan.width)
    (hplaces : ∀ place ∈ places, place < e.plan.width) (c : Connection) {split : Split}
    (hsplit : split ∈ e.plan.splits) :
    c.readRows s ((e.narrow places).request split) =
      (c.readRows s (e.request split)).map (List.map (select places)) := by
  -- The table has the columns that are asked for, all of them or some.
  rcases h.exists_table hsplit with ⟨t, htable, hcolumns⟩
  refine Connection.readRows_map (r := e.request split) htable
    (hcolumns e.projection h.projection_lt) (hcolumns places hplaces) (fun row => ?_) c
  have hwide := project_filterMap h.ordinal_eq row e.projection h.projection_lt
  have hnarrow := project_filterMap h.ordinal_eq row places hplaces
  rw [request, hwide, hnarrow, hall, select_map_range _ hplaces]

/-- Opening a split for some columns does what opening it for all does. -/
theorem Valid.openSplit_narrow_ready (h : e.Valid s)
    (hall : e.projection = List.range e.plan.width)
    (hplaces : ∀ place ∈ places, place < e.plan.width) {connection : Connection} {coercer : Coercer}
    (hruntime : e.runtime = .ready connection coercer) (number : Nat) :
    (e.narrow places).openSplit s number =
      ((e.openSplit s number).1, (e.openSplit s number).2.1.narrow places,
        (e.openSplit s number).2.2) := by
  have hnarrow : (e.narrow places).runtime = .ready connection coercer :=
    congrArg (Runtime.narrow places) hruntime
  rw [openSplit_ready hruntime, openSplit_ready hnarrow]
  have hplan : (e.narrow places).plan = e.plan := rfl
  have hreached : (e.narrow places).limitReached = e.limitReached := rfl
  rw [hplan, hreached]
  cases hsplit : e.plan.split? number with
  | none => rfl
  | some split =>
      dsimp only
      by_cases hlimit : e.limitReached = true
      · rw [if_pos hlimit, if_pos hlimit]
        rfl
      · rw [if_neg hlimit, if_neg hlimit]
        have hread := h.readRows_narrow hall hplaces connection (List.mem_of_getElem? hsplit)
        rw [SplitCursor.ofRequest, SplitCursor.ofRequest, Connection.openCursor,
          Connection.openCursor, hread]
        cases connection.readRows s (e.request split) with
        | error _ => rfl
        | ok rows => rfl

theorem Valid.openSplit_narrow (h : e.Valid s) (hall : e.projection = List.range e.plan.width)
    (hplaces : ∀ place ∈ places, place < e.plan.width) (number : Nat) :
    (e.narrow places).openSplit s number =
      ((e.openSplit s number).1, (e.openSplit s number).2.1.narrow places,
        (e.openSplit s number).2.2) := by
  cases hruntime : e.runtime with
  | unconfigured =>
      have hnarrow : (e.narrow places).runtime = .unconfigured :=
        congrArg (Runtime.narrow places) hruntime
      rw [openSplit, openSplit, hruntime, hnarrow, refusal, refusal, state, state, hruntime,
        hnarrow]
  | closed =>
      have hnarrow : (e.narrow places).runtime = .closed :=
        congrArg (Runtime.narrow places) hruntime
      rw [openSplit, openSplit, hruntime, hnarrow, refusal, refusal, state, state, hruntime,
        hnarrow]
  | ready connection coercer => exact h.openSplit_narrow_ready hall hplaces hruntime number
  | scanning connection coercer reading =>
      have hnarrow : (e.narrow places).runtime = .scanning connection coercer
          { reading with cursor := reading.cursor.narrow places } :=
        congrArg (Runtime.narrow places) hruntime
      rw [openSplit_scanning hruntime, openSplit_scanning hnarrow]
      dsimp only
      rw [SplitCursor.close_narrow]
      -- The split being read is closed on both sides, and both engines are ready.
      rcases reading.cursor.close_store s with ⟨u, hu⟩
      have hclosed : ({ e with runtime := .ready connection coercer } : Engine).Valid
          (reading.cursor.close s).2 := by
        rw [hu]
        exact (h.withUsage u).of_eq rfl rfl h.projection_lt rfl fun _ hl => by
          rw [hruntime]
          exact hl
      exact hclosed.openSplit_narrow_ready hall hplaces rfl number

/-- Whether there is a further row does not depend on the columns. -/
theorem hasMore_narrow (e : Engine) (s : Store) :
    (e.narrow places).hasMore s = ((e.hasMore s).1, (e.hasMore s).2.narrow places) := by
  have hreached : (e.narrow places).limitReached = e.limitReached := rfl
  rw [hasMore, hasMore, hreached]
  by_cases hlimit : e.limitReached = true
  · rw [if_pos hlimit, if_pos hlimit]
  · rw [if_neg hlimit, if_neg hlimit]
    cases hruntime : e.runtime with
    | scanning connection coercer reading =>
        have hnarrow : (e.narrow places).runtime = .scanning connection coercer
            { reading with cursor := reading.cursor.narrow places } :=
          congrArg (Runtime.narrow places) hruntime
        rw [hnarrow]
        dsimp only
        by_cases hpending : reading.pending = true
        · rw [if_pos hpending, if_pos hpending]
        · rw [if_neg hpending, if_neg hpending, SplitCursor.advance_narrow]
          rfl
    | unconfigured => simp only [narrow, hruntime, Runtime.narrow]
    | ready _ _ => simp only [narrow, hruntime, Runtime.narrow]
    | closed => simp only [narrow, hruntime, Runtime.narrow]

/-- If all columns of a row can be converted, the row has a value for each, and the
    narrow row is made of those of its columns. -/
theorem currentRow_narrow {width : Nat} {reader : SplitCursor} {coercer : Coercer} {row : Row}
    (h : currentRow (List.range width) reader coercer = .ok row)
    (hplaces : ∀ place ∈ places, place < width) :
    currentRow places (reader.narrow places) coercer = .ok (select places row) ∧
      row.length = width := by
  -- For the wide cursor the place of a column is its number.
  have hwide : currentRow (List.range width) reader coercer
      = (List.range width).mapM (fun column => reader.value column >>= coercer.coerce column) := by
    refine mapM_zipIdx (List.range width) 0 fun i column hcolumn => ?_
    have hi : column = i := by
      rcases List.getElem?_eq_some_iff.1 hcolumn with ⟨_, rfl⟩
      exact List.getElem_range _
    rw [Nat.zero_add, hi]
  rw [hwide] at h
  have hall := mapM_eq_ok_getElem? _ h
  have hvalue : ∀ place ∈ places, ∃ v, reader.value place = .ok v := by
    intro place hplace
    rcases hall.2 place place (List.getElem?_range (hplaces place hplace)) with ⟨b, _, hb⟩
    rcases except_bind_eq_ok.1 hb with ⟨v, hv, _⟩
    exact ⟨v, hv⟩
  have hnarrow : currentRow places (reader.narrow places) coercer
      = places.mapM (fun column => reader.value column >>= coercer.coerce column) := by
    refine mapM_zipIdx places 0 fun i column hcolumn => ?_
    rw [Nat.zero_add]
    dsimp only
    rw [SplitCursor.value_narrow hvalue hcolumn]
  rw [hnarrow]
  refine ⟨mapM_select h hplaces, ?_⟩
  rw [hall.1, List.length_range]

/-- Asking for more does not change the projection. -/
theorem projection_of_hasMore {answer : Except ScanError Bool} {after : Engine}
    (h : e.hasMore s = (answer, after)) : after.projection = e.projection := by
  rcases e.hasMore_eq s with ⟨runtime, hmore, _⟩
  rw [h] at hmore
  obtain rfl : after = { e with runtime } := hmore
  rfl

/-- If a row is produced with all columns, it is produced with some of them. -/
theorem produceNext_narrow {width : Nat} (hall : e.projection = List.range width)
    (hplaces : ∀ place ∈ places, place < width) {row : Row} {after : Engine}
    (h : e.produceNext s = (.ok row, after)) :
    (e.narrow places).produceNext s = (.ok (select places row), after.narrow places) ∧
      row.length = width ∧ after.projection = e.projection := by
  rcases produceNext_eq_ok_iff.1 h with
    ⟨e', connection, coercer, reading, hmore, hruntime, hpending, hrow, rfl⟩
  have hprojection := projection_of_hasMore hmore
  rw [hprojection, hall] at hrow
  rcases currentRow_narrow hrow hplaces with ⟨hselected, hlength⟩
  -- The narrow engine stands on the same row, with some of its columns.
  refine ⟨produceNext_eq_ok_iff.2 ⟨e'.narrow places, connection, coercer,
    { reading with cursor := reading.cursor.narrow places }, ?_,
    congrArg (Runtime.narrow places) hruntime, hpending, hselected, rfl⟩, hlength, hprojection⟩
  rw [hasMore_narrow, hmore]

/-- If a split is drained with all columns, it is drained with some of them. -/
theorem drainUpTo_narrow {width : Nat} (hplaces : ∀ place ∈ places, place < width) (n : Nat) :
    ∀ {e after : Engine} {rows : List Row}, e.projection = List.range width →
      e.drainUpTo s n = (rows, none, after) →
      (e.narrow places).drainUpTo s n = (rows.map (select places), none, after.narrow places) ∧
        ∀ row ∈ rows, row.length = width := by
  induction n with
  | zero =>
      intro e after rows _ h
      cases h
      exact ⟨rfl, fun _ hrow => nomatch hrow⟩
  | succ n ih =>
      intro e after rows hall h
      have hasks : (e.narrow places).hasMore s = _ := e.hasMore_narrow s
      rcases drainUpTo_eq_ok_iff.1 h with
        ⟨hmore, rfl⟩ | ⟨e₁, e₂, first, others, hmore, hproduce, hdrain, rfl⟩
      · rw [hmore] at hasks
        exact ⟨drainUpTo_eq_ok_iff.2 (Or.inl ⟨hasks, rfl⟩), fun _ hrow => nomatch hrow⟩
      · rw [hmore] at hasks
        have hall₁ := (projection_of_hasMore hmore).trans hall
        rcases produceNext_narrow hall₁ hplaces hproduce with ⟨hnarrow, hlength, hkept⟩
        -- The rows behind the first one are drained by the engine that produced it.
        rcases ih (hkept.trans hall₁) hdrain with ⟨hothers, hlengths⟩
        refine ⟨drainUpTo_eq_ok_iff.2 (Or.inr ?_), List.forall_mem_cons.2 ⟨hlength, hlengths⟩⟩
        exact ⟨_, _, _, _, hasks, hnarrow, hothers, rfl⟩

/-- A split holds as many rows ready for some columns as for all. -/
theorem bufferedRows_narrow (e : Engine) : (e.narrow places).bufferedRows = e.bufferedRows := by
  have hnarrow : (e.narrow places).runtime = e.runtime.narrow places := rfl
  rw [bufferedRows, bufferedRows, hnarrow]
  cases e.runtime with
  | scanning connection coercer reading =>
      dsimp only [Runtime.narrow]
      rw [SplitCursor.bufferedRows, SplitCursor.bufferedRows, SplitCursor.narrow]
      cases reading.cursor.inner with
      | none => rfl
      | some inner => exact List.length_map _
  | unconfigured => rfl
  | ready _ _ => rfl
  | closed => rfl

/-- An engine that opens a split has a connection, and there is such a split. -/
theorem openSplit_eq_ok {number : Nat} (h : (e.openSplit s number).1 = .ok ()) :
    e.runtime.link?.isSome = true ∧ (e.plan.split? number).isSome = true := by
  cases hlink : e.runtime.link? with
  | none =>
      rw [openSplit_of_link?_eq_none hlink] at h
      cases h
  | some link =>
      refine ⟨rfl, ?_⟩
      rcases exists_openSplit_eq hlink s number with ⟨u, hopen⟩
      rw [hopen, openSplit_ready rfl] at h
      cases hsplit : e.plan.split? number with
      | none =>
          rw [hsplit] at h
          cases h
      | some _ => rfl

/-- If splits are read one after the other with all columns, they are read with some
    of them. The induction is over the splits: an engine that has read one still
    has the plan and the projection that it had. -/
theorem Valid.readAll_narrow (numbers : List Nat) :
    ∀ {e last : Engine} {s s' : Store} {rows : List Row}, e.Valid s →
      e.projection = List.range e.plan.width → (∀ place ∈ places, place < e.plan.width) →
      e.readAll s numbers = (rows, none, last, s') →
      (e.narrow places).readAll s numbers =
          (rows.map (select places), none, last.narrow places, s') ∧
        ∀ row ∈ rows, row.length = e.plan.width := by
  induction numbers with
  | nil =>
      intro e last s s' rows _ _ _ h
      cases h
      exact ⟨rfl, fun _ hrow => nomatch hrow⟩
  | cons number rest ih =>
      intro e last s s' rows he hall hplaces h
      rcases readAll_cons_eq_ok h with ⟨e₁, e₂, s₁, first, later, hopen, hdrain, hlater, rfl⟩
      have hok : (e.openSplit s number).1 = .ok () := by rw [hopen]
      have hpasses := openSplit_eq_ok hok
      have hopens := e.openSplit_steps s number
      have hfrozen := openSplit_frozen hpasses.1 s hpasses.2
      have hdrains := drainUpTo_steps s₁ (e₁.bufferedRows + 1) e₁
      rw [drain] at hdrain
      rw [hopen] at hopens hfrozen
      rw [hdrain] at hdrains
      rcases hdrains with ⟨_, hdrains⟩
      -- The settings are fixed now, and draining the split does not change them.
      have hsame := (hfrozen.1.becomes (.of_steps hdrains)).2
      have hall₁ : e₁.projection = List.range e.plan.width := hfrozen.2.projection_eq.trans hall
      have hplan₂ : e₂.plan = e.plan := hsame.plan_eq.trans hfrozen.2.plan_eq
      have hall₂ : e₂.projection = List.range e₂.plan.width := by
        rw [hsame.projection_eq, hall₁, hplan₂]
      rcases drainUpTo_narrow hplaces _ hall₁ hdrain with ⟨hfirst, hlengths⟩
      rcases ih ((he.steps hopens).steps hdrains) hall₂ (by rw [hplan₂]; exact hplaces) hlater
        with ⟨hothers, hlengths'⟩
      rw [hplan₂] at hlengths'
      rw [readAll, he.openSplit_narrow hall hplaces number, hopen]
      dsimp only
      rw [drain, bufferedRows_narrow, hfirst]
      dsimp only
      rw [hothers, List.map_append]
      exact ⟨rfl, List.forall_mem_append.2 ⟨hlengths, hlengths'⟩⟩

end Engine

/-- Two engines on one store that differ in their projections only, one of them
    with all columns. The store picks the same rows for both of them from every
    split, or refuses both. If a scan with all columns succeeds, so does the other
    one, and it gives the same rows in the same order, each of them with the values
    in its own columns. -/
theorem Session.readAll_projection (clock clock' : Clock) (actions actions' : List HostAction)
    (x y : Session) (hx : x ∈ ((Host.new clock).run actions).sessions)
    (hy : y ∈ ((Host.new clock').run actions').sessions)
    (hstore : ((Host.new clock').run actions').store = ((Host.new clock).run actions).store)
    {connection : Connection} {coercer : Coercer}
    (hready : x.engine.runtime = .ready connection coercer)
    (hall : x.engine.projection = List.range x.engine.plan.width)
    (hsame : y.engine = { x.engine with projection := y.engine.projection })
    {numbers : List Nat} {rows : List Row} {last : Engine} {s : Store}
    (hscan : x.engine.readAll ((Host.new clock).run actions).store numbers
      = (rows, none, last, s)) :
    (∀ split ∈ x.engine.plan.splits,
      connection.readRows ((Host.new clock').run actions').store (y.engine.request split)
        = (connection.readRows ((Host.new clock).run actions).store
            (x.engine.request split)).map (List.map (select y.engine.projection))) ∧
      (∀ row ∈ rows, ∀ column ∈ y.engine.projection, column < row.length) ∧
      y.engine.readAll ((Host.new clock').run actions').store numbers
        = (rows.map (select y.engine.projection), none, last.narrow y.engine.projection, s) := by
  have hvalid := Host.valid_run clock actions x hx
  have hplaces := (Host.valid_run clock' actions' y hy).projection_lt
  have hplan : y.engine.plan = x.engine.plan := by
    rw [hsame]
  rw [hplan] at hplaces
  -- A ready engine reads no split, so the other one is this one narrowed.
  have hruntime : x.engine.runtime.narrow y.engine.projection = x.engine.runtime := by
    rw [hready]
    rfl
  have hnarrow : y.engine = x.engine.narrow y.engine.projection := by
    rw [Engine.narrow, hruntime]
    exact hsame
  generalize y.engine.projection = places at *
  rw [hstore, hnarrow]
  have hread := hvalid.readAll_narrow numbers hall hplaces hscan
  refine ⟨fun split hsplit => hvalid.readRows_narrow hall hplaces connection hsplit,
    fun row hrow column hcolumn => ?_, hread.1⟩
  rw [hread.2 row hrow]
  exact hplaces column hcolumn

/-- A scan of the goods of which there is more than one, with settings of its own. -/
def stockRun (settings : List HostAction) : List HostAction :=
  [.store (.createTable ⟨"db", "t"⟩
      [⟨"id", .bigInt, 0, false⟩, ⟨"name", .text, 1, true⟩, ⟨"stock", .int, 2, true⟩]),
    .store (.setRegionSize 2),
    .store (.insertRows ⟨"db", "t"⟩
      [[.int 1, .string "a", .int 3], [.int 2, .string "b", .int 1], [.int 3, .null, .int 2]]),
    .plan ⟨⟨"db", "t"⟩, none, .empty, .empty⟩] ++ settings ++
    [.engine 0 (.setFilter (.compare 2 .gt (.int 1))), .engine 0 .configure]

/-- The names and numbers are those of the same goods, without their stock. -/
theorem readAll_stockRun :
    ∃ y ∈ ((Host.new (.manual 1)).run (stockRun [.engine 0 (.project [[1], [0]])])).sessions,
      (y.engine.readAll ((Host.new (.manual 1)).run
        (stockRun [.engine 0 (.project [[1], [0]])])).store [0, 1]).1
        = [[.string "a", .bigInt 1], [.null, .bigInt 3]] := by
  have hx := List.getElem_mem
    (by decide : 0 < ((Host.new (.manual 1)).run (stockRun [])).sessions.length)
  have hy := List.getElem_mem
    (by decide : 0 < ((Host.new (.manual 1)).run
      (stockRun [.engine 0 (.project [[1], [0]])])).sessions.length)
  have hscan : ((Host.new (.manual 1)).run (stockRun [])).sessions[0].engine.readAll
      ((Host.new (.manual 1)).run (stockRun [])).store [0, 1] = (_, none, _, _) := rfl
  have hscans := Session.readAll_projection (.manual 1) (.manual 1) (stockRun [])
    (stockRun [.engine 0 (.project [[1], [0]])]) _ _ hx hy rfl rfl rfl rfl hscan
  exact ⟨_, hy, congrArg Prod.fst hscans.2.2⟩

end RegionScan
