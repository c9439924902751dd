import RegionScan.Proofs.Scan.CursorStep
import RegionScan.Proofs.Scan.OpenedRows

/-!
# Typed Rows

The rows that an engine returns have the fields that it announces.

A value passes four lists on its way. The projection names a column, the cursor
holds the projected columns by their places, the coercer has a field and a
pattern for each column, and the produced fields are those of the projection
again. All four have to mean the same column. What ties them together is an
invariant of the engine that reads (`Engine.ReadsTable`): its cursor holds
stored rows, each projected by the projection that the engine has now. Settings
cannot change while a split is read, so moving on is the only step that matters,
and it goes from one of these rows to another.

The stored rows need not be in the table any more when they are returned. They
were written to it at some time, so they have a value for each column.

## Main definitions

* `Engine.ReadsTable`: A cursor over rows of the engine's table.
* `Engine.Sound`: A valid engine that reads rows of its table.

## Theorems

* `Engine.Sound.step`: Steps keep an engine sound.
* `Host.sound_run`: Engines are sound after every run.
* `Engine.Sound.typed_of_produceNext`: It is a stored row, converted.
* `Session.produceNext_typed`: Every row that is returned is well typed.
-/

namespace RegionScan

/-- A cursor that has moved stands on one of its rows. -/
theorem Cursor.Advances.current_mem {c c' : Cursor} {s : Store} (h : c.Advances s (.ok true) c') :
    ∃ row ∈ c.rows, c'.current? = some row := by
  cases h with
  | @next _ row _ hrest _ _ _ hcurrent =>
      refine ⟨row, ?_, hcurrent⟩
      have hmem : row ∈ c.rest := by
        rw [hrest]
        exact List.mem_cons_self
      exact List.mem_of_mem_drop hmem

namespace Engine

/-- An engine reads rows of its table: the cursor that it reads with holds the
    projected values of rows that were written to the table, and a pending row is
    one of them. -/
structure ReadsTable (e : Engine) (s : Store) (reading : Reading) : Prop where
  started : e.started = true
  cursor : ∃ inner stored, reading.cursor.inner = some inner ∧ inner.isClosed = false ∧
    inner.rows = List.map e.cells stored ∧
    (∀ row ∈ stored, s.Wrote e.config.table row) ∧
    (reading.pending = true → ∃ row ∈ stored, inner.current? = some (e.cells row))

/-- An engine is sound if it is valid and reads, if anything, rows of its
    table. -/
structure Sound (e : Engine) (s : Store) : Prop where
  valid : e.Valid s
  reads : ∀ connection coercer reading, e.runtime = .scanning connection coercer reading →
    e.ReadsTable s reading

/-- An engine that reads no split reads nothing else. -/
theorem sound_of_state_ne {e : Engine} {s : Store} (h : e.Valid s) (hstate : e.state ≠ .scanning) :
    e.Sound s := by
  refine ⟨h, fun connection coercer reading hruntime => ?_⟩
  rw [state, hruntime] at hstate
  exact absurd rfl hstate

namespace ReadsTable

variable {e : Engine} {s : Store} {reading : Reading}

/-- What is read does not depend on anything that may change while a split is
    read. -/
theorem of_eq (h : e.ReadsTable s reading) {e' : Engine} {s' : Store}
    (hconfig : e'.config = e.config) (hprojection : e'.projection = e.projection)
    (hstarted : e'.started = true)
    (hwrote : ∀ row, s.Wrote e.config.table row → s'.Wrote e.config.table row) :
    e'.ReadsTable s' reading := by
  rcases h.cursor with ⟨inner, stored, hinner, hopen, hrows, hstored, hpending⟩
  have hcells : e'.cells = e.cells := by
    funext row
    rw [cells, hprojection, cells]
  refine ⟨hstarted, inner, stored, hinner, hopen, ?_, fun row hrow => ?_, ?_⟩
  · rw [hcells]
    exact hrows
  · rw [hconfig]
    exact hwrote row (hstored row hrow)
  · rw [hcells]
    exact hpending

/-- A row that was used up is not pending. -/
theorem unpend (h : e.ReadsTable s reading) :
    e.ReadsTable s { reading with pending := false } := by
  rcases h.cursor with ⟨inner, stored, hinner, hopen, hrows, hstored, _⟩
  exact ⟨h.started, inner, stored, hinner, hopen, hrows, hstored, fun hp => nomatch hp⟩

/-- Moving on, the cursor stays on its rows. -/
theorem advance (h : e.ReadsTable s reading) {moved : Bool}
    (hmoved : moved = true ↔ (reading.cursor.advance s).1 = .ok true) :
    e.ReadsTable s ⟨(reading.cursor.advance s).2, moved⟩ := by
  rcases h.cursor with ⟨inner, stored, hinner, hopen, hrows, hstored, _⟩
  have hmove := inner.advance_advances hopen s
  have hkept := hmove.kept hopen
  have hreader := SplitCursor.advance_eq_mapError hinner s
  refine ⟨h.started, (inner.advance s).2, stored, hreader.2, hkept.1, hkept.2.trans hrows,
    hstored, fun hpending => ?_⟩
  -- The row is pending because the cursor has moved to it.
  have hanswer := hmoved.1 hpending
  rw [hreader.1] at hanswer
  rw [except_mapError_eq_ok.1 hanswer] at hmove
  rcases hmove.current_mem with ⟨values, hvalues, hcurrent⟩
  rw [hrows] at hvalues
  rcases List.mem_map.1 hvalues with ⟨row, hrow, rfl⟩
  exact ⟨row, hrow, hcurrent⟩

end ReadsTable

namespace Sound

variable {e : Engine} {s : Store}

/-- A setting that is changed finds no split being read. -/
theorem not_scanning (h : e.Sound s) (hstarted : e.started = false) {connection : Connection}
    {coercer : Coercer} {reading : Reading} :
    e.runtime ≠ .scanning connection coercer reading := by
  intro hruntime
  have hreads := (h.reads connection coercer reading hruntime).started
  rw [hstarted] at hreads
  cases hreads

/-- A split that is opened is read from its first row on. -/
theorem reads_of_openCursor (h : e.Sound s) {connection : Connection} {number : Nat} {split : Split}
    {cursor : SplitCursor} {s' : Store} (hstarted : e.started = true)
    (hsplit : e.plan.split? number = some split)
    (hcursor : SplitCursor.ofRequest connection s number (e.request split) = (.ok cursor, s')) :
    e.ReadsTable s ⟨cursor, false⟩ := by
  rcases SplitCursor.ofRequest_eq_ok hcursor with ⟨inner, hopen, rfl⟩
  rcases Connection.openCursor_eq_ok hopen with ⟨rows, hread, rfl, _⟩
  have hrows := h.valid.fits.eq_of_readRows hread
  have hmem : split ∈ e.plan.splits := List.mem_of_getElem? hsplit
  refine ⟨hstarted, _, ((e.matchingIn s split).take e.budget).map (·.2), rfl, rfl, ?_,
    fun row hrow => ?_, fun hpending => nomatch hpending⟩
  · rw [List.map_map]
    exact hrows
  · rcases List.mem_map.1 hrow with ⟨pair, hpair, rfl⟩
    exact h.valid.wrote_of_mem_matchingIn hmem (List.mem_of_mem_take hpair)

/-- A step keeps an engine sound. -/
theorem step {e' : Engine} {s' : Store} {row : Option Row} (hstep : Step e s row e' s')
    (h : e.Sound s) : e'.Sound s' := by
  refine ⟨h.valid.step hstep, fun c k r hruntime' => ?_⟩
  rcases hstep.store_eq with ⟨u, hs⟩
  -- No step writes, so the rows that are read can be looked up in `s`.
  suffices hreads : e'.ReadsTable s r by
    rw [hs]
    exact hreads.of_eq rfl rfl hreads.started fun _ => id
  -- Settings change before anything is read, so only opening and moving on are left.
  cases hstep with
  | setLimit _ hstarted _ => exact absurd hruntime' (h.not_scanning hstarted)
  | project _ hstarted _ _ _ => exact absurd hruntime' (h.not_scanning hstarted)
  | setFilter _ hstarted _ _ _ => exact absurd hruntime' (h.not_scanning hstarted)
  | setOutputFields _ hruntime _ => cases hruntime.symm.trans hruntime'
  | connect _ _ _ => cases hruntime'
  | closeCursor _ => cases hruntime'
  | disconnect _ => cases hruntime'
  | abandon _ => cases hruntime'
  | start hruntime _ => cases hruntime.symm.trans hruntime'
  | openCursor _ hstarted _ hsplit _ hcursor =>
      obtain ⟨rfl, rfl, rfl⟩ := Runtime.scanning.inj hruntime'
      have hreads := h.reads_of_openCursor hstarted hsplit hcursor
      exact hreads.of_eq rfl rfl hstarted fun _ => id
  | advance moved hruntime _ _ hmoved =>
      obtain ⟨rfl, rfl, rfl⟩ := Runtime.scanning.inj hruntime'
      have hreads := (h.reads _ _ _ hruntime).advance hmoved
      exact hreads.of_eq rfl rfl hreads.started fun _ => id
  | produce hruntime _ _ _ =>
      obtain ⟨rfl, rfl, rfl⟩ := Runtime.scanning.inj hruntime'
      have hreads := (h.reads _ _ _ hruntime).unpend
      exact hreads.of_eq rfl rfl hreads.started fun _ => id
  | passOver hruntime _ _ _ =>
      obtain ⟨rfl, rfl, rfl⟩ := Runtime.scanning.inj hruntime'
      have hreads := (h.reads _ _ _ hruntime).unpend
      exact hreads.of_eq rfl rfl hreads.started fun _ => id

/-- Several steps keep an engine sound. -/
theorem steps {e' : Engine} {s' : Store} {rows : List Row} (hsteps : Steps e s rows e' s')
    (h : e.Sound s) : e'.Sound s' := by
  induction hsteps with
  | refl => exact h
  | tail _ hstep ih => exact ih.step hstep

/-- An action of the store keeps an engine sound: what it reads stays written. -/
theorem storeAct (h : e.Sound s) (a : StoreAction) : e.Sound (s.act a) := by
  refine ⟨h.valid.storeAct a, fun c k r hruntime => ?_⟩
  have hreads := h.reads c k r hruntime
  exact hreads.of_eq rfl rfl hreads.started fun _ hrow => hrow.act a

/-- The counts of the store play no part in it. -/
theorem withUsage (h : e.Sound s) (u : Usage) : e.Sound (s.withUsage u) := by
  refine ⟨h.valid.withUsage u, fun c k r hruntime => ?_⟩
  have hreads := h.reads c k r hruntime
  exact hreads.of_eq rfl rfl hreads.started fun _ => id

end Sound

end Engine

namespace Host

theorem sound_invariant : Invariant Store.Valid fun x s => x.engine.Sound s where
  new := Store.valid_new
  act := fun a hs => Store.valid_act a hs
  usage := fun _ hs => hs
  plan := fun hs hmake => by
    rcases Engine.make_eq_ok hmake with ⟨t, _, _, heq⟩
    refine Engine.sound_of_state_ne (Engine.valid_make hs hmake) fun hstate => ?_
    rw [heq] at hstate
    cases hstate
  duplicate := fun hx => Engine.sound_of_state_ne hx.valid.duplicate fun hstate => nomatch hstate
  step := fun hstep hx => hx.step hstep
  otherAct := fun a hx => hx.storeAct a
  otherUsage := fun u hx => hx.withUsage u

/-- The engines of a host are sound after every run. -/
theorem sound_run (clock : Clock) (actions : List HostAction) :
    ∀ x ∈ ((Host.new clock).run actions).sessions,
      x.engine.Sound ((Host.new clock).run actions).store :=
  (sound_invariant.run clock actions).2

end Host

namespace Engine

/-- Asking for more changes nothing of an engine but its runtime, which keeps its
    connection. -/
theorem hasMore_eq (e : Engine) (s : Store) :
    ∃ runtime, (e.hasMore s).2 = { e with runtime } ∧ runtime.link? = e.runtime.link? := by
  rw [hasMore]
  by_cases hlimit : e.limitReached = true
  · rw [if_pos hlimit]
    exact ⟨e.runtime, rfl, rfl⟩
  · rw [if_neg hlimit]
    cases hruntime : e.runtime with
    | scanning connection coercer reading =>
        dsimp only
        by_cases hpending : reading.pending = true
        · rw [if_pos hpending]
          exact ⟨e.runtime, rfl, by rw [hruntime]⟩
        · rw [if_neg hpending]
          exact ⟨_, rfl, rfl⟩
    | unconfigured => exact ⟨e.runtime, rfl, by rw [hruntime]⟩
    | ready _ _ => exact ⟨e.runtime, rfl, by rw [hruntime]⟩
    | closed => exact ⟨e.runtime, rfl, by rw [hruntime]⟩

/-- The value that a reader gives for a place of the projection, if its cursor
    stands on the projected values of a stored row. -/
theorem value_of_current {e : Engine} {reader : SplitCursor} {inner : Cursor} {stored : RawRow}
    (hinner : reader.inner = some inner) (hopen : inner.isClosed = false)
    (hcurrent : inner.current? = some (e.cells stored)) {i column : Nat} {raw : RawValue}
    (hcolumn : e.projection[i]? = some column) (hraw : stored[column]? = some raw) :
    reader.value i = .ok raw := by
  have hcell : (e.cells stored)[i]? = some raw := by
    rw [cells, List.getElem?_map, hcolumn, Option.map_some, hraw, Option.getD_some]
  rw [SplitCursor.value, hinner]
  dsimp only
  rw [Cursor.value, if_neg (Bool.eq_false_iff.1 hopen), hcurrent]
  dsimp only
  rw [hcell]
  rfl

/-- The row that an engine returns is a stored row, projected and converted, so
    each of its values has the type of its field. -/
theorem Sound.typed_of_produceNext {e after : Engine} {s : Store} {row : Row} (h : e.Sound s)
    (hproduce : e.produceNext s = (.ok row, after)) :
    row.length = e.projection.length ∧
      ∃ connection coercer reading stored,
        after.runtime = .scanning connection coercer reading ∧
        s.Wrote e.config.table stored ∧
        ∀ i column, e.projection[i]? = some column → ∃ field raw value,
          e.producedFields[i]? = some field ∧ stored[column]? = some raw ∧
          reading.cursor.value i = .ok raw ∧ row[i]? = some value ∧
          value.matchesType field.type = true ∧ (value = .null ↔ raw = .null) := by
  rcases produceNext_eq_ok_iff.1 hproduce with
    ⟨e', connection, coercer, reading, hanswer, hruntime, hpending, hrow, rfl⟩
  have hsound := h.steps (e.hasMore_steps s)
  rcases e.hasMore_eq s with ⟨runtime, hmore, _⟩
  rw [hanswer] at hmore hsound
  obtain rfl : e' = { e with runtime } := hmore
  -- The row is the one pending, which was written to the table.
  rcases (hsound.reads connection coercer reading hruntime).cursor with
    ⟨inner, stored, hinner, hopen, _, hstored, hcurrent⟩
  rcases hcurrent hpending with ⟨source, hsource, hsourceCurrent⟩
  have hwrote : s.Wrote e.config.table source := hstored source hsource
  have hlength : source.length = e.plan.width := h.valid.length_of_wrote hwrote
  -- The coercer was compiled for the fields that the engine still has.
  have hcompile := (hsound.valid.linked connection coercer (by rw [hruntime]; rfl)).2
  have hfields : coercer.fields = e.fields := Coercer.fields_of_compile hcompile
  rcases mapM_eq_ok_getElem? _ hrow with ⟨hcount, hvalues⟩
  rw [List.length_zipIdx] at hcount
  refine ⟨hcount, connection, coercer, { reading with pending := false }, source, rfl, hwrote,
    fun i column hcolumn => ?_⟩
  have hplace : e.projection.zipIdx[i]? = some (column, i) := by
    rw [List.getElem?_zipIdx, hcolumn, Option.map_some, Nat.zero_add]
  rcases hvalues i (column, i) hplace with ⟨value, hvalue, hconverted⟩
  rcases except_bind_eq_ok.1 hconverted with ⟨raw, hraw, hcoerce⟩
  rcases Coercer.coerce_eq_ok hcoerce with ⟨field, hfield, htyped⟩
  rw [hfields] at hfield
  -- The projection names columns there are, so the stored row has a value.
  have hlt : column < source.length := by
    rw [hlength]
    exact h.valid.projection_lt column (List.mem_of_getElem? hcolumn)
  have hcell : source[column]? = some source[column] := List.getElem?_eq_getElem hlt
  have hread : reading.cursor.value i = .ok source[column] :=
    value_of_current hinner hopen hsourceCurrent hcolumn hcell
  obtain rfl : source[column] = raw := Except.ok.inj (hread.symm.trans hraw)
  refine ⟨field, source[column], value, ?_, hcell, hread, hvalue, htyped⟩
  rw [producedFields, List.getElem?_map, hcolumn, Option.map_some, Engine.field, hfield,
    Option.getD_some]

end Engine

/-- A decimal of a type with a scale has that scale. -/
theorem Value.scale_of_matchesType {d : Decimal} {precision : Option UInt8} {scale : UInt8}
    (h : (Value.decimal d).matchesType (.decimal precision (some scale)) = true) :
    d.scale = scale := by
  rw [matchesType, Option.all_some, beq_iff_eq] at h
  exact h.symm

/-- Every row that an engine returns has a value for each column of its
    projection. The value is converted from the one that the reader gives for that
    column of a row written to the table. It has the type of the produced
    field, with exactly the field's scale if it is a decimal and the field has one,
    and it is missing if and only if the raw value is. A missing value is never
    refused, whatever column it is of. -/
theorem Session.produceNext_typed (clock : Clock) (actions : List HostAction) (x : Session)
    (hx : x ∈ ((Host.new clock).run actions).sessions) :
    (∀ connection coercer, x.engine.runtime.link? = some (connection, coercer) →
      ∀ column < x.engine.plan.width, coercer.coerce column .null = .ok .null) ∧
    ∀ row after, x.engine.produceNext ((Host.new clock).run actions).store = (.ok row, after) →
      row.length = x.engine.projection.length ∧
      x.engine.producedFields.length = x.engine.projection.length ∧
      ∃ connection coercer reading stored,
        after.runtime = .scanning connection coercer reading ∧
        ((Host.new clock).run actions).store.Wrote x.engine.config.table stored ∧
        ∀ i column, x.engine.projection[i]? = some column → ∃ field raw value,
          x.engine.producedFields[i]? = some field ∧ stored[column]? = some raw ∧
          reading.cursor.value i = .ok raw ∧ row[i]? = some value ∧
          value.matchesType field.type = true ∧
          (∀ d precision scale, value = .decimal d → field.type = .decimal precision (some scale) →
            d.scale = scale) ∧
          (value = .null ↔ raw = .null) := by
  have hsound := Host.sound_run clock actions x hx
  refine ⟨fun connection coercer hlink column hcolumn => ?_, fun row after hproduce => ?_⟩
  · have hlength := hsound.valid.fits.length_fields connection coercer hlink
    refine Coercer.coerce_null ?_
    rw [hlength]
    exact hcolumn
  · rcases hsound.typed_of_produceNext hproduce with
      ⟨hlength, connection, coercer, reading, stored, hruntime, hwrote, hvalues⟩
    refine ⟨hlength, List.length_map _, connection, coercer, reading, stored, hruntime, hwrote,
      fun i column hcolumn => ?_⟩
    rcases hvalues i column hcolumn with
      ⟨field, raw, value, hfield, hraw, hread, hvalue, htype, hnull⟩
    refine ⟨field, raw, value, hfield, hraw, hread, hvalue, htype, ?_, hnull⟩
    rintro d precision scale rfl hscale
    rw [hscale] at htype
    exact Value.scale_of_matchesType htype

/-- An engine that reads two columns in reverse order, the first of them with
    places that the stored numbers do not have. -/
def pricedRun : List HostAction :=
  [.store (.createTable ⟨"db", "t"⟩ [⟨"id", .bigInt, 0, false⟩, ⟨"price", .text, 1, true⟩]),
    .store (.insertRows ⟨"db", "t"⟩ [[.int 1, .null], [.int 2, .int 5]]),
    .plan ⟨⟨"db", "t"⟩, none, .empty, .empty⟩,
    .engine 0 (.setOutputFields [⟨"id", .smallInt⟩, ⟨"price", .decimal none (some 2)⟩]),
    .engine 0 (.project [[1], [0]]),
    .engine 0 .configure,
    .engine 0 (.openSplit 0),
    .engine 0 .produceNext]

/-- The next row has its two values. -/
theorem produceNext_pricedRun :
    ∃ x ∈ ((Host.new (.manual 1)).run pricedRun).sessions,
      x.rows = [[.null, .smallInt 1]] ∧
      ∃ row, (x.engine.produceNext ((Host.new (.manual 1)).run pricedRun).store).1 = .ok row ∧
        row.length = 2 := by
  have hx := List.getElem_mem
    (by decide : 0 < ((Host.new (.manual 1)).run pricedRun).sessions.length)
  refine ⟨_, hx, by decide, _, rfl, ?_⟩
  exact ((Session.produceNext_typed (.manual 1) pricedRun _ hx).2 _ _ rfl).1

end RegionScan
