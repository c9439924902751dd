import RegionScan.Proofs.Scan.Valid

/-!
# Draining a Split

What comes of reading the split that an engine has open to its end.

The rows that a cursor still has to give are settled when it is opened. So
long as the store does not fail it, each move goes to the next of them, and
asking for the row gives its values in the order of the projection, converted.
Draining therefore gives the conversions of the rows in order. The induction is
over these rows, and carries along that the limit leaves room for all of them,
which holds because the cursor was asked for no more.

## Main definitions

* `Cursor.rest`: The rows that a cursor has still to give.
* `Engine.cells`, `Engine.convert`: The projected values of a stored row, and
  the row that they are converted to.

## Theorems

* `Cursor.advance_of_rest_eq_cons`, `Cursor.advance_of_rest_eq_nil`: Moving on.
* `Engine.currentRow_eq_convert`: The row that a cursor on a stored row gives.
* `Engine.hasMore_of_rest_eq_nil`, `Engine.produceNext_of_rest_eq_cons`: Reading a
  split whose cursor has no row to give, or some.
* `Engine.drainUpTo_eq_ok_iff`: What draining does that does not fail.
* `Engine.drainUpTo_eq`, `Engine.drain_eq`: Draining gives all rows, converted.
-/

namespace RegionScan

namespace Cursor

/-- The place of the row that a cursor moves to next. -/
def nextPlace (c : Cursor) : Nat :=
  match c.position with
  | none => 0
  | some p => p + 1

/-- The rows that a cursor has still to give. -/
def rest (c : Cursor) : List RawRow := c.rows.drop c.nextPlace

variable {c : Cursor} {s : Store}

/-- A cursor that has rows to give moves to the first of them. -/
theorem advance_of_rest_eq_cons (hopen : c.isClosed = false)
    (hfault : s.advanceLimit? ≠ some c.yielded) {row : RawRow} {others : List RawRow}
    (hrest : c.rest = row :: others) :
    ∃ c', c.advance s = (.ok true, c') ∧ c'.isClosed = false ∧ c'.current? = some row ∧
      c'.rest = others := by
  have hlt : c.nextPlace < c.rows.length := by
    by_cases hlt : c.nextPlace < c.rows.length
    · exact hlt
    · rw [rest, List.drop_eq_nil_of_le (Nat.le_of_not_lt hlt)] at hrest
      cases hrest
  rw [rest, List.drop_eq_getElem_cons hlt] at hrest
  obtain ⟨hrow, hothers⟩ := List.cons.inj hrest
  refine ⟨{ c with position := some c.nextPlace, yielded := c.yielded + 1 }, ?_, hopen, ?_, hothers⟩
  · rw [advance, if_neg (Bool.eq_false_iff.1 hopen), if_neg hfault]
    exact if_pos hlt
  · rw [current?, Option.bind_some, List.getElem?_eq_getElem hlt, hrow]

/-- A cursor that has no rows to give finds the end. -/
theorem advance_of_rest_eq_nil (hopen : c.isClosed = false)
    (hfault : s.advanceLimit? ≠ some c.yielded) (hrest : c.rest = []) :
    ∃ c', c.advance s = (.ok false, c') := by
  have hle : ¬ c.nextPlace < c.rows.length := Nat.not_lt.2 (List.drop_eq_nil_iff.1 hrest)
  refine ⟨{ c with position := some c.rows.length }, ?_⟩
  rw [advance, if_neg (Bool.eq_false_iff.1 hopen), if_neg hfault]
  exact if_neg hle

end Cursor

/-- A reader moves as its cursor does. -/
theorem SplitCursor.advance_eq {c : SplitCursor} {s : Store} {inner inner' : Cursor} {moved : Bool}
    (hinner : c.inner = some inner) (h : inner.advance s = (.ok moved, inner')) :
    ∃ c', c.advance s = (.ok moved, c') ∧ c'.inner = some inner' := by
  refine ⟨{ c with inner := some inner', rows := if moved then c.rows + 1 else c.rows }, ?_, rfl⟩
  rw [SplitCursor.advance, hinner]
  dsimp only
  rw [h]

/-- Elements with their places are handled like the elements, if what is done
    with the place does not depend on it. -/
theorem mapM_zipIdx {f : α × Nat → Except ε β} {g : α → Except ε β} (l : List α) :
    ∀ n : Nat, (∀ (i : Nat) (a : α), l[i]? = some a → f (a, n + i) = g a) →
      (l.zipIdx n).mapM f = l.mapM g := by
  induction l with
  | nil => exact fun _ _ => rfl
  | cons a rest ih =>
      intro n h
      have hrest := ih (n + 1) fun i b hb => by
        rw [Nat.add_right_comm, Nat.add_assoc]
        exact h (i + 1) b hb
      rw [List.zipIdx_cons, List.mapM_cons, List.mapM_cons, hrest, ← h 0 a rfl, Nat.add_zero]

namespace Engine

/-- The values of a stored row that an engine asks for. -/
def cells (e : Engine) (row : RawRow) : RawRow :=
  e.projection.map fun column => row[column]?.getD .null

/-- The row that a stored row is converted to: its projected values, each
    converted to the type of its field. -/
def convert (e : Engine) (coercer : Coercer) (row : RawRow) : Except ScanError Row :=
  e.projection.mapM fun column => coercer.coerce column (row[column]?.getD .null)

/-- The row that a cursor gives which stands on the projected values of a stored
    row. -/
theorem currentRow_eq_convert {e : Engine} {coercer : Coercer} {reader : SplitCursor}
    {inner : Cursor} {row : RawRow} (hinner : reader.inner = some inner)
    (hopen : inner.isClosed = false) (hrow : inner.current? = some (e.cells row)) :
    currentRow e.projection reader coercer = e.convert coercer row := by
  -- The cursor holds only the projected values, so places are those in the projection.
  refine mapM_zipIdx e.projection 0 fun i column hcolumn => ?_
  have hvalue : reader.value i = .ok (row[column]?.getD .null) := by
    rw [SplitCursor.value, hinner]
    dsimp only
    rw [Cursor.value, if_neg (Bool.eq_false_iff.1 hopen), hrow]
    dsimp only
    rw [cells, List.getElem?_map, hcolumn]
    rfl
  rw [Nat.zero_add]
  dsimp only
  rw [hvalue]
  rfl

section Reading

variable {e : Engine} {s : Store} {connection : Connection} {coercer : Coercer}
  {reading : Reading} {reader : SplitCursor}

/-- Asking for more while the limit is reached. -/
theorem hasMore_of_limitReached (h : e.limitReached = true) (s : Store) :
    e.hasMore s = (.ok false, e) := by
  rw [hasMore, if_pos h]

/-- Asking for more while a row is pending. -/
theorem hasMore_of_pending (hruntime : e.runtime = .scanning connection coercer reading)
    (hlimit : e.limitReached = false) (hpending : reading.pending = true) (s : Store) :
    e.hasMore s = (.ok true, e) := by
  rw [hasMore, if_neg (Bool.eq_false_iff.1 hlimit), hruntime]
  exact if_pos hpending

/-- Asking for more moves on. -/
theorem hasMore_of_advance (hruntime : e.runtime = .scanning connection coercer reading)
    (hlimit : e.limitReached = false) (hpending : reading.pending = false) {moved : Bool}
    (hadvance : reading.cursor.advance s = (.ok moved, reader)) :
    e.hasMore s =
      (.ok moved, { e with runtime := .scanning connection coercer ⟨reader, moved⟩ }) := by
  rw [hasMore, if_neg (Bool.eq_false_iff.1 hlimit), hruntime]
  dsimp only
  rw [if_neg (Bool.eq_false_iff.1 hpending), hadvance]

/-- A pending row that can be converted is produced. -/
theorem produceNext_of_pending (hruntime : e.runtime = .scanning connection coercer reading)
    (hlimit : e.limitReached = false) (hpending : reading.pending = true) {row : Row}
    (hrow : currentRow e.projection reading.cursor coercer = .ok row) :
    e.produceNext s =
      (.ok row,
        { e with
          runtime := .scanning connection coercer { reading with pending := false }
          recordCount := e.recordCount + 1 }) :=
  produceNext_eq_ok_iff.2 ⟨e, connection, coercer, reading,
    hasMore_of_pending hruntime hlimit hpending s, hruntime, hpending, hrow, rfl⟩

/-- The limit is not reached if it leaves room for a row. -/
theorem limitReached_eq_false (h : ∀ limit, e.limit = some limit → e.recordCount < limit) :
    e.limitReached = false := by
  rw [limitReached]
  cases hlimit : e.limit with
  | none => rfl
  | some limit =>
      rw [Option.any_some, decide_eq_false_iff_not]
      exact Nat.not_le.2 (h limit hlimit)

/-- Where the cursor has no row to give there is no further row. -/
theorem hasMore_of_rest_eq_nil (hs : s.advanceLimit? = none)
    (hruntime : e.runtime = .scanning connection coercer ⟨reader, false⟩) {inner : Cursor}
    (hinner : reader.inner = some inner) (hopen : inner.isClosed = false)
    (hrest : inner.rest = []) :
    ∃ runtime, runtime.link? = some (connection, coercer) ∧
      e.hasMore s = (.ok false, { e with runtime }) := by
  by_cases hlimit : e.limitReached = true
  · -- The limit is used up, so the cursor is not asked.
    refine ⟨e.runtime, by rw [hruntime]; rfl, ?_⟩
    exact hasMore_of_limitReached hlimit s
  · have hfault : s.advanceLimit? ≠ some inner.yielded := by
      rw [hs]
      exact nofun
    rcases Cursor.advance_of_rest_eq_nil hopen hfault hrest with ⟨inner', hadvance⟩
    rcases SplitCursor.advance_eq hinner hadvance with ⟨reader', hadvance', _⟩
    refine ⟨.scanning connection coercer ⟨reader', false⟩, rfl, ?_⟩
    exact hasMore_of_advance hruntime (Bool.eq_false_iff.2 hlimit) rfl hadvance'

/-- Where it has some, the first of them is produced and the others are left. -/
theorem produceNext_of_rest_eq_cons (hs : s.advanceLimit? = none)
    (hruntime : e.runtime = .scanning connection coercer ⟨reader, false⟩)
    (hlimit : e.limitReached = false) {inner : Cursor} (hinner : reader.inner = some inner)
    (hopen : inner.isClosed = false) {row : RawRow} {others : List RawRow}
    (hrest : inner.rest = e.cells row :: others) {first : Row}
    (hfirst : e.convert coercer row = .ok first) :
    ∃ (e₁ : Engine) (reader' : SplitCursor) (inner' : Cursor), e.hasMore s = (.ok true, e₁) ∧
      e₁.produceNext s =
        (.ok first,
          { e with
            runtime := .scanning connection coercer ⟨reader', false⟩
            recordCount := e.recordCount + 1 }) ∧
      reader'.inner = some inner' ∧ inner'.isClosed = false ∧ inner'.rest = others := by
  have hfault : s.advanceLimit? ≠ some inner.yielded := by
    rw [hs]
    exact nofun
  rcases Cursor.advance_of_rest_eq_cons hopen hfault hrest with
    ⟨inner', hadvance, hopen', hcurrent, hrest'⟩
  rcases SplitCursor.advance_eq hinner hadvance with ⟨reader', hadvance', hinner'⟩
  have hrow : currentRow e.projection reader' coercer = .ok first :=
    (currentRow_eq_convert hinner' hopen' hcurrent).trans hfirst
  have hproduce := produceNext_of_pending (s := s)
    (e := { e with runtime := .scanning connection coercer ⟨reader', true⟩ }) rfl hlimit rfl hrow
  exact ⟨_, reader', inner', hasMore_of_advance hruntime hlimit rfl hadvance', hproduce, hinner',
    hopen', hrest'⟩

end Reading

/-- Draining gives nothing while the limit is reached. -/
theorem drain_of_limitReached {e : Engine} (h : e.limitReached = true) (s : Store) :
    e.drain s = ([], none, e) := by
  rw [drain, drainUpTo, hasMore_of_limitReached h]

/-- Draining that does not fail finds no further row, or produces one and goes on. -/
theorem drainUpTo_eq_ok_iff {e last : Engine} {s : Store} {fuel : Nat} {rows : List Row} :
    e.drainUpTo s (fuel + 1) = (rows, none, last) ↔
      (e.hasMore s = (.ok false, last) ∧ rows = []) ∨
        ∃ e₁ e₂ first others, e.hasMore s = (.ok true, e₁) ∧
          e₁.produceNext s = (.ok first, e₂) ∧ e₂.drainUpTo s fuel = (others, none, last) ∧
          rows = first :: others := by
  constructor
  · intro h
    rw [drainUpTo] at h
    rcases hmore : e.hasMore s with ⟨err | moved, e₁⟩
    · rw [hmore] at h
      cases h
    · rw [hmore] at h
      cases moved with
      | false =>
          cases h
          exact Or.inl ⟨rfl, rfl⟩
      | true =>
          dsimp only at h
          rcases hproduce : e₁.produceNext s with ⟨err | first, e₂⟩
          · rw [hproduce] at h
            cases h
          · rw [hproduce] at h
            dsimp only at h
            rcases hdrain : e₂.drainUpTo s fuel with ⟨others, failure, e₃⟩
            rw [hdrain] at h
            cases h
            exact Or.inr ⟨e₁, e₂, first, others, rfl, hproduce, hdrain, rfl⟩
  · rintro (⟨hmore, rfl⟩ | ⟨e₁, e₂, first, others, hmore, hproduce, hdrain, rfl⟩)
    · rw [drainUpTo, hmore]
    · rw [drainUpTo, hmore]
      dsimp only
      rw [hproduce]
      dsimp only
      rw [hdrain]

/-- Draining a split whose cursor has some rows to give, all of them within the
    limit and converted without failure, gives all of them. -/
theorem drainUpTo_eq {s : Store} (hs : s.advanceLimit? = none) {connection : Connection}
    {coercer : Coercer} (stored : List RawRow) :
    ∀ {rows : List Row} {fuel : Nat} {e : Engine} {reader : SplitCursor} {inner : Cursor},
      e.runtime = .scanning connection coercer ⟨reader, false⟩ →
      reader.inner = some inner → inner.isClosed = false → inner.rest = stored.map e.cells →
      stored.mapM (e.convert coercer) = .ok rows →
      (∀ limit, e.limit = some limit → e.recordCount + stored.length ≤ limit) →
      stored.length < fuel →
      ∃ runtime, runtime.link? = some (connection, coercer) ∧
        e.drainUpTo s fuel =
          (rows, none, { e with recordCount := e.recordCount + rows.length, runtime }) := by
  induction stored with
  | nil =>
      intro rows fuel e reader inner hruntime hinner hopen hrest hconvert _ hfuel
      obtain rfl := Except.ok.inj hconvert
      obtain ⟨fuel, rfl⟩ : ∃ n, fuel = n + 1 := ⟨fuel - 1, by omega⟩
      rcases hasMore_of_rest_eq_nil hs hruntime hinner hopen hrest with ⟨runtime, hlink, hmore⟩
      exact ⟨runtime, hlink, drainUpTo_eq_ok_iff.2 (Or.inl ⟨hmore, rfl⟩)⟩
  | cons row others ih =>
      intro rows fuel e reader inner hruntime hinner hopen hrest hconvert hroom hfuel
      obtain ⟨fuel, rfl⟩ : ∃ n, fuel = n + 1 := ⟨fuel - 1, by omega⟩
      rw [List.mapM_cons] at hconvert
      rcases except_bind_eq_ok.1 hconvert with ⟨first, hfirst, hconvert⟩
      rcases except_bind_eq_ok.1 hconvert with ⟨later, hlater, hconvert⟩
      obtain rfl := Except.ok.inj hconvert
      rw [List.length_cons] at hfuel hroom
      -- There is room for all rows, so there is room for this one.
      have hlimit : e.limitReached = false := limitReached_eq_false fun limit h => by
        have hle := hroom limit h
        omega
      rcases produceNext_of_rest_eq_cons hs hruntime hlimit hinner hopen hrest hfirst with
        ⟨e₁, reader', inner', hmore, hproduce, hinner', hopen', hrest'⟩
      -- The engine that has produced the first row goes on with the others.
      rcases ih (e := { e with
          runtime := .scanning connection coercer ⟨reader', false⟩
          recordCount := e.recordCount + 1 }) rfl hinner' hopen' hrest' hlater
        (fun limit h => by
          have hle := hroom limit h
          dsimp only
          omega)
        (Nat.lt_of_succ_lt_succ hfuel) with ⟨runtime, hlink, hdrain⟩
      refine ⟨runtime, hlink, ?_⟩
      rw [List.length_cons, Nat.add_comm later.length 1, ← Nat.add_assoc]
      exact drainUpTo_eq_ok_iff.2 (Or.inr ⟨e₁, _, first, later, hmore, hproduce, hdrain, rfl⟩)

/-- Draining a split that was just opened gives all rows of its cursor. -/
theorem drain_eq {s : Store} (hs : s.advanceLimit? = none) {e : Engine} {connection : Connection}
    {coercer : Coercer} {number : Nat} {region : RegionId} {stored : List RawRow} {rows : List Row}
    (hruntime : e.runtime = .scanning connection coercer
      ⟨⟨number, some ⟨region, stored.map e.cells, none, 0, false⟩, 0⟩, false⟩)
    (hconvert : stored.mapM (e.convert coercer) = .ok rows)
    (hroom : ∀ limit, e.limit = some limit → e.recordCount + stored.length ≤ limit) :
    ∃ runtime, runtime.link? = some (connection, coercer) ∧
      e.drain s = (rows, none, { e with recordCount := e.recordCount + rows.length, runtime }) := by
  have hheld : e.bufferedRows = stored.length := by
    rw [bufferedRows, hruntime]
    exact List.length_map _
  rw [drain, hheld]
  exact drainUpTo_eq hs stored hruntime rfl rfl rfl hconvert hroom (Nat.lt_succ_self _)

end Engine

end RegionScan
