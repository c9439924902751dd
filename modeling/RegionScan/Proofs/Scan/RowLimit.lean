import RegionScan.Proofs.Scan.Host

/-!
# The Row Limit

No engine returns more rows than its limit, whatever is done with it.

The limit is one of the whole engine and no operation counts rows but the one
that returns them. A limit can be set only before the first split is opened, so
it is never set below the count, and a row is returned only while the count is
below the limit. That is all there is to the cap, and it holds through failing
operations, splits opened again and changes of the store, because none of these
returns a row.

Cursors are asked for what the limit leaves. What is asked for is cut to the
largest number that a cursor can be asked for before it is narrowed to 32 bits,
so narrowing it loses nothing (`toNat_limit_request`), even if the limit itself
has more bits than that.

## Main definitions

* `Session.Counted`: The count is that of the rows, within the limit.
* `Engine.budgetAfter`: What a limit leaves after some rows.
* `Engine.Opens`: Opening a split opened a cursor.

## Theorems

* `Session.counted_step`: A step keeps the count.
* `Engine.toNat_limit_request`: A request asks for the budget.
* `Engine.openSplit_opens`: When opening a split opens a cursor.
* `Engine.act_opens`: No other operation opens one.
* `Session.recordCount_le_limit`: The row limit is a cap of the whole run.
-/

namespace RegionScan

namespace Engine

/-- The limit is not reached as long as fewer rows were returned. -/
theorem lt_of_limitReached_eq {e : Engine} (h : e.limitReached = false) {limit : Nat}
    (hlimit : e.limit = some limit) : e.recordCount < limit := by
  rw [limitReached, hlimit, Option.any_some, decide_eq_false_iff_not] at h
  exact Nat.lt_of_not_le h

end Engine

namespace Session

/-- The count of an engine is the number of rows that it has returned. It is
    zero before a split is opened, and within the limit. -/
structure Counted (x : Session) : Prop where
  count_eq : x.engine.recordCount = x.rows.length
  started_of_scanning : x.engine.state = .scanning → x.engine.started = true
  count_of_not_started : x.engine.started = false → x.engine.recordCount = 0
  count_le : ∀ limit, x.engine.limit = some limit → x.engine.recordCount ≤ limit

/-- An engine that has returned nothing yet is counted. -/
theorem counted_new {e : Engine} (hcount : e.recordCount = 0) (hstate : e.state ≠ .scanning) :
    Counted ⟨e, []⟩ where
  count_eq := hcount
  started_of_scanning := fun h => absurd h hstate
  count_of_not_started := fun _ => hcount
  count_le := fun limit _ => hcount ▸ Nat.zero_le limit

/-- An engine that reads a split was started. -/
theorem Counted.started {x : Session} (hx : x.Counted) {connection : Connection}
    {coercer : Coercer} {reading : Reading}
    (hruntime : x.engine.runtime = .scanning connection coercer reading) :
    x.engine.started = true :=
  hx.started_of_scanning (by rw [Engine.state, hruntime])

/-- A step that returns no row keeps an engine counted. Only a new limit could
    break the cap, and there is none once rows are counted. -/
theorem counted_step_none {e e' : Engine} {s s' : Store} {rows : List Row}
    (h : Engine.Step e s none e' s') (hx : Counted ⟨e, rows⟩) : Counted ⟨e', rows⟩ := by
  cases h with
  | setLimit limit hstarted hopen =>
      -- Nothing was returned before the start, so any limit leaves room.
      have hzero := hx.count_of_not_started hstarted
      exact { hx with count_le := fun l _ => hzero ▸ Nat.zero_le l }
  | project projection hstarted hopen hcolumns hnodup => exact { hx with }
  | setFilter filter hstarted hopen hnone hcolumns => exact { hx with }
  | setOutputFields fields hruntime hlength => exact { hx with }
  | connect hruntime hcompile hconnect =>
      exact { hx with started_of_scanning := fun h => by cases h }
  | closeCursor hruntime => exact { hx with started_of_scanning := fun h => by cases h }
  | disconnect hruntime => exact { hx with started_of_scanning := fun h => by cases h }
  | abandon hruntime => exact { hx with started_of_scanning := fun h => by cases h }
  | start hruntime hsplit =>
      exact { hx with
        started_of_scanning := fun _ => rfl
        count_of_not_started := fun h => by cases h }
  | openCursor hruntime hstarted hcurrent hsplit hlimit hcursor =>
      exact { hx with started_of_scanning := fun _ => hstarted }
  | advance moved hruntime hpending hlimit hmoved =>
      exact { hx with started_of_scanning := fun _ => hx.started hruntime }
  | passOver hruntime hpending hlimit hrow =>
      exact { hx with started_of_scanning := fun _ => hx.started hruntime }

/-- A step keeps an engine counted. -/
theorem counted_step {e e' : Engine} {s s' : Store} {row : Option Row} {rows : List Row}
    (h : Engine.Step e s row e' s') (hx : Counted ⟨e, rows⟩) :
    Counted ⟨e', rows ++ row.toList⟩ := by
  cases row with
  | none =>
      rw [Option.toList_none, List.append_nil]
      exact counted_step_none h hx
  | some row =>
      cases h with
      | produce hruntime hpending hlimit hrow =>
          have hstarted := hx.started hruntime
          refine ⟨?_, fun _ => hstarted, fun hnot => ?_, fun limit hsome => ?_⟩
          · rw [List.length_append, ← hx.count_eq]
            rfl
          · rw [hstarted] at hnot
            cases hnot
          · -- The row was produced because the limit was not reached.
            have hsome' : e.limit = some limit := hsome
            exact Engine.lt_of_limitReached_eq hlimit hsome'

/-- All engines are counted, whatever happens to them and to their store. -/
theorem counted_invariant : Host.Invariant (fun _ => True) fun x _ => x.Counted where
  new := fun _ => trivial
  act := fun _ _ => trivial
  usage := fun _ _ => trivial
  plan := fun _ hmake => by
    rcases Engine.make_eq_ok hmake with ⟨t, _, _, rfl⟩
    exact counted_new rfl fun h => by cases h
  duplicate := fun _ => counted_new rfl fun h => by cases h
  step := counted_step
  otherAct := fun _ hx => hx
  otherUsage := fun _ hx => hx

end Session

/-- Closing the reader of a split opens no cursor. -/
theorem SplitCursor.close_cursorsOpened (c : SplitCursor) (s : Store) :
    (c.close s).2.usage.cursorsOpened = s.usage.cursorsOpened := by
  rw [close]
  cases c.inner with
  | none => rfl
  | some inner =>
      dsimp only
      rw [Cursor.close_store_eq]
      by_cases hc : inner.isClosed = true
      · rw [if_pos hc]
        rfl
      · rw [if_neg hc]
        rfl

namespace Engine

/-- The number of rows that a cursor is asked for after so many were returned:
    those that the limit leaves, if there is one, and no more than a cursor can be
    asked for. -/
def budgetAfter (limit : Option Nat) (count : Nat) : Nat :=
  limit.elim maxCursorRows fun limit => min (limit - count) maxCursorRows

theorem budget_eq_budgetAfter (e : Engine) : e.budget = budgetAfter e.limit e.recordCount := by
  rw [budget, budgetAfter]
  cases e.limit with
  | none => rfl
  | some limit => rfl

theorem budget_le (e : Engine) : e.budget ≤ maxCursorRows := by
  rw [budget]
  cases e.limit with
  | none => exact Nat.le_refl _
  | some limit => exact Nat.min_le_right _ _

/-- Narrowing the budget to 32 bits loses nothing. -/
theorem toNat_limit_request (e : Engine) (split : Split) :
    (e.request split).limit.toNat = e.budget := by
  -- The budget was cut to 31 bits before it is narrowed to 32.
  have hle := e.budget_le
  rw [maxCursorRows] at hle
  rw [request, UInt32.toNat_ofNat']
  exact Nat.mod_eq_of_lt (by omega)

/-- Opening a split opened a cursor of the store: the limit was not reached, and
    the engine reads the split with the cursor that its request got. -/
structure Opens (e : Engine) (s : Store) (e' : Engine) (s' : Store) : Prop where
  limitReached_eq : e.limitReached = false
  cursorsOpened_eq : s'.usage.cursorsOpened = s.usage.cursorsOpened + 1
  reading : ∃ connection coercer number split cursor,
    e.plan.split? number = some split ∧
    connection.openCursor (e.closeSplit s).2 (e.request split) = (.ok cursor, s') ∧
    e'.runtime = .scanning connection coercer ⟨⟨number, some cursor, 0⟩, false⟩

/-- Closing a split opens no cursor. -/
theorem closeSplit_cursorsOpened (e : Engine) (s : Store) :
    (e.closeSplit s).2.usage.cursorsOpened = s.usage.cursorsOpened := by
  rw [closeSplit]
  cases e.runtime with
  | scanning connection coercer reading => exact reading.cursor.close_cursorsOpened s
  | unconfigured => rfl
  | ready _ _ => rfl
  | closed => rfl

/-- Closing an engine opens no cursor. -/
theorem close_cursorsOpened (e : Engine) (s : Store) :
    (e.close s).2.usage.cursorsOpened = s.usage.cursorsOpened := by
  rw [← e.closeSplit_cursorsOpened s, close]
  rcases e.closeSplit s with ⟨e', s'⟩
  dsimp only
  cases e'.runtime with
  | ready connection coercer =>
      dsimp only
      rw [Connection.close_store_eq]
      by_cases hc : connection.isClosed = true
      · rw [if_pos hc]
        rfl
      · rw [if_neg hc]
        rfl
  | unconfigured => rfl
  | scanning _ _ _ => rfl
  | closed => rfl

/-- Opening a split of a ready engine opens a cursor or none. -/
theorem openSplit_ready_opens {e : Engine} {connection : Connection} {coercer : Coercer}
    (h : e.runtime = .ready connection coercer) (s : Store) (number : Nat) :
    (e.openSplit s number).2.2 = s ∨
      e.Opens s (e.openSplit s number).2.1 (e.openSplit s number).2.2 := by
  have hopening := opening_openSplit h s number
  generalize e.openSplit s number = result at hopening ⊢
  cases hopening with
  | noSplit _ => exact Or.inl rfl
  | noRows _ _ => exact Or.inl rfl
  | refused _ _ _ => exact Or.inl rfl
  | opened hsplit hlimit hcursor =>
      rcases SplitCursor.ofRequest_eq_ok hcursor with ⟨cursor, hopen, rfl⟩
      rcases Connection.openCursor_eq_ok hopen with ⟨_, _, _, hs⟩
      refine Or.inr ⟨hlimit, congrArg (·.usage.cursorsOpened) hs, ?_⟩
      refine ⟨connection, coercer, number, _, cursor, hsplit, ?_, rfl⟩
      rw [closeSplit_ready h]
      exact hopen

/-- Opening a split opens a cursor for the rows that the limit leaves, or
    none. -/
theorem openSplit_opens (e : Engine) (s : Store) (number : Nat) :
    (e.openSplit s number).2.2.usage.cursorsOpened = s.usage.cursorsOpened ∨
      e.Opens s (e.openSplit s number).2.1 (e.openSplit s number).2.2 := by
  cases h : e.runtime with
  | unconfigured =>
      rw [openSplit, h]
      exact Or.inl rfl
  | ready connection coercer =>
      exact (openSplit_ready_opens h s number).imp_left fun heq => by rw [heq]
  | scanning connection coercer reading =>
      -- Closing the split being read opens nothing, so any cursor opened is the new one.
      have hclose := reading.cursor.close_cursorsOpened s
      rw [openSplit_scanning h]
      rcases openSplit_ready_opens (e := { e with runtime := .ready connection coercer }) rfl
        (reading.cursor.close s).2 number with heq | hopens
      · rw [heq]
        exact Or.inl hclose
      · refine Or.inr ⟨hopens.limitReached_eq, by rw [hopens.cursorsOpened_eq, hclose], ?_⟩
        rw [closeSplit_scanning h]
        exact hopens.reading
  | closed =>
      rw [openSplit, h]
      exact Or.inl rfl

/-- Every operation opens a cursor for the rows that the limit leaves, or
    none. -/
theorem act_opens (e : Engine) (s : Store) (a : EngineAction) :
    (e.act s a).2.usage.cursorsOpened = s.usage.cursorsOpened ∨
      e.Opens s (e.act s a).1 (e.act s a).2 := by
  cases a with
  | openSplit number => exact e.openSplit_opens s number
  | openInput split =>
      rw [act, openInput]
      by_cases htotal : split.total ≠ e.plan.splits.length
      · rw [if_pos htotal]
        exact Or.inl rfl
      · rw [if_neg htotal]
        exact e.openSplit_opens s split.number
  | setOutputFields fields =>
      rw [act]
      cases e.setOutputFields fields with
      | error _ => exact Or.inl (e.close_cursorsOpened s)
      | ok _ => exact Or.inl rfl
  | configure =>
      -- It opens a connection, if anything.
      rw [act]
      rcases e.configure_cases s with ⟨_, h⟩ | ⟨_, _, _, _, _, hconnect, h⟩
      · rw [h]
        exact Or.inl rfl
      · rw [h, (Store.connect_eq_ok hconnect).2]
        exact Or.inl rfl
  | closeSplit => exact Or.inl (e.closeSplit_cursorsOpened s)
  | close => exact Or.inl (e.close_cursorsOpened s)
  | setLimit _ => exact Or.inl rfl
  | project _ => exact Or.inl rfl
  | setFilter _ => exact Or.inl rfl
  | hasMore => exact Or.inl rfl
  | produceNext => exact Or.inl rfl

end Engine

/-- Whatever happens to an engine and its store, the engine counts the rows that
    it has returned and returns no more than its limit. Its next operation does
    not lower the count. It opens no cursor, or the limit is not reached and
    the cursor is asked for exactly the rows that the limit leaves, of which it
    holds no more than that. -/
theorem Session.recordCount_le_limit (clock : Clock) (actions : List HostAction)
    (x : Session) (hx : x ∈ ((Host.new clock).run actions).sessions) :
    x.engine.recordCount = x.rows.length ∧
      (∀ limit, x.engine.limit = some limit → x.rows.length ≤ limit) ∧
      ∀ (s : Store) (a : EngineAction),
        x.engine.recordCount ≤ (x.engine.act s a).1.recordCount ∧
        ((x.engine.act s a).2.usage.cursorsOpened = s.usage.cursorsOpened ∨
          (x.engine.act s a).2.usage.cursorsOpened = s.usage.cursorsOpened + 1 ∧
            (∀ limit, x.engine.limit = some limit → x.rows.length < limit) ∧
            ∃ connection coercer number split cursor,
              x.engine.plan.split? number = some split ∧
              connection.openCursor (x.engine.closeSplit s).2 (x.engine.request split)
                = (.ok cursor, (x.engine.act s a).2) ∧
              (x.engine.act s a).1.runtime
                = .scanning connection coercer ⟨⟨number, some cursor, 0⟩, false⟩ ∧
              (x.engine.request split).limit.toNat
                = Engine.budgetAfter x.engine.limit x.rows.length ∧
              cursor.rows.length ≤ Engine.budgetAfter x.engine.limit x.rows.length) := by
  have hcounted := (Session.counted_invariant.run clock actions).2 x hx
  refine ⟨hcounted.count_eq, fun limit hlimit => ?_, fun s a => ⟨?_, ?_⟩⟩
  · rw [← hcounted.count_eq]
    exact hcounted.count_le limit hlimit
  · -- After the operation the rows are counted again, and there may be one more.
    have hact := Session.counted_invariant.steps (x.engine.act_steps s a) hcounted
    rw [hact.count_eq, hcounted.count_eq, List.length_append]
    exact Nat.le_add_right _ _
  · refine (x.engine.act_opens s a).imp_right fun hopens => ?_
    rcases hopens.reading with ⟨connection, coercer, number, split, cursor, hsplit, hopen, hreading⟩
    -- What is asked for is what the limit leaves after the rows returned.
    have hbudget : (x.engine.request split).limit.toNat
        = Engine.budgetAfter x.engine.limit x.rows.length := by
      rw [x.engine.toNat_limit_request, x.engine.budget_eq_budgetAfter, hcounted.count_eq]
    refine ⟨hopens.cursorsOpened_eq, fun limit hlimit => ?_, connection, coercer, number, split,
      cursor, hsplit, hopen, hreading, hbudget, ?_⟩
    · rw [← hcounted.count_eq]
      exact Engine.lt_of_limitReached_eq hopens.limitReached_eq hlimit
    · -- The cursor holds what was selected, which is no more than was asked for.
      rcases Connection.openCursor_eq_ok hopen with ⟨rows, hread, rfl, _⟩
      rcases (Connection.readRows_eq_ok_iff _ _ _ rows).1 hread with ⟨_, _, _, _, _, hselect⟩
      rw [← hbudget]
      exact Connection.length_selectRows_le _ _ _ hselect

/-- A table of two rows in two regions, and an engine limited to one row that
    is asked for more. -/
def limitedRun : List HostAction :=
  [.store (.createTable ⟨"db", "t"⟩ [⟨"id", .bigInt, 0, false⟩]),
    .store (.setRegionSize 1),
    .store (.insertRows ⟨"db", "t"⟩ [[.int 1], [.int 2]]),
    .plan ⟨⟨"db", "t"⟩, none, .empty, .empty⟩,
    .engine 0 (.setLimit 1),
    .engine 0 .configure,
    .engine 0 (.openSplit 1),
    .engine 0 .produceNext,
    .engine 0 .produceNext,
    .engine 0 (.openSplit 0),
    .engine 0 .produceNext]

/-- The engine of this run has returned its one row, and no more. -/
theorem recordCount_limitedRun :
    ∃ x ∈ ((Host.new (.manual 1)).run limitedRun).sessions,
      x.engine.recordCount = 1 ∧ x.rows.length = 1 := by
  refine ⟨_, List.getElem_mem (by decide : 0 < _), ?_, by decide⟩
  rw [(Session.recordCount_le_limit (.manual 1) limitedRun _ (List.getElem_mem _)).1]
  decide

end RegionScan
