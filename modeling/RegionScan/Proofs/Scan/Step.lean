import RegionScan.Proofs.Store.Reading
import RegionScan.Scan.InputSplit

/-!
# Engine Steps

What a host can do with an engine, and the small steps it is made of.

A host has eleven operations, and several of them are two in one: opening a
split closes the one being read, asking for a row moves to it first, closing an
engine closes its split. Taken apart there are steps that do one thing each.
`Engine.Step` lists them with everything the engine checks before it takes one,
so an invariant of engines is a case analysis over `Step` in which no
operation is ever unfolded.

Operations that are refused take no step. An engine that refuses its output
fields is the one exception: the fields were to make a new engine out of it, so
it is gone, which closes it.

## Main definitions

* `EngineAction`: What a host can do with an engine.
* `Engine.act`, `Engine.row?`: What becomes of the engine, and the row it
  returns.
* `Engine.Step`, `Engine.Steps`: One step, and several of them.
* `Engine.Opening`: What can come of opening a split.

## Theorems

* `Engine.setLimit_cases`, `Engine.project_cases`, `Engine.setFilter_cases`,
  `Engine.configure_cases`: What setting an engine up does. If it is refused, it changes
  nothing.
* `Engine.openSplit_ready`, `Engine.openSplit_scanning`: What opening a split does.
* `Engine.exists_openSplit_eq`, `Engine.opening_openSplit`: What can come of it.
* `Engine.produceNext_eq_ok_iff`: When a row is returned.
* `Engine.act_steps`: Operations are made of steps.
* `Engine.Step.store_eq`: A step changes nothing of the store but what it
  counts.
-/

namespace RegionScan

/-- What a host can do with an engine. -/
inductive EngineAction where
  | setLimit (limit : Nat)
  | project (paths : List (List Nat))
  | setFilter (filter : Filter)
  | setOutputFields (fields : List Field)
  | configure
  | openSplit (number : Nat)
  | openInput (split : InputSplit)
  | hasMore
  | produceNext
  | closeSplit
  | close

namespace SplitCursor

/-- A reader of a split opens a cursor of the store and stands before its
    rows. -/
theorem ofRequest_eq_ok {c : Connection} {s s' : Store} {number : Nat} {r : ScanRequest}
    {cursor : SplitCursor} (h : ofRequest c s number r = (.ok cursor, s')) :
    ∃ inner, c.openCursor s r = (.ok inner, s') ∧ cursor = ⟨number, some inner, 0⟩ := by
  rw [ofRequest] at h
  rcases hopen : c.openCursor s r with ⟨_ | inner, after⟩
  · rw [hopen] at h
    cases h
  · rw [hopen] at h
    obtain ⟨hcursor, rfl⟩ := Prod.mk.inj h
    exact ⟨inner, rfl, (Except.ok.inj hcursor).symm⟩

/-- If there is none, the store refused the cursor, which changed nothing. -/
theorem ofRequest_eq_error {c : Connection} {s s' : Store} {number : Nat} {r : ScanRequest}
    {err : ScanError} (h : ofRequest c s number r = (.error err, s')) :
    s' = s ∧ ∃ refused, c.openCursor s r = (.error refused, s) ∧ err = .cursor number refused := by
  rw [ofRequest] at h
  rcases hopen : c.openCursor s r with ⟨refused | _, after⟩
  · obtain ⟨_, rfl⟩ := Connection.openCursor_eq_error hopen
    rw [hopen] at h
    obtain ⟨herr, rfl⟩ := Prod.mk.inj h
    exact ⟨rfl, refused, rfl, (Except.error.inj herr).symm⟩
  · rw [hopen] at h
    cases h

/-- Closing the reader of a split changes only the counts. -/
theorem close_store (c : SplitCursor) (s : Store) : ∃ u, (c.close s).2 = s.withUsage u := by
  rw [close]
  cases c.inner with
  | none => exact ⟨s.usage, rfl⟩
  | some inner => exact inner.close_store s

end SplitCursor

/-- The connection and the patterns of a runtime that has them. -/
def Runtime.link? : Runtime → Option (Connection × Coercer)
  | .ready connection coercer => some (connection, coercer)
  | .scanning connection coercer _ => some (connection, coercer)
  | _ => none

namespace Engine

/-- The engine and the store after an operation, refused or not. -/
def act (e : Engine) (s : Store) : EngineAction → Engine × Store
  | .setLimit limit => ((e.setLimit limit).2, s)
  | .project paths => ((e.project paths).2, s)
  | .setFilter filter => ((e.setFilter filter).2, s)
  | .setOutputFields fields =>
    match e.setOutputFields fields with
    | .ok e => (e, s)
    | .error _ => e.close s
  | .configure => (e.configure s).2
  | .openSplit number => (e.openSplit s number).2
  | .openInput split => (e.openInput s split).2
  | .hasMore => ((e.hasMore s).2, s)
  | .produceNext => ((e.produceNext s).2, s)
  | .closeSplit => e.closeSplit s
  | .close => e.close s

/-- The row that an operation returns. -/
def row? (e : Engine) (s : Store) : EngineAction → Option Row
  | .produceNext => (e.produceNext s).1.toOption
  | _ => none

/-- One step of an engine on a store, with the row it returns. -/
inductive Step (e : Engine) (s : Store) : Option Row → Engine → Store → Prop where
  | setLimit (limit : Nat) (hstarted : e.started = false) (hopen : e.state ≠ .closed) :
      Step e s none { e with limit := some limit } s
  | project (projection : List Nat) (hstarted : e.started = false) (hopen : e.state ≠ .closed)
      (hcolumns : ∀ column ∈ projection, column < e.plan.width) (hnodup : projection.Nodup) :
      Step e s none { e with projection := projection } s
  | setFilter (filter : Filter) (hstarted : e.started = false) (hopen : e.state ≠ .closed)
      (hnone : e.filter = none)
      (hcolumns : ∀ column, filter.maxColumn? = some column → column < e.plan.width) :
      Step e s none { e with filter := some filter } s
  | setOutputFields (fields : List Field) (hruntime : e.runtime = .unconfigured)
      (hlength : fields.length = e.plan.width) :
      Step e s none { e with fields := fields } s
  | connect {connection : Connection} {coercer : Coercer} {s' : Store}
      (hruntime : e.runtime = .unconfigured)
      (hcompile : Coercer.compile e.fields e.config = .ok coercer)
      (hconnect : s.connect = (.ok connection, s')) :
      Step e s none { e with runtime := .ready connection coercer } s'
  | closeCursor {connection : Connection} {coercer : Coercer} {reading : Reading}
      (hruntime : e.runtime = .scanning connection coercer reading) :
      Step e s none { e with runtime := .ready connection coercer } (reading.cursor.close s).2
  | disconnect {connection : Connection} {coercer : Coercer}
      (hruntime : e.runtime = .ready connection coercer) :
      Step e s none { e with runtime := .closed } (connection.close s).2.2
  | abandon (hruntime : e.runtime = .unconfigured) :
      Step e s none { e with runtime := .closed } s
  | start {connection : Connection} {coercer : Coercer} {number : Nat} {split : Split}
      (hruntime : e.runtime = .ready connection coercer)
      (hsplit : e.plan.split? number = some split) :
      Step e s none { e with started := true, currentSplit := some number } s
  | openCursor {connection : Connection} {coercer : Coercer} {number : Nat} {split : Split}
      {cursor : SplitCursor} {s' : Store}
      (hruntime : e.runtime = .ready connection coercer)
      (hstarted : e.started = true) (hcurrent : e.currentSplit = some number)
      (hsplit : e.plan.split? number = some split) (hlimit : e.limitReached = false)
      (hcursor : SplitCursor.ofRequest connection s number (e.request split) = (.ok cursor, s')) :
      Step e s none { e with runtime := .scanning connection coercer ⟨cursor, false⟩ } s'
  | advance {connection : Connection} {coercer : Coercer} {reading : Reading} (moved : Bool)
      (hruntime : e.runtime = .scanning connection coercer reading)
      (hpending : reading.pending = false) (hlimit : e.limitReached = false)
      (hmoved : moved = true ↔ (reading.cursor.advance s).1 = .ok true) :
      Step e s none
        { e with runtime := .scanning connection coercer ⟨(reading.cursor.advance s).2, moved⟩ } s
  | produce {connection : Connection} {coercer : Coercer} {reading : Reading} {row : Row}
      (hruntime : e.runtime = .scanning connection coercer reading)
      (hpending : reading.pending = true) (hlimit : e.limitReached = false)
      (hrow : currentRow e.projection reading.cursor coercer = .ok row) :
      Step e s (some row)
        { e with
          runtime := .scanning connection coercer { reading with pending := false }
          recordCount := e.recordCount + 1 } s
  | passOver {connection : Connection} {coercer : Coercer} {reading : Reading} {err : ScanError}
      (hruntime : e.runtime = .scanning connection coercer reading)
      (hpending : reading.pending = true) (hlimit : e.limitReached = false)
      (hrow : currentRow e.projection reading.cursor coercer = .error err) :
      Step e s none
        { e with runtime := .scanning connection coercer { reading with pending := false } } s

/-- Steps one after the other, with the rows they return. -/
inductive Steps (e : Engine) (s : Store) : List Row → Engine → Store → Prop where
  | refl : Steps e s [] e s
  | tail {rows : List Row} {row : Option Row} {e₁ e₂ : Engine} {s₁ s₂ : Store}
      (h : Steps e s rows e₁ s₁) (hstep : Step e₁ s₁ row e₂ s₂) :
      Steps e s (rows ++ row.toList) e₂ s₂

theorem Steps.single {e e' : Engine} {s s' : Store} {row : Option Row} (h : Step e s row e' s') :
    Steps e s row.toList e' s' :=
  Steps.refl.tail h

theorem Steps.trans {e₁ e₂ e₃ : Engine} {s₁ s₂ s₃ : Store} {rows rows' : List Row}
    (h : Steps e₁ s₁ rows e₂ s₂) (h' : Steps e₂ s₂ rows' e₃ s₃) :
    Steps e₁ s₁ (rows ++ rows') e₃ s₃ := by
  induction h' with
  | refl =>
      rw [List.append_nil]
      exact h
  | tail _ hstep ih =>
      rw [← List.append_assoc]
      exact ih.tail hstep

theorem state_eq_unconfigured_iff {e : Engine} :
    e.state = .unconfigured ↔ e.runtime = .unconfigured := by
  rw [state]
  cases e.runtime with
  | unconfigured => simp only
  | ready _ _ => simp only [reduceCtorEq]
  | scanning _ _ _ => simp only [reduceCtorEq]
  | closed => simp only [reduceCtorEq]

/-- Settings can be changed if no split was opened and the engine not closed. -/
theorem settable_eq_ok_iff (e : Engine) (operation : EngineOperation) :
    e.settable operation = .ok () ↔ e.started = false ∧ e.state ≠ .closed := by
  rw [settable]
  by_cases h : e.started = true ∨ e.state = .closed
  · rw [if_pos h]
    refine ⟨fun hok => (nomatch hok), fun ⟨hstarted, hopen⟩ => ?_⟩
    rcases h with h | h
    · rw [hstarted] at h
      cases h
    · exact absurd h hopen
  · rw [if_neg h]
    rw [not_or] at h
    exact ⟨fun _ => ⟨Bool.eq_false_iff.2 h.1, h.2⟩, fun _ => rfl⟩

/-- Paths that are accepted name columns of the table, each of them once. -/
theorem checkPaths_eq_ok {width : Nat} (paths : List (List Nat)) :
    ∀ {done projection : List Nat}, checkPaths width done paths = .ok projection →
      (∀ column ∈ done, column < width) → done.Nodup →
      (∀ column ∈ projection, column < width) ∧ projection.Nodup := by
  induction paths with
  | nil =>
      intro done projection h hdone hnodup
      obtain rfl := Except.ok.inj h
      exact ⟨fun column hc => hdone column (List.mem_reverse.1 hc),
        (List.reverse_perm done).symm.nodup hnodup⟩
  | cons path rest ih =>
      intro done projection h hdone hnodup
      -- Only a path of one step names a column; the others are refused.
      rcases path with _ | ⟨column, _ | ⟨_, _⟩⟩
      · cases h
      · rw [checkPaths] at h
        by_cases hw : width ≤ column
        · rw [if_pos hw] at h
          cases h
        · rw [if_neg hw] at h
          by_cases hr : done.contains column = true
          · rw [if_pos hr] at h
            cases h
          · rw [if_neg hr] at h
            rw [List.contains_iff_mem] at hr
            refine ih h (fun c hc => ?_) (List.nodup_cons.2 ⟨hr, hnodup⟩)
            rcases List.mem_cons.1 hc with rfl | hc
            · omega
            · exact hdone c hc
      · cases h

/-- An engine that cannot be set up any more says so. -/
theorem settable_cases (e : Engine) (operation : EngineOperation) :
    (∃ err, e.settable operation = .error err) ∨
      e.settable operation = .ok () ∧ e.started = false ∧ e.state ≠ .closed := by
  cases h : e.settable operation with
  | error err => exact .inl ⟨err, rfl⟩
  | ok _ => exact .inr ⟨rfl, (e.settable_eq_ok_iff operation).1 h⟩

/-- A limit is refused, which changes nothing, or it is set. -/
theorem setLimit_cases (e : Engine) (limit : Nat) :
    (∃ err, e.setLimit limit = (.error err, e)) ∨
      e.started = false ∧ e.state ≠ .closed ∧
        e.setLimit limit = (.ok (), { e with limit := some limit }) := by
  rw [setLimit]
  rcases e.settable_cases .setLimit with ⟨err, h⟩ | ⟨h, hstarted, hopen⟩
  · rw [h]
    exact .inl ⟨err, rfl⟩
  · rw [h]
    exact .inr ⟨hstarted, hopen, rfl⟩

/-- Paths are refused, which changes nothing, or they name columns of the table, each
    of them once. -/
theorem project_cases (e : Engine) (paths : List (List Nat)) :
    (∃ err, e.project paths = (.error err, e)) ∨
      e.started = false ∧ e.state ≠ .closed ∧ ∃ projection,
        (∀ column ∈ projection, column < e.plan.width) ∧ projection.Nodup ∧
        e.project paths = (.ok (), { e with projection := projection }) := by
  rw [project]
  rcases e.settable_cases .setProjectedFields with ⟨err, h⟩ | ⟨h, hstarted, hopen⟩
  · rw [h]
    exact .inl ⟨err, rfl⟩
  · rw [h]
    cases hpaths : checkPaths e.plan.width [] paths with
    | error err => exact .inl ⟨err, rfl⟩
    | ok projection =>
        have hchecked := checkPaths_eq_ok paths hpaths (fun _ hc => nomatch hc) .nil
        exact .inr ⟨hstarted, hopen, projection, hchecked.1, hchecked.2, rfl⟩

/-- A filter is refused, which changes nothing, or it is the first one and names only
    columns of the table. -/
theorem setFilter_cases (e : Engine) (filter : Filter) :
    (∃ err, e.setFilter filter = (.error err, e)) ∨
      e.started = false ∧ e.state ≠ .closed ∧ e.filter = none ∧
        (∀ column, filter.maxColumn? = some column → column < e.plan.width) ∧
        e.setFilter filter = (.ok (), { e with filter := some filter }) := by
  rw [setFilter]
  rcases e.settable_cases .setFilter with ⟨err, h⟩ | ⟨h, hstarted, hopen⟩
  · rw [h]
    exact .inl ⟨err, rfl⟩
  · rw [h]
    dsimp only
    by_cases hfilter : e.filter.isSome = true
    · rw [if_pos hfilter]
      exact .inl ⟨_, rfl⟩
    · rw [if_neg hfilter]
      cases hbeyond : filter.maxColumn?.filter (e.plan.width ≤ ·) with
      | some column => exact .inl ⟨_, rfl⟩
      | none =>
          refine .inr ⟨hstarted, hopen, Option.not_isSome_iff_eq_none.1 hfilter,
            fun column hmax => ?_, rfl⟩
          have hnot := Option.filter_eq_none_iff.1 hbeyond column hmax
          exact Nat.not_le.1 fun hle => hnot (decide_eq_true hle)

/-- Configuring is refused, which changes neither the engine nor the store, or the
    patterns are compiled and the engine is connected. -/
theorem configure_cases (e : Engine) (s : Store) :
    (∃ err, e.configure s = (.error err, e, s)) ∨
      ∃ connection coercer s', e.runtime = .unconfigured ∧
        Coercer.compile e.fields e.config = .ok coercer ∧ s.connect = (.ok connection, s') ∧
        e.configure s = (.ok (), { e with runtime := .ready connection coercer }, s') := by
  rw [configure]
  by_cases hstate : e.state = .unconfigured
  · rw [if_neg (not_not_intro hstate)]
    -- The patterns are compiled before a connection is opened.
    cases hcompile : Coercer.compile e.fields e.config with
    | error err => exact .inl ⟨err, rfl⟩
    | ok coercer =>
        rcases s.connect_cases with ⟨refused, hconnect⟩ | hconnect
        · rw [hconnect]
          exact .inl ⟨.connection refused, rfl⟩
        · rw [hconnect]
          exact .inr ⟨_, coercer, _, state_eq_unconfigured_iff.1 hstate, rfl, rfl, rfl⟩
  · rw [if_pos hstate]
    exact .inl ⟨_, rfl⟩

/-- Configuring works if nothing stands in the way. -/
theorem configure_eq {e : Engine} {s : Store} {coercer : Coercer}
    (hruntime : e.runtime = .unconfigured)
    (hcompile : Coercer.compile e.fields e.config = .ok coercer)
    (hconnect : s.isArmed .connect = false) :
    ∃ u, e.configure s =
      (.ok (), { e with runtime := .ready ⟨false⟩ coercer }, s.withUsage u) := by
  refine ⟨{ s.usage with connectionsOpened := s.usage.connectionsOpened + 1 }, ?_⟩
  rw [configure, if_neg (not_not_intro (state_eq_unconfigured_iff.2 hruntime)), hcompile,
    Store.connect_of_not_armed hconnect]

/-- Closing the split of an engine that reads none does nothing. -/
theorem closeSplit_ready {e : Engine} {connection : Connection} {coercer : Coercer}
    (h : e.runtime = .ready connection coercer) (s : Store) : e.closeSplit s = (e, s) := by
  rw [closeSplit, h]

theorem closeSplit_scanning {e : Engine} {connection : Connection} {coercer : Coercer}
    {reading : Reading} (h : e.runtime = .scanning connection coercer reading) (s : Store) :
    e.closeSplit s =
      ({ e with runtime := .ready connection coercer }, (reading.cursor.close s).2) := by
  rw [closeSplit, h]

/-- What opening a split of a ready engine does. -/
theorem openSplit_ready {e : Engine} {connection : Connection} {coercer : Coercer}
    (h : e.runtime = .ready connection coercer) (s : Store) (number : Nat) :
    e.openSplit s number =
      match e.plan.split? number with
      | none =>
        (.error (.invalidState .openSplit (.noSuchSplit e.plan.splits.length number)), e, s)
      | some split =>
        if e.limitReached then
          (.ok (), { e with started := true, currentSplit := some number }, s)
        else
          match SplitCursor.ofRequest connection s number (e.request split) with
          | (.error err, s) =>
            (.error err, { e with started := true, currentSplit := some number }, s)
          | (.ok cursor, s) =>
            (.ok (),
              { e with
                started := true
                currentSplit := some number
                runtime := .scanning connection coercer ⟨cursor, false⟩ }, s) := by
  rw [openSplit, h]
  simp only [closeSplit_ready h, h]
  cases e.plan.split? number with
  | none => rfl
  | some split => rfl

/-- Opening a split closes the one being read first. -/
theorem openSplit_scanning {e : Engine} {connection : Connection} {coercer : Coercer}
    {reading : Reading} (h : e.runtime = .scanning connection coercer reading) (s : Store)
    (number : Nat) :
    e.openSplit s number =
      { e with runtime := .ready connection coercer : Engine }.openSplit
        (reading.cursor.close s).2 number := by
  rw [openSplit, h]
  simp only [closeSplit_scanning h]
  rfl

/-- An engine without a connection opens no split. -/
theorem openSplit_of_link?_eq_none {e : Engine} (h : e.runtime.link? = none) (s : Store)
    (number : Nat) : e.openSplit s number = (.error (e.refusal .openSplit), e, s) := by
  cases hruntime : e.runtime with
  | unconfigured => rw [openSplit, hruntime]
  | closed => rw [openSplit, hruntime]
  | ready _ _ =>
      rw [hruntime] at h
      cases h
  | scanning _ _ _ =>
      rw [hruntime] at h
      cases h

/-- With a connection it opens a split as if it had none open. If it had one, closing it
    changed only the counts. -/
theorem exists_openSplit_eq {e : Engine} {connection : Connection} {coercer : Coercer}
    (h : e.runtime.link? = some (connection, coercer)) (s : Store) (number : Nat) :
    ∃ u, e.openSplit s number =
      { e with runtime := .ready connection coercer : Engine }.openSplit
        (s.withUsage u) number := by
  cases hruntime : e.runtime with
  | unconfigured =>
      rw [hruntime] at h
      cases h
  | closed =>
      rw [hruntime] at h
      cases h
  | ready c k =>
      rw [hruntime] at h
      obtain ⟨rfl, rfl⟩ := Prod.mk.inj (Option.some.inj h)
      exact ⟨s.usage, by rw [← hruntime]; rfl⟩
  | scanning c k reading =>
      rw [hruntime] at h
      obtain ⟨rfl, rfl⟩ := Prod.mk.inj (Option.some.inj h)
      rcases reading.cursor.close_store s with ⟨u, hu⟩
      exact ⟨u, by rw [openSplit_scanning hruntime, hu]⟩

/-- What can come of opening a split on an engine that has a connection and no split
    open. If there is such a split, the engine is started, whether or not a cursor is
    opened. -/
inductive Opening (e : Engine) (connection : Connection) (coercer : Coercer) (s : Store)
    (number : Nat) : Except ScanError Unit × Engine × Store → Prop where
  /-- The plan has no such split. -/
  | noSplit (hsplit : e.plan.split? number = none) :
    Opening e connection coercer s number
      (.error (.invalidState .openSplit (.noSuchSplit e.plan.splits.length number)), e, s)
  /-- The limit leaves no rows to read. -/
  | noRows {split : Split} (hsplit : e.plan.split? number = some split)
      (hlimit : e.limitReached = true) :
    Opening e connection coercer s number
      (.ok (), { e with started := true, currentSplit := some number }, s)
  /-- The store refuses the cursor. -/
  | refused {split : Split} {err : ScanError} (hsplit : e.plan.split? number = some split)
      (hlimit : e.limitReached = false)
      (hcursor : SplitCursor.ofRequest connection s number (e.request split)
        = (.error err, s)) :
    Opening e connection coercer s number
      (.error err, { e with started := true, currentSplit := some number }, s)
  /-- The store opens a cursor. -/
  | opened {split : Split} {cursor : SplitCursor} {s' : Store}
      (hsplit : e.plan.split? number = some split) (hlimit : e.limitReached = false)
      (hcursor : SplitCursor.ofRequest connection s number (e.request split) = (.ok cursor, s')) :
    Opening e connection coercer s number
      (.ok (),
        { e with
          started := true
          currentSplit := some number
          runtime := .scanning connection coercer ⟨cursor, false⟩ }, s')

/-- One of these does. -/
theorem opening_openSplit {e : Engine} {connection : Connection} {coercer : Coercer}
    (h : e.runtime = .ready connection coercer) (s : Store) (number : Nat) :
    e.Opening connection coercer s number (e.openSplit s number) := by
  rw [openSplit_ready h]
  cases hsplit : e.plan.split? number with
  | none => exact .noSplit hsplit
  | some split =>
      dsimp only
      by_cases hlimit : e.limitReached = true
      · rw [if_pos hlimit]
        exact .noRows hsplit hlimit
      · rw [if_neg hlimit]
        rw [Bool.not_eq_true] at hlimit
        rcases hcursor : SplitCursor.ofRequest connection s number (e.request split)
          with ⟨err | cursor, s'⟩
        · obtain ⟨rfl, _⟩ := SplitCursor.ofRequest_eq_error hcursor
          exact .refused hsplit hlimit hcursor
        · exact .opened hsplit hlimit hcursor

/-- Opening a split of a ready engine starts it, and opens a cursor if the limit
    leaves rows to read and the store lets it. -/
theorem openSplit_ready_steps {e : Engine} {connection : Connection} {coercer : Coercer}
    (h : e.runtime = .ready connection coercer) (s : Store) (number : Nat) :
    Steps e s [] (e.openSplit s number).2.1 (e.openSplit s number).2.2 := by
  have hopening := opening_openSplit h s number
  generalize e.openSplit s number = result at hopening ⊢
  cases hopening with
  | noSplit _ => exact .refl
  | noRows hsplit _ => exact .single (.start h hsplit)
  | refused hsplit _ _ => exact .single (.start h hsplit)
  | opened hsplit hlimit hcursor =>
      exact (Steps.single (.start h hsplit)).tail (.openCursor h rfl rfl hsplit hlimit hcursor)

theorem openSplit_steps (e : Engine) (s : Store) (number : Nat) :
    Steps e s [] (e.openSplit s number).2.1 (e.openSplit s number).2.2 := by
  cases h : e.runtime with
  | unconfigured =>
      rw [openSplit, h]
      exact .refl
  | ready connection coercer => exact openSplit_ready_steps h s number
  | scanning connection coercer reading =>
      rw [openSplit_scanning h]
      -- The split being read is closed first, which is a step of its own.
      exact (Steps.single (.closeCursor h)).trans (openSplit_ready_steps rfl _ number)
  | closed =>
      rw [openSplit, h]
      exact .refl

theorem hasMore_steps (e : Engine) (s : Store) : Steps e s [] (e.hasMore s).2 s := by
  rw [hasMore]
  by_cases hlimit : e.limitReached = true
  · rw [if_pos hlimit]
    exact .refl
  · rw [if_neg hlimit]
    rw [Bool.not_eq_true] at hlimit
    cases h : e.runtime with
    | scanning connection coercer reading =>
        dsimp only
        by_cases hpending : reading.pending = true
        · rw [if_pos hpending]
          exact .refl
        · rw [if_neg hpending]
          rw [Bool.not_eq_true] at hpending
          -- Moving on is a step even if it fails: the reader may have moved.
          refine .single (.advance _ h hpending hlimit ?_)
          cases (reading.cursor.advance s).1 with
          | ok moved => rw [Except.ok.injEq]
          | error _ => simp only [Bool.false_eq_true, reduceCtorEq]
    | unconfigured => exact .refl
    | ready _ _ => exact .refl
    | closed => exact .refl

/-- An engine that says that there is a further row reads a split and stands on
    the row. -/
theorem hasMore_eq_ok_true {e e' : Engine} {s : Store} (h : e.hasMore s = (.ok true, e')) :
    e'.limitReached = false ∧
      ∃ connection coercer reading, e'.runtime = .scanning connection coercer reading ∧
        reading.pending = true := by
  rw [hasMore] at h
  by_cases hlimit : e.limitReached = true
  · rw [if_pos hlimit] at h
    cases h
  · rw [if_neg hlimit] at h
    rw [Bool.not_eq_true] at hlimit
    cases hruntime : e.runtime with
    | scanning connection coercer reading =>
        rw [hruntime] at h
        dsimp only at h
        by_cases hpending : reading.pending = true
        · rw [if_pos hpending] at h
          obtain rfl := (Prod.mk.inj h).2
          exact ⟨hlimit, connection, coercer, reading, hruntime, hpending⟩
        · rw [if_neg hpending] at h
          obtain ⟨hanswer, rfl⟩ := Prod.mk.inj h
          refine ⟨hlimit, connection, coercer, _, rfl, ?_⟩
          rw [hanswer]
    | unconfigured =>
        rw [hruntime] at h
        cases h
    | ready _ _ =>
        rw [hruntime] at h
        cases h
    | closed =>
        rw [hruntime] at h
        cases h

/-- A row is returned if there is one and it can be converted. It is used up and
    counted. -/
theorem produceNext_eq_ok_iff {e after : Engine} {s : Store} {row : Row} :
    e.produceNext s = (.ok row, after) ↔
      ∃ e' connection coercer reading, e.hasMore s = (.ok true, e') ∧
        e'.runtime = .scanning connection coercer reading ∧ reading.pending = true ∧
        currentRow e'.projection reading.cursor coercer = .ok row ∧
        after = { e' with
          runtime := .scanning connection coercer { reading with pending := false }
          recordCount := e'.recordCount + 1 } := by
  constructor
  · intro h
    rw [produceNext] at h
    rcases hanswer : e.hasMore s with ⟨err | moved, e'⟩
    · rw [hanswer] at h
      cases h
    · rw [hanswer] at h
      cases moved with
      | false => cases h
      | true =>
          rcases hasMore_eq_ok_true hanswer with
            ⟨_, connection, coercer, reading, hruntime, hpending⟩
          dsimp only at h
          rw [hruntime] at h
          dsimp only at h
          cases hrow : currentRow e'.projection reading.cursor coercer with
          | error err =>
              rw [hrow] at h
              cases h
          | ok produced =>
              rw [hrow] at h
              obtain ⟨hproduced, rfl⟩ := Prod.mk.inj h
              obtain rfl := Except.ok.inj hproduced
              exact ⟨e', connection, coercer, reading, rfl, hruntime, hpending, hrow, rfl⟩
  · rintro ⟨e', connection, coercer, reading, hmore, hruntime, -, hrow, rfl⟩
    rw [produceNext, hmore]
    dsimp only
    rw [hruntime]
    dsimp only
    rw [hrow]

theorem produceNext_steps (e : Engine) (s : Store) :
    Steps e s (e.produceNext s).1.toOption.toList (e.produceNext s).2 s := by
  have hmore := e.hasMore_steps s
  rw [produceNext]
  -- Asking for a row is asking whether there is one, and then reading it.
  rcases hanswer : e.hasMore s with ⟨err | moved, e'⟩
  · rw [hanswer] at hmore
    exact hmore
  · rw [hanswer] at hmore
    cases moved with
    | false => exact hmore
    | true =>
        -- There is a row, and the engine returns it or passes over it.
        rcases hasMore_eq_ok_true hanswer with ⟨hlimit, connection, coercer, reading, h, hpending⟩
        dsimp only
        rw [h]
        dsimp only
        cases hrow : currentRow e'.projection reading.cursor coercer with
        | error err => exact hmore.tail (.passOver h hpending hlimit hrow)
        | ok row => exact hmore.tail (.produce h hpending hlimit hrow)

theorem closeSplit_steps (e : Engine) (s : Store) :
    Steps e s [] (e.closeSplit s).1 (e.closeSplit s).2 := by
  rw [closeSplit]
  cases h : e.runtime with
  | scanning connection coercer reading => exact .single (.closeCursor h)
  | unconfigured => exact .refl
  | ready _ _ => exact .refl
  | closed => exact .refl

theorem close_steps (e : Engine) (s : Store) : Steps e s [] (e.close s).1 (e.close s).2 := by
  rw [close]
  cases h : e.runtime with
  | unconfigured =>
      rw [closeSplit, h]
      dsimp only
      rw [h]
      exact .single (.abandon h)
  | ready connection coercer =>
      rw [closeSplit, h]
      dsimp only
      rw [h]
      exact .single (.disconnect h)
  | scanning connection coercer reading =>
      rw [closeSplit, h]
      exact (Steps.single (.closeCursor h)).tail (.disconnect rfl)
  | closed =>
      rw [closeSplit, h]
      dsimp only
      rw [h]
      -- An engine that is closed stays as it is.
      have hclosed : { e with runtime := .closed } = e := by
        rw [← h]
      rw [hclosed]
      exact .refl

/-- Every operation is made of steps. -/
theorem act_steps (e : Engine) (s : Store) (a : EngineAction) :
    Steps e s (e.row? s a).toList (e.act s a).1 (e.act s a).2 := by
  cases a with
  | setLimit limit =>
      rw [act]
      rcases e.setLimit_cases limit with ⟨_, h⟩ | ⟨hstarted, hopen, h⟩
      · rw [h]
        exact .refl
      · rw [h]
        exact .single (.setLimit limit hstarted hopen)
  | project paths =>
      rw [act]
      rcases e.project_cases paths with ⟨_, h⟩ | ⟨hstarted, hopen, _, hcolumns, hnodup, h⟩
      · rw [h]
        exact .refl
      · rw [h]
        exact .single (.project _ hstarted hopen hcolumns hnodup)
  | setFilter filter =>
      rw [act]
      rcases e.setFilter_cases filter with ⟨_, h⟩ | ⟨hstarted, hopen, hnone, hcolumns, h⟩
      · rw [h]
        exact .refl
      · rw [h]
        exact .single (.setFilter filter hstarted hopen hnone hcolumns)
  | setOutputFields fields =>
      rw [act, setOutputFields]
      by_cases hstate : e.state = .unconfigured
      · rw [if_neg (not_not_intro hstate)]
        by_cases hlength : fields.length = e.plan.width
        · rw [if_neg (not_not_intro hlength)]
          exact .single (.setOutputFields fields (state_eq_unconfigured_iff.1 hstate) hlength)
        · -- A refusal loses the engine, which closes it.
          rw [if_pos hlength]
          exact e.close_steps s
      · rw [if_pos hstate]
        exact e.close_steps s
  | configure =>
      rw [act]
      rcases e.configure_cases s with ⟨_, h⟩ | ⟨_, _, _, hruntime, hcompile, hconnect, h⟩
      · rw [h]
        exact .refl
      · rw [h]
        exact .single (.connect hruntime hcompile hconnect)
  | openSplit number => exact e.openSplit_steps s number
  | openInput split =>
      rw [act, openInput]
      by_cases htotal : split.total ≠ e.plan.splits.length
      · rw [if_pos htotal]
        exact .refl
      · rw [if_neg htotal]
        exact e.openSplit_steps s split.number
  | hasMore => exact e.hasMore_steps s
  | produceNext => exact e.produceNext_steps s
  | closeSplit => exact e.closeSplit_steps s
  | close => exact e.close_steps s

/-- A step changes nothing of the store but what it counts. -/
theorem Step.store_eq {e e' : Engine} {s s' : Store} {row : Option Row} (h : Step e s row e' s') :
    ∃ u, s' = s.withUsage u := by
  cases h with
  | connect _ _ hconnect => exact ⟨_, (Store.connect_eq_ok hconnect).2⟩
  | closeCursor _ => exact SplitCursor.close_store _ s
  | disconnect _ => exact Connection.close_store _ s
  | openCursor _ _ _ _ _ hcursor =>
      rcases SplitCursor.ofRequest_eq_ok hcursor with ⟨_, hopen, _⟩
      rcases Connection.openCursor_eq_ok hopen with ⟨_, _, _, hs⟩
      exact ⟨_, hs⟩
  | setLimit _ _ _ => exact ⟨s.usage, rfl⟩
  | project _ _ _ _ _ => exact ⟨s.usage, rfl⟩
  | setFilter _ _ _ _ _ => exact ⟨s.usage, rfl⟩
  | setOutputFields _ _ _ => exact ⟨s.usage, rfl⟩
  | abandon _ => exact ⟨s.usage, rfl⟩
  | start _ _ => exact ⟨s.usage, rfl⟩
  | advance _ _ _ _ _ => exact ⟨s.usage, rfl⟩
  | produce _ _ _ _ => exact ⟨s.usage, rfl⟩
  | passOver _ _ _ _ => exact ⟨s.usage, rfl⟩

/-- So do several. -/
theorem Steps.store_eq {e e' : Engine} {s s' : Store} {rows : List Row}
    (h : Steps e s rows e' s') : ∃ u, s' = s.withUsage u := by
  induction h with
  | refl => exact ⟨s.usage, rfl⟩
  | tail _ hstep ih =>
      rcases ih with ⟨u, rfl⟩
      rcases hstep.store_eq with ⟨u', rfl⟩
      exact ⟨u', rfl⟩

/-- Closing a split changes only the runtime, which keeps its connection. -/
theorem closeSplit_eq (e : Engine) (s : Store) :
    ∃ runtime u, e.closeSplit s = ({ e with runtime }, s.withUsage u) ∧
      runtime.link? = e.runtime.link? := by
  rw [closeSplit]
  cases h : e.runtime with
  | scanning connection coercer reading =>
      rcases reading.cursor.close_store s with ⟨u, hu⟩
      exact ⟨.ready connection coercer, u, congrArg (Prod.mk _) hu, rfl⟩
  | unconfigured => exact ⟨e.runtime, s.usage, rfl, by rw [h]⟩
  | ready _ _ => exact ⟨e.runtime, s.usage, rfl, by rw [h]⟩
  | closed => exact ⟨e.runtime, s.usage, rfl, by rw [h]⟩

/-- Closing an engine changes only the runtime. -/
theorem close_eq (e : Engine) (s : Store) :
    ∃ u, e.close s = ({ e with runtime := .closed }, s.withUsage u) := by
  rcases e.closeSplit_eq s with ⟨runtime, u, hsplit, _⟩
  rw [close, hsplit]
  cases runtime with
  | ready connection coercer =>
      rcases connection.close_store (s.withUsage u) with ⟨u', hu'⟩
      exact ⟨u', congrArg (Prod.mk _) hu'⟩
  | unconfigured => exact ⟨u, rfl⟩
  | scanning _ _ _ => exact ⟨u, rfl⟩
  | closed => exact ⟨u, rfl⟩

end Engine

end RegionScan
