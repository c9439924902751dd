import RegionScan.Proofs.Scan.ReadSplit

/-!
# Sequential Scans

A scan of all splits in order gives exactly the rows that it should.

Each split gives its rows up to what the limit leaves (`openSplit_drain`), and
what one split gives is gone from the limit of the next. Put together this is
the rows of all splits up to the limit (`remainder_append`), and the splits make
up the table. So a full scan gives the rows of the table that the engine sees
and that pass its filter, in the order of their handles, each of them once, and
of these the first ones if there is a limit. The plan may be older than the
rows: nothing in the argument asks when it was made.

## Main definitions

* `Engine.readAll`: Opening and draining splits one after the other.

## Theorems

* `Engine.Valid.readAll_eq`: A scan of some splits.
* `Engine.readAll_eq_matching`: A scan of all splits.
-/

namespace RegionScan

namespace Engine

/-- Open and drain splits one after the other, until one fails. -/
def readAll (e : Engine) (s : Store) :
    List Nat → List Row × Option ScanError × Engine × Store
  | [] => ([], none, e, s)
  | number :: rest =>
    match e.openSplit s number with
    | (.error err, e, s) => ([], some err, e, s)
    | (.ok (), e, s) =>
      match e.drain s with
      | (rows, some err, e) => (rows, some err, e, s)
      | (rows, none, e) =>
        let (later, failure, e, s) := readAll e s rest
        (rows ++ later, failure, e, s)

/-- A scan that does not fail opens and drains its first split, and reads the others
    with the engine that this leaves. -/
theorem readAll_cons_eq_ok {e last : Engine} {s s' : Store} {number : Nat} {rest : List Nat}
    {rows : List Row} (h : e.readAll s (number :: rest) = (rows, none, last, s')) :
    ∃ e₁ e₂ s₁ first later, e.openSplit s number = (.ok (), e₁, s₁) ∧
      e₁.drain s₁ = (first, none, e₂) ∧ e₂.readAll s₁ rest = (later, none, last, s') ∧
      rows = first ++ later := by
  rw [readAll] at h
  rcases hopen : e.openSplit s number with ⟨err | ⟨⟩, e₁, s₁⟩
  · rw [hopen] at h
    cases h
  · rw [hopen] at h
    dsimp only at h
    rcases hdrain : e₁.drain s₁ with ⟨first, err | _, e₂⟩
    · rw [hdrain] at h
      dsimp only at h
      rcases hlater : e₂.readAll s₁ rest with ⟨later, failure, e₃, s₃⟩
      rw [hlater] at h
      cases h
      exact ⟨e₁, e₂, s₁, first, later, rfl, hdrain, hlater, rfl⟩
    · rw [hdrain] at h
      cases h

/-- The result of several lists, one after the other, is made up of the results
    of each. -/
theorem mapM_flatMap_eq_ok {f : α → Except ε β} {g : σ → List α} (l : List σ) :
    ∀ {out : List β}, (l.flatMap g).mapM f = .ok out →
      ∃ outs : List (List β), outs.length = l.length ∧ out = outs.flatten ∧
        ∀ (i : Nat) (a : σ), l[i]? = some a →
          ∃ part, outs[i]? = some part ∧ (g a).mapM f = .ok part := by
  induction l with
  | nil =>
      intro out h
      exact ⟨[], rfl, (Except.ok.inj h).symm, fun _ _ ha => nomatch ha⟩
  | cons a l ih =>
      intro out h
      rw [List.flatMap_cons] at h
      rcases mapM_append_eq_ok h with ⟨first, later, hfirst, hlater, rfl⟩
      rcases ih hlater with ⟨outs, hlength, rfl, hparts⟩
      refine ⟨first :: outs, congrArg (· + 1) hlength, rfl, fun i b hb => ?_⟩
      cases i with
      | zero =>
          obtain rfl : a = b := Option.some.inj hb
          exact ⟨first, rfl, hfirst⟩
      | succ i => exact hparts i b hb

/-- A scan of splits one after the other gives their rows, converted, as many as
    the limit leaves. The induction is over the splits: an engine that has
    read one is as it was but for its count. -/
theorem Valid.readAll_eq {coercer : Coercer} {connection : Connection} (splits : List Split) :
    ∀ {e : Engine} {s : Store} {numbers : List Nat} {rows : List Row}, e.Valid s →
      e.runtime.link? = some (connection, coercer) → s.faults = [] →
      numbers.map e.plan.split? = splits.map some →
      (∀ row ∈ e.visible s, ∃ answer, Filter.verdict e.filter row.2 = .ok answer) →
      (∀ split ∈ splits, (e.matchingIn s split).length ≤ maxCursorRows) →
      (splits.flatMap (e.matchingIn s)).mapM (fun row => e.convert coercer row.2) = .ok rows →
      (e.readAll s numbers).1 = remainder e.limit e.recordCount rows ∧
        (e.readAll s numbers).2.1 = none := by
  induction splits with
  | nil =>
      intro e s numbers rows _ _ _ hnumbers _ _ hrows
      obtain rfl := List.map_eq_nil_iff.1 hnumbers
      obtain rfl := Except.ok.inj hrows
      refine ⟨?_, rfl⟩
      cases e.limit with
      | none => rfl
      | some limit => exact List.take_nil.symm
  | cons split splits ih =>
      intro e s numbers rows h hlink hfaults hnumbers hfilter hsmall hrows
      rw [List.map_cons] at hnumbers
      rcases List.map_eq_cons_iff.1 hnumbers with ⟨number, rest, rfl, hsplit, hrest⟩
      rw [List.flatMap_cons] at hrows
      -- The rows of this split come first, and those of the others behind them.
      rcases mapM_append_eq_ok hrows with ⟨first, later, hfirst, hlater, rfl⟩
      rcases h.openSplit_drain hlink hfaults hsplit hfilter (hsmall split List.mem_cons_self) hfirst
        with ⟨opened, u, runtime, hopen, hlink', hdrain⟩
      -- Reading the split moved the counters only, so the next split opens as this one did.
      have hvalid : Engine.Valid { e with
          started := true
          currentSplit := some number
          recordCount := e.recordCount + (remainder e.limit e.recordCount first).length
          runtime } (s.withUsage u) :=
        (h.withUsage u).of_eq rfl rfl h.projection_lt rfl fun link hl => by
          rw [hlink, ← hlink']
          exact hl
      have hscan := ih hvalid hlink' hfaults hrest hfilter
        (fun other hother => hsmall other (List.mem_cons_of_mem _ hother)) hlater
      rw [readAll, hopen]
      dsimp only
      rw [hdrain]
      dsimp only
      rw [hscan.1, hscan.2]
      exact ⟨(remainder_append e.limit e.recordCount first later).symm, rfl⟩

end Engine

/-- The numbers of a plan's splits name its splits in order. -/
theorem ScanPlan.map_split?_range (p : ScanPlan) :
    (List.range p.splits.length).map p.split? = p.splits.map some := by
  refine List.ext_getElem? fun i => ?_
  rw [List.getElem?_map, List.getElem?_map]
  by_cases hi : i < p.splits.length
  · rw [List.getElem?_range hi, List.getElem?_eq_getElem hi]
    exact congrArg some (List.getElem?_eq_getElem hi)
  · have hle := Nat.le_of_not_lt hi
    rw [List.getElem?_eq_none (by rw [List.length_range]; exact hle), List.getElem?_eq_none hle]
    rfl

/-- A scan of all splits in order gives the rows of the table that the engine
    sees and that pass its filter, in ascending order of their handles, projected
    and converted: all of them, or as many as the limit allows. The store may
    have been written to in any way since the engine was planned. -/
theorem Engine.readAll_eq_matching (clock : Clock) (actions : List HostAction) (x : Session)
    (hx : x ∈ ((Host.new clock).run actions).sessions) {connection : Connection}
    {coercer : Coercer} (hready : x.engine.runtime = .ready connection coercer)
    (hcount : x.engine.recordCount = 0)
    (hfaults : ((Host.new clock).run actions).store.faults = [])
    (hfilter : ∀ row ∈ x.engine.visible ((Host.new clock).run actions).store,
      ∃ answer, Filter.verdict x.engine.filter row.2 = .ok answer)
    (hsmall : ∀ split ∈ x.engine.plan.splits,
      (x.engine.matchingIn ((Host.new clock).run actions).store split).length ≤ maxCursorRows)
    {rows : List Row}
    (hrows : (x.engine.matching ((Host.new clock).run actions).store).mapM
      (fun row => x.engine.convert coercer row.2) = .ok rows) :
    (x.engine.matching ((Host.new clock).run actions).store).Pairwise (fun a b => a.1 < b.1) ∧
      (∀ handle row, (handle, row) ∈ x.engine.matching ((Host.new clock).run actions).store ↔
        ((Host.new clock).run actions).store.seen? x.engine.config.table
            (Snapshot.lastSeen x.engine.config.snapshot) handle = some row ∧
          Filter.passes x.engine.filter row = true) ∧
      (x.engine.readAll ((Host.new clock).run actions).store
        (List.range x.engine.plan.splits.length)).1 = x.engine.limit.elim rows rows.take ∧
      (x.engine.readAll ((Host.new clock).run actions).store
        (List.range x.engine.plan.splits.length)).2.1 = none := by
  -- The plan's splits make up the table as it is now.
  have hvalid := Host.valid_run clock actions x hx
  rw [← hvalid.flatMap_matchingIn] at hrows
  have hscan := hvalid.readAll_eq x.engine.plan.splits (by rw [hready]; rfl) hfaults
    (ScanPlan.map_split?_range x.engine.plan) hfilter hsmall hrows
  refine ⟨hvalid.matching_ascending, hvalid.mem_matching_iff, ?_, hscan.2⟩
  rw [hscan.1, hcount]
  rfl

/-- An engine that was planned before the table was written to, and reads at a snapshot
    in the middle of it. Up to its snapshot one row was deleted and another one was
    written below all others. After it the same was done with further rows. -/
def staleRun : List HostAction :=
  [.store (.createTable ⟨"db", "t"⟩ [⟨"id", .bigInt, 0, false⟩]),
    .store (.setRegionSize 1),
    .store (.insertRows ⟨"db", "t"⟩ [[.int 10], [.int 20], [.int 30]]),
    .plan ⟨⟨"db", "t"⟩, some (.ofParts 1 2), .empty, .empty⟩,
    .engine 0 (.setLimit 2),
    .engine 0 .configure,
    .store (.delete ⟨"db", "t"⟩ 1),
    .store (.upsert ⟨"db", "t"⟩ (-5) [.int 0]),
    .store (.upsert ⟨"db", "t"⟩ (-6) [.int (-1)]),
    .store (.delete ⟨"db", "t"⟩ 2)]

/-- A scan finds the first row that was written and not the first one that was deleted.
    What was done after the snapshot it does not see. -/
theorem readAll_staleRun :
    ∃ x ∈ ((Host.new (.manual 1)).run staleRun).sessions,
      (x.engine.readAll ((Host.new (.manual 1)).run staleRun).store
        (List.range x.engine.plan.splits.length)).1 = [[.bigInt 0], [.bigInt 20]] := by
  have hx := List.getElem_mem
    (by decide : 0 < ((Host.new (.manual 1)).run staleRun).sessions.length)
  refine ⟨_, hx, ?_⟩
  exact (Engine.readAll_eq_matching (.manual 1) staleRun _ hx rfl rfl rfl
    (fun _ _ => ⟨true, rfl⟩) (by decide) rfl).2.2.1

end RegionScan
