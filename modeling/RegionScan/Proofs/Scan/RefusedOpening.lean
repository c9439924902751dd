import RegionScan.Proofs.Scan.Settings

/-!
# Refused Openings

What a refused attempt to open a split leaves behind.

An engine refuses to open a split in a state without a connection, for a handle
that belongs to another plan, and for a number that the plan does not have. The
first two checks come before anything is done. The third one comes after the
split being read was closed, so an engine that reads a split and is asked for
one that there is not loses the rows that it had still to return. It keeps
everything else: its settings, its counts, and the number of the split it was
reading.

All this is one equation. A refused opening does what closing the split does
(`Engine.openSplit_of_invalidState`), and closing does nothing to an engine that
reads none.

## Main definitions

* `EngineAction.isOpening`: Operations that are to open a split.
* `Engine.givesUp`: An opening that closes the split being read.

## Theorems

* `Engine.openSplit_of_invalidState`: A refused opening only closes.
* `Engine.act_of_invalidState`: The same for all openings.
* `Host.act_of_refusedOpening`: What a refused opening does to a host.
-/

namespace RegionScan

/-- Whether an operation is to open a split. -/
def EngineAction.isOpening : EngineAction → Bool
  | .openSplit _ | .openInput _ => true
  | _ => false

namespace Engine

/-- Whether an operation closes the split being read in order to open another
    one. -/
def givesUp (e : Engine) : EngineAction → Bool
  | .openSplit _ => e.state == .scanning
  | .openInput split => split.total == e.plan.splits.length && e.state == .scanning
  | _ => false

variable {e : Engine} {s : Store} {number : Nat} {operation : EngineOperation} {fault : StateFault}

/-- An engine that reads a split has a connection, patterns and a cursor. -/
theorem runtime_of_scanning (h : e.state = .scanning) :
    ∃ connection coercer reading, e.runtime = .scanning connection coercer reading := by
  rw [state] at h
  cases hruntime : e.runtime with
  | scanning connection coercer reading => exact ⟨connection, coercer, reading, rfl⟩
  | unconfigured =>
      rw [hruntime] at h
      cases h
  | ready _ _ =>
      rw [hruntime] at h
      cases h
  | closed =>
      rw [hruntime] at h
      cases h

/-- Closing the split of an engine that reads none does nothing. -/
theorem closeSplit_of_not_scanning (h : e.state ≠ .scanning) (s : Store) :
    e.closeSplit s = (e, s) := by
  rw [state] at h
  rw [closeSplit]
  cases hruntime : e.runtime with
  | scanning _ _ _ =>
      rw [hruntime] at h
      exact absurd rfl h
  | unconfigured => rfl
  | ready _ _ => rfl
  | closed => rfl

/-- A ready engine refuses only numbers that its plan does not have, and this
    changes nothing. -/
theorem openSplit_ready_of_invalidState {connection : Connection} {coercer : Coercer}
    (hruntime : e.runtime = .ready connection coercer)
    (h : (e.openSplit s number).1 = .error (.invalidState operation fault)) :
    (e.openSplit s number).2 = (e, s) ∧ e.plan.split? number = none ∧
      fault = .noSuchSplit e.plan.splits.length number := by
  have hopening := opening_openSplit hruntime s number
  generalize e.openSplit s number = result at h hopening ⊢
  cases hopening with
  | noSplit hsplit =>
      obtain ⟨_, rfl⟩ := ScanError.invalidState.inj (Except.error.inj h)
      exact ⟨rfl, hsplit, rfl⟩
  | refused _ _ hcursor =>
      -- What the store refuses is an error of the cursor, not of the state.
      rcases SplitCursor.ofRequest_eq_error hcursor with ⟨_, _, _, rfl⟩
      cases h
  | noRows _ _ => cases h
  | opened _ _ _ => cases h

/-- A refused opening closes the split being read and does nothing else. An engine
    that reads one is refused for the number only. -/
theorem openSplit_of_invalidState
    (h : (e.openSplit s number).1 = .error (.invalidState operation fault)) :
    (e.openSplit s number).2 = e.closeSplit s ∧
      (e.state = .scanning → e.plan.split? number = none ∧
        fault = .noSuchSplit e.plan.splits.length number) := by
  cases hruntime : e.runtime with
  | unconfigured =>
      have hstate : e.state ≠ .scanning := by
        rw [state, hruntime]
        exact EngineState.noConfusion
      rw [closeSplit_of_not_scanning hstate, openSplit, hruntime]
      exact ⟨rfl, fun hscanning => absurd hscanning hstate⟩
  | closed =>
      have hstate : e.state ≠ .scanning := by
        rw [state, hruntime]
        exact EngineState.noConfusion
      rw [closeSplit_of_not_scanning hstate, openSplit, hruntime]
      exact ⟨rfl, fun hscanning => absurd hscanning hstate⟩
  | ready connection coercer =>
      rcases openSplit_ready_of_invalidState hruntime h with ⟨hkept, hnumber⟩
      rw [hkept, closeSplit_ready hruntime]
      exact ⟨rfl, fun _ => hnumber⟩
  | scanning connection coercer reading =>
      rw [openSplit_scanning hruntime] at h ⊢
      rcases openSplit_ready_of_invalidState rfl h with ⟨hkept, hnumber⟩
      rw [hkept, closeSplit_scanning hruntime]
      exact ⟨rfl, fun _ => hnumber⟩

/-- Only the split that is being read can be given up. -/
theorem state_of_givesUp {a : EngineAction} (h : e.givesUp a = true) : e.state = .scanning := by
  cases a with
  | openSplit _ => exact beq_iff_eq.1 h
  | openInput _ =>
      rw [givesUp, Bool.and_eq_true] at h
      exact beq_iff_eq.1 h.2
  | _ => cases h

/-- A refused opening does nothing unless it gives up the split being read. Then the
    split is closed. -/
theorem act_of_invalidState {a : EngineAction} (ha : a.isOpening = true)
    (h : e.failure? s a = some (.invalidState operation fault)) :
    (e.givesUp a = false → e.act s a = (e, s)) ∧
      (e.givesUp a = true → e.act s a = e.closeSplit s ∧ ∃ number,
        e.plan.split? number = none ∧ fault = .noSuchSplit e.plan.splits.length number) := by
  cases a with
  | openSplit number =>
      rcases openSplit_of_invalidState (failureOf_eq_some.1 h) with ⟨heq, hnumber⟩
      rw [act, heq]
      refine ⟨fun hkept => ?_, fun hgiven => ⟨rfl, number, hnumber (state_of_givesUp hgiven)⟩⟩
      exact closeSplit_of_not_scanning (beq_eq_false_iff_ne.1 hkept) s
  | openInput split =>
      have h := failureOf_eq_some.1 h
      rw [openInput] at h
      rw [act, openInput]
      by_cases htotal : split.total = e.plan.splits.length
      · rw [if_neg (not_not_intro htotal)] at h ⊢
        rcases openSplit_of_invalidState h with ⟨heq, hnumber⟩
        rw [heq]
        refine ⟨fun hkept => ?_,
          fun hgiven => ⟨rfl, split.number, hnumber (state_of_givesUp hgiven)⟩⟩
        rw [givesUp, htotal, beq_self_eq_true, Bool.true_and] at hkept
        exact closeSplit_of_not_scanning (beq_eq_false_iff_ne.1 hkept) s
      · -- The handle is checked before anything is done.
        rw [if_pos htotal]
        refine ⟨fun _ => rfl, fun hgiven => ?_⟩
        rw [givesUp, beq_false_of_ne htotal, Bool.false_and] at hgiven
        cases hgiven
  | _ => cases ha

/-- An engine that reads no split has no rows to return. -/
theorem produceNext_of_not_scanning (h : e.state ≠ .scanning) (s : Store) :
    e.hasMore s = (.ok false, e) ∧
      e.produceNext s = (.error (.noMoreRows (e.currentSplit.getD 0)), e) := by
  have hmore : e.hasMore s = (.ok false, e) := by
    rw [state] at h
    rw [hasMore]
    by_cases hlimit : e.limitReached = true
    · rw [if_pos hlimit]
    · rw [if_neg hlimit]
      cases hruntime : e.runtime with
      | scanning _ _ _ =>
          rw [hruntime] at h
          exact absurd rfl h
      | unconfigured => rfl
      | ready _ _ => rfl
      | closed => rfl
  refine ⟨hmore, ?_⟩
  rw [produceNext, hmore]

end Engine

namespace Host

/-- What an action of an engine that returns no row does to its host. -/
theorem act_engine_of_row?_eq_none {h : Host} {index : Nat} {x : Session}
    (hx : h.sessions[index]? = some x) {a : EngineAction}
    (hrow : x.engine.row? h.store a = none) :
    h.act (.engine index a) = ⟨(x.engine.act h.store a).2,
      h.sessions.set index ⟨(x.engine.act h.store a).1, x.rows⟩⟩ := by
  rw [act, hx]
  dsimp only
  rw [Session.act, hrow, Option.toList_none, List.append_nil]

/-- An engine refuses to open a split. If it reads no split, or the handle is that
    of another plan, the host stays as it was, so everything that happens later
    is what would have happened anyway. Otherwise the plan has no split of that
    number, and the host is as if the split being read had been closed. The engine
    keeps its settings, its counts and the number of that split, and has no more
    rows of it to return. -/
theorem act_of_refusedOpening {h : Host} {index : Nat} {x : Session}
    (hx : h.sessions[index]? = some x) {a : EngineAction} (hopening : a.isOpening = true)
    {operation : EngineOperation} {fault : StateFault}
    (hrefused : x.engine.failure? h.store a = some (.invalidState operation fault)) :
    (x.engine.givesUp a = false → h.act (.engine index a) = h) ∧
      (x.engine.givesUp a = true →
        h.act (.engine index a) = h.act (.engine index .closeSplit) ∧
        (∃ number, x.engine.plan.split? number = none ∧
          fault = .noSuchSplit x.engine.plan.splits.length number) ∧
        ∃ connection coercer reading z, x.engine.runtime = .scanning connection coercer reading ∧
          (h.act (.engine index a)).sessions[index]? = some z ∧
          z = ⟨{ x.engine with runtime := .ready connection coercer }, x.rows⟩ ∧
          ∀ s, (z.engine.hasMore s).1 = .ok false ∧
            (z.engine.produceNext s).1 = .error (.noMoreRows (x.engine.currentSplit.getD 0))) := by
  rcases List.getElem?_eq_some_iff.1 hx with ⟨hlt, hget⟩
  rcases Engine.act_of_invalidState hopening hrefused with ⟨hkeeps, hcloses⟩
  -- Only asking for a row returns one, and this is no opening.
  have hrow : x.engine.row? h.store a = none := by
    cases a with
    | openSplit _ => rfl
    | openInput _ => rfl
    | _ => cases hopening
  have hsession := act_engine_of_row?_eq_none hx hrow
  refine ⟨fun hkept => ?_, fun hgiven => ?_⟩
  · rw [hsession, hkeeps hkept]
    refine congrArg (Host.mk h.store) ?_
    rw [← hget]
    exact List.set_getElem_self hlt
  · rcases hcloses hgiven with ⟨hact, hnumber⟩
    refine ⟨?_, hnumber, ?_⟩
    · rw [hsession, hact, act_engine_of_row?_eq_none hx rfl]
      rfl
    · rcases Engine.runtime_of_scanning (Engine.state_of_givesUp hgiven) with
        ⟨connection, coercer, reading, hruntime⟩
      rw [Engine.closeSplit_scanning hruntime] at hact
      refine ⟨connection, coercer, reading, _, hruntime, ?_, rfl, fun s => ?_⟩
      · rw [hsession, hact]
        exact List.getElem?_set_self hlt
      · have hnone := Engine.produceNext_of_not_scanning
          (e := { x.engine with runtime := .ready connection coercer })
          (fun hstate => nomatch hstate) s
        rw [hnone.1, hnone.2]
        exact ⟨rfl, rfl⟩

/-- An engine that has returned the first of two rows. -/
def interruptedRun : List HostAction :=
  [.store (.createTable ⟨"db", "t"⟩ [⟨"id", .bigInt, 0, false⟩]),
    .store (.insertRows ⟨"db", "t"⟩ [[.int 1], [.int 2]]),
    .plan ⟨⟨"db", "t"⟩, none, .empty, .empty⟩,
    .engine 0 .configure,
    .engine 0 (.openSplit 0),
    .engine 0 .produceNext]

/-- A handle of another plan is refused without effect. -/
theorem act_interruptedRun :
    ∃ x, ((new (.manual 5)).run interruptedRun).sessions[0]? = some x ∧
      x.engine.failure? ((new (.manual 5)).run interruptedRun).store (.openInput ⟨0, 7⟩)
        = some (.invalidState .openSplit (.otherPlan 1 0 7)) ∧
      ((new (.manual 5)).run interruptedRun).act (.engine 0 (.openInput ⟨0, 7⟩))
        = (new (.manual 5)).run interruptedRun :=
  ⟨_, rfl, rfl, (act_of_refusedOpening rfl rfl rfl).1 rfl⟩

/-- A number that the plan does not have is refused as well, and the second row is
    lost. -/
theorem not_kept_interruptedRun :
    ∃ x z s, ((new (.manual 5)).run interruptedRun).sessions[0]? = some x ∧
      ((new (.manual 5)).run interruptedRun).store = s ∧
      (((new (.manual 5)).run interruptedRun).act (.engine 0 (.openSplit 1))).sessions[0]?
        = some z ∧
      x.engine.failure? s (.openSplit 1) = some (.invalidState .openSplit (.noSuchSplit 1 1)) ∧
      x.engine.state = .scanning ∧ (x.engine.produceNext s).1 = .ok [.bigInt 2] ∧
      z.engine.state = .ready ∧ (z.engine.produceNext s).1 = .error (.noMoreRows 0) :=
  ⟨_, _, _, rfl, rfl, rfl, rfl, rfl, rfl, rfl, rfl⟩

end Host

end RegionScan
