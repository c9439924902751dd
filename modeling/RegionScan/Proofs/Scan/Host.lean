import RegionScan.Proofs.Scan.Step
import RegionScan.Proofs.Store.Action

/-!
# Hosts

Everything that can happen to a store and to the engines on it.

A host has one store and any number of engines on it. It writes to the store and
makes it fail, plans new engines, duplicates old ones and works with each of
them, in any order. An engine is kept together with the rows it has returned,
so what was returned in the course of a run can be spoken of at its end.

The engines meet only in the counts of the store. This makes the induction over
a run the same for every property of single engines: it is enough that the
property holds of a new engine, is kept by the engine's own steps and by actions
of the store, and does not look at the counts (`Host.Invariant.run`).

## Main definitions

* `Session`, `Host`: An engine with its rows, and engines on a store.
* `HostAction`, `Host.act`, `Host.run`: What can happen.
* `Host.Invariant`: What is enough for a property of all engines.

## Theorems

* `Engine.make_eq_ok`: What a new engine knows of its table.
* `Host.Invariant.host_act`, `Host.Invariant.run`: An invariant holds after every
  action, and after every run.
-/

namespace RegionScan

namespace ScanPlan

/-- A plan holds the columns and the regions that the table has when it is
    made. -/
theorem ask_eq_ok {c : Connection} {s : Store} {name : TableRef} {p : ScanPlan}
    (h : ask c s name = .ok p) :
    ∃ t, s.tables.find? name = some t ∧ t.columns.isEmpty = false ∧
      p = ⟨name, t.columns, t.regions name s.rowsPerRegion⟩ := by
  -- The store is asked three times, and nothing happens to it in between.
  rcases except_bind_eq_ok.1 h with ⟨found, _, h⟩
  by_cases hfound : (!found) = true
  · rw [if_pos hfound] at h
    cases h
  · rw [if_neg hfound] at h
    rcases except_bind_eq_ok.1 h with ⟨columns, hcolumns, h⟩
    rcases except_bind_eq_ok.1 (except_mapError_eq_ok.1 hcolumns) with ⟨_, _, hlist⟩
    rcases except_bind_eq_ok.1 hlist with ⟨t, ht, hlist⟩
    obtain rfl := Except.ok.inj hlist
    by_cases hempty : t.columns.isEmpty = true
    · rw [if_pos hempty] at h
      cases h
    · rw [if_neg hempty] at h
      rcases except_bind_eq_ok.1 h with ⟨splits, hsplits, h⟩
      rcases except_bind_eq_ok.1 (except_mapError_eq_ok.1 hsplits) with ⟨_, _, hregions⟩
      rcases except_bind_eq_ok.1 hregions with ⟨t', ht', hregions⟩
      obtain rfl : t = t' := Except.ok.inj (ht.symm.trans ht')
      obtain rfl := Except.ok.inj hregions
      obtain rfl := Except.ok.inj h
      exact ⟨t, (s.table_eq_ok_iff name t).1 ht, Bool.eq_false_iff.2 hempty, rfl⟩

/-- Making a plan changes nothing of the store but what it counts. -/
theorem make_store (s : Store) (config : ScanConfig) :
    ∃ u, (make s config).2 = s.withUsage u := by
  rw [make]
  rcases s.connect_cases with ⟨_, hconnect⟩ | hconnect
  · rw [hconnect]
    exact ⟨s.usage, rfl⟩
  · rw [hconnect]
    exact Connection.close_store ⟨false⟩ _

end ScanPlan

namespace Engine

/-- Planning changes nothing of the store but what it counts. -/
theorem make_store (s : Store) (config : ScanConfig) :
    ∃ u, (make s config).2 = s.withUsage u :=
  ScanPlan.make_store s config

/-- A new engine knows the columns and the regions that its table has when it is
    planned. -/
theorem make_eq_ok {s s' : Store} {config : ScanConfig} {e : Engine}
    (h : make s config = (.ok e, s')) :
    ∃ t, s.tables.find? config.table = some t ∧ t.columns.isEmpty = false ∧
      e = ofPlan config ⟨config.table, t.columns, t.regions config.table s.rowsPerRegion⟩ := by
  rw [make, ScanPlan.make] at h
  rcases s.connect_cases with ⟨_, hconnect⟩ | hconnect
  · rw [hconnect] at h
    cases h
  · rw [hconnect] at h
    dsimp only at h
    generalize hs : s.withUsage _ = connected at h
    cases hask : ScanPlan.ask ⟨false⟩ connected config.table with
    | error _ =>
        rw [hask] at h
        cases h
    | ok p =>
        rw [hask] at h
        -- Connecting left the tables as they were, so the plan is one of `s`.
        rcases ScanPlan.ask_eq_ok hask with ⟨t, ht, hcolumns, rfl⟩
        rw [← hs] at ht
        refine ⟨t, ht, hcolumns, ?_⟩
        rw [← Except.ok.inj (Prod.mk.inj h).1, ← hs]
        rfl

end Engine

/-- An engine with the rows that it has returned. -/
structure Session where
  engine : Engine
  rows : List Row

/-- Engines on one store. -/
structure Host where
  store : Store
  sessions : List Session

/-- What a host can do. -/
inductive HostAction where
  | store (a : StoreAction)
  | plan (config : ScanConfig)
  | duplicate (index : Nat)
  | engine (index : Nat) (a : EngineAction)

namespace Session

/-- A session and the store after an operation of its engine. -/
def act (x : Session) (s : Store) (a : EngineAction) : Session × Store :=
  (⟨(x.engine.act s a).1, x.rows ++ (x.engine.row? s a).toList⟩, (x.engine.act s a).2)

end Session

namespace Host

/-- A host without tables and engines. -/
def new (clock : Clock) : Host := ⟨.new clock, []⟩

/-- The host after an action, refused or not. -/
def act (h : Host) : HostAction → Host
  | .store a => { h with store := h.store.act a }
  | .plan config =>
    match Engine.make h.store config with
    | (.ok e, s) => ⟨s, h.sessions ++ [⟨e, []⟩]⟩
    | (.error _, s) => { h with store := s }
  | .duplicate index =>
    match h.sessions[index]? with
    | some x => { h with sessions := h.sessions ++ [⟨x.engine.duplicate, []⟩] }
    | none => h
  | .engine index a =>
    match h.sessions[index]? with
    | some x => ⟨(x.act h.store a).2, h.sessions.set index (x.act h.store a).1⟩
    | none => h

/-- The host after a run. -/
def run (h : Host) (actions : List HostAction) : Host := actions.foldl act h

/-- What is enough for a property of stores and one of sessions to hold in every
    run. -/
structure Invariant (S : Store → Prop) (P : Session → Store → Prop) : Prop where
  new : ∀ clock, S (.new clock)
  act : ∀ {s} (a : StoreAction), S s → S (s.act a)
  usage : ∀ {s} (u : Usage), S s → S (s.withUsage u)
  plan : ∀ {s s' config e}, S s → Engine.make s config = (.ok e, s') → P ⟨e, []⟩ s'
  duplicate : ∀ {x s}, P x s → P ⟨x.engine.duplicate, []⟩ s
  step : ∀ {e e' s s' row rows}, Engine.Step e s row e' s' → P ⟨e, rows⟩ s →
    P ⟨e', rows ++ row.toList⟩ s'
  otherAct : ∀ {x s} (a : StoreAction), P x s → P x (s.act a)
  otherUsage : ∀ {x s} (u : Usage), P x s → P x (s.withUsage u)

namespace Invariant

variable {S : Store → Prop} {P : Session → Store → Prop}

theorem steps (hI : Invariant S P) {e e' : Engine} {s s' : Store} {rows new : List Row}
    (h : Engine.Steps e s new e' s') (he : P ⟨e, rows⟩ s) : P ⟨e', rows ++ new⟩ s' := by
  induction h with
  | refl =>
      rw [List.append_nil]
      exact he
  | tail _ hstep ih =>
      rw [← List.append_assoc]
      exact hI.step hstep ih

/-- An action of a host keeps an invariant. Only the engine that acts takes
    steps; for the others, no more than the counts have changed. -/
theorem host_act (hI : Invariant S P) {h : Host} (a : HostAction) (hS : S h.store)
    (hP : ∀ x ∈ h.sessions, P x h.store) :
    S (h.act a).store ∧ ∀ x ∈ (h.act a).sessions, P x (h.act a).store := by
  cases a with
  | store a => exact ⟨hI.act a hS, fun x hx => hI.otherAct a (hP x hx)⟩
  | plan config =>
      rcases Engine.make_store h.store config with ⟨u, hu⟩
      rw [Host.act]
      rcases hmake : Engine.make h.store config with ⟨err | e, s⟩
      · obtain rfl : s = h.store.withUsage u := by rw [← hu, hmake]
        exact ⟨hI.usage u hS, fun x hx => hI.otherUsage u (hP x hx)⟩
      · obtain rfl : s = h.store.withUsage u := by rw [← hu, hmake]
        -- The engines that were there see other counts, and the new one is new.
        refine ⟨hI.usage u hS, fun x hx => ?_⟩
        rcases List.mem_append.1 hx with hx | hx
        · exact hI.otherUsage u (hP x hx)
        · rw [List.mem_singleton.1 hx]
          exact hI.plan hS hmake
  | duplicate index =>
      rw [Host.act]
      cases hx : h.sessions[index]? with
      | none => exact ⟨hS, hP⟩
      | some y =>
          refine ⟨hS, fun x hmem => ?_⟩
          rcases List.mem_append.1 hmem with hmem | hmem
          · exact hP x hmem
          · rw [List.mem_singleton.1 hmem]
            exact hI.duplicate (hP y (List.mem_of_getElem? hx))
  | engine index a =>
      rw [Host.act]
      cases hx : h.sessions[index]? with
      | none => exact ⟨hS, hP⟩
      | some y =>
          -- The engine's own steps change no more of the store than its counts.
          have hsteps := y.engine.act_steps h.store a
          rcases hsteps.store_eq with ⟨u, hu⟩
          have hstore : (y.act h.store a).2 = h.store.withUsage u := hu
          dsimp only
          refine ⟨by rw [hstore]; exact hI.usage u hS, fun x hmem => ?_⟩
          rcases List.mem_or_eq_of_mem_set hmem with hmem | rfl
          · rw [hstore]
            exact hI.otherUsage u (hP x hmem)
          · exact hI.steps hsteps (hP y (List.mem_of_getElem? hx))

/-- A run keeps an invariant. -/
theorem host_run (hI : Invariant S P) (actions : List HostAction) :
    ∀ {h : Host}, S h.store → (∀ x ∈ h.sessions, P x h.store) →
      S (h.run actions).store ∧ ∀ x ∈ (h.run actions).sessions, P x (h.run actions).store := by
  induction actions with
  | nil => exact fun hS hP => ⟨hS, hP⟩
  | cons a rest ih =>
      intro h hS hP
      have hact := hI.host_act a hS hP
      exact ih hact.1 hact.2

/-- An invariant holds after every run. -/
theorem run (hI : Invariant S P) (clock : Clock) (actions : List HostAction) :
    S ((Host.new clock).run actions).store ∧
      ∀ x ∈ ((Host.new clock).run actions).sessions, P x ((Host.new clock).run actions).store :=
  hI.host_run actions (hI.new clock) fun _ hx => nomatch hx

end Invariant

end Host

end RegionScan
