import RegionScan.Proofs.Scan.Host
import RegionScan.Proofs.Store.Valid

/-!
# Valid Engines

What an engine may rely on, long after it was planned.

A plan is a memory of the table: its columns and the boundaries of its regions.
The table goes on, the plan does not. What keeps the two together is little. A
table never loses its number or its columns, the columns are numbered by their
places, and every row that was ever written has a value for each. The plan's
splits are the regions of some table of that number, though no longer of the
table as it is.

The rest of the invariant ties the engine's settings to its plan: the projection
names columns there are, and the compiled patterns are those of the engine's
own fields, which cannot be changed once there is a connection.

## Main definitions

* `Engine.Valid`: A plan that fits its table, and settings that fit the plan.

## Theorems

* `Engine.Valid.step`: Steps keep an engine valid.
* `Host.valid_run`: Stores and engines are valid after every run.
-/

namespace RegionScan

namespace Engine

/-- An engine whose plan fits its table and whose settings fit the plan. -/
structure Valid (e : Engine) (s : Store) : Prop where
  planned : ∃ t planned rowsPerRegion, s.tables.find? e.config.table = some t ∧ t.Valid ∧
    e.plan.columns = t.columns ∧ t.id = planned.id ∧
    e.plan.splits = Table.regions planned e.config.table rowsPerRegion
  projection_lt : ∀ column ∈ e.projection, column < e.plan.width
  fields_length : e.fields.length = e.plan.width
  linked : ∀ connection coercer, e.runtime.link? = some (connection, coercer) →
    connection.isClosed = false ∧ Coercer.compile e.fields e.config = .ok coercer

/-- A new engine is valid. -/
theorem valid_make {s s' : Store} {config : ScanConfig} {e : Engine} (hs : s.Valid)
    (h : make s config = (.ok e, s')) : e.Valid s' := by
  rcases make_eq_ok h with ⟨t, ht, _, rfl⟩
  rcases make_store s config with ⟨u, hu⟩
  obtain rfl : s' = s.withUsage u := by rw [← hu, h]
  refine ⟨⟨t, t, s.rowsPerRegion, ht, hs _ t ht, rfl, rfl, rfl⟩, fun column hc => ?_, ?_, ?_⟩
  · exact List.mem_range.1 hc
  · exact List.length_map _
  · exact fun _ _ hlink => nomatch hlink

namespace Valid

variable {e : Engine} {s : Store}

/-- An engine stays valid if its settings are replaced by others that fit and
    its runtime by one with the same connection or none. -/
theorem of_eq (h : e.Valid s) {e' : Engine} (hconfig : e'.config = e.config)
    (hplan : e'.plan = e.plan) (hprojection : ∀ column ∈ e'.projection, column < e.plan.width)
    (hfields : e'.fields = e.fields)
    (hlink : ∀ link, e'.runtime.link? = some link → e.runtime.link? = some link) :
    e'.Valid s where
  planned := by
    rw [hconfig, hplan]
    exact h.planned
  projection_lt := by
    rw [hplan]
    exact hprojection
  fields_length := by
    rw [hfields, hplan]
    exact h.fields_length
  linked := fun connection coercer hc => by
    rw [hfields, hconfig]
    exact h.linked connection coercer (hlink _ hc)

/-- A duplicate of a valid engine is valid. -/
theorem duplicate (h : e.Valid s) : e.duplicate.Valid s :=
  h.of_eq rfl rfl h.projection_lt rfl fun _ hlink => nomatch hlink

/-- The counts of the store play no part in it. -/
theorem withUsage (h : e.Valid s) (u : Usage) : e.Valid (s.withUsage u) :=
  { h with }

/-- A step keeps an engine valid. -/
theorem step {e' : Engine} {s' : Store} {row : Option Row} (hstep : Step e s row e' s')
    (h : e.Valid s) : e'.Valid s' := by
  rcases hstep.store_eq with ⟨u, hs⟩
  -- No step changes more of the store than its counts, so it can stay `s`.
  suffices hsame : e'.Valid s by
    rw [hs]
    exact hsame.withUsage u
  cases hstep with
  | setLimit limit hstarted hopen => exact h.of_eq rfl rfl h.projection_lt rfl fun _ => id
  | project projection hstarted hopen hcolumns hnodup =>
      exact h.of_eq rfl rfl hcolumns rfl fun _ => id
  | setFilter filter hstarted hopen hnone hcolumns =>
      exact h.of_eq rfl rfl h.projection_lt rfl fun _ => id
  | setOutputFields fields hruntime hlength =>
      -- Fields are only exchanged before there is a connection.
      refine ⟨h.planned, h.projection_lt, hlength, fun connection coercer hlink => ?_⟩
      rw [hruntime] at hlink
      cases hlink
  | connect hruntime hcompile hconnect =>
      -- The connection is new and open, and the patterns are those just compiled.
      refine ⟨h.planned, h.projection_lt, h.fields_length, fun connection coercer hlink => ?_⟩
      obtain ⟨rfl, rfl⟩ := Prod.mk.inj (Option.some.inj hlink)
      rw [(Store.connect_eq_ok hconnect).1]
      exact ⟨rfl, hcompile⟩
  | closeCursor hruntime =>
      exact h.of_eq rfl rfl h.projection_lt rfl fun _ hlink => by rw [hruntime]; exact hlink
  | disconnect hruntime => exact h.of_eq rfl rfl h.projection_lt rfl fun _ hlink => nomatch hlink
  | abandon hruntime => exact h.of_eq rfl rfl h.projection_lt rfl fun _ hlink => nomatch hlink
  | start hruntime hsplit => exact h.of_eq rfl rfl h.projection_lt rfl fun _ => id
  | openCursor hruntime hstarted hcurrent hsplit hlimit hcursor =>
      exact h.of_eq rfl rfl h.projection_lt rfl fun _ hlink => by rw [hruntime]; exact hlink
  | advance moved hruntime hpending hlimit hmoved =>
      exact h.of_eq rfl rfl h.projection_lt rfl fun _ hlink => by rw [hruntime]; exact hlink
  | produce hruntime hpending hlimit hrow =>
      exact h.of_eq rfl rfl h.projection_lt rfl fun _ hlink => by rw [hruntime]; exact hlink
  | passOver hruntime hpending hlimit hrow =>
      exact h.of_eq rfl rfl h.projection_lt rfl fun _ hlink => by rw [hruntime]; exact hlink

/-- So do several. -/
theorem steps {e' : Engine} {s' : Store} {rows : List Row} (hsteps : Steps e s rows e' s')
    (h : e.Valid s) : e'.Valid s' := by
  induction hsteps with
  | refl => exact h
  | tail _ hstep ih => exact ih.step hstep

/-- An action of the store keeps an engine valid. -/
theorem storeAct (h : e.Valid s) (a : StoreAction) : e.Valid (s.act a) := by
  rcases h.planned with ⟨t, planned, k, ht, hvalid, hcolumns, hid, hsplits⟩
  refine ⟨?_, h.projection_lt, h.fields_length, h.linked⟩
  -- The table may have grown, but its number and columns are what they were.
  rcases Store.find?_act a ht with ⟨t', ht', hgrown⟩
  refine ⟨t', planned, k, ht', ?_⟩
  rcases hgrown with rfl | ⟨_, hgrows⟩
  · exact ⟨hvalid, hcolumns, hid, hsplits⟩
  · exact ⟨hgrows.valid hvalid, hcolumns.trans hgrows.columns_eq.symm, hgrows.id_eq.trans hid,
      hsplits⟩

end Valid

end Engine

namespace Host

theorem valid_invariant : Invariant Store.Valid fun x s => x.engine.Valid s where
  new := Store.valid_new
  act := fun a hs => Store.valid_act a hs
  usage := fun _ hs => hs
  plan := Engine.valid_make
  duplicate := Engine.Valid.duplicate
  step := Engine.Valid.step
  otherAct := fun a hx => hx.storeAct a
  otherUsage := fun u hx => hx.withUsage u

/-- The engines of a host are valid after every run. -/
theorem valid_run (clock : Clock) (actions : List HostAction) :
    ∀ x ∈ ((Host.new clock).run actions).sessions,
      x.engine.Valid ((Host.new clock).run actions).store :=
  (valid_invariant.run clock actions).2

end Host

end RegionScan
