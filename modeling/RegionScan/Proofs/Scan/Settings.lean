import RegionScan.Proofs.Scan.Host

/-!
# Settings

When the settings of an engine can be changed, and when no more.

An operation that sets an engine up checks everything before it changes
anything, so a refused one leaves the engine and the store as they were. Once
the opening of a split has got past the check of its number, the engine is
started, whether or not a cursor was opened. From then on all settings are
fixed, and so they are once the engine is closed. All splits that an engine ever
opens are therefore read with the same settings.

The argument is about steps. A started engine takes none of the steps that
change a setting, and a closed one takes no step at all. What happens to other
engines and to the store in between does not matter: of every run of a host, an
engine sees the steps it takes itself (`Host.becomes_run`).

## Main definitions

* `Engine.failure?`: The error that an operation is answered with.
* `EngineAction.isSetup`, `EngineAction.isMutator`: Operations that set up, and
  those that change settings.
* `Engine.passesIndex`: Operations that open a split there is.
* `Engine.SameSettings`, `Engine.Frozen`: Engines whose settings are fixed.
* `Engine.Becomes`: What steps make of an engine, on whatever stores.

## Theorems

* `Engine.setup_cases`: A refused setup changes nothing, and fixed settings refuse it.
* `Engine.Frozen.step`, `Engine.Frozen.becomes`: Settings stay fixed.
* `Engine.Frozen.refuses`: They cannot be changed.
* `Host.becomes_act`, `Host.becomes_run`: An engine in a run of its host.
* `Host.act_of_failure`: A refused setup, seen from the host.
* `Host.settings_freeze`: Settings in every run.
-/

namespace RegionScan

/-- Whether an operation sets an engine up for scanning. -/
def EngineAction.isSetup : EngineAction → Bool
  | .setLimit _ | .project _ | .setFilter _ | .configure => true
  | _ => false

/-- Whether an operation changes a setting or the runtime before a scan. -/
def EngineAction.isMutator : EngineAction → Bool
  | .setOutputFields _ => true
  | a => a.isSetup

namespace Engine

/-- The error that an operation is answered with. -/
def failure? (e : Engine) (s : Store) : EngineAction → Option ScanError
  | .setLimit limit => failureOf (e.setLimit limit).1
  | .project paths => failureOf (e.project paths).1
  | .setFilter filter => failureOf (e.setFilter filter).1
  | .setOutputFields fields => failureOf (e.setOutputFields fields)
  | .configure => failureOf (e.configure s).1
  | .openSplit number => failureOf (e.openSplit s number).1
  | .openInput split => failureOf (e.openInput s split).1
  | .hasMore => failureOf (e.hasMore s).1
  | .produceNext => failureOf (e.produceNext s).1
  | .closeSplit => none
  | .close => none

/-- Whether an operation is to open a split, on an engine that has a connection
    and a split of that number. -/
def passesIndex (e : Engine) : EngineAction → Bool
  | .openSplit number => e.runtime.link?.isSome && (e.plan.split? number).isSome
  | .openInput split =>
    split.total == e.plan.splits.length && e.runtime.link?.isSome &&
      (e.plan.split? split.number).isSome
  | _ => false

/-- Two engines that read every split alike. -/
structure SameSettings (e e' : Engine) : Prop where
  config_eq : e'.config = e.config
  plan_eq : e'.plan = e.plan
  fields_eq : e'.fields = e.fields
  limit_eq : e'.limit = e.limit
  projection_eq : e'.projection = e.projection
  filter_eq : e'.filter = e.filter

/-- An engine whose settings are fixed. -/
structure Frozen (e : Engine) : Prop where
  configured : e.state ≠ .unconfigured
  started_or_closed : e.started = true ∨ e.state = .closed

/-- What steps make of an engine, on whatever stores they are taken. -/
inductive Becomes (e : Engine) : Engine → Prop where
  | refl : Becomes e e
  | tail {e₁ e₂ : Engine} {s s' : Store} {row : Option Row} (h : Becomes e e₁)
      (hstep : Step e₁ s row e₂ s') : Becomes e e₂

namespace SameSettings

theorem refl (e : Engine) : e.SameSettings e := ⟨rfl, rfl, rfl, rfl, rfl, rfl⟩

theorem trans {e₁ e₂ e₃ : Engine} (h : e₁.SameSettings e₂) (h' : e₂.SameSettings e₃) :
    e₁.SameSettings e₃ where
  config_eq := h'.config_eq.trans h.config_eq
  plan_eq := h'.plan_eq.trans h.plan_eq
  fields_eq := h'.fields_eq.trans h.fields_eq
  limit_eq := h'.limit_eq.trans h.limit_eq
  projection_eq := h'.projection_eq.trans h.projection_eq
  filter_eq := h'.filter_eq.trans h.filter_eq

end SameSettings

namespace Becomes

variable {e₁ e₂ e₃ : Engine}

theorem trans (h : e₁.Becomes e₂) (h' : e₂.Becomes e₃) : e₁.Becomes e₃ := by
  induction h' with
  | refl => exact h
  | tail _ hstep ih => exact ih.tail hstep

theorem of_steps {s s' : Store} {rows : List Row} (h : Steps e₁ s rows e₂ s') :
    e₁.Becomes e₂ := by
  induction h with
  | refl => exact .refl
  | tail _ hstep ih => exact ih.tail hstep

end Becomes

variable {e e' : Engine} {s s' : Store} {row : Option Row}

/-- An engine that is closed takes no step. -/
theorem Step.state_ne_closed (h : Step e s row e' s') : e.state ≠ .closed := by
  intro hclosed
  rw [state] at hclosed
  cases h with
  | setLimit _ _ hopen => exact hopen hclosed
  | project _ _ hopen _ _ => exact hopen hclosed
  | setFilter _ _ hopen _ _ => exact hopen hclosed
  | setOutputFields _ hruntime _ => simp only [hruntime, reduceCtorEq] at hclosed
  | connect hruntime _ _ => simp only [hruntime, reduceCtorEq] at hclosed
  | closeCursor hruntime => simp only [hruntime, reduceCtorEq] at hclosed
  | disconnect hruntime => simp only [hruntime, reduceCtorEq] at hclosed
  | abandon hruntime => simp only [hruntime, reduceCtorEq] at hclosed
  | start hruntime _ => simp only [hruntime, reduceCtorEq] at hclosed
  | openCursor hruntime _ _ _ _ _ => simp only [hruntime, reduceCtorEq] at hclosed
  | advance _ hruntime _ _ _ => simp only [hruntime, reduceCtorEq] at hclosed
  | produce hruntime _ _ _ => simp only [hruntime, reduceCtorEq] at hclosed
  | passOver hruntime _ _ _ => simp only [hruntime, reduceCtorEq] at hclosed

/-- An engine that has been configured is never unconfigured again. -/
theorem Step.configured (h : Step e s row e' s') (he : e.state ≠ .unconfigured) :
    e'.state ≠ .unconfigured := by
  rw [Ne, state_eq_unconfigured_iff] at he ⊢
  cases h with
  | setLimit _ _ _ => exact he
  | project _ _ _ _ _ => exact he
  | setFilter _ _ _ _ _ => exact he
  | setOutputFields _ _ _ => exact he
  | start _ _ => exact he
  | connect _ _ _ => exact fun hruntime => nomatch hruntime
  | closeCursor _ => exact fun hruntime => nomatch hruntime
  | disconnect _ => exact fun hruntime => nomatch hruntime
  | abandon _ => exact fun hruntime => nomatch hruntime
  | openCursor _ _ _ _ _ _ => exact fun hruntime => nomatch hruntime
  | advance _ _ _ _ _ => exact fun hruntime => nomatch hruntime
  | produce _ _ _ _ => exact fun hruntime => nomatch hruntime
  | passOver _ _ _ _ => exact fun hruntime => nomatch hruntime

/-- A step of an engine whose settings are fixed changes none of them. -/
theorem Frozen.step (he : e.Frozen) (h : Step e s row e' s') : e'.Frozen ∧ e.SameSettings e' := by
  -- A closed engine takes no step, so this one is started.
  have hstarted := he.started_or_closed.resolve_right h.state_ne_closed
  have hconfigured : e.runtime ≠ .unconfigured := mt state_eq_unconfigured_iff.2 he.configured
  have hthen := h.configured he.configured
  have hsettled : e.started = false → False := fun hfalse => by
    rw [hstarted] at hfalse
    cases hfalse
  cases h with
  | setLimit _ hfalse _ => exact (hsettled hfalse).elim
  | project _ hfalse _ _ _ => exact (hsettled hfalse).elim
  | setFilter _ hfalse _ _ _ => exact (hsettled hfalse).elim
  | setOutputFields _ hruntime _ => exact absurd hruntime hconfigured
  | connect hruntime _ _ => exact absurd hruntime hconfigured
  | abandon hruntime => exact absurd hruntime hconfigured
  | closeCursor _ => exact ⟨⟨hthen, .inl hstarted⟩, ⟨rfl, rfl, rfl, rfl, rfl, rfl⟩⟩
  | disconnect _ => exact ⟨⟨hthen, .inl hstarted⟩, ⟨rfl, rfl, rfl, rfl, rfl, rfl⟩⟩
  | start _ _ => exact ⟨⟨hthen, .inl rfl⟩, ⟨rfl, rfl, rfl, rfl, rfl, rfl⟩⟩
  | openCursor _ _ _ _ _ _ => exact ⟨⟨hthen, .inl hstarted⟩, ⟨rfl, rfl, rfl, rfl, rfl, rfl⟩⟩
  | advance _ _ _ _ _ => exact ⟨⟨hthen, .inl hstarted⟩, ⟨rfl, rfl, rfl, rfl, rfl, rfl⟩⟩
  | produce _ _ _ _ => exact ⟨⟨hthen, .inl hstarted⟩, ⟨rfl, rfl, rfl, rfl, rfl, rfl⟩⟩
  | passOver _ _ _ _ => exact ⟨⟨hthen, .inl hstarted⟩, ⟨rfl, rfl, rfl, rfl, rfl, rfl⟩⟩

/-- Nor do several. -/
theorem Frozen.becomes (he : e.Frozen) (h : e.Becomes e') : e'.Frozen ∧ e.SameSettings e' := by
  induction h with
  | refl => exact ⟨he, .refl e⟩
  | tail _ hstep ih =>
      have hnext := ih.1.step hstep
      exact ⟨hnext.1, ih.2.trans hnext.2⟩

theorem Becomes.eq_of_closed (h : e.Becomes e') (hclosed : e.state = .closed) : e' = e := by
  induction h with
  | refl => rfl
  | tail _ hstep ih =>
      rw [ih] at hstep
      exact absurd hclosed hstep.state_ne_closed

theorem Becomes.configured (h : e.Becomes e') (he : e.state ≠ .unconfigured) :
    e'.state ≠ .unconfigured := by
  induction h with
  | refl => exact he
  | tail _ hstep ih => exact hstep.configured ih

/-- An engine that has been configured is not configured again. -/
theorem failure?_configure (he : e.state ≠ .unconfigured) (s : Store) :
    (e.failure? s .configure).isSome = true := by
  rw [failure?, configure, if_pos he]
  rfl

/-- An engine whose settings are fixed cannot be set up any more. -/
theorem Frozen.not_settable (he : e.Frozen) : ¬ (e.started = false ∧ e.state ≠ .closed) := by
  rintro ⟨hstarted, hopen⟩
  cases hstarted.symm.trans (he.started_or_closed.resolve_right hopen)

/-- A setup is refused, which changes neither the engine nor the store, or it is done.
    Then the settings were not fixed, and the engine stays in its state or is connected. -/
theorem setup_cases (e : Engine) (s : Store) {a : EngineAction} (ha : a.isSetup = true) :
    (e.failure? s a).isSome = true ∧ e.act s a = (e, s) ∨
      e.failure? s a = none ∧ ¬ e.Frozen ∧
        ((e.act s a).1.state = e.state ∨ (e.act s a).1.state = .ready) := by
  cases a with
  | setLimit limit =>
      rw [failure?, act]
      rcases e.setLimit_cases limit with ⟨_, hset⟩ | ⟨hstarted, hopen, hset⟩
      · rw [hset]
        exact .inl ⟨rfl, rfl⟩
      · rw [hset]
        exact .inr ⟨rfl, fun he => he.not_settable ⟨hstarted, hopen⟩, .inl rfl⟩
  | project paths =>
      rw [failure?, act]
      rcases e.project_cases paths with ⟨_, hset⟩ | ⟨hstarted, hopen, _, _, _, hset⟩
      · rw [hset]
        exact .inl ⟨rfl, rfl⟩
      · rw [hset]
        exact .inr ⟨rfl, fun he => he.not_settable ⟨hstarted, hopen⟩, .inl rfl⟩
  | setFilter filter =>
      rw [failure?, act]
      rcases e.setFilter_cases filter with ⟨_, hset⟩ | ⟨hstarted, hopen, _, _, hset⟩
      · rw [hset]
        exact .inl ⟨rfl, rfl⟩
      · rw [hset]
        exact .inr ⟨rfl, fun he => he.not_settable ⟨hstarted, hopen⟩, .inl rfl⟩
  | configure =>
      rw [failure?, act]
      rcases e.configure_cases s with ⟨_, hset⟩ | ⟨_, _, _, hruntime, _, _, hset⟩
      · rw [hset]
        exact .inl ⟨rfl, rfl⟩
      · rw [hset]
        exact .inr ⟨rfl, fun he => he.configured (state_eq_unconfigured_iff.2 hruntime), .inr rfl⟩
  | _ => cases ha

/-- An engine whose settings are fixed refuses to change them. -/
theorem Frozen.refuses (he : e.Frozen) (s : Store) {a : EngineAction} (ha : a.isMutator = true) :
    (e.failure? s a).isSome = true := by
  by_cases hsetup : a.isSetup = true
  · exact ((e.setup_cases s hsetup).resolve_right fun hdone => hdone.2.1 he).1
  · -- The one setting that is not set up by an operation of its own.
    cases a with
    | setOutputFields fields =>
        rw [failure?, setOutputFields, if_pos he.configured]
        rfl
    | _ => exact absurd ha hsetup

/-- A setup that is refused changes neither the engine nor the store. -/
theorem act_of_failure {a : EngineAction} (ha : a.isSetup = true)
    (h : (e.failure? s a).isSome = true) : e.act s a = (e, s) := by
  rcases e.setup_cases s ha with ⟨_, hact⟩ | ⟨hnone, _⟩
  · exact hact
  · rw [hnone] at h
    cases h

/-- Opening a split that there is fixes the settings, also if the limit is reached
    or the store refuses the cursor. -/
theorem openSplit_ready_frozen {connection : Connection} {coercer : Coercer}
    (hruntime : e.runtime = .ready connection coercer) (s : Store) {number : Nat}
    (hsplit : (e.plan.split? number).isSome = true) :
    (e.openSplit s number).2.1.Frozen ∧ e.SameSettings (e.openSplit s number).2.1 := by
  have hconfigured : { e with started := true, currentSplit := some number : Engine }.state
      ≠ .unconfigured := by
    rw [state, hruntime]
    intro h
    cases h
  have hopening := opening_openSplit hruntime s number
  generalize e.openSplit s number = result at hopening ⊢
  cases hopening with
  | noSplit hnone =>
      rw [hnone] at hsplit
      cases hsplit
  | noRows _ _ => exact ⟨⟨hconfigured, .inl rfl⟩, ⟨rfl, rfl, rfl, rfl, rfl, rfl⟩⟩
  | refused _ _ _ => exact ⟨⟨hconfigured, .inl rfl⟩, ⟨rfl, rfl, rfl, rfl, rfl, rfl⟩⟩
  | opened _ _ _ => exact ⟨⟨fun h => (by cases h), .inl rfl⟩, ⟨rfl, rfl, rfl, rfl, rfl, rfl⟩⟩

theorem openSplit_frozen (hlink : e.runtime.link?.isSome = true) (s : Store) {number : Nat}
    (hsplit : (e.plan.split? number).isSome = true) :
    (e.openSplit s number).2.1.Frozen ∧ e.SameSettings (e.openSplit s number).2.1 := by
  rcases Option.isSome_iff_exists.1 hlink with ⟨⟨connection, coercer⟩, hlink⟩
  -- The split being read is closed first, which is not a setting.
  rcases exists_openSplit_eq hlink s number with ⟨u, hopen⟩
  rw [hopen]
  have hopened := openSplit_ready_frozen
    (e := { e with runtime := .ready connection coercer }) rfl (s.withUsage u) hsplit
  have hclosed : e.SameSettings { e with runtime := .ready connection coercer } :=
    ⟨rfl, rfl, rfl, rfl, rfl, rfl⟩
  exact ⟨hopened.1, hclosed.trans hopened.2⟩

/-- An operation that opens a split fixes the settings. -/
theorem act_of_passesIndex {a : EngineAction} (h : e.passesIndex a = true) (s : Store) :
    (e.act s a).1.Frozen ∧ e.SameSettings (e.act s a).1 := by
  cases a with
  | openSplit number =>
      rw [passesIndex, Bool.and_eq_true] at h
      exact openSplit_frozen h.1 s h.2
  | openInput split =>
      rw [passesIndex, Bool.and_eq_true, Bool.and_eq_true, beq_iff_eq] at h
      rw [act, openInput, if_neg (not_not_intro h.1.1)]
      exact openSplit_frozen h.1.2 s h.2
  | _ => cases h

/-- An engine that has just been configured is ready. -/
theorem act_configure (h : e.failure? s .configure = none) :
    (e.act s .configure).1.state = .ready := by
  rw [failure?] at h
  rcases e.configure_cases s with ⟨_, hconfigure⟩ | ⟨_, _, _, _, _, _, hconfigure⟩
  · rw [hconfigure] at h
    cases h
  · rw [act, hconfigure]
    rfl

end Engine

namespace Host

/-- In an action of a host an engine takes its own steps, or none. -/
theorem becomes_act {h : Host} {index : Nat} {x : Session} (hx : h.sessions[index]? = some x)
    (a : HostAction) : ∃ y, (h.act a).sessions[index]? = some y ∧ x.engine.Becomes y.engine := by
  have hlt : index < h.sessions.length := (List.getElem?_eq_some_iff.1 hx).1
  cases a with
  | store a => exact ⟨x, hx, .refl⟩
  | plan config =>
      rw [act]
      rcases Engine.make h.store config with ⟨_ | e, s⟩
      · exact ⟨x, hx, .refl⟩
      · -- The new engine comes behind all others.
        exact ⟨x, (List.getElem?_append_left hlt).trans hx, .refl⟩
  | duplicate other =>
      rw [act]
      cases h.sessions[other]? with
      | none => exact ⟨x, hx, .refl⟩
      | some _ => exact ⟨x, (List.getElem?_append_left hlt).trans hx, .refl⟩
  | engine other a =>
      rw [act]
      by_cases hother : other = index
      · rw [hother, hx]
        exact ⟨(x.act h.store a).1, List.getElem?_set_self hlt,
          .of_steps (x.engine.act_steps h.store a)⟩
      · cases h.sessions[other]? with
        | none => exact ⟨x, hx, .refl⟩
        | some _ => exact ⟨x, (List.getElem?_set_ne hother).trans hx, .refl⟩

/-- So it does in a run. -/
theorem becomes_run {index : Nat} (actions : List HostAction) :
    ∀ {h : Host} {x : Session}, h.sessions[index]? = some x →
      ∃ y, (h.run actions).sessions[index]? = some y ∧ x.engine.Becomes y.engine := by
  induction actions with
  | nil => exact fun hx => ⟨_, hx, .refl⟩
  | cons a rest ih =>
      intro h x hx
      rcases becomes_act hx a with ⟨y, hy, hstep⟩
      rcases ih hy with ⟨z, hz, hrest⟩
      exact ⟨z, hz, hstep.trans hrest⟩

/-- A setup that is refused leaves the host as it was. -/
theorem act_of_failure {h : Host} {index : Nat} {x : Session}
    (hx : h.sessions[index]? = some x) {a : EngineAction} (hsetup : a.isSetup = true)
    (hfailure : (x.engine.failure? h.store a).isSome = true) : h.act (.engine index a) = h := by
  rcases List.getElem?_eq_some_iff.1 hx with ⟨hlt, hget⟩
  -- Only asking for a row returns one, and that is no setup.
  have hrow : x.engine.row? h.store a = none := by
    cases a with
    | produceNext => cases hsetup
    | _ => rfl
  have hsession : x.act h.store a = (x, h.store) := by
    rw [Session.act, Engine.act_of_failure hsetup hfailure, hrow, Option.toList_none,
      List.append_nil]
  have hset : h.sessions.set index x = h.sessions := by
    rw [← hget]
    exact List.set_getElem_self hlt
  rw [act, hx]
  dsimp only
  rw [hsession, hset]

/-- An engine acts, and the run goes on. If the action is to set the engine up and
    is refused, the host is as it was. If it opens a split, no setting is changed
    by it. If it opens a split or leaves the engine closed, the settings stay the
    same in the run, and every later operation to change one is refused. A closed
    engine stays closed, and one that has been configured is not configured
    again. -/
theorem settings_freeze (clock : Clock) (before later : List HostAction) (index : Nat)
    (x : Session) (hx : ((new clock).run before).sessions[index]? = some x) (a : EngineAction) :
    ∃ z y : Session,
      ((new clock).run (before ++ [.engine index a])).sessions[index]? = some z ∧
      ((new clock).run (before ++ .engine index a :: later)).sessions[index]? = some y ∧
      (a.isSetup = true →
        (x.engine.failure? ((new clock).run before).store a).isSome = true →
        (new clock).run (before ++ [.engine index a]) = (new clock).run before) ∧
      (x.engine.passesIndex a = true → x.engine.SameSettings z.engine) ∧
      (x.engine.passesIndex a = true ∨ z.engine.state = .closed →
        z.engine.SameSettings y.engine ∧
          ∀ s b, b.isMutator = true → (y.engine.failure? s b).isSome = true) ∧
      (z.engine.state = .closed → y.engine.state = .closed) ∧
      (a = .configure → x.engine.failure? ((new clock).run before).store a = none →
        ∀ s, (y.engine.failure? s .configure).isSome = true) := by
  have hrun : (new clock).run (before ++ [.engine index a])
      = ((new clock).run before).act (.engine index a) := List.foldl_append
  have hlater : (new clock).run (before ++ .engine index a :: later)
      = (((new clock).run before).act (.engine index a)).run later := List.foldl_append
  rw [hrun, hlater]
  generalize (new clock).run before = h at hx
  -- The engine's own action, and what the run makes of the engine after it.
  have hlt : index < h.sessions.length := (List.getElem?_eq_some_iff.1 hx).1
  have hz : (h.act (.engine index a)).sessions[index]? = some (x.act h.store a).1 := by
    rw [act, hx]
    exact List.getElem?_set_self hlt
  rcases becomes_run later hz with ⟨y, hy, hbecomes⟩
  refine ⟨(x.act h.store a).1, y, hz, hy, fun hsetup hfailure => ?_, fun hindex => ?_,
    fun hfixed => ?_, fun hclosed => ?_, fun hconfigure hsuccess s => ?_⟩
  · exact act_of_failure hx hsetup hfailure
  · exact (Engine.act_of_passesIndex hindex h.store).2
  · have hfrozen : (x.act h.store a).1.engine.Frozen := by
      rcases hfixed with hindex | hclosed
      · exact (Engine.act_of_passesIndex hindex h.store).1
      · refine ⟨fun hopen => ?_, .inr hclosed⟩
        rw [hclosed] at hopen
        cases hopen
    have hstays := hfrozen.becomes hbecomes
    exact ⟨hstays.2, fun s b hb => hstays.1.refuses s hb⟩
  · rw [hbecomes.eq_of_closed hclosed]
    exact hclosed
  · subst hconfigure
    have hready := Engine.act_configure hsuccess
    refine Engine.failure?_configure (hbecomes.configured fun hopen => ?_) s
    cases hready.symm.trans hopen

/-- An engine that is configured after a failed attempt. -/
def retriedRun : List HostAction :=
  [.store (.createTable ⟨"db", "t"⟩ [⟨"id", .bigInt, 0, false⟩]),
    .store (.insertRows ⟨"db", "t"⟩ [[.int 10], [.int 20]]),
    .plan ⟨⟨"db", "t"⟩, none, .empty, .empty⟩,
    .store (.inject .connect),
    .engine 0 .configure,
    .store .clearFaults,
    .engine 0 .configure]

/-- When its split is opened and closed again, the limit is refused. -/
theorem refuses_retriedRun :
    ∃ y, ((new (.manual 5)).run
        (retriedRun ++ .engine 0 (.openSplit 0) :: [.engine 0 .closeSplit])).sessions[0]? = some y ∧
      ∀ s, (y.engine.failure? s (.setLimit 1)).isSome = true := by
  rcases settings_freeze (.manual 5) retriedRun [.engine 0 .closeSplit] 0 _ rfl (.openSplit 0) with
    ⟨_, y, _, hy, _, _, hfixed, _⟩
  exact ⟨y, hy, fun s => (hfixed (.inl (by decide))).2 s _ rfl⟩

end Host

end RegionScan
