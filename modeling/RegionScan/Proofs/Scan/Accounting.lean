import RegionScan.Proofs.Scan.Parallel
import RegionScan.Proofs.Scan.Resources

/-!
# Accounting

What is open in a store is held by an engine, and by only one.

What is open in a store is counted by the engines that hold it. An operation
moves one engine and leaves the others as they are, so it is enough to follow the
one (`Usage.Settled.set`), and the count stays right through every run of a host,
whatever fails in it. Read for one engine at a time, the same moves make up its
life (`Host.life_run`).

The workers of a parallel scan are engines on one store too. What is left to
show of them is that none goes on in the end. A worker that goes on for one
more turn than there are splits has stopped, and one that has stopped does not
start again. A worker that stops has closed its engine, so a scan leaves
nothing open, whether it gives rows or a failure.

## Main definitions

* `Host.Settled`, `ScanRun.Settled`: Everything opened is closed or held.
* `Host.events`: What an engine does in the course of a run.
* `Worker.Released`, `ScanRun.Stopped`: A worker that does not go on.

## Theorems

* `Engine.make_usage`: Planning closes the connection that it opens.
* `Host.Settled.act`, `Host.life_act`: One action of a host.
* `Host.settled_run`, `Host.life_run`: The counts and the lives in every run.
* `ScanRun.Settled.turn`: One turn of a worker.
* `ScanRun.foldl_finish_stopped`: All workers have stopped in the end.
* `Engine.scan_settled`: A parallel scan closes everything that it opens.
* `Host.openCursors_eq_countP`: What is open, engine by engine.
-/

namespace RegionScan

theorem countP_cons_toNat (p : α → Bool) (a : α) (l : List α) :
    (a :: l).countP p = (p a).toNat + l.countP p := by
  rw [List.countP_cons, Nat.add_comm]
  cases p a <;> rfl

/-- Counting in a list of which one element is replaced. -/
theorem countP_set (p : α → Bool) {l : List α} {i : Nat} {a : α} (h : l[i]? = some a) (b : α) :
    ∃ others, l.countP p = others + (p a).toNat ∧ (l.set i b).countP p = others + (p b).toNat := by
  rcases List.getElem?_eq_some_iff.1 h with ⟨hlt, ha⟩
  obtain ⟨left, right, hl, _, hset⟩ : ∃ left right, l = left ++ l[i] :: right ∧
      left.length = i ∧ l.set i b = left ++ b :: right := List.exists_of_set hlt
  have hcount := congrArg (List.countP p) hl
  rw [ha, List.countP_append, countP_cons_toNat] at hcount
  have hcount' := congrArg (List.countP p) hset
  rw [List.countP_append, countP_cons_toNat] at hcount'
  exact ⟨left.countP p + right.countP p, by omega, by omega⟩

/-- One of several engines goes on, and the counts stay settled. -/
theorem Usage.Settled.set {before after : Usage} (state : α → EngineState) {l : List α} {i : Nat}
    {a b : α} {events : List ResourceEvent} (ha : l[i]? = some a)
    (hlife : Life (state a) events (state b))
    (h : before.Settled after (l.countP fun x => (state x).connected)
      (l.countP fun x => (state x).reading)) :
    before.Settled (events.foldl record after)
      ((l.set i b).countP fun x => (state x).connected)
      ((l.set i b).countP fun x => (state x).reading) := by
  -- The others hold as much as before, and only the one engine is looked at.
  rcases countP_set (fun x => (state x).connected) ha b with ⟨connections, hconnections, hset⟩
  rcases countP_set (fun x => (state x).reading) ha b with ⟨cursors, hcursors, hset'⟩
  rw [hconnections, hcursors] at h
  rw [hset, hset']
  exact h.life hlife

/-- Planning opens a connection of its own if it can, and closes it, whatever
    comes of the plan. -/
theorem Engine.make_usage (s : Store) (config : ScanConfig) :
    ∃ events, (events = [] ∨ events = [.connect, .disconnect]) ∧
      (make s config).2.usage = events.foldl Usage.record s.usage := by
  rw [make, ScanPlan.make]
  rcases s.connect_cases with ⟨_, hconnect⟩ | hconnect
  · rw [hconnect]
    exact ⟨[], Or.inl rfl, rfl⟩
  · rw [hconnect]
    refine ⟨_, Or.inr rfl, ?_⟩
    dsimp only
    rw [Connection.close_store_eq]
    rfl

/-- Nothing that is done to a store itself is counted. -/
theorem Store.usage_act (s : Store) (a : StoreAction) : (s.act a).usage = s.usage := by
  cases a with
  | createTable name columns =>
      rw [act, createTable]
      by_cases hc : s.tables.contains name = true
      · rw [if_pos hc]
      · rw [if_neg hc]
        rfl
  | insertRows name rows =>
      rw [act, insertRows]
      cases s.table name with
      | error _ => rfl
      | ok t => rfl
  | upsert name handle values =>
      rw [act, upsert]
      cases s.table name with
      | error _ => rfl
      | ok t =>
          dsimp only
          cases t.put handle s.nextCommit.version values with
          | error _ => rfl
          | ok u => rfl
  | delete name handle =>
      rw [act, delete]
      cases s.table name with
      | error _ => rfl
      | ok t =>
          dsimp only
          by_cases hl : t.isLive handle = true
          · rw [if_pos hl]
            rfl
          · rw [if_neg hl]
  | _ => exact Undisturbed.usage_eq (undisturbed_act rfl)

namespace Host

/-- Everything that was opened in the store since then is closed or held by an
    engine, and open. -/
structure Settled (h : Host) (before : Usage) : Prop where
  holdsOpen : ∀ x ∈ h.sessions, x.engine.HoldsOpen
  usage : before.Settled h.store.usage (h.sessions.countP (·.engine.state.connected))
    (h.sessions.countP (·.engine.state.reading))

/-- A new engine holds nothing yet. -/
theorem Settled.append {h : Host} {before : Usage} (hh : h.Settled before) {x : Session}
    (hx : x.engine.runtime = .unconfigured) :
    Settled ⟨h.store, h.sessions ++ [x]⟩ before := by
  have hstate : x.engine.state = .unconfigured := by
    rw [Engine.state, hx]
  refine ⟨fun y hy => ?_, ?_⟩
  · rcases List.mem_append.1 hy with hy | hy
    · exact hh.holdsOpen y hy
    · rw [List.mem_singleton.1 hy]
      exact Engine.holdsOpen_of_link?_eq_none (by rw [hx]; rfl)
  · dsimp only
    rw [List.countP_append, List.countP_append, List.countP_singleton, List.countP_singleton,
      hstate]
    exact hh.usage

/-- An action keeps a host settled, whatever fails in it. -/
theorem Settled.act {h : Host} {before : Usage} (hh : h.Settled before) (a : HostAction) :
    (h.act a).Settled before := by
  cases a with
  | store a =>
      refine ⟨hh.holdsOpen, ?_⟩
      have husage := h.store.usage_act a
      rw [Host.act, husage]
      exact hh.usage
  | plan config =>
      rcases Engine.make_usage h.store config with ⟨events, hevents, husage⟩
      -- Planning is a life of its own, from its connection to the end of it.
      have hplanned : before.Settled (Engine.make h.store config).2.usage
          (h.sessions.countP (·.engine.state.connected))
          (h.sessions.countP (·.engine.state.reading)) := by
        rw [husage]
        rcases hevents with rfl | rfl
        · exact hh.usage
        · exact Usage.Settled.life (a := .unconfigured) (b := .closed)
            (.disconnect (.connect .refl)) hh.usage
      rw [Host.act]
      rcases hmake : Engine.make h.store config with ⟨err | e, s⟩
      · rw [hmake] at hplanned
        exact ⟨hh.holdsOpen, hplanned⟩
      · rw [hmake] at hplanned
        rcases Engine.make_eq_ok hmake with ⟨t, _, _, rfl⟩
        exact Settled.append (h := ⟨s, h.sessions⟩) ⟨hh.holdsOpen, hplanned⟩ rfl
  | duplicate index =>
      rw [Host.act]
      cases hx : h.sessions[index]? with
      | none => exact hh
      | some y => exact hh.append rfl
  | engine index a =>
      rw [Host.act]
      cases hx : h.sessions[index]? with
      | none => exact hh
      | some y =>
          rcases Engine.act_moves (hh.holdsOpen y (List.mem_of_getElem? hx)) h.store a with
            ⟨events, _, hmoves⟩
          dsimp only
          refine ⟨fun x hmem => ?_, ?_⟩
          · rcases List.mem_or_eq_of_mem_set hmem with hmem | rfl
            · exact hh.holdsOpen x hmem
            · exact hmoves.holdsOpen
          · have hsettled := hh.usage.set (fun x : Session => x.engine.state) hx hmoves.life
              (b := (y.act h.store a).1)
            rw [← hmoves.usage_eq] at hsettled
            exact hsettled

/-- A run keeps a host settled. -/
theorem Settled.run {before : Usage} (actions : List HostAction) :
    ∀ {h : Host}, h.Settled before → (h.run actions).Settled before := by
  induction actions with
  | nil => exact fun hh => hh
  | cons a rest ih => exact fun hh => ih (hh.act a)

/-- In a new store nothing was opened. -/
theorem settled_new (clock : Clock) : (Host.new clock).Settled Usage.none :=
  ⟨fun _ hx => (nomatch hx), .refl _⟩

/-- The counts of a store are settled after every run. -/
theorem settled_run (clock : Clock) (actions : List HostAction) :
    ((Host.new clock).run actions).Settled Usage.none :=
  Settled.run actions (settled_new clock)

/-- The state of an engine. One that is not there yet is about to be new. -/
def stateAt (h : Host) (index : Nat) : EngineState :=
  h.sessions[index]?.elim .unconfigured (·.engine.state)

/-- What an engine does in an action, as the store counts it. -/
def eventsOf (h : Host) (index : Nat) : HostAction → List ResourceEvent
  | .engine acting a =>
    if acting = index then
      h.store.usage.eventsTo (h.act (.engine acting a)).store.usage
    else []
  | _ => []

/-- What an engine does in the course of a run. -/
def events (h : Host) (index : Nat) : List HostAction → List ResourceEvent
  | [] => []
  | a :: rest => h.eventsOf index a ++ (h.act a).events index rest

/-- A new engine does not change the states of the others, nor its own. -/
theorem stateAt_append (h : Host) (s : Store) {x : Session} (hx : x.engine.state = .unconfigured)
    (index : Nat) : stateAt ⟨s, h.sessions ++ [x]⟩ index = h.stateAt index := by
  rw [stateAt, stateAt]
  dsimp only
  by_cases hlt : index < h.sessions.length
  · rw [List.getElem?_append_left hlt]
  · have hle := Nat.le_of_not_lt hlt
    rw [List.getElem?_append_right hle, List.getElem?_eq_none hle]
    cases index - h.sessions.length with
    | zero => exact hx
    | succ n => rfl

/-- An action is a part of the life of every engine. For all but the one that
    acts nothing happens in it. -/
theorem life_act {h : Host} (hopen : ∀ x ∈ h.sessions, x.engine.HoldsOpen) (a : HostAction)
    (index : Nat) :
    Life (h.stateAt index) (h.eventsOf index a) ((h.act a).stateAt index) := by
  cases a with
  | store a => exact .refl
  | plan config =>
      rw [Host.act]
      rcases hmake : Engine.make h.store config with ⟨err | e, s⟩
      · exact .refl
      · rcases Engine.make_eq_ok hmake with ⟨t, _, _, rfl⟩
        dsimp only
        rw [stateAt_append h s rfl]
        exact .refl
  | duplicate created =>
      rw [Host.act]
      cases hx : h.sessions[created]? with
      | none => exact .refl
      | some y =>
          dsimp only
          rw [stateAt_append h h.store rfl]
          exact .refl
  | engine acting a =>
      rw [eventsOf, Host.act]
      cases hx : h.sessions[acting]? with
      | none =>
          have hnone : h.store.usage.eventsTo h.store.usage = [] :=
            Usage.eventsTo_foldl_record h.store.usage (List.nil_sublist _)
          dsimp only
          rw [hnone, ite_self]
          exact .refl
      | some y =>
          rcases Engine.act_moves (hopen y (List.mem_of_getElem? hx)) h.store a with
            ⟨events, hsub, hmoves⟩
          have hlt := (List.getElem?_eq_some_iff.1 hx).1
          dsimp only
          by_cases hindex : acting = index
          · subst hindex
            have hshown : h.store.usage.eventsTo (y.act h.store a).2.usage = events := by
              rw [← Usage.eventsTo_foldl_record h.store.usage hsub, ← hmoves.usage_eq]
              rfl
            rw [if_pos rfl, hshown, stateAt, stateAt, hx, List.getElem?_set_self hlt]
            exact hmoves.life
          · rw [if_neg hindex, stateAt, stateAt, List.getElem?_set_ne hindex]
            exact .refl

/-- A run is a part of the life of every engine. -/
theorem life_run {before : Usage} (index : Nat) (actions : List HostAction) :
    ∀ {h : Host}, h.Settled before →
      Life (h.stateAt index) (h.events index actions) ((h.run actions).stateAt index) := by
  induction actions with
  | nil => exact fun _ => .refl
  | cons a rest ih => exact fun hh => (life_act hh.holdsOpen a index).trans (ih (hh.act a))

end Host

/-- Draining a split takes steps of the engine. -/
theorem Engine.drainUpTo_steps (s : Store) (n : Nat) :
    ∀ e : Engine, ∃ rows, Steps e s rows (drainUpTo s n e).2.2 s := by
  -- Draining goes on until a call fails or there is no further row.
  induction n with
  | zero => exact fun e => ⟨[], .refl⟩
  | succ n ih =>
      intro e
      have hmore := e.hasMore_steps s
      rw [drainUpTo]
      rcases hanswer : e.hasMore s with ⟨err | moved, e₁⟩
      · rw [hanswer] at hmore
        exact ⟨[], hmore⟩
      · rw [hanswer] at hmore
        cases moved with
        | false => exact ⟨[], hmore⟩
        | true =>
            have hproduce := e₁.produceNext_steps s
            dsimp only
            rcases hrow : e₁.produceNext s with ⟨err | row, e₂⟩
            · rw [hrow] at hproduce
              exact ⟨_, hmore.trans hproduce⟩
            · rw [hrow] at hproduce
              rcases ih e₂ with ⟨rows, hrest⟩
              exact ⟨_, (hmore.trans hproduce).trans hrest⟩

namespace Worker

variable {w : Worker} {s : Store}

/-- A worker that does not go on holds nothing. -/
def Released (w : Worker) : Prop :=
  w.status = .active ∨ w.engine.state = .unconfigured ∨ w.engine.state = .closed

/-- A worker that has stopped has neither a connection nor a cursor. -/
theorem Released.holds_nothing (h : w.Released) (hstopped : w.status ≠ .active) :
    w.engine.state.connected = false ∧ w.engine.state.reading = false := by
  rcases h.resolve_left hstopped with hstate | hstate
  · rw [hstate]
    exact ⟨rfl, rfl⟩
  · rw [hstate]
    exact ⟨rfl, rfl⟩

/-- A worker that stops closes its engine. -/
theorem stop_moves (hw : w.engine.HoldsOpen) (s : Store) (status : WorkerStatus) :
    (∃ events, w.engine.Moves s events (w.stop s status).1.engine (w.stop s status).2) ∧
      (w.stop s status).1.Released := by
  rcases Engine.close_moves hw s with ⟨events, _, hmoves⟩
  refine ⟨⟨events, hmoves⟩, Or.inr (Or.inr ?_)⟩
  rcases w.stop_eq s status with ⟨u, hstop⟩
  rw [hstop]
  rfl

/-- A worker that reads a split moves its engine, and closes it if it fails. -/
theorem readSplit_moves (hw : w.engine.HoldsOpen) (hactive : w.status = .active) (s : Store)
    (split : InputSplit) :
    (∃ events, w.engine.Moves s events (w.readSplit s split).1.engine (w.readSplit s split).2) ∧
      (w.readSplit s split).1.Released := by
  rcases Engine.act_moves hw s (.openInput split) with ⟨opening, _, hopen⟩
  rw [readSplit]
  rw [Engine.act] at hopen
  rcases hopened : w.engine.openInput s split with ⟨err | _, engine, s₁⟩
  · rw [hopened] at hopen
    -- The split cannot be opened.
    rcases stop_moves (w := { w with engine := engine }) hopen.holdsOpen s₁
      (.failed (.opening split err)) with ⟨⟨closing, hclose⟩, hreleased⟩
    exact ⟨⟨_, hopen.trans hclose⟩, hreleased⟩
  · rw [hopened] at hopen
    rcases Engine.drainUpTo_steps s₁ (engine.bufferedRows + 1) engine with ⟨rows, hsteps⟩
    have hdrain := hopen.trans (hsteps.moves_nil hopen.holdsOpen rfl)
    dsimp only
    rw [Engine.drain]
    rcases hdrained : engine.drainUpTo s₁ (engine.bufferedRows + 1) with ⟨rows, failure, engine₂⟩
    rw [hdrained] at hdrain
    -- The split is closed, whether or not it was read to its end.
    rcases Engine.closeSplit_moves hdrain.holdsOpen s₁ with ⟨closing, _, hclose⟩
    have hclosed := hdrain.trans hclose
    dsimp only
    cases failure with
    | none => exact ⟨⟨_, hclosed⟩, Or.inl hactive⟩
    | some err =>
        rcases stop_moves (w := { w with engine := (engine₂.closeSplit s₁).1 }) hclosed.holdsOpen
          (engine₂.closeSplit s₁).2 (.failed (.reading split err)) with
          ⟨⟨stopping, hstop⟩, hreleased⟩
        exact ⟨⟨_, hclosed.trans hstop⟩, hreleased⟩

end Worker

namespace ScanRun

/-- Everything that was opened in the store since then is closed or held by a
    worker that goes on. -/
structure Settled (r : ScanRun) (before : Usage) : Prop where
  holdsOpen : ∀ w ∈ r.workers, w.engine.HoldsOpen
  released : ∀ w ∈ r.workers, w.Released
  usage : before.Settled r.store.usage (r.workers.countP (·.engine.state.connected))
    (r.workers.countP (·.engine.state.reading))

variable {r : ScanRun} {before : Usage}

/-- A worker that goes on keeps the run settled. -/
theorem Settled.set (h : r.Settled before) {number : Nat} {w w' : Worker} {s : Store}
    {events : List ResourceEvent} (hw : r.workers[number]? = some w)
    (hmoves : w.engine.Moves r.store events w'.engine s) (hreleased : w'.Released)
    (assigner : SplitAssigner) : Settled ⟨s, assigner, r.workers.set number w'⟩ before where
  holdsOpen := fun v hv => by
    rcases List.mem_or_eq_of_mem_set hv with hv | rfl
    · exact h.holdsOpen v hv
    · exact hmoves.holdsOpen
  released := fun v hv => by
    rcases List.mem_or_eq_of_mem_set hv with hv | rfl
    · exact h.released v hv
    · exact hreleased
  usage := by
    have hsettled := h.usage.set (fun w : Worker => w.engine.state) hw hmoves.life
    rw [← hmoves.usage_eq] at hsettled
    exact hsettled

/-- A turn keeps a run settled. -/
theorem Settled.turn (h : r.Settled before) (number : Nat) : (r.turn number).Settled before := by
  rw [ScanRun.turn]
  cases hw : r.workers[number]? with
  | none => exact h
  | some w =>
      have hopen := h.holdsOpen w (List.mem_of_getElem? hw)
      dsimp only
      cases hstatus : w.status with
      | finished => exact h
      | failed _ => exact h
      | active =>
          dsimp only
          rcases r.assigner.next with ⟨_ | split, assigner⟩
          · rcases Worker.stop_moves hopen r.store .finished with ⟨⟨events, hmoves⟩, hreleased⟩
            exact h.set hw hmoves hreleased r.assigner
          · rcases Worker.readSplit_moves hopen hstatus r.store split with
              ⟨⟨events, hmoves⟩, hreleased⟩
            exact h.set hw hmoves hreleased assigner

theorem Settled.turns (numbers : List Nat) :
    ∀ {r : ScanRun}, r.Settled before → (r.turns numbers).Settled before := by
  induction numbers with
  | nil => exact fun h => h
  | cons number numbers ih => exact fun h => ih (h.turn number)

/-- A worker has finished or failed. -/
def Stopped (r : ScanRun) (number : Nat) : Prop :=
  ∀ w, r.workers[number]? = some w → w.status ≠ .active

/-- A turn of a worker that has stopped changes nothing. -/
theorem Stopped.turn_eq {number : Nat} (h : r.Stopped number) : r.turn number = r := by
  rw [ScanRun.turn]
  cases hw : r.workers[number]? with
  | none => rfl
  | some w =>
      have hstatus := h w hw
      dsimp only
      cases hs : w.status with
      | active => exact absurd hs hstatus
      | finished => rfl
      | failed _ => rfl

/-- A turn changes no worker but the one that takes it. -/
theorem getElem?_workers_turn_ne (r : ScanRun) {taking number : Nat} (hne : taking ≠ number) :
    (r.turn taking).workers[number]? = r.workers[number]? := by
  rw [ScanRun.turn]
  cases r.workers[taking]? with
  | none => rfl
  | some w =>
      dsimp only
      cases w.status with
      | finished => rfl
      | failed _ => rfl
      | active =>
          dsimp only
          rcases r.assigner.next with ⟨_ | split, assigner⟩
          · exact List.getElem?_set_ne hne
          · exact List.getElem?_set_ne hne

/-- A worker that has stopped does not start again. -/
theorem Stopped.turn {number : Nat} (h : r.Stopped number) (taking : Nat) :
    (r.turn taking).Stopped number := by
  by_cases hsame : taking = number
  · rw [hsame, h.turn_eq]
    exact h
  · intro w hw
    rw [r.getElem?_workers_turn_ne hsame] at hw
    exact h w hw

theorem Stopped.turns {number : Nat} (numbers : List Nat) :
    ∀ {r : ScanRun}, r.Stopped number → (r.turns numbers).Stopped number := by
  induction numbers with
  | nil => exact fun h => h
  | cons taking numbers ih => exact fun h => ih (h.turn taking)

/-- A worker that takes a turn takes a split if there is one, and stops if not. -/
theorem turn_stopped_or (r : ScanRun) (number : Nat) :
    (r.turn number).Stopped number ∨
      (r.turn number).assigner.remaining < r.assigner.remaining := by
  rw [ScanRun.turn]
  cases hw : r.workers[number]? with
  | none => exact Or.inl fun w hw' => by cases hw.symm.trans hw'
  | some w =>
      have hlt := (List.getElem?_eq_some_iff.1 hw).1
      have hstopped : w.status ≠ .active → r.Stopped number := fun hne v hv => by
        obtain rfl := Option.some.inj (hw.symm.trans hv)
        exact hne
      dsimp only
      cases hstatus : w.status with
      | finished =>
          exact Or.inl (hstopped fun hactive => by cases hstatus.symm.trans hactive)
      | failed _ =>
          exact Or.inl (hstopped fun hactive => by cases hstatus.symm.trans hactive)
      | active =>
          dsimp only
          cases hpending : r.assigner.pending with
          | nil =>
              rw [SplitAssigner.next, hpending]
              refine Or.inl fun v hv => ?_
              rw [List.getElem?_set_self hlt] at hv
              obtain rfl := Option.some.inj hv
              intro hactive
              cases hactive
          | cons next rest =>
              rw [SplitAssigner.next, hpending]
              refine Or.inr ?_
              rw [SplitAssigner.remaining, SplitAssigner.remaining, hpending]
              exact Nat.lt_succ_self _

/-- A worker that goes on for more turns than there are splits stops. -/
theorem turns_replicate_stopped (number : Nat) :
    ∀ (n : Nat) {r : ScanRun}, r.assigner.remaining < n →
      (r.turns (List.replicate n number)).Stopped number := by
  -- The induction is on the turns left: each of them stops the worker or takes a split away.
  intro n
  induction n with
  | zero => exact fun h => absurd h (Nat.not_lt_zero _)
  | succ n ih =>
      intro r h
      rcases r.turn_stopped_or number with hstopped | hless
      · exact hstopped.turns (List.replicate n number)
      · exact ih (r := r.turn number) (by omega)

/-- When workers have finished one after the other, all of them have stopped. -/
theorem foldl_finish_stopped (numbers : List Nat) :
    ∀ (r : ScanRun) (number : Nat), number ∈ numbers ∨ r.Stopped number →
      (numbers.foldl finish r).Stopped number := by
  induction numbers with
  | nil =>
      intro r number h
      exact h.resolve_left List.not_mem_nil
  | cons first numbers ih =>
      intro r number h
      refine ih (r.finish first) number ?_
      -- The worker comes later, or it is the first one, or it has stopped before.
      rcases h with h | h
      · rcases List.mem_cons.1 h with rfl | h
        · exact Or.inr (turns_replicate_stopped number _ (Nat.lt_succ_self _))
        · exact Or.inl h
      · exact Or.inr (Stopped.turns _ h)

theorem Settled.foldl_finish (numbers : List Nat) :
    ∀ {r : ScanRun}, r.Settled before → (numbers.foldl finish r).Settled before := by
  induction numbers with
  | nil => exact fun h => h
  | cons number numbers ih => exact fun h => ih (h.turns _)

theorem length_workers_foldl_finish (numbers : List Nat) :
    ∀ r : ScanRun, (numbers.foldl finish r).workers.length = r.workers.length := by
  induction numbers with
  | nil => exact fun _ => rfl
  | cons number numbers ih => exact fun r => (ih (r.finish number)).trans (length_workers_turns _ r)

/-- When all workers have finished, everything that was opened since then is
    closed. -/
theorem Settled.finishAll (h : r.Settled before) : before.Settled r.finishAll.store.usage 0 0 := by
  have hfinished : r.finishAll.Settled before := Settled.foldl_finish _ h
  -- No worker goes on, and one that does not holds nothing.
  have hnothing : ∀ w ∈ r.finishAll.workers,
      w.engine.state.connected = false ∧ w.engine.state.reading = false := by
    intro w hw
    rcases List.getElem?_of_mem hw with ⟨number, hnumber⟩
    have hlt := (List.getElem?_eq_some_iff.1 hnumber).1
    rw [ScanRun.finishAll, length_workers_foldl_finish] at hlt
    have hstopped : r.finishAll.Stopped number :=
      foldl_finish_stopped _ r number (Or.inl (List.mem_range.2 hlt))
    exact (hfinished.released w hw).holds_nothing (hstopped w hnumber)
  have hconnections : r.finishAll.workers.countP (·.engine.state.connected) = 0 :=
    List.countP_eq_zero.2 fun w hw => Bool.eq_false_iff.1 (hnothing w hw).1
  have hcursors : r.finishAll.workers.countP (·.engine.state.reading) = 0 :=
    List.countP_eq_zero.2 fun w hw => Bool.eq_false_iff.1 (hnothing w hw).2
  have hsettled := hfinished.usage
  rw [hconnections, hcursors] at hsettled
  exact hsettled

/-- A worker that starts is connected, or has failed and holds nothing. -/
theorem start_moves (e : Engine) (number : Nat) (s : Store) :
    (∃ events, e.duplicate.Moves s events (Worker.start e number s).1.engine
      (Worker.start e number s).2) ∧ (Worker.start e number s).1.Released := by
  have hnew : e.duplicate.HoldsOpen := Engine.holdsOpen_of_link?_eq_none rfl
  rw [Worker.start]
  rcases e.duplicate.configure_cases s with ⟨_, h⟩ | ⟨_, _, _, hruntime, _, hconnect, h⟩
  · rw [h]
    exact ⟨⟨[], .refl hnew⟩, Or.inr (Or.inl rfl)⟩
  · rw [h]
    exact ⟨⟨_, Engine.connect_moves hruntime hconnect⟩, Or.inl rfl⟩

/-- Workers that start hold what they open. `connections` and `cursors` are those
    of the workers before them. -/
theorem settled_startWorkers (e : Engine) (n : Nat) :
    ∀ (s : Store) (number connections cursors : Nat),
      before.Settled s.usage connections cursors →
        (∀ w ∈ (startWorkers e s number n).1, w.engine.HoldsOpen ∧ w.Released) ∧
          before.Settled (startWorkers e s number n).2.usage
            (connections + (startWorkers e s number n).1.countP (·.engine.state.connected))
            (cursors + (startWorkers e s number n).1.countP (·.engine.state.reading)) := by
  induction n with
  | zero => exact fun _ _ _ _ h => ⟨fun _ hw => (nomatch hw), h⟩
  | succ n ih =>
      intro s number connections cursors h
      rcases start_moves e number s with ⟨⟨events, hmoves⟩, hreleased⟩
      -- The worker was a duplicate, which holds nothing.
      have hstart : before.Settled (Worker.start e number s).2.usage
          (connections + (Worker.start e number s).1.engine.state.connected.toNat)
          (cursors + (Worker.start e number s).1.engine.state.reading.toNat) := by
        rw [hmoves.usage_eq]
        exact Usage.Settled.life hmoves.life h
      rcases ih (Worker.start e number s).2 (number + 1) _ _ hstart with ⟨hrest, hsettled⟩
      rw [startWorkers]
      refine ⟨fun w hw => ?_, ?_⟩
      · rcases List.mem_cons.1 hw with rfl | hw
        · exact ⟨hmoves.holdsOpen, hreleased⟩
        · exact hrest w hw
      · simp only [countP_cons_toNat, ← Nat.add_assoc]
        exact hsettled

end ScanRun

/-- A parallel scan closes everything that it opens, whatever fails in it. -/
theorem Engine.scan_settled (e : Engine) (s : Store) (workers : Nat) (turns : List Nat) :
    s.usage.Settled (e.scan s workers turns).2.usage 0 0 := by
  rcases ScanRun.settled_startWorkers e (max workers 1) s 0 0 0 (.refl s.usage) with
    ⟨hworkers, hsettled⟩
  rw [Nat.zero_add, Nat.zero_add] at hsettled
  have hstart : ScanRun.Settled ⟨(ScanRun.startWorkers e s 0 (max workers 1)).2,
      ⟨e.inputSplits (max workers 1)⟩, (ScanRun.startWorkers e s 0 (max workers 1)).1⟩ s.usage :=
    ⟨fun w hw => (hworkers w hw).1, fun w hw => (hworkers w hw).2, hsettled⟩
  have hfinished := (ScanRun.Settled.turns turns hstart).finishAll
  rw [scan]
  dsimp only
  -- The scan reports a failure or its rows, and the store is the same.
  cases (ScanRun.turns ⟨(ScanRun.startWorkers e s 0 (max workers 1)).2,
      ⟨e.inputSplits (max workers 1)⟩, (ScanRun.startWorkers e s 0 (max workers 1)).1⟩
      turns).finishAll.failure? with
  | none => exact hfinished
  | some failure => exact hfinished

/-- After every run, the open cursors of the store are as many as the engines
    that read a split, and its open connections as many as those that are ready or
    read one. No close was refused: every one found open what it closed. All that the
    engines hold is open, and what each of them has done in the course of the run is a
    life: it closes what it opened once, and nothing else. Planning closes the
    connection that it opens, and a parallel scan closes as many cursors and connections
    as it opens, whether or not it fails, and neither of them has a close refused. -/
theorem Host.openCursors_eq_countP (clock : Clock) (actions : List HostAction) :
    ((Host.new clock).run actions).store.usage.closesRefused = 0 ∧
      ((Host.new clock).run actions).store.usage.cursorsClosed
        ≤ ((Host.new clock).run actions).store.usage.cursorsOpened ∧
      ((Host.new clock).run actions).store.usage.connectionsClosed
        ≤ ((Host.new clock).run actions).store.usage.connectionsOpened ∧
      ((Host.new clock).run actions).store.usage.openCursors
        = ((Host.new clock).run actions).sessions.countP
          (fun x => x.engine.state = .scanning) ∧
      ((Host.new clock).run actions).store.usage.openConnections
        = ((Host.new clock).run actions).sessions.countP
          (fun x => x.engine.state = .ready ∨ x.engine.state = .scanning) ∧
      (∀ index x, ((Host.new clock).run actions).sessions[index]? = some x →
        x.engine.HoldsOpen ∧
          Life .unconfigured ((Host.new clock).events index actions) x.engine.state) ∧
      (∀ (s : Store) (config : ScanConfig),
        (Engine.make s config).2.usage.closesRefused = s.usage.closesRefused ∧
          (s.usage.eventsTo (Engine.make s config).2.usage = [] ∨
            s.usage.eventsTo (Engine.make s config).2.usage = [.connect, .disconnect])) ∧
      ∀ (e : Engine) (s : Store) (workers : Nat) (turns : List Nat),
        (e.scan s workers turns).2.usage.closesRefused = s.usage.closesRefused ∧
          (e.scan s workers turns).2.usage.cursorsOpened + s.usage.cursorsClosed
            = (e.scan s workers turns).2.usage.cursorsClosed + s.usage.cursorsOpened ∧
          (e.scan s workers turns).2.usage.connectionsOpened + s.usage.connectionsClosed
            = (e.scan s workers turns).2.usage.connectionsClosed + s.usage.connectionsOpened := by
  have hsettled := Host.settled_run clock actions
  have hconnections := hsettled.usage.connections_eq
  have hcursors := hsettled.usage.cursors_eq
  simp only [EngineState.connected_eq, EngineState.reading_eq] at hconnections hcursors
  dsimp only [Usage.none] at hconnections hcursors
  refine ⟨hsettled.usage.refused_eq, by omega, by omega, ?_, ?_, fun index x hx => ⟨?_, ?_⟩,
    fun s config => ?_, fun e s workers turns => ⟨(e.scan_settled s workers turns).refused_eq,
      ?_, ?_⟩⟩
  · rw [Usage.openCursors]
    omega
  · rw [Usage.openConnections]
    omega
  · exact hsettled.holdsOpen x (List.mem_of_getElem? hx)
  · have hlife := Host.life_run index actions (Host.settled_new clock)
    rw [Host.stateAt, Host.stateAt, hx] at hlife
    exact hlife
  · rcases Engine.make_usage s config with ⟨events, hevents, husage⟩
    rw [husage]
    rcases hevents with rfl | rfl
    · exact ⟨rfl, Or.inl (Usage.eventsTo_foldl_record s.usage (List.nil_sublist _))⟩
    · exact ⟨rfl, Or.inr (Usage.eventsTo_foldl_record s.usage (by decide))⟩
  · have hscan := (e.scan_settled s workers turns).cursors_eq
    omega
  · have hscan := (e.scan_settled s workers turns).connections_eq
    omega

/-- An engine that is opened a split of while it reads another one, fails to
    close its cursor and its connection, and is duplicated in between. -/
def faultyRun : List HostAction :=
  [.store (.createTable ⟨"db", "t"⟩ [⟨"id", .bigInt, 0, false⟩]),
    .store (.setRegionSize 1),
    .store (.insertRows ⟨"db", "t"⟩ [[.int 1], [.int 2]]),
    .plan ⟨⟨"db", "t"⟩, none, .empty, .empty⟩,
    .engine 0 .configure,
    .engine 0 (.openSplit 0),
    .store (.inject .closeCursor),
    .engine 0 (.openSplit 1),
    .duplicate 0,
    .engine 1 .configure,
    .store (.inject .closeConnection),
    .engine 0 .close,
    .engine 0 .close]

/-- Only the connection of the duplicate is left open. -/
theorem openConnections_faultyRun :
    ((Host.new (.manual 1)).run faultyRun).store.usage.openCursors = 0 ∧
      ((Host.new (.manual 1)).run faultyRun).store.usage.openConnections = 1 ∧
      ∃ x ∈ ((Host.new (.manual 1)).run faultyRun).sessions,
        x.engine.HoldsOpen ∧ Life .unconfigured
          [.connect, .openCursor, .closeCursor, .openCursor, .closeCursor, .disconnect]
          x.engine.state := by
  rcases Host.openCursors_eq_countP (.manual 1) faultyRun with
    ⟨_, _, _, hcursors, hconnections, hlife, _⟩
  refine ⟨hcursors.trans (by decide), hconnections.trans (by decide), ?_⟩
  have hx := List.getElem?_eq_getElem
    (by decide : 0 < ((Host.new (.manual 1)).run faultyRun).sessions.length)
  exact ⟨_, List.mem_of_getElem? hx, hlife 0 _ hx⟩

end RegionScan
