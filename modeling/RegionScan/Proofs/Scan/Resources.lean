import Mathlib.Data.List.Sublists
import RegionScan.Proofs.Scan.CursorStep

/-!
# Resources

What engines open in a store they close again, each thing once.

A store counts what is opened and closed in it, so what an operation did can be
read off the counts before and after it (`Usage.eventsTo`). An engine has only
one way to go: it connects, opens and closes one cursor after the other, and
disconnects. `Life` is that way, event by event. Between two events that close a
cursor there is one that opens another, so none is closed twice, and there is
only one connection to close.

The store refuses what is closed a second time, and counts that apart. The events
of a life leave this count as it is, so every close that an engine makes finds open
what it closes. That is a property of the engines: whatever an engine holds is open
(`Engine.HoldsOpen`).

Everything an operation does comes down to four moves, opening and closing of
connections and cursors. They are put together in the order in which an operation
makes them. What an engine opens on its way it holds in the end or has closed
(`Usage.Settled.life`).

## Main definitions

* `ResourceEvent`, `Usage.eventsTo`: What can be done, and what was done.
* `Life`: What an engine does on its way from one state to another.
* `Usage.Settled`: All that was opened is closed or held by an engine.
* `Engine.HoldsOpen`: What an engine holds is open.
* `Engine.Moves`: An operation as a part of an engine's life.

## Theorems

* `Usage.Settled.life`: An engine that goes on keeps the counts settled.
* `Engine.Step.moves`, `Engine.act_moves`: Steps and operations are moves.
-/

namespace RegionScan

/-- What can be done to a connection or a cursor of a store. -/
inductive ResourceEvent where
  | connect
  | openCursor
  | closeCursor
  | disconnect
  deriving DecidableEq

/-- The order in which one operation does such things: the cursor of the split
    being read is closed before another one is opened. -/
def ResourceEvent.order : List ResourceEvent :=
  [.connect, .closeCursor, .openCursor, .disconnect]

namespace Usage

/-- How often something was done. -/
def count (u : Usage) : ResourceEvent → Nat
  | .connect => u.connectionsOpened
  | .openCursor => u.cursorsOpened
  | .closeCursor => u.cursorsClosed
  | .disconnect => u.connectionsClosed

/-- The counts after something was done once more. -/
def record (u : Usage) : ResourceEvent → Usage
  | .connect => { u with connectionsOpened := u.connectionsOpened + 1 }
  | .openCursor => { u with cursorsOpened := u.cursorsOpened + 1 }
  | .closeCursor => { u with cursorsClosed := u.cursorsClosed + 1 }
  | .disconnect => { u with connectionsClosed := u.connectionsClosed + 1 }

/-- What one operation did, from the counts before it and after it. -/
def eventsTo (before after : Usage) : List ResourceEvent :=
  ResourceEvent.order.flatMap fun event =>
    List.replicate (after.count event - before.count event) event

theorem count_record (u : Usage) (done event : ResourceEvent) :
    (u.record done).count event = u.count event + if done = event then 1 else 0 := by
  cases done with
  | connect => cases event <;> rfl
  | openCursor => cases event <;> rfl
  | closeCursor => cases event <;> rfl
  | disconnect => cases event <;> rfl

/-- Each event is counted once. -/
theorem count_foldl_record (event : ResourceEvent) (events : List ResourceEvent) :
    ∀ u : Usage, (events.foldl record u).count event = u.count event + events.count event := by
  induction events with
  | nil => exact fun _ => rfl
  | cons done rest ih =>
      intro u
      have hrest := ih (u.record done)
      have hdone := u.count_record done event
      rw [List.foldl_cons, List.count_cons, hrest, hdone]
      simp only [beq_iff_eq]
      omega

/-- If the counts have not changed, nothing was done. -/
theorem eq_nil_of_foldl_record_eq {u : Usage} {events : List ResourceEvent}
    (h : events.foldl record u = u) : events = [] := by
  cases events with
  | nil => rfl
  | cons done rest =>
      -- The first event would have been counted.
      have hcount := count_foldl_record done (done :: rest) u
      rw [h, List.count_cons_self] at hcount
      omega

/-- The events of one operation are those that its counts show. -/
theorem eventsTo_foldl_record (u : Usage) {events : List ResourceEvent}
    (h : events.Sublist ResourceEvent.order) : u.eventsTo (events.foldl record u) = events := by
  -- The order has few parts, and each of them is told by how often it has each event.
  have hparts : ∀ part ∈ ResourceEvent.order.sublists,
      (ResourceEvent.order.flatMap fun event => List.replicate (part.count event) event) = part := by
    decide
  have hdifference : ∀ event, (events.foldl record u).count event - u.count event
      = events.count event := by
    intro event
    rw [count_foldl_record]
    omega
  rw [eventsTo]
  simp only [hdifference]
  exact hparts events (List.mem_sublists.2 h)

end Usage

/-- What an engine does on its way from one state to another. -/
inductive Life (start : EngineState) : List ResourceEvent → EngineState → Prop where
  | refl : Life start [] start
  | connect {events : List ResourceEvent} (h : Life start events .unconfigured) :
      Life start (events ++ [.connect]) .ready
  | openCursor {events : List ResourceEvent} (h : Life start events .ready) :
      Life start (events ++ [.openCursor]) .scanning
  | closeCursor {events : List ResourceEvent} (h : Life start events .scanning) :
      Life start (events ++ [.closeCursor]) .ready
  | disconnect {events : List ResourceEvent} (h : Life start events .ready) :
      Life start (events ++ [.disconnect]) .closed
  /-- An engine that never connected is closed. -/
  | abandon {events : List ResourceEvent} (h : Life start events .unconfigured) :
      Life start events .closed

theorem Life.of_eq {a b : EngineState} (h : a = b) : Life a [] b := by
  rw [h]
  exact .refl

theorem Life.trans {a b c : EngineState} {events later : List ResourceEvent}
    (h : Life a events b) (h' : Life b later c) : Life a (events ++ later) c := by
  induction h' with
  | refl =>
      rw [List.append_nil]
      exact h
  | connect _ ih =>
      rw [← List.append_assoc]
      exact .connect ih
  | openCursor _ ih =>
      rw [← List.append_assoc]
      exact .openCursor ih
  | closeCursor _ ih =>
      rw [← List.append_assoc]
      exact .closeCursor ih
  | disconnect _ ih =>
      rw [← List.append_assoc]
      exact .disconnect ih
  | abandon _ ih => exact .abandon ih

namespace EngineState

/-- Whether an engine holds a connection. -/
def connected : EngineState → Bool
  | .ready | .scanning => true
  | .unconfigured | .closed => false

/-- Whether an engine holds a cursor. -/
def reading : EngineState → Bool
  | .scanning => true
  | .unconfigured | .ready | .closed => false

theorem connected_eq (state : EngineState) :
    state.connected = decide (state = .ready ∨ state = .scanning) := by
  cases state <;> rfl

theorem reading_eq (state : EngineState) : state.reading = decide (state = .scanning) := by
  cases state <;> rfl

end EngineState

/-- Of all that was opened between two counts, everything is closed but so many
    connections and cursors, and nothing was to be closed a second time. -/
structure Usage.Settled (before after : Usage) (connections cursors : Nat) : Prop where
  connections_eq : after.connectionsOpened + before.connectionsClosed
    = after.connectionsClosed + before.connectionsOpened + connections
  cursors_eq : after.cursorsOpened + before.cursorsClosed
    = after.cursorsClosed + before.cursorsOpened + cursors
  refused_eq : after.closesRefused = before.closesRefused

namespace Usage.Settled

variable {before after : Usage} {connections cursors : Nat}

/-- Nothing was opened. -/
theorem refl (u : Usage) : u.Settled u 0 0 := by
  constructor <;> omega

/-- What an engine opens on its way it holds or closes again. `connections` and
    `cursors` are those of all other engines. -/
theorem life {a b : EngineState} {events : List ResourceEvent} (hlife : Life a events b)
    (h : before.Settled after (connections + a.connected.toNat) (cursors + a.reading.toNat)) :
    before.Settled (events.foldl record after) (connections + b.connected.toNat)
      (cursors + b.reading.toNat) := by
  -- An event raises one count, and what the engine holds makes up for it.
  induction hlife with
  | refl => exact h
  | abandon _ ih => exact ih
  | connect _ ih =>
      obtain ⟨hconnections, hcursors, hrefused⟩ := ih
      simp only [EngineState.connected, Bool.toNat_false] at hconnections
      rw [List.foldl_append]
      refine ⟨?_, hcursors, hrefused⟩
      simp only [List.foldl_cons, List.foldl_nil, record, EngineState.connected, Bool.toNat_true]
      omega
  | openCursor _ ih =>
      obtain ⟨hconnections, hcursors, hrefused⟩ := ih
      simp only [EngineState.reading, Bool.toNat_false] at hcursors
      rw [List.foldl_append]
      refine ⟨hconnections, ?_, hrefused⟩
      simp only [List.foldl_cons, List.foldl_nil, record, EngineState.reading, Bool.toNat_true]
      omega
  | closeCursor _ ih =>
      obtain ⟨hconnections, hcursors, hrefused⟩ := ih
      simp only [EngineState.reading, Bool.toNat_true] at hcursors
      rw [List.foldl_append]
      refine ⟨hconnections, ?_, hrefused⟩
      simp only [List.foldl_cons, List.foldl_nil, record, EngineState.reading, Bool.toNat_false]
      omega
  | disconnect _ ih =>
      obtain ⟨hconnections, hcursors, hrefused⟩ := ih
      simp only [EngineState.connected, Bool.toNat_true] at hconnections
      rw [List.foldl_append]
      refine ⟨?_, hcursors, hrefused⟩
      simp only [List.foldl_cons, List.foldl_nil, record, EngineState.connected, Bool.toNat_false]
      omega

end Usage.Settled

namespace Engine

/-- What an engine holds is open. -/
structure HoldsOpen (e : Engine) : Prop where
  connection_open : ∀ connection coercer, e.runtime.link? = some (connection, coercer) →
    connection.isClosed = false
  cursor_open : ∀ connection coercer reading,
    e.runtime = .scanning connection coercer reading →
      ∃ inner, reading.cursor.inner = some inner ∧ inner.isClosed = false

/-- An engine without a connection holds nothing, so nothing that is closed. -/
theorem holdsOpen_of_link?_eq_none {e : Engine} (h : e.runtime.link? = none) : e.HoldsOpen where
  connection_open := fun _ _ hlink => by
    rw [h] at hlink
    cases hlink
  cursor_open := fun _ _ _ hscanning => by
    rw [hscanning] at h
    cases h

/-- An engine that reads nothing holds its connection. -/
theorem holdsOpen_ready {e : Engine} {connection : Connection} {coercer : Coercer}
    (hruntime : e.runtime = .ready connection coercer) (hopen : connection.isClosed = false) :
    e.HoldsOpen where
  connection_open := fun _ _ hlink => by
    rw [hruntime] at hlink
    obtain ⟨rfl, rfl⟩ := Prod.mk.inj (Option.some.inj hlink)
    exact hopen
  cursor_open := fun _ _ _ hscanning => by
    cases hruntime.symm.trans hscanning

/-- An engine that reads a split holds its connection and the cursor. -/
theorem holdsOpen_scanning {e : Engine} {connection : Connection} {coercer : Coercer}
    {reading : Reading} {inner : Cursor}
    (hruntime : e.runtime = .scanning connection coercer reading)
    (hopen : connection.isClosed = false) (hinner : reading.cursor.inner = some inner)
    (hinnerOpen : inner.isClosed = false) : e.HoldsOpen where
  connection_open := fun _ _ hlink => by
    rw [hruntime] at hlink
    obtain ⟨rfl, rfl⟩ := Prod.mk.inj (Option.some.inj hlink)
    exact hopen
  cursor_open := fun _ _ _ hscanning => by
    obtain ⟨rfl, rfl, rfl⟩ := Runtime.scanning.inj (hruntime.symm.trans hscanning)
    exact ⟨inner, hinner, hinnerOpen⟩

/-- Only the runtime of an engine holds something. -/
theorem HoldsOpen.of_runtime_eq {e e' : Engine} (h : e.HoldsOpen) (heq : e'.runtime = e.runtime) :
    e'.HoldsOpen where
  connection_open := by
    rw [heq]
    exact h.connection_open
  cursor_open := by
    rw [heq]
    exact h.cursor_open

/-- A part of the life of an engine: it does the events, each counted by the
    store, and what it holds in the end is open. -/
structure Moves (e : Engine) (s : Store) (events : List ResourceEvent) (e' : Engine)
    (s' : Store) : Prop where
  life : Life e.state events e'.state
  usage_eq : s'.usage = events.foldl Usage.record s.usage
  holdsOpen : e'.HoldsOpen

namespace Moves

variable {e e₁ e₂ : Engine} {s s₁ s₂ : Store} {events later : List ResourceEvent}

theorem refl (h : e.HoldsOpen) : e.Moves s [] e s := ⟨.refl, rfl, h⟩

/-- An operation that leaves the runtime as it is. -/
theorem of_runtime_eq (h : e.HoldsOpen) (heq : e₁.runtime = e.runtime) : e.Moves s [] e₁ s := by
  have hstate : e₁.state = e.state := by
    rw [state, heq, state]
  exact ⟨.of_eq hstate.symm, rfl, h.of_runtime_eq heq⟩

theorem trans (h : e.Moves s events e₁ s₁) (h' : e₁.Moves s₁ later e₂ s₂) :
    e.Moves s (events ++ later) e₂ s₂ where
  life := h.life.trans h'.life
  usage_eq := by
    rw [h'.usage_eq, h.usage_eq, List.foldl_append]
  holdsOpen := h'.holdsOpen

end Moves

section Events

variable {e : Engine} {s s' : Store} {connection : Connection} {coercer : Coercer}
  {reading : Reading}

/-- Connecting is a move: the connection is new, so it is open. -/
theorem connect_moves (hruntime : e.runtime = .unconfigured)
    (hconnect : s.connect = (.ok connection, s')) :
    e.Moves s [.connect] { e with runtime := .ready connection coercer } s' := by
  rcases Store.connect_eq_ok hconnect with ⟨hconnection, hs⟩
  have hstate : e.state = .unconfigured := by
    rw [state, hruntime]
  have hopen : connection.isClosed = false := by
    rw [hconnection]
  exact ⟨(Life.of_eq hstate).connect, by rw [hs]; rfl, holdsOpen_ready rfl hopen⟩

/-- Opening a cursor is a move: the cursor is new, so it is open. -/
theorem openCursor_moves {cursor : SplitCursor} {number : Nat} {r : ScanRequest}
    (hruntime : e.runtime = .ready connection coercer) (he : e.HoldsOpen)
    (hcursor : SplitCursor.ofRequest connection s number r = (.ok cursor, s')) :
    e.Moves s [.openCursor] { e with runtime := .scanning connection coercer ⟨cursor, false⟩ }
      s' := by
  rcases SplitCursor.ofRequest_eq_ok hcursor with ⟨inner, hopen, rfl⟩
  rcases Connection.openCursor_eq_ok hopen with ⟨rows, _, rfl, hs⟩
  have hstate : e.state = .ready := by
    rw [state, hruntime]
  have hheld := he.connection_open connection coercer (by rw [hruntime]; rfl)
  exact ⟨(Life.of_eq hstate).openCursor, by rw [hs]; rfl, holdsOpen_scanning rfl hheld rfl rfl⟩

/-- Closing a cursor is a move: it was open, so the store counts it. -/
theorem closeCursor_moves (hruntime : e.runtime = .scanning connection coercer reading)
    (he : e.HoldsOpen) :
    e.Moves s [.closeCursor] { e with runtime := .ready connection coercer }
      (reading.cursor.close s).2 := by
  rcases he.cursor_open connection coercer reading hruntime with ⟨inner, hinner, hopen⟩
  have hstate : e.state = .scanning := by
    rw [state, hruntime]
  have hheld := he.connection_open connection coercer (by rw [hruntime]; rfl)
  refine ⟨(Life.of_eq hstate).closeCursor, ?_, holdsOpen_ready rfl hheld⟩
  rw [SplitCursor.close, hinner]
  dsimp only
  rw [Cursor.close_store_eq, if_neg (Bool.eq_false_iff.1 hopen)]
  rfl

/-- Closing a connection is a move: it was open, so the store counts it. -/
theorem disconnect_moves (hruntime : e.runtime = .ready connection coercer) (he : e.HoldsOpen) :
    e.Moves s [.disconnect] { e with runtime := .closed } (connection.close s).2.2 := by
  have hheld := he.connection_open connection coercer (by rw [hruntime]; rfl)
  have hstate : e.state = .ready := by
    rw [state, hruntime]
  refine ⟨(Life.of_eq hstate).disconnect, ?_, holdsOpen_of_link?_eq_none rfl⟩
  rw [Connection.close_store_eq, if_neg (Bool.eq_false_iff.1 hheld)]
  rfl

/-- An engine that is closed before it connects has nothing to close. -/
theorem abandon_moves (hruntime : e.runtime = .unconfigured) :
    e.Moves s [] { e with runtime := .closed } s := by
  have hstate : e.state = .unconfigured := by
    rw [state, hruntime]
  exact ⟨(Life.of_eq hstate).abandon, rfl, holdsOpen_of_link?_eq_none rfl⟩

/-- Reading on is a move without events: the connection and the cursor are those
    from before. -/
theorem read_moves {cursor : SplitCursor} {inner : Cursor}
    (hruntime : e.runtime = .scanning connection coercer reading) (he : e.HoldsOpen)
    (hinner : cursor.inner = some inner) (hopen : inner.isClosed = false) (pending : Bool)
    (count : Nat) :
    e.Moves s [] { e with
      runtime := .scanning connection coercer ⟨cursor, pending⟩
      recordCount := count } s := by
  have hheld := he.connection_open connection coercer (by rw [hruntime]; rfl)
  have hstate : e.state = .scanning := by
    rw [state, hruntime]
  exact ⟨.of_eq hstate, rfl, holdsOpen_scanning rfl hheld hinner hopen⟩

end Events

/-- Every step is a move. -/
theorem Step.moves {e e' : Engine} {s s' : Store} {row : Option Row} (h : Step e s row e' s')
    (he : e.HoldsOpen) : ∃ events, e.Moves s events e' s' := by
  -- Settings do not touch the runtime, and reading on keeps the connection and the cursor.
  cases h with
  | setLimit _ _ _ => exact ⟨[], .of_runtime_eq he rfl⟩
  | project _ _ _ _ _ => exact ⟨[], .of_runtime_eq he rfl⟩
  | setFilter _ _ _ _ _ => exact ⟨[], .of_runtime_eq he rfl⟩
  | setOutputFields _ _ _ => exact ⟨[], .of_runtime_eq he rfl⟩
  | start _ _ => exact ⟨[], .of_runtime_eq he rfl⟩
  | connect hruntime _ hconnect => exact ⟨_, connect_moves hruntime hconnect⟩
  | closeCursor hruntime => exact ⟨_, closeCursor_moves hruntime he⟩
  | disconnect hruntime => exact ⟨_, disconnect_moves hruntime he⟩
  | abandon hruntime => exact ⟨_, abandon_moves hruntime⟩
  | openCursor hruntime _ _ _ _ hcursor => exact ⟨_, openCursor_moves hruntime he hcursor⟩
  | advance moved hruntime _ _ _ =>
      rcases he.cursor_open _ _ _ hruntime with ⟨inner, hinner, hopen⟩
      have hmove := (inner.advance_advances hopen s).kept hopen
      have hinner' := (SplitCursor.advance_eq_mapError hinner s).2
      exact ⟨[], read_moves hruntime he hinner' hmove.1 moved e.recordCount⟩
  | produce hruntime _ _ _ =>
      rcases he.cursor_open _ _ _ hruntime with ⟨inner, hinner, hopen⟩
      exact ⟨[], read_moves hruntime he hinner hopen false (e.recordCount + 1)⟩
  | passOver hruntime _ _ _ =>
      rcases he.cursor_open _ _ _ hruntime with ⟨inner, hinner, hopen⟩
      exact ⟨[], read_moves hruntime he hinner hopen false e.recordCount⟩

/-- So are several. -/
theorem Steps.moves {e e' : Engine} {s s' : Store} {rows : List Row} (h : Steps e s rows e' s')
    (he : e.HoldsOpen) : ∃ events, e.Moves s events e' s' := by
  induction h with
  | refl => exact ⟨[], .refl he⟩
  | tail _ hstep ih =>
      rcases ih with ⟨events, hmoves⟩
      rcases hstep.moves hmoves.holdsOpen with ⟨later, hlater⟩
      exact ⟨events ++ later, hmoves.trans hlater⟩

/-- Steps that leave the counts of the store as they are have no events. -/
theorem Steps.moves_nil {e e' : Engine} {s s' : Store} {rows : List Row} (h : Steps e s rows e' s')
    (he : e.HoldsOpen) (husage : s'.usage = s.usage) : e.Moves s [] e' s' := by
  rcases h.moves he with ⟨events, hmoves⟩
  obtain rfl := Usage.eq_nil_of_foldl_record_eq (hmoves.usage_eq.symm.trans husage)
  exact hmoves

section Operations

variable {e : Engine}

theorem closeSplit_moves (he : e.HoldsOpen) (s : Store) :
    ∃ events, events.Sublist [.closeCursor] ∧
      e.Moves s events (e.closeSplit s).1 (e.closeSplit s).2 := by
  rw [closeSplit]
  cases h : e.runtime with
  | scanning connection coercer reading =>
      exact ⟨[.closeCursor], .refl _, closeCursor_moves h he⟩
  | unconfigured => exact ⟨[], List.nil_sublist _, .refl he⟩
  | ready _ _ => exact ⟨[], List.nil_sublist _, .refl he⟩
  | closed => exact ⟨[], List.nil_sublist _, .refl he⟩

theorem close_moves (he : e.HoldsOpen) (s : Store) :
    ∃ events, events.Sublist [.closeCursor, .disconnect] ∧
      e.Moves s events (e.close s).1 (e.close s).2 := by
  rw [close]
  -- Closing closes the split first, so there are two things to close at most.
  cases h : e.runtime with
  | unconfigured =>
      rw [closeSplit, h]
      dsimp only
      rw [h]
      exact ⟨[], List.nil_sublist _, abandon_moves h⟩
  | ready connection coercer =>
      rw [closeSplit, h]
      dsimp only
      rw [h]
      exact ⟨[.disconnect], by decide, disconnect_moves h he⟩
  | scanning connection coercer reading =>
      rw [closeSplit, h]
      have hclosed := closeCursor_moves (s := s) h he
      exact ⟨_, .refl _, hclosed.trans (disconnect_moves rfl hclosed.holdsOpen)⟩
  | closed =>
      rw [closeSplit, h]
      dsimp only
      rw [h]
      exact ⟨[], List.nil_sublist _, .of_runtime_eq he h.symm⟩

theorem openSplit_ready_moves {connection : Connection} {coercer : Coercer}
    (h : e.runtime = .ready connection coercer) (he : e.HoldsOpen) (s : Store) (number : Nat) :
    ∃ events, events.Sublist [.openCursor] ∧
      e.Moves s events (e.openSplit s number).2.1 (e.openSplit s number).2.2 := by
  have hstart : e.Moves s [] { e with started := true, currentSplit := some number } s :=
    .of_runtime_eq he rfl
  have hopening := opening_openSplit h s number
  generalize e.openSplit s number = result at hopening ⊢
  cases hopening with
  | noSplit _ => exact ⟨[], List.nil_sublist _, .refl he⟩
  | noRows _ _ => exact ⟨[], List.nil_sublist _, hstart⟩
  | refused _ _ _ => exact ⟨[], List.nil_sublist _, hstart⟩
  | opened _ _ hcursor =>
      exact ⟨[.openCursor], .refl _, hstart.trans (openCursor_moves h hstart.holdsOpen hcursor)⟩

theorem openSplit_moves (he : e.HoldsOpen) (s : Store) (number : Nat) :
    ∃ events, events.Sublist [.closeCursor, .openCursor] ∧
      e.Moves s events (e.openSplit s number).2.1 (e.openSplit s number).2.2 := by
  cases h : e.runtime with
  | unconfigured =>
      rw [openSplit, h]
      exact ⟨[], List.nil_sublist _, .refl he⟩
  | ready connection coercer =>
      rcases openSplit_ready_moves h he s number with ⟨events, hsub, hmoves⟩
      exact ⟨events, hsub.trans (by decide), hmoves⟩
  | scanning connection coercer reading =>
      rw [openSplit_scanning h]
      -- The cursor of the split being read is closed before another one is opened.
      have hclosed := closeCursor_moves (s := s) h he
      rcases openSplit_ready_moves rfl hclosed.holdsOpen (reading.cursor.close s).2 number with
        ⟨events, hsub, hmoves⟩
      exact ⟨.closeCursor :: events, hsub.cons_cons _, hclosed.trans hmoves⟩
  | closed =>
      rw [openSplit, h]
      exact ⟨[], List.nil_sublist _, .refl he⟩

/-- Every operation is a move, whose events come in the one order. -/
theorem act_moves (he : e.HoldsOpen) (s : Store) (a : EngineAction) :
    ∃ events, events.Sublist ResourceEvent.order ∧
      e.Moves s events (e.act s a).1 (e.act s a).2 := by
  -- Most operations do not touch the store.
  have hquiet : (e.act s a).2.usage = s.usage → ∃ events, events.Sublist ResourceEvent.order ∧
      e.Moves s events (e.act s a).1 (e.act s a).2 := fun husage =>
    ⟨[], List.nil_sublist _, (e.act_steps s a).moves_nil he husage⟩
  cases a with
  | setLimit _ => exact hquiet rfl
  | project _ => exact hquiet rfl
  | setFilter _ => exact hquiet rfl
  | hasMore => exact hquiet rfl
  | produceNext => exact hquiet rfl
  | setOutputFields fields =>
      cases hfields : e.setOutputFields fields with
      | ok e' => exact hquiet (by rw [act, hfields])
      | error err =>
          -- A refusal loses the engine, which closes it.
          rw [act, hfields]
          rcases close_moves he s with ⟨events, hsub, hmoves⟩
          exact ⟨events, hsub.trans (by decide), hmoves⟩
  | configure =>
      rcases e.configure_cases s with ⟨_, h⟩ | ⟨_, _, _, hruntime, _, hconnect, h⟩
      · exact hquiet (by rw [act, h])
      · rw [act, h]
        exact ⟨[.connect], by decide, connect_moves hruntime hconnect⟩
  | openSplit number =>
      rcases openSplit_moves he s number with ⟨events, hsub, hmoves⟩
      exact ⟨events, hsub.trans (by decide), hmoves⟩
  | openInput split =>
      by_cases htotal : split.total ≠ e.plan.splits.length
      · exact hquiet (by rw [act, openInput, if_pos htotal])
      · rw [act, openInput, if_neg htotal]
        rcases openSplit_moves he s split.number with ⟨events, hsub, hmoves⟩
        exact ⟨events, hsub.trans (by decide), hmoves⟩
  | closeSplit =>
      rcases closeSplit_moves he s with ⟨events, hsub, hmoves⟩
      exact ⟨events, hsub.trans (by decide), hmoves⟩
  | close =>
      rcases close_moves he s with ⟨events, hsub, hmoves⟩
      exact ⟨events, hsub.trans (by decide), hmoves⟩

end Operations

end Engine

end RegionScan
