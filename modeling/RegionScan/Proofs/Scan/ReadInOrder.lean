import RegionScan.Proofs.Scan.CursorStep
import RegionScan.Proofs.Scan.OpenedRows

/-!
# Reading in Order

A split that is opened is read from its first row on, and no row is skipped,
repeated or taken out of turn.

Calls that ask for rows may come in any order, on a store that is written to and
told to fail between any two of them. Where the engine is in its rows is known
after each call all the same. The cursor stands before the next row, or on it
if it was asked whether there is one (`Cursor.StandsAt`). A move that fails
leaves it before the row. A row that cannot be converted is used up as one that
can, and its failure takes its place among the answers. The induction over the
calls carries the number of rows used up, and the answers are the rows up to that
number (`Engine.StandsAt.answers`).

Opening the split again starts it again. An engine that has opened a split cannot
change its settings any more and keeps its connection until it is closed
(`Engine.Continues`). What it sees in the split is then a question of what the
split holds, so the rows are the same if the split holds the same.

## Main definitions

* `Cursor.StandsAt`, `Engine.StandsAt`: The place in the rows of a split.
* `ReadCall`, `Engine.answers`: Calls that ask for rows and their answers.
* `Engine.usesRow`: An answer that stands for a row.
* `Engine.ReadsInOrder`: What all calls answer.
* `Engine.Continues`, `Engine.after`: An engine that goes on, and where it gets.

## Theorems

* `Cursor.StandsAt.advance`: A move uses up no row.
* `Engine.StandsAt.hasMore`, `Engine.StandsAt.produceNext`: One call.
* `Engine.StandsAt.answers`: Any number of calls.
* `Engine.Continues.step`: Steps keep what is settled.
* `Engine.Fits.readsInOrder`: What an engine reads that has opened a split.
* `Session.openSplit_readsInOrder`: Every split that is opened is read in order.
-/

namespace RegionScan

/-- A cursor over some rows of which so many were used up: it stands before the
    next one, or on it if that one is pending. -/
structure Cursor.StandsAt (c : Cursor) (rows : List RawRow) (used : Nat) (pending : Bool) :
    Prop where
  isClosed_eq : c.isClosed = false
  yielded_eq : c.yielded = used + pending.toNat
  rest_eq : c.rest = rows.drop (used + pending.toNat)
  current_eq : pending = true → ∃ row, rows[used]? = some row ∧ c.current? = some row

namespace Cursor.StandsAt

variable {c : Cursor} {rows : List RawRow} {used : Nat}

/-- A cursor that was just opened stands before its first row. -/
theorem opened (region : RegionId) (rows : List RawRow) :
    StandsAt ⟨region, rows, none, 0, false⟩ rows 0 false where
  isClosed_eq := rfl
  yielded_eq := rfl
  rest_eq := rfl
  current_eq := fun h => nomatch h

/-- The row that a cursor stands on is used up. -/
theorem use (h : c.StandsAt rows used true) : c.StandsAt rows (used + 1) false where
  isClosed_eq := h.isClosed_eq
  yielded_eq := h.yielded_eq
  rest_eq := h.rest_eq
  current_eq := fun h => nomatch h

/-- A move uses up no row. The cursor stands on the next row if the move says so,
    and only a fault for that very row keeps it from telling whether there is
    one. -/
theorem advance (h : c.StandsAt rows used false) (s : Store) :
    (c.advance s).2.StandsAt rows used ((c.advance s).1.toOption.getD false) ∧
      (s.advanceLimit? ≠ some used → (c.advance s).1 = .ok (decide (used < rows.length))) := by
  have hyielded : c.yielded = used := h.yielded_eq
  have hrest : c.rest = rows.drop used := h.rest_eq
  have hmove := c.advance_advances h.isClosed_eq s
  -- Only what `hmove` says of the answer and of the cursor is used from here on.
  generalize (c.advance s).1 = answer at hmove ⊢
  generalize (c.advance s).2 = c' at hmove ⊢
  cases hmove with
  | fail hfault =>
      rw [hyielded] at hfault
      exact ⟨h, fun hnot => absurd hfault hnot⟩
  | @next _ row _ hcons hopen _ hyielded' hcurrent =>
      -- There is a next row, so the rows do not end here.
      have hlt : used < rows.length := by
        by_contra hle
        rw [hrest, List.drop_eq_nil_of_le (Nat.le_of_not_lt hle)] at hcons
        cases hcons
      rw [hrest, List.drop_eq_getElem_cons hlt] at hcons
      obtain ⟨hrow, hothers⟩ := List.cons.inj hcons
      refine ⟨⟨hopen, ?_, hothers.symm, fun _ => ⟨row, ?_, hcurrent⟩⟩, fun _ => ?_⟩
      · rw [hyielded', hyielded]
        rfl
      · rw [List.getElem?_eq_getElem hlt, hrow]
      · rw [decide_eq_true hlt]
  | finish _ hnil hopen _ hyielded' hnil' =>
      have hle : rows.length ≤ used := by
        rw [hrest, List.drop_eq_nil_iff] at hnil
        exact hnil
      refine ⟨⟨hopen, ?_, ?_, fun h => nomatch h⟩, fun _ => ?_⟩
      · rw [hyielded', hyielded]
        rfl
      · rw [hnil']
        exact (List.drop_eq_nil_of_le hle).symm
      · rw [decide_eq_false (Nat.not_lt.2 hle)]

end Cursor.StandsAt

/-- A call that asks for rows. -/
inductive ReadCall where
  | hasMore
  | produceNext

namespace Engine

/-- What calls that ask for rows answer, each on the store as it is then, and
    the engine after them. Only the answers that could be a row are kept. -/
def answers (e : Engine) : List (Store × ReadCall) → List (Except ScanError Row) × Engine
  | [] => ([], e)
  | (s, .hasMore) :: rest => (e.hasMore s).2.answers rest
  | (s, .produceNext) :: rest =>
    let (later, after) := (e.produceNext s).2.answers rest
    ((e.produceNext s).1 :: later, after)

/-- Whether an answer stands for a row: it is the row, or says that it cannot be
    converted. -/
def usesRow : Except ScanError Row → Bool
  | .ok _ => true
  | .error (.coercion ..) => true
  | .error _ => false

/-- An engine that has opened a split and used up so many of its rows. The limit
    may have been reached before, and then there are none. `origin` is the engine as
    it was when it opened the split. -/
structure StandsAt (e origin : Engine) (coercer : Coercer) (number : Nat) (rows : List RawRow)
    (used : Nat) : Prop where
  projection_eq : e.projection = origin.projection
  currentSplit_eq : e.currentSplit = some number
  place : (e.limitReached = true ∧ rows = []) ∨
    ∃ connection reading inner, e.runtime = .scanning connection coercer reading ∧
      reading.cursor.inner = some inner ∧
      inner.StandsAt (rows.map origin.cells) used reading.pending

/-- Asking for more moves the cursor if no row is pending. -/
theorem hasMore_of_not_pending {e : Engine} {connection : Connection} {coercer : Coercer}
    {reading : Reading} (hruntime : e.runtime = .scanning connection coercer reading)
    (hlimit : e.limitReached = false) (hpending : reading.pending = false) (s : Store) :
    e.hasMore s = ((reading.cursor.advance s).1,
      { e with
        runtime := .scanning connection coercer
          ⟨(reading.cursor.advance s).2, (reading.cursor.advance s).1.toOption.getD false⟩ }) := by
  rw [hasMore, if_neg (Bool.eq_false_iff.1 hlimit), hruntime]
  dsimp only
  rw [if_neg (Bool.eq_false_iff.1 hpending)]
  cases (reading.cursor.advance s).1 with
  | ok moved => rfl
  | error _ => rfl

/-- A row is converted, or the failure says that it cannot be. -/
theorem usesRow_convert {e : Engine} {coercer : Coercer}
    (hcolumns : ∀ column ∈ e.projection, column < coercer.fields.length) (row : RawRow) :
    usesRow (e.convert coercer row) = true := by
  cases hconvert : e.convert coercer row with
  | ok _ => rfl
  | error err =>
      -- One of the columns fails, and every column has a field.
      rcases mapM_eq_error _ hconvert with ⟨column, hcolumn, hcoerce⟩
      rcases Coercer.coerce_error (hcolumns column hcolumn) hcoerce with ⟨fault, rfl⟩
      rfl

namespace StandsAt

variable {e origin : Engine} {coercer : Coercer} {number : Nat} {rows : List RawRow} {used : Nat}

/-- Asking for more uses up no row. It tells whether there is one unless the
    limit is reached or the store fails it, and a failure is never one of a row. -/
theorem hasMore (h : e.StandsAt origin coercer number rows used) (s : Store) :
    (e.hasMore s).2.StandsAt origin coercer number rows used ∧
      (e.limitReached = false → s.advanceLimit? ≠ some used →
        (e.hasMore s).1 = .ok (decide (used < rows.length))) ∧
      ∀ err, (e.hasMore s).1 = .error err → usesRow (.error err) = false := by
  by_cases hlimit : e.limitReached = true
  · rw [hasMore_of_limitReached hlimit]
    exact ⟨h, fun hnot => absurd hlimit (Bool.eq_false_iff.1 hnot), fun _ herr => nomatch herr⟩
  · rw [Bool.not_eq_true] at hlimit
    rcases h.place with ⟨hreached, _⟩ | ⟨connection, reading, inner, hruntime, hinner, hplace⟩
    · rw [hreached] at hlimit
      cases hlimit
    · cases hpending : reading.pending with
      | true =>
          -- The row was moved to before and is still there.
          rw [hasMore_of_pending hruntime hlimit hpending]
          refine ⟨h, fun _ _ => ?_, fun _ herr => nomatch herr⟩
          rcases hplace.current_eq hpending with ⟨row, hrow, _⟩
          have hlt := (List.getElem?_eq_some_iff.1 hrow).1
          rw [List.length_map] at hlt
          rw [decide_eq_true hlt]
      | false =>
          rw [hpending] at hplace
          have hmove := hplace.advance s
          have hreader := SplitCursor.advance_eq_mapError hinner s
          rw [List.length_map] at hmove
          rw [hasMore_of_not_pending hruntime hlimit hpending, hreader.1]
          refine ⟨⟨h.projection_eq, h.currentSplit_eq, Or.inr ?_⟩, fun _ hfault => ?_,
            fun err herr => ?_⟩
          · rw [toOption_mapError]
            exact ⟨connection, _, (inner.advance s).2, rfl, hreader.2, hmove.1⟩
          · rw [hmove.2 hfault]
            rfl
          · cases hanswer : (inner.advance s).1 with
            | ok moved =>
                rw [hanswer] at herr
                cases herr
            | error fault =>
                rw [hanswer] at herr
                obtain rfl := Except.error.inj herr
                rfl

/-- An engine with a row pending stands on the next one. Once that is returned or
    passed over, it is used up. -/
theorem next_of_pending (h : e.StandsAt origin coercer number rows used)
    (hlimit : e.limitReached = false) {connection : Connection} {known : Coercer}
    {reading : Reading} (hruntime : e.runtime = .scanning connection known reading)
    (hpending : reading.pending = true) :
    ∃ row, rows[used]? = some row ∧
      currentRow e.projection reading.cursor known = origin.convert coercer row ∧
      ∀ count, StandsAt { e with
        runtime := .scanning connection known { reading with pending := false }
        recordCount := count } origin coercer number rows (used + 1) := by
  rcases h.place with ⟨hreached, _⟩ | ⟨_, _, inner, hruntime', hinner, hplace⟩
  · rw [hreached] at hlimit
    cases hlimit
  · obtain ⟨rfl, rfl, rfl⟩ := Runtime.scanning.inj (hruntime.symm.trans hruntime')
    rw [hpending] at hplace
    rcases hplace.current_eq rfl with ⟨values, hvalues, hcurrent⟩
    rw [List.getElem?_map] at hvalues
    rcases Option.map_eq_some_iff.1 hvalues with ⟨row, hrow, rfl⟩
    refine ⟨row, hrow, ?_, fun count => ⟨h.projection_eq, h.currentSplit_eq,
      Or.inr ⟨connection, _, inner, rfl, hinner, hplace.use⟩⟩⟩
    rw [h.projection_eq]
    exact currentRow_eq_convert hinner hplace.isClosed_eq hcurrent

/-- Asking for a row uses up the next one, whether or not it can be converted, or
    no row at all. It finds the next row unless the limit is reached or the store
    fails it. -/
theorem produceNext (h : e.StandsAt origin coercer number rows used) (s : Store) :
    ((∃ row, rows[used]? = some row ∧ (e.produceNext s).1 = origin.convert coercer row ∧
        (e.produceNext s).2.StandsAt origin coercer number rows (used + 1)) ∨
      (usesRow (e.produceNext s).1 = false ∧
        (e.produceNext s).2.StandsAt origin coercer number rows used)) ∧
      (e.limitReached = false → s.advanceLimit? ≠ some used →
        (e.produceNext s).1 = rows[used]?.elim (.error (.noMoreRows number))
          (origin.convert coercer)) := by
  rcases h.hasMore s with ⟨hstands, htells, herrors⟩
  rw [Engine.produceNext]
  rcases hanswer : e.hasMore s with ⟨err | moved, e'⟩
  · rw [hanswer] at hstands htells herrors
    refine ⟨Or.inr ⟨herrors err rfl, hstands⟩, fun hlimit hfault => ?_⟩
    cases htells hlimit hfault
  · rw [hanswer] at hstands htells
    cases moved with
    | false =>
        dsimp only
        rw [hstands.currentSplit_eq, Option.getD_some]
        refine ⟨Or.inr ⟨rfl, hstands⟩, fun hlimit hfault => ?_⟩
        -- There is no row, so the rows end here.
        have hend : ¬ used < rows.length := of_decide_eq_false (Except.ok.inj (htells hlimit hfault)).symm
        rw [List.getElem?_eq_none (Nat.le_of_not_lt hend), Option.elim]
    | true =>
        rcases hasMore_eq_ok_true hanswer with ⟨hlimit', connection, _, reading, hruntime, hpending⟩
        -- The cursor stands on the next row, which is converted and used up.
        rcases hstands.next_of_pending hlimit' hruntime hpending with ⟨row, hrow, hconvert, hused⟩
        dsimp only
        rw [hruntime, hrow]
        dsimp only
        rw [hconvert]
        cases hresult : origin.convert coercer row with
        | error err =>
            have hafter := hused e'.recordCount
            exact ⟨Or.inl ⟨row, rfl, hresult.symm, hafter⟩, fun _ _ => hresult.symm⟩
        | ok produced =>
            have hafter := hused (e'.recordCount + 1)
            exact ⟨Or.inl ⟨row, rfl, hresult.symm, hafter⟩, fun _ _ => hresult.symm⟩

/-- The answers of any calls that stand for rows are the next rows in order, and
    as many rows are used up. -/
theorem answers (hcolumns : ∀ column ∈ origin.projection, column < coercer.fields.length)
    (calls : List (Store × ReadCall)) :
    ∀ {e : Engine} {used : Nat}, e.StandsAt origin coercer number rows used →
      (e.answers calls).2.StandsAt origin coercer number rows
          (used + ((e.answers calls).1.filter usesRow).length) ∧
        (e.answers calls).1.filter usesRow
          = ((rows.drop used).take ((e.answers calls).1.filter usesRow).length).map
            (origin.convert coercer) := by
  -- The induction carries the place, since the rest of the calls goes on from there.
  induction calls with
  | nil => exact fun h => ⟨h, rfl⟩
  | cons call rest ih =>
      intro e used h
      obtain ⟨s, _ | _⟩ := call
      · exact ih (h.hasMore s).1
      · rw [Engine.answers]
        dsimp only
        rcases (h.produceNext s).1 with ⟨row, hrow, hanswer, hafter⟩ | ⟨hnone, hafter⟩
        · -- The next row comes first, and the later answers go on behind it.
          rcases ih hafter with ⟨hstands, hlater⟩
          have huses : usesRow (e.produceNext s).1 = true := by
            rw [hanswer]
            exact usesRow_convert hcolumns row
          have hlt := (List.getElem?_eq_some_iff.1 hrow).1
          have hnext : rows.drop used = row :: rows.drop (used + 1) := by
            rw [List.drop_eq_getElem_cons hlt, (List.getElem?_eq_some_iff.1 hrow).2]
          rw [List.filter_cons_of_pos huses, List.length_cons]
          refine ⟨?_, ?_⟩
          · rw [Nat.add_assoc, Nat.add_comm 1] at hstands
            exact hstands
          · rw [hnext, List.take_succ_cons, List.map_cons, ← hlater, hanswer]
        · rw [List.filter_cons_of_neg (by rw [hnone]; exact Bool.false_ne_true)]
          exact ih hafter

end StandsAt

/-- Reading some rows of a split in order. Whatever calls were made, on whatever
    stores and whether or not they failed, the answers that stand for rows are
    the first of the rows, converted, each of them once. If the limit leaves room
    and the store does not fail the next move, the next call says whether there
    is a further row, and gives it. -/
def ReadsInOrder (e : Engine) (coercer : Coercer) (number : Nat)
    (rows : List (Int64 × RawRow)) : Prop :=
  ∀ calls : List (Store × ReadCall),
    (e.answers calls).1.filter usesRow
        = (rows.take ((e.answers calls).1.filter usesRow).length).map
          (fun row => e.convert coercer row.2) ∧
      ∀ s : Store, (e.answers calls).2.limitReached = false →
        s.advanceLimit? ≠ some ((e.answers calls).1.filter usesRow).length →
          ((e.answers calls).2.hasMore s).1
              = .ok (decide (((e.answers calls).1.filter usesRow).length < rows.length)) ∧
            ((e.answers calls).2.produceNext s).1
              = rows[((e.answers calls).1.filter usesRow).length]?.elim
                (.error (.noMoreRows number)) fun row => e.convert coercer row.2

/-- An engine that stands before the first row reads in order. -/
theorem StandsAt.readsInOrder {e : Engine} {coercer : Coercer} {number : Nat}
    {rows : List (Int64 × RawRow)}
    (hcolumns : ∀ column ∈ e.projection, column < coercer.fields.length)
    (h : e.StandsAt e coercer number (rows.map (·.2)) 0) : e.ReadsInOrder coercer number rows := by
  intro calls
  rcases StandsAt.answers hcolumns calls h with ⟨hstands, hanswers⟩
  rw [Nat.zero_add] at hstands
  refine ⟨?_, fun s hlimit hfault => ⟨?_, ?_⟩⟩
  · rw [List.drop_zero, ← List.map_take, List.map_map] at hanswers
    exact hanswers
  · have htells := (hstands.hasMore s).2.1 hlimit hfault
    rw [List.length_map] at htells
    exact htells
  · have hfinds := (hstands.produceNext s).2 hlimit hfault
    rw [List.getElem?_map] at hfinds
    rw [hfinds]
    cases rows[((e.answers calls).1.filter usesRow).length]? with
    | none => rfl
    | some row => rfl

/-- An engine that goes on after it has opened a split: its scan is settled for
    good, and it keeps its connection until it is closed. -/
structure Continues (e origin : Engine) : Prop where
  config_eq : e.config = origin.config
  plan_eq : e.plan = origin.plan
  filter_eq : e.filter = origin.filter
  projection_eq : e.projection = origin.projection
  started_eq : e.started = true
  link_eq : e.runtime = .closed ∨ e.runtime.link? = origin.runtime.link?

/-- The engine after operations, each on the store as it is then. -/
def after (e : Engine) (operations : List (Store × EngineAction)) : Engine :=
  operations.foldl (fun e operation => (e.act operation.1 operation.2).1) e

namespace Continues

variable {e origin : Engine} {link : Connection × Coercer}

/-- An engine that goes on is configured, or closed. -/
theorem runtime_ne (h : e.Continues origin) (hlink : origin.runtime.link? = some link) :
    e.runtime ≠ .unconfigured := by
  intro hruntime
  rcases h.link_eq with hclosed | hsame
  · cases hruntime.symm.trans hclosed
  · rw [hruntime, hlink] at hsame
    cases hsame

/-- A step on any store keeps what is settled. -/
theorem step (h : e.Continues origin) (hlink : origin.runtime.link? = some link) {e' : Engine}
    {s s' : Store} {row : Option Row} (hstep : Step e s row e' s') : e'.Continues origin := by
  have hstarted := h.started_eq
  have hconfigured := h.runtime_ne hlink
  -- A runtime with the connection from before is as good as the one before.
  have hkept : ∀ {runtime runtime' : Runtime}, e.runtime = runtime → runtime ≠ .closed →
      runtime'.link? = runtime.link? →
      runtime' = .closed ∨ runtime'.link? = origin.runtime.link? := by
    intro runtime runtime' hruntime hopen hsame
    rw [hsame, ← hruntime]
    refine Or.inr (h.link_eq.resolve_left ?_)
    rw [hruntime]
    exact hopen
  -- Settings are refused once a split was opened, and a connection is made only once.
  cases hstep with
  | setLimit _ hnot _ => cases hstarted.symm.trans hnot
  | project _ hnot _ _ _ => cases hstarted.symm.trans hnot
  | setFilter _ hnot _ _ _ => cases hstarted.symm.trans hnot
  | setOutputFields _ hruntime _ => exact absurd hruntime hconfigured
  | connect hruntime _ _ => exact absurd hruntime hconfigured
  | abandon hruntime => exact absurd hruntime hconfigured
  | disconnect _ => exact { h with link_eq := Or.inl rfl }
  | start _ _ => exact { h with started_eq := rfl }
  | closeCursor hruntime => exact { h with link_eq := hkept hruntime Runtime.noConfusion rfl }
  | openCursor hruntime _ _ _ _ _ =>
      exact { h with link_eq := hkept hruntime Runtime.noConfusion rfl }
  | advance _ hruntime _ _ _ => exact { h with link_eq := hkept hruntime Runtime.noConfusion rfl }
  | produce hruntime _ _ _ => exact { h with link_eq := hkept hruntime Runtime.noConfusion rfl }
  | passOver hruntime _ _ _ => exact { h with link_eq := hkept hruntime Runtime.noConfusion rfl }

theorem steps (h : e.Continues origin) (hlink : origin.runtime.link? = some link) {e' : Engine}
    {s s' : Store} {rows : List Row} (hsteps : Steps e s rows e' s') : e'.Continues origin := by
  induction hsteps with
  | refl => exact h
  | tail _ hstep ih => exact ih.step hlink hstep

/-- So do operations, whatever happens to the store between them. -/
theorem after (hlink : origin.runtime.link? = some link) (operations : List (Store × EngineAction)) :
    ∀ {e : Engine}, e.Continues origin → (e.after operations).Continues origin := by
  induction operations with
  | nil => exact fun h => h
  | cons operation rest ih =>
      intro e h
      have hsteps := e.act_steps operation.1 operation.2
      exact ih (h.steps hlink hsteps)

/-- The settings of an engine that goes on still fit its plan. -/
theorem fits (h : e.Continues origin) (horigin : origin.Fits) : e.Fits where
  ordinal_eq := by
    rw [h.plan_eq]
    exact horigin.ordinal_eq
  projection_lt := by
    rw [h.plan_eq, h.projection_eq]
    exact horigin.projection_lt
  length_fields := fun connection coercer hck => by
    rcases h.link_eq with hclosed | hsame
    · rw [hclosed] at hck
      cases hck
    · rw [h.plan_eq]
      exact horigin.length_fields connection coercer (hsame.symm.trans hck)

/-- An engine that goes on sees in a split what it saw before, if that is what
    the split still holds. -/
theorem matchingIn_eq (h : e.Continues origin) {s s' : Store} {split : Split}
    (hread : s'.read split (Snapshot.lastSeen origin.config.snapshot)
      = s.read split (Snapshot.lastSeen origin.config.snapshot)) :
    e.matchingIn s' split = origin.matchingIn s split := by
  rw [matchingIn, h.config_eq, h.filter_eq, hread, matchingIn]

end Continues

/-- A limit that is reached leaves no budget. -/
theorem budget_of_limitReached {e : Engine} (h : e.limitReached = true) : e.budget = 0 := by
  rw [limitReached] at h
  rw [budget]
  cases hlimit : e.limit with
  | none =>
      rw [hlimit] at h
      cases h
  | some limit =>
      rw [hlimit, Option.any_some, decide_eq_true_eq] at h
      dsimp only
      omega

/-- What an engine reads that has opened a split: the rows of the split that it
    saw and that pass its filter, as many as its budget was. -/
theorem Fits.readsInOrder_ready {e opened : Engine} (h : e.Fits) {s s' : Store} {number : Nat}
    {connection : Connection} {coercer : Coercer}
    (hruntime : e.runtime = .ready connection coercer)
    (hopen : e.openSplit s number = (.ok (), opened, s')) :
    ∃ split, e.plan.split? number = some split ∧
      opened.runtime.link? = some (connection, coercer) ∧ opened.Continues e ∧
      opened.ReadsInOrder coercer number ((e.matchingIn s split).take e.budget) := by
  have hlink : e.runtime.link? = some (connection, coercer) := by
    rw [hruntime]
    rfl
  have hcolumns : ∀ column ∈ e.projection, column < coercer.fields.length := by
    rw [h.length_fields connection coercer hlink]
    exact h.projection_lt
  have hopening := opening_openSplit hruntime s number
  rw [hopen] at hopening
  cases hopening with
  | noRows hsplit hlimit =>
      -- There is nothing to open, and nothing is left of the limit.
      refine ⟨_, hsplit, hlink, ⟨rfl, rfl, rfl, rfl, rfl, Or.inr rfl⟩, ?_⟩
      rw [budget_of_limitReached hlimit, List.take_zero]
      exact StandsAt.readsInOrder hcolumns ⟨rfl, rfl, Or.inl ⟨hlimit, rfl⟩⟩
  | opened hsplit _ hcursor =>
      rcases SplitCursor.ofRequest_eq_ok hcursor with ⟨inner, hopenCursor, hreader⟩
      rcases Connection.openCursor_eq_ok hopenCursor with ⟨rows, hread, rfl, _⟩
      have hrows := h.eq_of_readRows hread
      refine ⟨_, hsplit, rfl, ⟨rfl, rfl, rfl, rfl, rfl, Or.inr hlink.symm⟩, ?_⟩
      refine StandsAt.readsInOrder hcolumns ⟨rfl, rfl, Or.inr ?_⟩
      refine ⟨connection, _, _, rfl, by rw [hreader], ?_⟩
      rw [List.map_map, hrows]
      exact Cursor.StandsAt.opened _ _

/-- The same if another split was being read, which is closed first. -/
theorem Fits.readsInOrder {e opened : Engine} (h : e.Fits) {s s' : Store} {number : Nat}
    (hopen : e.openSplit s number = (.ok (), opened, s')) :
    ∃ split connection coercer, e.plan.split? number = some split ∧
      e.runtime.link? = some (connection, coercer) ∧
      opened.runtime.link? = some (connection, coercer) ∧ opened.Continues e ∧
      opened.ReadsInOrder coercer number ((e.matchingIn s split).take e.budget) := by
  cases hlink : e.runtime.link? with
  | none =>
      rw [openSplit_of_link?_eq_none hlink] at hopen
      cases hopen
  | some link =>
      obtain ⟨connection, coercer⟩ := link
      -- Closing a split changes only the counts, and the counts are not read.
      rcases exists_openSplit_eq hlink s number with ⟨u, hready⟩
      rw [hready] at hopen
      have hfits : Engine.Fits { e with runtime := .ready connection coercer } :=
        ⟨h.ordinal_eq, h.projection_lt, fun c k hck => h.length_fields c k (hlink.trans hck)⟩
      rcases hfits.readsInOrder_ready rfl hopen with ⟨split, hsplit, hopened, hcontinues, hreads⟩
      have hcontinues' : opened.Continues e :=
        { hcontinues with link_eq := Or.inr (hopened.trans hlink.symm) }
      exact ⟨split, connection, coercer, hsplit, rfl, hopened, hcontinues', hreads⟩

end Engine

/-- A split that is opened is read in order: the rows of it that the engine sees
    when it opens it and that pass its filter, by ascending handle, as many as the
    engine's budget, whatever is written to the store and whatever fails while they
    are read. If the engine opens the split again later and the split then holds
    the same rows at the engine's read point, it reads the same rows in the same
    order, as many as its budget then. -/
theorem Session.openSplit_readsInOrder (clock : Clock) (actions : List HostAction) (x : Session)
    (hx : x ∈ ((Host.new clock).run actions).sessions) {number : Nat} {opened : Engine} {s : Store}
    (hopen : x.engine.openSplit ((Host.new clock).run actions).store number
      = (.ok (), opened, s)) :
    ∃ split connection coercer, x.engine.plan.split? number = some split ∧
      opened.runtime.link? = some (connection, coercer) ∧
      (x.engine.matchingIn ((Host.new clock).run actions).store split).Pairwise
        (fun a b => a.1 < b.1) ∧
      opened.ReadsInOrder coercer number
        ((x.engine.matchingIn ((Host.new clock).run actions).store split).take x.engine.budget) ∧
      ∀ (operations : List (Store × EngineAction)) (later : Store) (reopened : Engine) (s' : Store),
        later.read split (Snapshot.lastSeen x.engine.config.snapshot)
          = ((Host.new clock).run actions).store.read split
            (Snapshot.lastSeen x.engine.config.snapshot) →
        (opened.after operations).openSplit later number = (.ok (), reopened, s') →
        reopened.ReadsInOrder coercer number
          ((x.engine.matchingIn ((Host.new clock).run actions).store split).take
            (opened.after operations).budget) := by
  have hfits := (Host.valid_run clock actions x hx).fits
  rcases hfits.readsInOrder hopen with
    ⟨split, connection, coercer, hsplit, hlink, hopenedLink, hcontinues, hreads⟩
  refine ⟨split, connection, coercer, hsplit, hopenedLink, ?_, hreads,
    fun operations later reopened s' hsame hreopen => ?_⟩
  · have hascending := ((Host.new clock).run actions).store.read_ascending split
      (Snapshot.lastSeen x.engine.config.snapshot)
    exact hascending.sublist List.filter_sublist
  · have hgoesOn := Engine.Continues.after hlink operations hcontinues
    rcases (hgoesOn.fits hfits).readsInOrder hreopen with
      ⟨split', connection', coercer', hsplit', hlink', _, _, hreads'⟩
    -- The plan and the patterns are those from before.
    rw [hgoesOn.plan_eq, hsplit] at hsplit'
    obtain rfl := Option.some.inj hsplit'
    have hnotClosed : (opened.after operations).runtime ≠ .closed := by
      intro hclosed
      rw [hclosed] at hlink'
      cases hlink'
    rw [hgoesOn.link_eq.resolve_left hnotClosed, hlink] at hlink'
    obtain ⟨rfl, rfl⟩ := Prod.mk.inj (Option.some.inj hlink')
    rw [hgoesOn.matchingIn_eq hsame] at hreads'
    exact hreads'

/-- An engine that is ready to read two rows at a snapshot, of which the first one cannot
    be converted. It was written again after the snapshot. -/
def unconvertibleRun : List HostAction :=
  [.store (.createTable ⟨"db", "t"⟩ [⟨"id", .bigInt, 0, false⟩]),
    .store (.insertRows ⟨"db", "t"⟩ [[.bytes [1]], [.int 2]]),
    .plan ⟨⟨"db", "t"⟩, some (.ofParts 1 0), .empty, .empty⟩,
    .engine 0 .configure,
    .store (.upsert ⟨"db", "t"⟩ 1 [.int 7])]

/-- The failure takes the place of the first row, and the second one follows it,
    although the store fails the first move. -/
theorem answers_unconvertibleRun :
    ∃ x ∈ ((Host.new (.manual 1)).run unconvertibleRun).sessions, ∃ opened s,
      x.engine.openSplit ((Host.new (.manual 1)).run unconvertibleRun).store 0
          = (.ok (), opened, s) ∧
      ((opened.answers [(s.inject (.advanceAfter 0), .produceNext), (s, .hasMore), (s, .hasMore),
          (s, .produceNext), (s, .produceNext)]).1.filter Engine.usesRow).length = 2 ∧
      (opened.answers [(s.inject (.advanceAfter 0), .produceNext), (s, .hasMore), (s, .hasMore),
          (s, .produceNext), (s, .produceNext)]).1.filter Engine.usesRow
        = [.error (.coercion "id" .bytes .bigInt .unsupported), .ok [.bigInt 2]] := by
  have hx := List.getElem_mem
    (by decide : 0 < ((Host.new (.manual 1)).run unconvertibleRun).sessions.length)
  have hopen : (((Host.new (.manual 1)).run unconvertibleRun).sessions[0]).engine.openSplit
      ((Host.new (.manual 1)).run unconvertibleRun).store 0 = (.ok (), _, _) := rfl
  refine ⟨_, hx, _, _, hopen, rfl, ?_⟩
  rcases Session.openSplit_readsInOrder (.manual 1) unconvertibleRun _ hx hopen with
    ⟨split, connection, coercer, hsplit, hlink, _, hreads, _⟩
  obtain rfl := Option.some.inj hsplit
  obtain ⟨rfl, rfl⟩ := Prod.mk.inj (Option.some.inj hlink)
  exact (hreads _).1

end RegionScan
