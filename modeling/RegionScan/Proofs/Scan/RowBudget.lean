import RegionScan.Proofs.Scan.ReadInOrder
import RegionScan.Proofs.Scan.RefusedOpening
import Mathlib.Data.List.Induction

/-!
# The Row Budget

Why an engine says that a split has no more rows.

A cursor is asked for as many rows as the limit leaves when it is opened. From
then on two numbers go their own ways. The cursor gives away its rows one by one,
whether or not they can be converted; the engine counts only those that it could
convert. They stay together as long as every row can be converted, and then the
cursor runs out exactly when the limit is reached or the split is. A row that
cannot be converted uses up a place of the cursor and leaves the count alone. So
once there was one, the cursor can run out while the limit is not reached and
the split has further rows, and the engine says that there are none.

What the engine answers depends on how it came to read its split. This is told
beside the run (`Host.ReadSince`): how the engine opened the split, and what it
has answered since. Every engine that reads a split has such a history, and it is
one of calls that ask for rows, for what is refused leaves no trace.

## Main definitions

* `Engine.isUnconvertible`: An answer that says that a row cannot be converted.
* `Engine.opens?`, `Engine.readsOn`: Operations that open a split, and those that
  leave the split being read open.
* `Engine.answer?`: What an operation that asks for a row is answered with.
* `Host.ReadSince`: How an engine came to read its split.

## Theorems

* `Engine.recordCount_answers`: What is counted of the rows that are used up.
* `Engine.ReadsInOrder.exhausted_iff`: When calls have come to an end.
* `Host.ReadSince.exists_calls`: A history is one of calls that ask for rows.
* `Host.exists_readSince`: Every engine that reads a split has a history.
* `Host.hasMore_eq_false_iff`: When an engine says that there are no more rows.
-/

namespace RegionScan

namespace Engine

/-- Whether an answer says that a row cannot be converted. -/
def isUnconvertible : Except ScanError Row → Bool
  | .error (.coercion ..) => true
  | _ => false

/-- A step counts the row that it returns. -/
theorem Step.recordCount_eq {e e' : Engine} {s s' : Store} {row : Option Row}
    (h : Step e s row e' s') : e'.recordCount = e.recordCount + row.toList.length := by
  cases h with
  | produce _ _ _ _ => rfl
  | _ => rfl

theorem Steps.recordCount_eq {e e' : Engine} {s s' : Store} {rows : List Row}
    (h : Steps e s rows e' s') : e'.recordCount = e.recordCount + rows.length := by
  induction h with
  | refl => rfl
  | tail _ hstep ih => rw [hstep.recordCount_eq, ih, List.length_append, Nat.add_assoc]

/-- The limit is not reached if and only if it leaves room for a row. -/
theorem limitReached_eq_false_iff {e : Engine} :
    e.limitReached = false ↔ ∀ limit, e.limit = some limit → e.recordCount < limit :=
  ⟨fun h _ => lt_of_limitReached_eq h, limitReached_eq_false⟩

/-- An answer that uses up a row is the row, which is counted, or a failure, which
    is not. -/
theorem usesRow_eq (answer : Except ScanError Row) :
    (if usesRow answer then 1 else 0)
      = answer.toOption.toList.length + if isUnconvertible answer then 1 else 0 := by
  cases answer with
  | ok _ => rfl
  | error err =>
      cases err with
      | _ => rfl

/-- A row that cannot be converted is used up. -/
theorem usesRow_of_isUnconvertible {answer : Except ScanError Row}
    (h : isUnconvertible answer = true) : usesRow answer = true := by
  by_contra hnot
  have huses := usesRow_eq answer
  rw [if_neg hnot, if_pos h] at huses
  omega

/-- Of the rows that calls use up, all are counted but those that cannot be
    converted. -/
theorem recordCount_answers (calls : List (Store × ReadCall)) :
    ∀ e : Engine, (e.answers calls).2.recordCount + (e.answers calls).1.countP isUnconvertible
      = e.recordCount + ((e.answers calls).1.filter usesRow).length := by
  induction calls with
  | nil => exact fun _ => rfl
  | cons call rest ih =>
      intro e
      obtain ⟨s, _ | _⟩ := call
      · have hcount := (e.hasMore_steps s).recordCount_eq
        have hrest := ih (e.hasMore s).2
        rw [hcount] at hrest
        exact hrest
      · have hcount := (e.produceNext_steps s).recordCount_eq
        have hrest := ih (e.produceNext s).2
        have huses := usesRow_eq (e.produceNext s).1
        rw [← List.countP_eq_length_filter, hcount] at hrest
        rw [answers]
        dsimp only
        rw [← List.countP_eq_length_filter, List.countP_cons, List.countP_cons, huses]
        omega

/-- When calls that ask for rows have come to an end: all rows of the split are
    used up, or so many of them as the limit left when the split was opened, and some
    of these could not be converted. -/
theorem ReadsInOrder.exhausted_iff {e opened : Engine} {coercer : Coercer} {number : Nat}
    {rows : List (Int64 × RawRow)}
    (hreads : opened.ReadsInOrder coercer number (rows.take e.budget))
    (hcount : opened.recordCount = e.recordCount) (hsmall : rows.length ≤ maxCursorRows)
    {calls : List (Store × ReadCall)} {answers : List (Except ScanError Row)} {after : Engine}
    (hcalls : opened.answers calls = (answers, after)) (hlimit : after.limit = e.limit)
    (hopen : after.limitReached = false) {s : Store} (hfaults : s.faults = []) :
    (after.hasMore s).1 = .ok false ↔
      (answers.filter usesRow).length = rows.length ∨
        (answers.filter usesRow).length < rows.length ∧
          ∃ limit, e.limit = some limit ∧
            e.recordCount + (answers.filter usesRow).length = limit ∧
            after.recordCount + answers.countP isUnconvertible = limit ∧
            0 < answers.countP isUnconvertible := by
  have hfault : ∀ n, s.advanceLimit? ≠ some n := fun n h => by
    rw [Store.advanceLimit?_of_faults_eq_nil hfaults] at h
    cases h
  rcases hreads calls with ⟨hanswers, hnext⟩
  have hcounted := opened.recordCount_answers calls
  rw [hcalls] at hanswers hnext hcounted
  dsimp only at hanswers hnext hcounted
  have hfew : answers.countP isUnconvertible ≤ (answers.filter usesRow).length := by
    rw [← List.countP_eq_length_filter]
    exact List.countP_mono_left fun answer _ => usesRow_of_isUnconvertible
  generalize hused : (answers.filter usesRow).length = used at hanswers hnext hcounted hfew ⊢
  -- No more rows are used up than the cursor was given.
  have hle : used ≤ (rows.take e.budget).length := by
    have hlength := congrArg List.length hanswers
    rw [hused, List.length_map, List.length_take] at hlength
    omega
  rw [(hnext s hopen (hfault used)).1, Except.ok.injEq, decide_eq_false_iff_not]
  rw [e.take_budget hsmall] at hle ⊢
  rw [limitReached_eq_false_iff, hlimit] at hopen
  rw [remainder] at hle ⊢
  cases hl : e.limit with
  | none =>
      rw [hl] at hle
      simp only [Option.elim, reduceCtorEq, false_and, exists_false, and_false, or_false] at hle ⊢
      omega
  | some limit =>
      have hbelow := hopen limit hl
      rw [hl] at hle
      simp only [Option.elim, List.length_take, Option.some.injEq, exists_eq_left'] at hle ⊢
      omega

/-- Calls are made one after the other. -/
theorem answers_append (calls later : List (Store × ReadCall)) :
    ∀ e : Engine, e.answers (calls ++ later)
      = ((e.answers calls).1 ++ ((e.answers calls).2.answers later).1,
        ((e.answers calls).2.answers later).2) := by
  induction calls with
  | nil => exact fun _ => rfl
  | cons call rest ih =>
      intro e
      obtain ⟨s, _ | _⟩ := call
      · exact ih (e.hasMore s).2
      · rw [List.cons_append, answers, answers, ih]
        rfl

/-- The number of the split that an operation is to open. A handle of another plan
    is refused before. -/
def opens? (e : Engine) : EngineAction → Option Nat
  | .openSplit number => some number
  | .openInput split => if split.total = e.plan.splits.length then some split.number else none
  | _ => none

/-- Whether an operation leaves the split being read open. A refused change of the
    fields closes the engine. -/
def readsOn (e : Engine) : EngineAction → Bool
  | .openSplit _ | .setOutputFields _ | .closeSplit | .close => false
  | .openInput split => split.total != e.plan.splits.length
  | _ => true

/-- What an operation that asks for a row is answered with. -/
def answer? (e : Engine) (s : Store) : EngineAction → Option (Except ScanError Row)
  | .produceNext => some (e.produceNext s).1
  | _ => none

/-- An operation that opens a split does just that. -/
theorem act_of_opens? {e : Engine} {a : EngineAction} {number : Nat}
    (h : e.opens? a = some number) (s : Store) : e.act s a = (e.openSplit s number).2 := by
  cases a with
  | openSplit other =>
      obtain rfl := Option.some.inj h
      rfl
  | openInput split =>
      rw [opens?] at h
      by_cases htotal : split.total = e.plan.splits.length
      · rw [if_pos htotal] at h
        obtain rfl := Option.some.inj h
        rw [act, openInput, if_neg (not_not_intro htotal)]
      · rw [if_neg htotal] at h
        cases h
  | _ => cases h

/-- What leaves a split open on an engine whose settings are fixed is a call that
    asks for rows, or nothing. -/
theorem Frozen.answers_of_readsOn {e : Engine} (he : e.Frozen) {a : EngineAction}
    (h : e.readsOn a = true) (s : Store) :
    ∃ calls : List (Store × ReadCall),
      e.answers calls = ((e.answer? s a).toList, (e.act s a).1) := by
  have hrefused : a.isSetup = true → a.isMutator = true → (e.act s a).1 = e :=
    fun hsetup hmutator => by rw [act_of_failure hsetup (he.refuses s hmutator)]
  cases a with
  | hasMore => exact ⟨[(s, .hasMore)], rfl⟩
  | produceNext => exact ⟨[(s, .produceNext)], rfl⟩
  | openInput split =>
      refine ⟨[], ?_⟩
      rw [act, openInput, if_pos (bne_iff_ne.1 h)]
      rfl
  | setLimit _ => exact ⟨[], congrArg (Prod.mk []) (hrefused rfl rfl).symm⟩
  | project _ => exact ⟨[], congrArg (Prod.mk []) (hrefused rfl rfl).symm⟩
  | setFilter _ => exact ⟨[], congrArg (Prod.mk []) (hrefused rfl rfl).symm⟩
  | configure => exact ⟨[], congrArg (Prod.mk []) (hrefused rfl rfl).symm⟩
  | _ => cases h

/-- An attempt to open a split that leaves a split open was successful. -/
theorem openSplit_ok_of_scanning {e : Engine} {s : Store} {number : Nat}
    (h : (e.openSplit s number).2.1.state = .scanning) : (e.openSplit s number).1 = .ok () := by
  cases hlink : e.runtime.link? with
  | none =>
      rw [openSplit_of_link?_eq_none hlink] at h
      rcases runtime_of_scanning h with ⟨_, _, _, hruntime⟩
      rw [hruntime] at hlink
      cases hlink
  | some link =>
      rcases exists_openSplit_eq hlink s number with ⟨u, hopen⟩
      rw [hopen] at h ⊢
      have hopening := opening_openSplit (e := { e with runtime := .ready link.1 link.2 }) rfl
        (s.withUsage u) number
      generalize openSplit _ (s.withUsage u) number = result at h hopening ⊢
      cases hopening with
      | noSplit _ => cases h
      | refused _ _ _ => cases h
      | noRows _ _ => rfl
      | opened _ _ _ => rfl

/-- An engine that has closed its split reads none. -/
theorem closeSplit_state_ne (e : Engine) (s : Store) : (e.closeSplit s).1.state ≠ .scanning := by
  by_cases h : e.state = .scanning
  · rcases runtime_of_scanning h with ⟨connection, coercer, reading, hruntime⟩
    rw [closeSplit_scanning hruntime, state]
    exact EngineState.noConfusion
  · rw [closeSplit_of_not_scanning h]
    exact h

theorem close_state (e : Engine) (s : Store) : (e.close s).1.state = .closed := by
  rcases e.close_eq s with ⟨_, h⟩
  rw [h]
  rfl

/-- Setting an engine up opens nothing, or it opens a connection. -/
theorem state_of_isSetup {e : Engine} {s : Store} {a : EngineAction} (ha : a.isSetup = true) :
    (e.act s a).1.state = e.state ∨ (e.act s a).1.state = .ready := by
  rcases e.setup_cases s ha with ⟨_, hact⟩ | ⟨_, _, hstate⟩
  · left
    rw [hact]
  · exact hstate

/-- An engine reads a split after an operation if it was opened by it, or was left
    open. -/
theorem act_scanning {e : Engine} {s : Store} {a : EngineAction}
    (h : (e.act s a).1.state = .scanning) :
    (e.state = .scanning ∧ e.readsOn a = true) ∨
      ∃ number, e.opens? a = some number ∧ (e.openSplit s number).1 = .ok () := by
  have hopened : ∀ {number}, e.opens? a = some number → (e.openSplit s number).1 = .ok () := by
    intro number hopens
    rw [act_of_opens? hopens] at h
    exact openSplit_ok_of_scanning h
  have hsetup : a.isSetup = true → e.state = .scanning := by
    intro ha
    rcases state_of_isSetup (e := e) (s := s) ha with hsame | hready
    · exact hsame.symm.trans h
    · cases hready.symm.trans h
  cases a with
  | openSplit number => exact .inr ⟨number, rfl, hopened rfl⟩
  | openInput split =>
      by_cases htotal : split.total = e.plan.splits.length
      · exact .inr ⟨split.number, if_pos htotal, hopened (if_pos htotal)⟩
      · rw [act, openInput, if_pos htotal] at h
        exact .inl ⟨h, bne_iff_ne.2 htotal⟩
  | hasMore =>
      -- Asking for rows opens nothing.
      refine .inl ⟨by_contra fun hnot => hnot ?_, rfl⟩
      rw [act, (produceNext_of_not_scanning hnot s).1] at h
      exact h
  | produceNext =>
      refine .inl ⟨by_contra fun hnot => hnot ?_, rfl⟩
      rw [act, (produceNext_of_not_scanning hnot s).2] at h
      exact h
  | setLimit _ => exact .inl ⟨hsetup rfl, rfl⟩
  | project _ => exact .inl ⟨hsetup rfl, rfl⟩
  | setFilter _ => exact .inl ⟨hsetup rfl, rfl⟩
  | configure => exact .inl ⟨hsetup rfl, rfl⟩
  | setOutputFields fields =>
      -- The fields are changed before there is a connection, or the engine is closed.
      rw [act, setOutputFields] at h
      by_cases hstate : e.state = .unconfigured
      · rw [if_neg (not_not_intro hstate)] at h
        by_cases hlength : fields.length = e.plan.width
        · rw [if_neg (not_not_intro hlength)] at h
          cases hstate.symm.trans h
        · rw [if_pos hlength] at h
          cases (e.close_state s).symm.trans h
      · rw [if_pos hstate] at h
        cases (e.close_state s).symm.trans h
  | closeSplit => exact absurd h (e.closeSplit_state_ne s)
  | close => cases (e.close_state s).symm.trans h

end Engine

namespace Host

/-- How the engine `index` of a host came to read its split: it was `origin` when it
    opened the split on the host `before`, and has given these answers since, in the
    course of its own operations and of all others. -/
inductive ReadSince (index : Nat) (before : Host) (origin : Session) (number : Nat) :
    Host → List (Except ScanError Row) → Prop where
  | opened {a : EngineAction} (hx : before.sessions[index]? = some origin)
      (hopens : origin.engine.opens? a = some number)
      (hopen : (origin.engine.openSplit before.store number).1 = .ok ()) :
      ReadSince index before origin number (before.act (.engine index a)) []
  | own {h : Host} {answers : List (Except ScanError Row)} {x : Session} {a : EngineAction}
      (hread : ReadSince index before origin number h answers)
      (hx : h.sessions[index]? = some x) (hleft : x.engine.readsOn a = true) :
      ReadSince index before origin number (h.act (.engine index a))
        (answers ++ (x.engine.answer? h.store a).toList)
  | other {h : Host} {answers : List (Except ScanError Row)} {a : HostAction}
      (hread : ReadSince index before origin number h answers)
      (hother : ∀ b, a ≠ .engine index b) :
      ReadSince index before origin number (h.act a) answers

/-- What a host's action does to one of its engines. -/
theorem act_engine {h : Host} {index : Nat} {x : Session} (hx : h.sessions[index]? = some x)
    (a : EngineAction) :
    ∃ y, (h.act (.engine index a)).sessions[index]? = some y ∧
      y.engine = (x.engine.act h.store a).1 := by
  have hlt : index < h.sessions.length := (List.getElem?_eq_some_iff.1 hx).1
  rw [act, hx]
  exact ⟨_, List.getElem?_set_self hlt, rfl⟩

/-- All others stay as they are, and a new engine comes behind them. -/
theorem act_other {h : Host} {index : Nat} {a : HostAction} (ha : ∀ b, a ≠ .engine index b) :
    (h.act a).sessions[index]? = h.sessions[index]? ∨
      h.sessions[index]? = none ∧
        ∀ y, (h.act a).sessions[index]? = some y → y.engine.state = .unconfigured := by
  have hlast : ∀ {z : Session}, z.engine.state = .unconfigured →
      (h.sessions ++ [z])[index]? = h.sessions[index]? ∨
        h.sessions[index]? = none ∧
          ∀ y, (h.sessions ++ [z])[index]? = some y → y.engine.state = .unconfigured := by
    intro z hz
    by_cases hlt : index < h.sessions.length
    · exact .inl (List.getElem?_append_left hlt)
    · have hle := Nat.le_of_not_lt hlt
      refine .inr ⟨List.getElem?_eq_none hle, fun y hy => ?_⟩
      rw [List.getElem?_append_right hle] at hy
      rw [List.mem_singleton.1 (List.mem_of_getElem? hy)]
      exact hz
  cases a with
  | store a => exact .inl rfl
  | plan config =>
      rw [act]
      rcases hmake : Engine.make h.store config with ⟨_ | e, s⟩
      · exact .inl rfl
      · rcases Engine.make_eq_ok hmake with ⟨_, _, _, rfl⟩
        exact hlast rfl
  | duplicate other =>
      rw [act]
      cases h.sessions[other]? with
      | none => exact .inl rfl
      | some x => exact hlast rfl
  | engine other a =>
      have hne : other ≠ index := fun heq => ha a (heq ▸ rfl)
      rw [act]
      cases h.sessions[other]? with
      | none => exact .inl rfl
      | some x => exact .inl (List.getElem?_set_ne hne)

namespace ReadSince

variable {index number : Nat} {before h : Host} {origin : Session}
  {answers : List (Except ScanError Row)}

theorem session_eq (hread : ReadSince index before origin number h answers) :
    before.sessions[index]? = some origin := by
  induction hread with
  | opened hx _ _ => exact hx
  | own _ _ _ ih => exact ih
  | other _ _ ih => exact ih

/-- What happens after a split was opened is, for the engine that reads it, calls
    that ask for rows. -/
theorem exists_calls (hread : ReadSince index before origin number h answers)
    (hfits : origin.engine.Fits) :
    ∃ opened s, origin.engine.openSplit before.store number = (.ok (), opened, s) ∧
      origin.engine.SameSettings opened ∧ opened.Frozen ∧
      ∃ x calls, h.sessions[index]? = some x ∧ opened.answers calls = (answers, x.engine) ∧
        opened.Becomes x.engine := by
  induction hread with
  | @opened a hx hopens hopen =>
      rcases act_engine hx a with ⟨x, hget, hact⟩
      rw [Engine.act_of_opens? hopens] at hact
      rcases hopened : origin.engine.openSplit before.store number with ⟨result, opened, s⟩
      rw [hopened] at hact hopen
      dsimp only at hact hopen
      subst hopen
      rcases hfits.readsInOrder hopened with ⟨_, _, _, hsplit, hlink, _⟩
      have hfrozen := Engine.openSplit_frozen (Option.isSome_of_eq_some hlink) before.store
        (Option.isSome_of_eq_some hsplit)
      rw [hopened] at hfrozen
      refine ⟨opened, s, rfl, hfrozen.2, hfrozen.1, x, [], hget, ?_, ?_⟩
      · rw [hact]
        rfl
      · rw [hact]
        exact .refl
  | @own h answers x a _ hx hleft ih =>
      rcases ih with ⟨opened, s, hopen, hsame, hfrozen, y, calls, hy, hcalls, hbecomes⟩
      obtain rfl := Option.some.inj (hx.symm.trans hy)
      -- The settings are fixed, so all that the engine does is to answer.
      rcases (hfrozen.becomes hbecomes).1.answers_of_readsOn hleft h.store with ⟨more, hmore⟩
      rcases act_engine hx a with ⟨z, hz, hact⟩
      refine ⟨opened, s, hopen, hsame, hfrozen, z, calls ++ more, hz, ?_, ?_⟩
      · rw [Engine.answers_append, hcalls, hmore, hact]
      · rw [hact]
        exact hbecomes.trans (.of_steps (x.engine.act_steps h.store a))
  | @other h answers a _ hother ih =>
      rcases ih with ⟨opened, s, hopen, hsame, hfrozen, y, calls, hy, hcalls, hbecomes⟩
      refine ⟨opened, s, hopen, hsame, hfrozen, y, calls, ?_, hcalls, hbecomes⟩
      rcases act_other hother with hstays | ⟨hnone, _⟩
      · exact hstays.trans hy
      · cases hnone.symm.trans hy

end ReadSince

/-- Every engine that reads a split has a history. -/
theorem exists_readSince (clock : Clock) {index : Nat} (actions : List HostAction) :
    ∀ x, ((new clock).run actions).sessions[index]? = some x → x.engine.state = .scanning →
      ∃ earlier later origin number answers, actions = earlier ++ later ∧
        ReadSince index ((new clock).run earlier) origin number ((new clock).run actions)
          answers := by
  induction actions using List.reverseRecOn with
  | nil => exact fun x hx => nomatch hx
  | append_singleton actions a ih =>
      intro y hy hscanning
      have hrun : (new clock).run (actions ++ [a]) = ((new clock).run actions).act a :=
        List.foldl_append
      rw [hrun] at hy ⊢
      by_cases hown : ∃ b, a = .engine index b
      · rcases hown with ⟨b, rfl⟩
        cases hx : ((new clock).run actions).sessions[index]? with
        | none =>
            rw [act, hx] at hy
            cases hx.symm.trans hy
        | some x =>
            rcases act_engine hx b with ⟨z, hz, hact⟩
            obtain rfl := Option.some.inj (hz.symm.trans hy)
            rw [hact] at hscanning
            rcases Engine.act_scanning hscanning with
              ⟨hstate, hleft⟩ | ⟨number, hopens, hopen⟩
            · rcases ih x hx hstate with ⟨earlier, later, origin, number, answers, rfl, hread⟩
              exact ⟨earlier, later ++ [.engine index b], origin, number, _,
                List.append_assoc _ _ _, .own hread hx hleft⟩
            · exact ⟨actions, [.engine index b], x, number, [], rfl, .opened hx hopens hopen⟩
      · have hother : ∀ b, a ≠ .engine index b := fun b heq => hown ⟨b, heq⟩
        rcases act_other hother with hstays | ⟨_, hnew⟩
        · rw [hstays] at hy
          rcases ih y hy hscanning with ⟨earlier, later, origin, number, answers, rfl, hread⟩
          exact ⟨earlier, later ++ [a], origin, number, answers, List.append_assoc _ _ _,
            .other hread hother⟩
        · cases (hnew y hy).symm.trans hscanning

/-- An engine that reads a split has opened it before, and since then every row that
    it used up was a row of the split as it was then, in order, returned or found
    not to be convertible. Let there be no more such rows than a cursor can be asked
    for, and no fault, and let the limit not be reached. Then the engine says that
    there are no more rows in two cases: all of them are used up, or there are
    more, but so many are used up as the limit left when the split was opened, and
    some of these were not counted, since they could not be converted. -/
theorem hasMore_eq_false_iff (clock : Clock) (actions : List HostAction) {index : Nat}
    {x : Session} (hx : ((new clock).run actions).sessions[index]? = some x)
    (hscanning : x.engine.state = .scanning) :
    ∃ earlier later origin number answers split coercer rows,
      actions = earlier ++ later ∧
      ReadSince index ((new clock).run earlier) origin number ((new clock).run actions) answers ∧
      origin.engine.plan.split? number = some split ∧
      origin.engine.matchingIn ((new clock).run earlier).store split = rows ∧
      answers.filter Engine.usesRow
        = (rows.take (answers.filter Engine.usesRow).length).map
          (fun row => origin.engine.convert coercer row.2) ∧
      (rows.length ≤ maxCursorRows → ((new clock).run actions).store.faults = [] →
        x.engine.limitReached = false →
        ((x.engine.hasMore ((new clock).run actions).store).1 = .ok false ↔
          (answers.filter Engine.usesRow).length = rows.length ∨
            (answers.filter Engine.usesRow).length < rows.length ∧
              ∃ limit, origin.engine.limit = some limit ∧
                origin.engine.recordCount + (answers.filter Engine.usesRow).length = limit ∧
                x.engine.recordCount + answers.countP Engine.isUnconvertible = limit ∧
                0 < answers.countP Engine.isUnconvertible)) := by
  rcases exists_readSince clock actions x hx hscanning with
    ⟨earlier, later, origin, number, answers, heq, hread⟩
  have horigin := List.mem_of_getElem? hread.session_eq
  have hfits := (valid_run clock earlier origin horigin).fits
  rcases hread.exists_calls hfits with
    ⟨opened, s, hopen, hsame, hfrozen, y, calls, hy, hcalls, hbecomes⟩
  obtain rfl := Option.some.inj (hx.symm.trans hy)
  rcases hfits.readsInOrder hopen with ⟨split, _, coercer, hsplit, _, _, _, hreads⟩
  refine ⟨earlier, later, origin, number, answers, split, coercer, _, heq, hread, hsplit, rfl, ?_,
    fun hsmall hfaults hlimit => ?_⟩
  · have hanswers := (hreads calls).1
    rw [hcalls] at hanswers
    -- No more rows are used up than the budget, so it does not show.
    have hle := congrArg List.length hanswers
    rw [List.length_map, List.length_take, List.length_take] at hle
    rw [List.take_take, Nat.min_eq_left (by omega)] at hanswers
    have hconvert : ∀ row, opened.convert coercer row = origin.engine.convert coercer row := by
      intro row
      rw [Engine.convert, hsame.projection_eq, Engine.convert]
    simp only [hconvert] at hanswers
    exact hanswers
  · refine hreads.exhausted_iff ?_ hsmall hcalls ?_ hlimit hfaults
    · have hcount := (origin.engine.openSplit_steps ((new clock).run earlier).store
        number).recordCount_eq
      rw [hopen] at hcount
      exact hcount
    · exact (hfrozen.becomes hbecomes).2.limit_eq.trans hsame.limit_eq

/-- An engine with a limit of one row, whose plan has one split of two rows. -/
def limitedPlan : List HostAction :=
  [.store (.createTable ⟨"db", "t"⟩ [⟨"id", .bigInt, 0, false⟩]),
    .store (.insertRows ⟨"db", "t"⟩ [[.bytes [1]], [.int 2]]),
    .plan ⟨⟨"db", "t"⟩, none, .empty, .empty⟩,
    .engine 0 (.setLimit 1),
    .engine 0 .configure]

/-- It opens the split, and the first row cannot be converted. -/
def spoiledRun : List HostAction :=
  limitedPlan ++ [.engine 0 (.openSplit 0), .engine 0 .produceNext]

/-- It has a history, and its limit is not reached. -/
theorem readSince_spoiledRun :
    ∃ x, ((new (.manual 5)).run spoiledRun).sessions[0]? = some x ∧
      x.engine.state = .scanning ∧ x.engine.limitReached = false ∧
      ∃ earlier later origin number answers,
        spoiledRun = earlier ++ later ∧
        ReadSince 0 ((new (.manual 5)).run earlier) origin number
          ((new (.manual 5)).run spoiledRun) answers := by
  have hx : ((new (.manual 5)).run spoiledRun).sessions[0]? = some _ := rfl
  rcases hasMore_eq_false_iff (.manual 5) spoiledRun hx rfl with
    ⟨earlier, later, origin, number, answers, _, _, _, heq, hread, _⟩
  exact ⟨_, hx, rfl, rfl, earlier, later, origin, number, answers, heq, hread⟩

/-- The second row has not been dealt with, and still there are no more rows. -/
theorem not_all_rows_spoiledRun :
    ∃ x origin split s, ((new (.manual 5)).run spoiledRun).sessions[0]? = some x ∧
      ((new (.manual 5)).run spoiledRun).store = s ∧ s.faults = [] ∧
      ReadSince 0 ((new (.manual 5)).run limitedPlan) origin 0
        ((new (.manual 5)).run spoiledRun) [.error (.coercion "id" .bytes .bigInt .unsupported)] ∧
      origin.engine.plan.split? 0 = some split ∧
      (origin.engine.matchingIn ((new (.manual 5)).run limitedPlan).store split).map (·.2)
        = [[.bytes [1]], [.int 2]] ∧
      x.engine.recordCount = 0 ∧ x.engine.limitReached = false ∧
      (x.engine.hasMore s).1 = .ok false := by
  have horigin : ((new (.manual 5)).run limitedPlan).sessions[0]? = some _ := rfl
  have hopened : ReadSince 0 ((new (.manual 5)).run limitedPlan) _ 0 _ [] :=
    .opened (a := .openSplit 0) horigin rfl rfl
  exact ⟨_, _, _, _, rfl, rfl, rfl, .own (a := .produceNext) hopened rfl rfl, rfl, rfl, rfl, rfl,
    rfl⟩

end Host

end RegionScan
