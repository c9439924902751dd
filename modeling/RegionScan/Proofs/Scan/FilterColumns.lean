import RegionScan.Proofs.Filter.Laws
import RegionScan.Proofs.Scan.ReadSplit
import RegionScan.Proofs.Scan.Settings
import RegionScan.Proofs.Store.CursorRows

/-!
# Columns of a Filter

Why a filter that an engine takes never looks behind the end of a row.

A filter names columns by number, and a number that a row does not have is found out
only when the filter gets there: parts behind the one that settles a conjunction are
never evaluated. The engine does not wait for that. It takes a filter only if the
largest column that any part names is one of its plan, and this check is made once,
long before the rows are known.

That it is enough has three reasons. A filter that is evaluated looks at no column
beyond the largest one it names, however its parts are nested. The columns of a plan
are those of the table for good. And in every store that can come about each version
of each row has a value for each column of its table.

## Main definitions

* `Filter.Reaches`: Some part of a filter names a column at least so large.
* `Filter.Within`: All columns that a filter names are among so many.

## Theorems

* `Filter.reaches_of_evaluate`: A column that is missed is one that is named.
* `Connection.exists_row_of_invalidFilter`: A fault of the filter is one on some row.
* `Engine.filterWithin_step`, `Host.filterWithin_run`: The filters of engines name columns
  of the plans.
* `Host.openSplit_ne_outOfRange`: No opening misses a column.
* `Host.accepted_filter_inRange`: The same, from the moment that a filter is accepted.
-/

namespace RegionScan

namespace FilterAnswer

variable {a b : FilterAnswer} {fault : FilterFault}

/-- A conjunction fails with the failure of one of its parts. -/
theorem both_eq_error (h : both a b = .error fault) : a = .error fault ∨ b = .error fault := by
  rcases a with _ | _ | _ | _
  · exact .inl h
  · -- Behind an unknown part the other is still evaluated, and can fail.
    rcases b with _ | _ | _ | _
    · exact .inr h
    all_goals cases h
  · cases h
  · exact .inr h

/-- So does a disjunction. -/
theorem either_eq_error (h : either a b = .error fault) : a = .error fault ∨ b = .error fault := by
  rcases a with _ | _ | _ | _
  · exact .inl h
  · rcases b with _ | _ | _ | _
    · exact .inr h
    all_goals cases h
  · exact .inr h
  · cases h

end FilterAnswer

namespace Filter

/-- The largest of some columns, if there is one, is at least so large. -/
def Reaches (last? : Option Nat) (column : Nat) : Prop := ∃ last, last? = some last ∧ column ≤ last

/-- All columns that a filter names are among so many. -/
def Within (f : Filter) (width : Nat) : Prop :=
  ∀ column, f.maxColumn? = some column → column < width

/-- What one of several filters reaches, all of them together reach. -/
theorem reaches_maxColumnOf? {part : Filter} {rest : List Filter} {column : Nat}
    (h : Reaches part.maxColumn? column ∨ Reaches (maxColumnOf? rest) column) :
    Reaches (maxColumnOf? (part :: rest)) column := by
  unfold Reaches at *
  rw [maxColumnOf?]
  cases hpart : part.maxColumn? with
  | none =>
      cases hrest : maxColumnOf? rest with
      | none => simp [hpart, hrest] at h
      | some n => simpa [hpart, hrest] using h
  | some m =>
      cases hrest : maxColumnOf? rest with
      | none => simpa [hpart, hrest] using h
      | some n =>
          simp only [hpart, hrest, Option.some.injEq, exists_eq_left'] at h
          exact ⟨max m n, rfl, by omega⟩

variable {row : List RawValue} {column width : Nat}

/-- The column that is missed is one behind the end of the row. -/
theorem column_eq_error {i : Nat}
    (h : Filter.column row i = .error (.columnOutOfRange column width)) :
    column = i ∧ width = row.length ∧ row.length ≤ i := by
  unfold Filter.column at h
  cases hcell : row[i]? with
  | some v =>
      rw [hcell] at h
      cases h
  | none =>
      rw [hcell] at h
      obtain ⟨rfl, rfl⟩ := FilterFault.columnOutOfRange.inj (Except.error.inj h)
      exact ⟨rfl, rfl, List.getElem?_eq_none_iff.1 hcell⟩

/-- Values that cannot be compared are not columns that are missed. -/
theorem compareValues_ne_outOfRange (left : RawValue) (op : CompareOp) (right : RawValue) :
    compareValues left op right ≠ .error (.columnOutOfRange column width) := by
  intro h
  unfold compareValues at h
  by_cases hnull : (left.isNull || right.isNull) = true
  · rw [if_pos hnull] at h
    cases h
  · rw [if_neg hnull] at h
    cases horder : left.compare? right with
    | none =>
        rw [horder] at h
        cases h
    | some order =>
        rw [horder] at h
        cases h

-- The induction is on the filter and on lists of filters at once. Whatever part fails,
-- the largest column of the whole is at least that of the part.
mutual

/-- A filter misses a column only if the row ends before it, and only if it names a
    column at least as large. -/
theorem reaches_of_evaluate :
    ∀ f : Filter, f.evaluate row = .error (.columnOutOfRange column width) →
      width = row.length ∧ row.length ≤ column ∧ Reaches f.maxColumn? column
  | .compare i op value, h => by
    rw [evaluate] at h
    cases hcell : Filter.column row i with
    | error e =>
        rw [hcell] at h
        obtain rfl := Except.error.inj h
        obtain ⟨rfl, hwidth, hle⟩ := column_eq_error hcell
        exact ⟨hwidth, hle, column, rfl, Nat.le_refl _⟩
    | ok left =>
        rw [hcell] at h
        exact absurd h (compareValues_ne_outOfRange left op value)
  | .isNull i, h => by
    rw [evaluate] at h
    obtain ⟨rfl, hwidth, hle⟩ := column_eq_error (except_map_eq_error.1 h)
    exact ⟨hwidth, hle, column, rfl, Nat.le_refl _⟩
  | .isNotNull i, h => by
    rw [evaluate] at h
    obtain ⟨rfl, hwidth, hle⟩ := column_eq_error (except_map_eq_error.1 h)
    exact ⟨hwidth, hle, column, rfl, Nat.le_refl _⟩
  | .all parts, h => by
    rw [evaluate] at h
    exact reaches_of_evaluateAll parts h
  | .any parts, h => by
    rw [evaluate] at h
    exact reaches_of_evaluateAny parts h
  | .not inner, h => by
    rw [evaluate] at h
    exact reaches_of_evaluate inner (except_map_eq_error.1 h)

/-- The same for a conjunction. -/
theorem reaches_of_evaluateAll :
    ∀ parts : List Filter, evaluateAll row parts = .error (.columnOutOfRange column width) →
      width = row.length ∧ row.length ≤ column ∧ Reaches (maxColumnOf? parts) column
  | [], h => by
    rw [evaluateAll] at h
    cases h
  | part :: rest, h => by
    rw [evaluateAll_cons_eq_both] at h
    rcases FilterAnswer.both_eq_error h with hpart | hrest
    · obtain ⟨hwidth, hle, hreaches⟩ := reaches_of_evaluate part hpart
      exact ⟨hwidth, hle, reaches_maxColumnOf? (.inl hreaches)⟩
    · obtain ⟨hwidth, hle, hreaches⟩ := reaches_of_evaluateAll rest hrest
      exact ⟨hwidth, hle, reaches_maxColumnOf? (.inr hreaches)⟩

/-- The same for a disjunction. -/
theorem reaches_of_evaluateAny :
    ∀ parts : List Filter, evaluateAny row parts = .error (.columnOutOfRange column width) →
      width = row.length ∧ row.length ≤ column ∧ Reaches (maxColumnOf? parts) column
  | [], h => by
    rw [evaluateAny] at h
    cases h
  | part :: rest, h => by
    rw [evaluateAny_cons_eq_either] at h
    rcases FilterAnswer.either_eq_error h with hpart | hrest
    · obtain ⟨hwidth, hle, hreaches⟩ := reaches_of_evaluate part hpart
      exact ⟨hwidth, hle, reaches_maxColumnOf? (.inl hreaches)⟩
    · obtain ⟨hwidth, hle, hreaches⟩ := reaches_of_evaluateAny rest hrest
      exact ⟨hwidth, hle, reaches_maxColumnOf? (.inr hreaches)⟩

end

/-- A filter whose columns a row has misses none of them. -/
theorem Within.accepts_ne_outOfRange {f : Filter} (h : f.Within row.length) :
    f.accepts row ≠ .error (.columnOutOfRange column width) := by
  intro hfails
  unfold accepts at hfails
  obtain ⟨_, hle, last, hlast, hcolumn⟩ := reaches_of_evaluate f (except_map_eq_error.1 hfails)
  have hlt := h last hlast
  omega

end Filter

namespace Connection

/-- A request is refused for its filter only if the filter cannot be evaluated on a row
    that the request sees. -/
theorem exists_row_of_invalidFilter {c : Connection} {s s' : Store} {r : ScanRequest}
    {fault : FilterFault} (h : c.openCursor s r = (.error (.invalidFilter fault), s')) :
    ∃ t, s.tables.find? r.split.table = some t ∧
      ∃ row ∈ t.visibleRows r.split (Snapshot.lastSeen r.snapshot), ∃ f,
        r.filter = some f ∧ f.accepts row.2 = .error fault := by
  have hread := (openCursor_eq_error h).1
  -- Whatever else can be wrong with a request has another error.
  have hopen : c.isClosed = false := by
    by_contra hclosed
    rw [Bool.not_eq_false] at hclosed
    simp [readRows, guard, hclosed, bind, Except.bind] at hread
  have harmed : s.isArmed .openCursor = false := by
    by_contra harmed
    rw [Bool.not_eq_false] at harmed
    simp [readRows, guard, hopen, harmed, bind, Except.bind] at hread
  have hguard := (c.guard_eq_ok_iff s .openCursor .openingCursor).2 ⟨hopen, harmed⟩
  cases ht : s.tables.find? r.split.table with
  | none =>
      have htable : s.table r.split.table = .error (.tableNotFound r.split.table) := by
        unfold Store.table
        rw [ht]
      simp [readRows, hguard, htable, bind, Except.bind] at hread
  | some t =>
      refine ⟨t, rfl, ?_⟩
      by_cases hwithin : r.Within t.width
      · obtain ⟨_, row, hrow, f, other, hfilter, hfails, heq⟩ :=
          exists_fault_of_openCursor hopen harmed ht hwithin h
        obtain rfl := StoreError.invalidFilter.inj heq
        exact ⟨row, hrow, f, hfilter, hfails⟩
      · obtain ⟨_, _, _, _, _, _, hrefused⟩ := openCursor_of_not_within hopen harmed ht hwithin
        rw [hrefused] at h
        cases h

end Connection

namespace Engine

variable {e : Engine} {s : Store}

/-- The filter of an engine names columns of its plan. -/
def FilterWithin (e : Engine) : Prop := ∀ f, e.filter = some f → f.Within e.plan.width

/-- A step keeps the filter within the plan: only one kind of step sets it, and that one
    has checked it. -/
theorem filterWithin_step {e' : Engine} {s' : Store} {row : Option Row}
    (hstep : Step e s row e' s') (h : e.FilterWithin) : e'.FilterWithin := by
  cases hstep with
  | setFilter filter _ _ _ hcolumns =>
      intro f hf
      obtain rfl := Option.some.inj hf
      exact hcolumns
  | setLimit _ _ _ => exact h
  | project _ _ _ _ _ => exact h
  | setOutputFields _ _ _ => exact h
  | connect _ _ _ => exact h
  | closeCursor _ => exact h
  | disconnect _ => exact h
  | abandon _ => exact h
  | start _ _ => exact h
  | openCursor _ _ _ _ _ _ => exact h
  | advance _ _ _ _ _ => exact h
  | produce _ _ _ _ => exact h
  | passOver _ _ _ _ => exact h

/-- A filter that was set is never replaced. -/
theorem Becomes.filter_eq {e' : Engine} {f : Filter} (h : e.Becomes e') (hf : e.filter = some f) :
    e'.filter = some f := by
  induction h with
  | refl => exact hf
  | tail _ hstep ih =>
      cases hstep with
      | setFilter _ _ _ hnone _ =>
          rw [ih] at hnone
          cases hnone
      | setLimit _ _ _ => exact ih
      | project _ _ _ _ _ => exact ih
      | setOutputFields _ _ _ => exact ih
      | connect _ _ _ => exact ih
      | closeCursor _ => exact ih
      | disconnect _ => exact ih
      | abandon _ => exact ih
      | start _ _ => exact ih
      | openCursor _ _ _ _ _ _ => exact ih
      | advance _ _ _ _ _ => exact ih
      | produce _ _ _ _ => exact ih
      | passOver _ _ _ _ => exact ih

/-- What an engine reports of a cursor is what the store answers to its request. Closing
    the split being read changes no more of the store than its counts. -/
theorem exists_request_of_openSplit {number place : Nat} {err : StoreError}
    (h : (e.openSplit s number).1 = .error (.cursor place err)) :
    ∃ (connection : Connection) (u : Usage) (split : Split), e.plan.split? number = some split ∧
      connection.openCursor (s.withUsage u) (e.request split)
        = (.error err, s.withUsage u) := by
  cases hlink : e.runtime.link? with
  | none =>
      -- A refusal for the state of the engine is not one of the store.
      rw [openSplit_of_link?_eq_none hlink] at h
      cases h
  | some link =>
      obtain ⟨u, hopen⟩ := exists_openSplit_eq hlink s number
      rw [hopen] at h
      have hopening := opening_openSplit (e := { e with runtime := .ready link.1 link.2 }) rfl
        (s.withUsage u) number
      generalize openSplit _ (s.withUsage u) number = result at h hopening
      cases hopening with
      | noSplit _ => cases h
      | noRows _ _ => cases h
      | opened _ _ _ => cases h
      | refused hsplit _ hcursor =>
          obtain ⟨_, other, hopen, rfl⟩ := SplitCursor.ofRequest_eq_error hcursor
          obtain ⟨_, rfl⟩ := ScanError.cursor.inj (Except.error.inj h)
          exact ⟨link.1, u, _, hsplit, hopen⟩

/-- A valid engine whose filter names columns of its plan opens no split on a row that is
    too short for the filter. -/
theorem Valid.openSplit_ne_outOfRange (h : e.Valid s) (hs : s.Valid) (hfilter : e.FilterWithin)
    (number place column width : Nat) :
    (e.openSplit s number).1
      ≠ .error (.cursor place (.invalidFilter (.columnOutOfRange column width))) := by
  intro hfails
  obtain ⟨connection, u, split, hsplit, hopen⟩ := exists_request_of_openSplit hfails
  obtain ⟨t, ht, row, hrow, f, hf, hbad⟩ := Connection.exists_row_of_invalidFilter hopen
  obtain ⟨planned, _, _, hplanned, _, hcolumns, _, _⟩ := h.planned
  -- The split is one of the table that was planned, which has the columns of the plan.
  have htable : (e.request split).split.table = e.config.table :=
    h.table_of_mem_splits (List.mem_of_getElem? hsplit)
  rw [htable] at ht
  obtain rfl : t = planned := Option.some.inj (ht.symm.trans hplanned)
  have hlength : row.2.length = e.plan.width := by
    rw [(hs _ t ht).length_of_mem_visibleRows hrow, ScanPlan.width, hcolumns, Table.width]
  have hwithin : f.Within row.2.length := by
    rw [hlength]
    exact hfilter f hf
  exact hwithin.accepts_ne_outOfRange hbad

end Engine

namespace Host

theorem filterWithin_invariant : Invariant Store.Valid fun x _ => x.engine.FilterWithin where
  new := Store.valid_new
  act := fun a hs => Store.valid_act a hs
  usage := fun _ hs => hs
  plan := fun _ hmake => by
    obtain ⟨_, _, _, rfl⟩ := Engine.make_eq_ok hmake
    intro f hf
    cases hf
  duplicate := fun hx => hx
  step := fun hstep hx => Engine.filterWithin_step hstep hx
  otherAct := fun _ hx => hx
  otherUsage := fun _ hx => hx

/-- The filters of all engines of a host name columns of their plans, after every run. -/
theorem filterWithin_run (clock : Clock) (actions : List HostAction) :
    ∀ x ∈ ((new clock).run actions).sessions, x.engine.FilterWithin :=
  (filterWithin_invariant.run clock actions).2

/-- No engine of a host ever opens a split on a row that is too short for its filter. -/
theorem openSplit_ne_outOfRange (clock : Clock) (actions : List HostAction) {x : Session}
    (hx : x ∈ ((new clock).run actions).sessions) (number place column width : Nat) :
    (x.engine.openSplit ((new clock).run actions).store number).1
      ≠ .error (.cursor place (.invalidFilter (.columnOutOfRange column width))) :=
  (valid_run clock actions x hx).openSplit_ne_outOfRange
    (valid_invariant.run clock actions).1 (filterWithin_run clock actions x hx) number place column
    width

/-- An engine accepts a filter at some moment of a run. From then on, whatever is written,
    made to fail, planned, opened or read, this is its filter, and no opening of any split
    fails because the filter names a column that a row does not have. A filter that fails
    so on some row names a column that is not below the length of the row. -/
theorem accepted_filter_inRange (clock : Clock) (before later : List HostAction) (index : Nat)
    (x : Session) (hx : ((new clock).run before).sessions[index]? = some x) (f : Filter)
    (haccepted : x.engine.failure? ((new clock).run before).store (.setFilter f) = none) :
    (∃ y : Session,
      ((new clock).run (before ++ .engine index (.setFilter f) :: later)).sessions[index]?
        = some y ∧
      y.engine.filter = some f ∧ ∀ number place column width,
        y.engine.failure? ((new clock).run (before ++ .engine index (.setFilter f) :: later)).store
            (.openSplit number)
          ≠ some (.cursor place (.invalidFilter (.columnOutOfRange column width)))) ∧
    ∀ (g : Filter) (row : RawRow) (column width : Nat),
      g.evaluate row = .error (.columnOutOfRange column width) →
        ∃ last, g.maxColumn? = some last ∧ row.length ≤ last := by
  refine ⟨?_, fun g row column width hfails => ?_⟩
  · have hlater : (new clock).run (before ++ .engine index (.setFilter f) :: later)
        = (((new clock).run before).act (.engine index (.setFilter f))).run later :=
      List.foldl_append
    have hlt : index < ((new clock).run before).sessions.length :=
      (List.getElem?_eq_some_iff.1 hx).1
    have hz : (((new clock).run before).act (.engine index (.setFilter f))).sessions[index]?
        = some (x.act ((new clock).run before).store (.setFilter f)).1 := by
      rw [act, hx]
      exact List.getElem?_set_self hlt
    -- The engine has the filter as soon as it accepts it, and keeps it.
    have hfilter :
        (x.act ((new clock).run before).store (.setFilter f)).1.engine.filter = some f := by
      rw [Engine.failure?] at haccepted
      rcases x.engine.setFilter_cases f with ⟨_, hset⟩ | ⟨_, _, _, _, hset⟩
      · rw [hset] at haccepted
        cases haccepted
      · rw [Session.act, Engine.act, hset]
    obtain ⟨y, hy, hbecomes⟩ := becomes_run later hz
    rw [← hlater] at hy
    refine ⟨y, hy, hbecomes.filter_eq hfilter, fun number place column width hfails => ?_⟩
    exact openSplit_ne_outOfRange clock _ (List.mem_of_getElem? hy) number place column width
      (failureOf_eq_some.1 hfails)
  · obtain ⟨_, hle, last, hlast, hreaches⟩ := Filter.reaches_of_evaluate g hfails
    exact ⟨last, hlast, Nat.le_trans hle hreaches⟩

/-- An engine on a table of two columns. -/
def twoColumnRun : List HostAction :=
  [.store (.createTable ⟨"db", "t"⟩ [⟨"id", .bigInt, 0, false⟩, ⟨"name", .text, 1, true⟩]),
    .plan ⟨⟨"db", "t"⟩, none, .empty, .empty⟩]

/-- Rows that are written to its table later. -/
def laterRows : List HostAction :=
  [.engine 0 .configure, .store (.insertRows ⟨"db", "t"⟩ [[.int 1, .string "a"]])]

/-- A filter may name the last column, which all later rows have. On a row of one value the
    same filter fails. -/
theorem inRange_twoColumnRun :
    ∃ (f : Filter) (y : Session),
      f = .not (.any [.isNull 1]) ∧
      ((new (.manual 5)).run
        (twoColumnRun ++ .engine 0 (.setFilter f) :: laterRows)).sessions[0]? = some y ∧
      y.engine.filter = some f ∧
      (∀ number place column width,
        y.engine.failure? ((new (.manual 5)).run
            (twoColumnRun ++ .engine 0 (.setFilter f) :: laterRows)).store (.openSplit number)
          ≠ some (.cursor place (.invalidFilter (.columnOutOfRange column width)))) ∧
      f.evaluate [.int 1] = .error (.columnOutOfRange 1 1) ∧
      ∃ last, f.maxColumn? = some last ∧ 1 ≤ last := by
  obtain ⟨⟨y, hy, hfilter, hopens⟩, hreach⟩ :=
    accepted_filter_inRange (.manual 5) twoColumnRun laterRows 0 _ rfl (.not (.any [.isNull 1])) rfl
  exact ⟨_, y, rfl, hy, hfilter, hopens, rfl, hreach _ [.int 1] 1 1 rfl⟩

end Host

end RegionScan
