import RegionScan.Proofs.Results
import RegionScan.Store.Connection

/-!
# Reading a Store

What the functions that read a store do to it, and what they give.

Reading changes nothing of a store but its counts of what was opened and
closed, and no answer depends on the counts. So every read is the same on a
store and on that store with other counts, and the lemmas here say it once for
connecting, opening and closing.

The rows that a cursor holds are settled when it is opened. A filter that can be
evaluated on every row picks the rows that pass it, and of these the cursor
gets the first ones, as many as it was asked for.

## Main definitions

* `failureOf`: The error of a computation.
* `Store.withUsage`: A store with other counts.
* `Snapshot.lastSeen`: The version that a reader at a snapshot reads up to.
* `Filter.verdict`, `Filter.passes`: What an optional filter says of a row.

## Theorems

* `Store.exists_advanceLimit?_reorderFaults_iff`: The numbers of rows after which a
  cursor may be failed.
* `Store.connect_cases`, `Connection.openCursor_of_readRows`,
  `Connection.openCursor_of_readRows_eq_error`: What connecting and opening a cursor do.
* `Connection.close_store_eq`, `Cursor.close_store_eq`: How a close is counted.
* `Connection.selectRows_eq_ok`, `Connection.selectRows_eq`: The rows that pass the
  filter, the first ones of them.
* `Connection.length_selectRows_le`: No more rows than were asked for.
-/

namespace RegionScan

/-- The error of a computation that has one instead of a result. -/
def failureOf : Except ε α → Option ε
  | .ok _ => none
  | .error e => some e

theorem failureOf_eq_some {x : Except ε α} {e : ε} : failureOf x = some e ↔ x = .error e := by
  cases x with
  | error e' => rw [failureOf, Option.some.injEq, Except.error.injEq]
  | ok _ => simp only [failureOf, reduceCtorEq]

namespace Store

/-- A store with other counts of what was opened and closed. -/
def withUsage (s : Store) (usage : Usage) : Store := { s with usage }

variable (s : Store) (u : Usage)

theorem withUsage_withUsage (u' : Usage) :
    (s.withUsage u).withUsage u' = s.withUsage u' := rfl

variable {s : Store}

/-- A store that is told to fail nowhere fails nowhere. -/
theorem isArmed_of_faults_eq_nil (h : s.faults = []) (fault : FaultPoint) :
    s.isArmed fault = false := by
  rw [isArmed, h]
  rfl

theorem advanceLimit?_of_faults_eq_nil (h : s.faults = []) : s.advanceLimit? = none := by
  rw [advanceLimit?, h]
  rfl

/-- Another order of what a store was told names the same places. -/
theorem mem_faults_reorderFaults (s : Store) (order : List FaultPoint) (fault : FaultPoint) :
    fault ∈ (s.reorderFaults order).faults ↔ fault ∈ s.faults := by
  rw [reorderFaults]
  by_cases hperm : order.isPerm s.faults = true
  · rw [if_pos hperm]
    exact (List.isPerm_iff.1 hperm).mem_iff
  · rw [if_neg hperm]

/-- A store that was told to fail after several numbers of rows may fail after any
    one of them, and after no other. -/
theorem exists_advanceLimit?_reorderFaults_iff (s : Store) (n : Nat) :
    (∃ order, (s.reorderFaults order).advanceLimit? = some n) ↔ .advanceAfter n ∈ s.faults := by
  constructor
  · rintro ⟨order, h⟩
    obtain ⟨fault, hmem, hfault⟩ := List.exists_of_findSome?_eq_some h
    cases fault with
    | advanceAfter rows =>
        rw [← Option.some.inj hfault]
        exact (s.mem_faults_reorderFaults order _).1 hmem
    | _ => cases hfault
  · -- The place is brought to the front.
    intro h
    have hperm := (List.perm_cons_erase h).symm
    refine ⟨.advanceAfter n :: s.faults.erase (.advanceAfter n), ?_⟩
    rw [reorderFaults, if_pos (List.isPerm_iff.2 hperm), advanceLimit?, List.findSome?_cons]

/-- Connecting to a store that is not told to refuse it gives an open connection and
    counts it. -/
theorem connect_of_not_armed (h : s.isArmed .connect = false) :
    s.connect = (.ok ⟨false⟩,
      s.withUsage { s.usage with connectionsOpened := s.usage.connectionsOpened + 1 }) := by
  rw [connect, if_neg (Bool.eq_false_iff.1 h)]
  rfl

/-- Connecting is refused, which changes nothing, or it gives an open connection and
    counts it. -/
theorem connect_cases (s : Store) :
    (∃ refused, s.connect = (.error refused, s)) ∨
      s.connect = (.ok ⟨false⟩,
        s.withUsage { s.usage with connectionsOpened := s.usage.connectionsOpened + 1 }) := by
  by_cases hc : s.isArmed .connect = true
  · left
    rw [connect, if_pos hc]
    exact ⟨_, rfl⟩
  · exact .inr (connect_of_not_armed (Bool.eq_false_iff.2 hc))

/-- What there is after connecting. -/
theorem connect_eq_ok {connection : Connection} {s' : Store}
    (h : s.connect = (.ok connection, s')) :
    connection = ⟨false⟩ ∧
      s' = s.withUsage { s.usage with connectionsOpened := s.usage.connectionsOpened + 1 } := by
  rcases s.connect_cases with ⟨_, hconnect⟩ | hconnect
  · cases hconnect.symm.trans h
  · obtain ⟨hconnection, hs⟩ := Prod.mk.inj (h.symm.trans hconnect)
    exact ⟨Except.ok.inj hconnection, hs⟩

/-- Connecting changes only the counts. -/
theorem connect_store (s : Store) : ∃ u, s.connect.2 = s.withUsage u := by
  rcases s.connect_cases with ⟨_, h⟩ | h
  · exact ⟨s.usage, by rw [h]; rfl⟩
  · exact ⟨_, by rw [h]⟩

end Store

namespace Filter

/-- What an optional filter says of a row. No filter lets every row pass. -/
def verdict (filter : Option Filter) (row : RawRow) : Except FilterFault Bool :=
  match filter with
  | none => .ok true
  | some f => f.accepts row

/-- Whether a row passes an optional filter. -/
def passes (filter : Option Filter) (row : RawRow) : Bool :=
  match verdict filter row with
  | .ok answer => answer
  | .error _ => false

theorem passes_of_verdict {filter : Option Filter} {row : RawRow} {answer : Bool}
    (h : verdict filter row = .ok answer) : passes filter row = answer := by
  rw [passes, h]

/-- Only a filter fails. -/
theorem verdict_eq_error {filter : Option Filter} {row : RawRow} {fault : FilterFault}
    (h : verdict filter row = .error fault) :
    ∃ f, filter = some f ∧ f.accepts row = .error fault := by
  cases filter with
  | none => cases h
  | some f => exact ⟨f, rfl, h⟩

end Filter

/-- The last version that a reader at a snapshot sees. Without a snapshot it sees all of
    them. -/
def Snapshot.lastSeen (p : Option Snapshot) : UInt64 := p.elim latestVersion Snapshot.version

namespace Connection

/-- Requests are read at the last version that their snapshot lets them see. -/
theorem readVersion_eq (p : Option Snapshot) : readVersion p = Snapshot.lastSeen p := by
  cases p with
  | none => rfl
  | some _ => rfl

theorem selectRows_nil (columns : List Column) (filter : Option Filter) (limit : Nat) :
    selectRows columns filter limit [] = .ok [] := by
  cases limit with
  | zero => rfl
  | succ limit => rfl

/-- One row selected or passed over, whatever the filter. -/
theorem selectRows_cons (columns : List Column) (filter : Option Filter) (limit : Nat)
    (row : RawRow) (rest : List RawRow) :
    selectRows columns filter (limit + 1) (row :: rest) =
      match Filter.verdict filter row with
      | .error fault => .error (.invalidFilter fault)
      | .ok true => (selectRows columns filter limit rest).map (project columns row :: ·)
      | .ok false => selectRows columns filter (limit + 1) rest := by
  cases filter with
  | none => rfl
  | some f => rfl

/-- If rows are selected, the first row was one of them or was passed over. -/
theorem selectRows_cons_eq_ok {columns : List Column} {filter : Option Filter} {limit : Nat}
    {row : RawRow} {rest selected : List RawRow}
    (h : selectRows columns filter (limit + 1) (row :: rest) = .ok selected) :
    (Filter.verdict filter row = .ok false ∧
      selectRows columns filter (limit + 1) rest = .ok selected) ∨
    (Filter.verdict filter row = .ok true ∧ ∃ others,
      selectRows columns filter limit rest = .ok others ∧
        selected = project columns row :: others) := by
  rw [selectRows_cons] at h
  cases hverdict : Filter.verdict filter row with
  | error _ =>
      rw [hverdict] at h
      cases h
  | ok answer =>
      rw [hverdict] at h
      cases answer with
      | false => exact .inl ⟨rfl, h⟩
      | true =>
          rcases except_map_eq_ok.1 h with ⟨others, hothers, rfl⟩
          exact .inr ⟨rfl, others, hothers, rfl⟩

/-- The rows that were selected are the first ones that pass the filter, even
    if the filter cannot be evaluated on rows behind them. -/
theorem selectRows_eq_ok {columns : List Column} {filter : Option Filter} (rows : List RawRow) :
    ∀ {limit : Nat} {selected : List RawRow},
      selectRows columns filter limit rows = .ok selected →
        selected = ((rows.filter (Filter.passes filter)).take limit).map (project columns) := by
  induction rows with
  | nil =>
      intro limit selected h
      rw [selectRows_nil] at h
      rw [List.filter_nil, List.take_nil, List.map_nil, Except.ok.inj h]
  | cons row rest ih =>
      intro limit selected h
      cases limit with
      | zero => exact (Except.ok.inj h).symm
      | succ limit =>
          rcases selectRows_cons_eq_ok h with ⟨hverdict, hrest⟩ | ⟨hverdict, others, hrest, rfl⟩
          · have hpasses := Filter.passes_of_verdict hverdict
            rw [List.filter_cons_of_neg (by rw [hpasses]; decide)]
            exact ih hrest
          · rw [List.filter_cons_of_pos (Filter.passes_of_verdict hverdict), List.take_succ_cons,
              List.map_cons, ← ih hrest]

/-- No more rows are selected than were asked for. -/
theorem length_selectRows_le (columns : List Column) (filter : Option Filter)
    (rows : List RawRow) {limit : Nat} {selected : List RawRow}
    (h : selectRows columns filter limit rows = .ok selected) : selected.length ≤ limit := by
  rw [selectRows_eq_ok rows h, List.length_map]
  exact List.length_take_le limit _

/-- If the filter can be evaluated on every row, the rows selected are the first
    of those that pass it. -/
theorem selectRows_eq (columns : List Column) (filter : Option Filter) (rows : List RawRow)
    (h : ∀ row ∈ rows, ∃ answer, Filter.verdict filter row = .ok answer) :
    ∀ limit : Nat, selectRows columns filter limit rows =
      .ok (((rows.filter (Filter.passes filter)).take limit).map (project columns)) := by
  induction rows with
  | nil =>
      intro limit
      rw [selectRows_nil, List.filter_nil, List.take_nil, List.map_nil]
  | cons row rest ih =>
      intro limit
      have hrest := ih fun r hr => h r (List.mem_cons_of_mem _ hr)
      cases limit with
      | zero => rfl
      | succ limit =>
          rcases h row List.mem_cons_self with ⟨answer, hverdict⟩
          have hpasses := Filter.passes_of_verdict hverdict
          rw [selectRows_cons, hverdict]
          cases answer with
          | false =>
              -- A row that is passed over does not use up the limit.
              rw [List.filter_cons_of_neg (by rw [hpasses]; decide)]
              exact hrest (limit + 1)
          | true =>
              rw [List.filter_cons_of_pos hpasses, List.take_succ_cons, List.map_cons]
              dsimp only
              rw [hrest limit]
              rfl

/-- What a connection refuses a request for, and that nothing else can. -/
theorem guard_eq_ok_iff (c : Connection) (s : Store) (fault : FaultPoint)
    (request : RequestFault) :
    c.guard s fault request = .ok () ↔ c.isClosed = false ∧ s.isArmed fault = false := by
  rw [guard]
  by_cases hc : c.isClosed = true
  · rw [if_pos hc, hc]
    simp only [reduceCtorEq, Bool.true_eq_false, false_and]
  · rw [if_neg hc]
    by_cases ha : s.isArmed fault = true
    · rw [if_pos ha, ha]
      simp only [reduceCtorEq, Bool.true_eq_false, and_false]
    · rw [if_neg ha]
      simp only [Bool.eq_false_iff.2 hc, Bool.eq_false_iff.2 ha, and_self]

/-- When a request gets rows, and which. -/
theorem readRows_eq_ok_iff (c : Connection) (s : Store) (r : ScanRequest)
    (rows : List RawRow) :
    c.readRows s r = .ok rows ↔
      c.isClosed = false ∧ s.isArmed .openCursor = false ∧
        ∃ t, s.table r.split.table = .ok t ∧
          (∀ column ∈ r.columns, column.ordinal < t.width) ∧
          selectRows r.columns r.filter r.limit.toNat
            ((t.visibleRows r.split (Snapshot.lastSeen r.snapshot)).map (·.2)) = .ok rows := by
  rw [readRows, readVersion_eq, except_unit_bind_eq_ok, except_bind_eq_ok, ← and_assoc,
    ← c.guard_eq_ok_iff s .openCursor .openingCursor]
  refine and_congr_right fun _ => exists_congr fun t => and_congr_right fun _ => ?_
  have hfind : (r.columns.find? fun column => t.width ≤ column.ordinal) = none ↔
      ∀ column ∈ r.columns, column.ordinal < t.width := by
    simp only [List.find?_eq_none, decide_eq_true_eq, Nat.not_le]
  rw [← hfind]
  -- The columns are looked through before any row is read.
  cases r.columns.find? fun column => t.width ≤ column.ordinal with
  | none => simp only [true_and]
  | some column => exact ⟨fun h => (nomatch h), fun h => nomatch h.1⟩

/-- A cursor is opened on the rows that a request gets. It stands before them, and is
    counted. -/
theorem openCursor_of_readRows {c : Connection} {s : Store} {r : ScanRequest}
    {rows : List RawRow} (h : c.readRows s r = .ok rows) :
    c.openCursor s r = (.ok ⟨r.split.region, rows, none, 0, false⟩,
      s.withUsage { s.usage with cursorsOpened := s.usage.cursorsOpened + 1 }) := by
  rw [openCursor, h]
  rfl

/-- A cursor that is refused changes nothing. -/
theorem openCursor_of_readRows_eq_error {c : Connection} {s : Store} {r : ScanRequest}
    {refused : StoreError} (h : c.readRows s r = .error refused) :
    c.openCursor s r = (.error refused, s) := by
  rw [openCursor, h]

/-- What there is after opening a cursor. -/
theorem openCursor_eq_ok {c : Connection} {s s' : Store} {r : ScanRequest} {cursor : Cursor}
    (h : c.openCursor s r = (.ok cursor, s')) :
    ∃ rows, c.readRows s r = .ok rows ∧ cursor = ⟨r.split.region, rows, none, 0, false⟩ ∧
      s' = s.withUsage { s.usage with cursorsOpened := s.usage.cursorsOpened + 1 } := by
  cases hrows : c.readRows s r with
  | error _ => cases (openCursor_of_readRows_eq_error hrows).symm.trans h
  | ok rows =>
      obtain ⟨hcursor, hs⟩ := Prod.mk.inj (h.symm.trans (openCursor_of_readRows hrows))
      exact ⟨rows, rfl, Except.ok.inj hcursor, hs⟩

/-- What there is after a cursor was refused. -/
theorem openCursor_eq_error {c : Connection} {s s' : Store} {r : ScanRequest}
    {refused : StoreError} (h : c.openCursor s r = (.error refused, s')) :
    c.readRows s r = .error refused ∧ s' = s := by
  cases hrows : c.readRows s r with
  | error _ =>
      obtain ⟨herror, hs⟩ := Prod.mk.inj (h.symm.trans (openCursor_of_readRows_eq_error hrows))
      exact ⟨congrArg _ (Except.error.inj herror).symm, hs⟩
  | ok rows => cases (openCursor_of_readRows hrows).symm.trans h

/-- Opening a cursor changes only the counts. -/
theorem openCursor_store (c : Connection) (s : Store) (r : ScanRequest) :
    ∃ u, (c.openCursor s r).2 = s.withUsage u := by
  cases hrows : c.readRows s r with
  | error _ => exact ⟨s.usage, by rw [openCursor_of_readRows_eq_error hrows]; rfl⟩
  | ok _ => exact ⟨_, by rw [openCursor_of_readRows hrows]⟩

/-- Closing a connection counts it. A second time is counted apart. -/
theorem close_store_eq (c : Connection) (s : Store) :
    (c.close s).2.2 = s.withUsage
      (if c.isClosed then { s.usage with closesRefused := s.usage.closesRefused + 1 }
      else { s.usage with connectionsClosed := s.usage.connectionsClosed + 1 }) := by
  rw [close]
  by_cases hc : c.isClosed = true
  · rw [if_pos hc, if_pos hc]
    rfl
  · rw [if_neg hc, if_neg hc]
    rfl

/-- Closing a connection changes only the counts. -/
theorem close_store (c : Connection) (s : Store) : ∃ u, (c.close s).2.2 = s.withUsage u :=
  ⟨_, c.close_store_eq s⟩

end Connection

namespace Cursor

/-- Closing a cursor counts it. A second time is counted apart. -/
theorem close_store_eq (c : Cursor) (s : Store) :
    (c.close s).2.2 = s.withUsage
      (if c.isClosed then { s.usage with closesRefused := s.usage.closesRefused + 1 }
      else { s.usage with cursorsClosed := s.usage.cursorsClosed + 1 }) := by
  rw [close]
  by_cases hc : c.isClosed = true
  · rw [if_pos hc, if_pos hc]
    rfl
  · rw [if_neg hc, if_neg hc]
    rfl

/-- Closing a cursor changes only the counts. -/
theorem close_store (c : Cursor) (s : Store) : ∃ u, (c.close s).2.2 = s.withUsage u :=
  ⟨_, c.close_store_eq s⟩

end Cursor

end RegionScan
