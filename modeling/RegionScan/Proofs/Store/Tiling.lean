import RegionScan.Proofs.Key.Range
import RegionScan.Proofs.OrderedMap
import RegionScan.Store.Table

/-!
# Regions Tile a Table

Reading the regions of a table one after the other is reading the table.

The regions are cut when a scan is planned, at keys of rows that the table
holds then. Rows may come and go before the regions are read, so nothing is
said here of which rows the cuts were made at. All that matters is that the
boundaries ascend from the table's prefix to its successor: whatever rows there
are when the regions are read, each of them lies in one region, and the regions
are in the order of the rows.

The statement is one about lists. Half-open ranges that meet at a boundary can
be joined (`filter_range_append`), because a row of the second one never stands
before a row of the first, and an induction over the boundaries joins them all.

## Main definitions

* `Key.inRange`: Whether a key is in a half-open range.
* `Table.rowsAt`: The rows of a table that a reader of a version sees.

## Theorems

* `Table.mem_rowsAt_iff`: The rows a reader sees are those visible to it.
* `filter_append_filter`: Two filters of a list that do not interleave.
* `filter_range_append`: Two neighbouring ranges of ascending rows.
* `Table.flatMap_splitsBetween`: The ranges between ascending boundaries.
* `Table.boundaries_strictly_ascending`: The boundaries of a table ascend, and no
  two of them are the same.
* `Table.flatMap_regions`: Reading all regions is reading the table.
-/

namespace RegionScan

/-- Two filters of a list, one after the other, are a filter of the list, if no
    element passes both and none of the second stands before one of the
    first. -/
theorem filter_append_filter {p q : α → Bool} {l : List α}
    (hdisjoint : ∀ x ∈ l, p x = true → q x = false)
    (horder : l.Pairwise fun x y => q x = true → p y = false) :
    l.filter p ++ l.filter q = l.filter fun x => p x || q x := by
  induction l with
  | nil => rfl
  | cons x rest ih =>
      have horder' := List.pairwise_cons.1 horder
      have hrest := ih (fun y hy => hdisjoint y (List.mem_cons_of_mem _ hy)) horder'.2
      by_cases hp : p x = true
      · have hq := hdisjoint x List.mem_cons_self hp
        rw [List.filter_cons_of_pos hp, List.filter_cons_of_neg (by rw [hq]; decide),
          List.filter_cons_of_pos (by rw [hp]; rfl), List.cons_append, hrest]
      · by_cases hq : q x = true
        · -- Nothing behind `x` can pass the first filter.
          have hnil : rest.filter p = [] := by
            rw [List.filter_eq_nil_iff]
            intro y hy
            rw [horder'.1 y hy hq]
            decide
          rw [hnil, List.nil_append] at hrest
          rw [List.filter_cons_of_neg hp, List.filter_cons_of_pos hq,
            List.filter_cons_of_pos (by rw [hq, Bool.or_true]), hnil, List.nil_append, hrest]
        · have hnone : ¬ (p x || q x) = true := by
            rw [Bool.or_eq_true]
            exact fun h => h.elim hp hq
          rw [List.filter_cons_of_neg hp, List.filter_cons_of_neg hq,
            List.filter_cons_of_neg (p := fun x => p x || q x) hnone, hrest]

namespace Key

/-- Whether a key is in the range from one key up to another one. -/
def inRange (low high k : Key) : Bool := (compare low k).isLE && compare k high == .lt

theorem inRange_iff (low high k : Key) :
    inRange low high k = true ↔ (compare low k).isLE ∧ compare k high = .lt := by
  rw [inRange, Bool.and_eq_true, beq_iff_eq]

/-- A key in the range up to a boundary is below it, one in the range from it
    is not. -/
theorem not_inRange_of_inRange {a b c k : Key} (h : inRange a b k = true) :
    inRange b c k = false := by
  have hlt := ((inRange_iff a b k).1 h).2
  refine Bool.eq_false_iff.2 fun hc => ?_
  exact Std.OrientedCmp.not_isLE_of_lt hlt ((inRange_iff b c k).1 hc).1

/-- Neighbouring ranges make up a range. -/
theorem inRange_or {a b c : Key} (hab : (compare a b).isLE) (hbc : (compare b c).isLE)
    (k : Key) : (inRange a b k || inRange b c k) = inRange a c k := by
  rw [Bool.eq_iff_iff, Bool.or_eq_true, inRange_iff, inRange_iff, inRange_iff]
  constructor
  · rintro (⟨hak, hkb⟩ | ⟨hbk, hkc⟩)
    · exact ⟨hak, Std.TransCmp.lt_of_lt_of_isLE hkb hbc⟩
    · exact ⟨Std.TransCmp.isLE_trans hab hbk, hkc⟩
  · rintro ⟨hak, hkc⟩
    by_cases hbk : (compare b k).isLE
    · exact Or.inr ⟨hbk, hkc⟩
    · exact Or.inl ⟨hak, Std.OrientedCmp.lt_of_not_isLE hbk⟩

end Key

/-- Two neighbouring ranges of ascending rows, one after the other, are the
    range of both. -/
theorem filter_range_append {key : α → Key} {l : List α} {a b c : Key}
    (hl : l.Pairwise fun x y => compare (key x) (key y) = .lt)
    (hab : (compare a b).isLE) (hbc : (compare b c).isLE) :
    (l.filter fun x => Key.inRange a b (key x)) ++ (l.filter fun x => Key.inRange b c (key x))
      = l.filter fun x => Key.inRange a c (key x) := by
  rw [filter_append_filter]
  · simp only [Key.inRange_or hab hbc]
  · exact fun x _ h => Key.not_inRange_of_inRange h
  · refine hl.imp fun {x y} hxy hx => ?_
    -- The earlier row is at or behind the boundary, so the later one is too.
    refine Bool.eq_false_iff.2 fun hy => ?_
    have hb := ((Key.inRange_iff b c (key x)).1 hx).1
    have hlt := Std.TransCmp.lt_trans hxy ((Key.inRange_iff a b (key y)).1 hy).2
    exact Std.OrientedCmp.not_isLE_of_lt hlt hb

/-- What a reader sees of a row is one of its versions. -/
theorem exists_mem_of_visible? {history : History} {v : UInt64} {row : RawRow}
    (h : visible? history v = some row) : ∃ version ∈ history, version.values = some row := by
  rw [visible?] at h
  rcases Option.bind_eq_some_iff.1 h with ⟨version, hversion, hvalues⟩
  exact ⟨version, List.mem_of_find?_eq_some hversion, hvalues⟩

namespace Table

/-- The rows of a table that a reader of a version sees, by handle. -/
def rowsAt (t : Table) (readVersion : UInt64) : List (Int64 × RawRow) :=
  t.rows.entries.filterMap fun e => (visible? e.2 readVersion).map (e.1, ·)

/-- The rows that a reader of a version sees are those of which it sees a
    version with values. -/
theorem mem_rowsAt_iff (t : Table) (v : UInt64) (handle : Int64) (row : RawRow) :
    (handle, row) ∈ t.rowsAt v ↔ visible? (t.history handle) v = some row := by
  rw [rowsAt, List.mem_filterMap]
  constructor
  · rintro ⟨⟨h, history⟩, he, hv⟩
    rcases Option.map_eq_some_iff.1 hv with ⟨row', hrow, heq⟩
    obtain ⟨rfl, rfl⟩ := Prod.mk.inj heq
    rw [Table.history, (OrderedMap.mem_entries_iff t.rows h history).1 he]
    exact hrow
  · intro hv
    cases hf : t.rows.find? handle with
    | none =>
        rw [history, hf] at hv
        cases hv
    | some history =>
        rw [Table.history, hf, Option.getD_some] at hv
        refine ⟨(handle, history), (OrderedMap.mem_entries_iff t.rows handle history).2 hf, ?_⟩
        rw [hv]
        rfl

/-- Reading a split is picking the rows whose keys lie in it. -/
theorem visibleRows_eq_filter (t : Table) (split : Split) (v : UInt64) :
    t.visibleRows split v
      = (t.rowsAt v).filter fun row => split.contains (.record t.id row.1) := by
  rw [visibleRows, rowsAt, List.filter_filterMap]
  congr 1
  funext e
  cases hv : visible? e.2 v with
  | none => simp only [hv, Option.map_none, ite_self, Option.filter_none]
  | some row =>
      by_cases hc : split.contains (.record t.id e.1) = true
      · simp only [hv, Option.map_some, hc, if_true, Option.filter_some]
      · simp only [hv, Option.map_some, hc, if_false, Option.filter_some, Bool.false_eq_true]

/-- The rows that a reader sees are in ascending order of their handles. -/
theorem rowsAt_ascending (t : Table) (v : UInt64) :
    (t.rowsAt v).Pairwise fun a b => compare a.1 b.1 = .lt := by
  rw [rowsAt, List.pairwise_filterMap]
  refine t.rows.ascending.imp fun {a b} hab x hx y hy => ?_
  rcases Option.map_eq_some_iff.1 hx with ⟨_, _, rfl⟩
  rcases Option.map_eq_some_iff.1 hy with ⟨_, _, rfl⟩
  exact hab

/-- The ranges between ascending boundaries, one after the other, are the range
    from the first boundary to the last one. -/
theorem flatMap_splitsBetween (t : Table) (name : TableRef) {key : α → Key} {l : List α}
    (hl : l.Pairwise fun x y => compare (key x) (key y) = .lt) :
    ∀ (rest : List Key) (first : Key) (index : Nat),
      (first :: rest).Pairwise (fun a b => (compare a b).isLE) →
      (∀ k ∈ rest, k.isEmpty = false) →
      ((t.splitsBetween name index (first :: rest)).flatMap
          fun s => l.filter fun x => s.contains (key x))
        = l.filter fun x => Key.inRange first (rest.getLastD first) (key x) := by
  intro rest
  induction rest with
  | nil =>
      intro first index _ _
      symm
      -- One boundary bounds nothing on both sides.
      rw [splitsBetween, List.flatMap_nil, List.filter_eq_nil_iff]
      · intro x _ hx
        have h := (Key.inRange_iff first first (key x)).1 hx
        exact Std.OrientedCmp.not_isLE_of_lt h.2 h.1
      · exact fun _ _ _ h => absurd h (by simp only [List.cons.injEq, reduceCtorEq, and_false,
          not_false_eq_true])
  | cons b rest ih =>
      intro first index hasc hne
      have hb := hne b List.mem_cons_self
      have hasc' := List.pairwise_cons.1 hasc
      have hrest := ih b (index + 1) hasc'.2 (fun k hk => hne k (List.mem_cons_of_mem _ hk))
      -- The boundaries left end at `b` or at one that is not below it.
      have hlast : (compare b (rest.getLastD b)).isLE := by
        rcases List.eq_nil_or_concat rest with rfl | ⟨front, last, rfl⟩
        · exact Std.ReflCmp.isLE_rfl
        · rw [List.concat_eq_append, List.getLastD_concat]
          refine (List.pairwise_cons.1 hasc'.2).1 last ?_
          rw [List.concat_eq_append]
          exact List.mem_append_right _ (List.mem_singleton_self _)
      rw [splitsBetween, List.flatMap_cons, hrest, List.getLastD_cons,
        ← filter_range_append hl (hasc'.1 b List.mem_cons_self) hlast]
      simp only [Split.contains, Key.inRange, hb, Bool.false_or]

/-- The rows at which pieces start are rows of the list, in its order. -/
theorem pieceStarts_sublist (length : Nat) (l : List α) :
    ∀ room : Nat, (pieceStarts length room l).Sublist l := by
  induction l with
  | nil => exact fun room => List.nil_sublist _
  | cons a rest ih =>
      intro room
      cases room with
      | zero => exact (ih (length - 1)).cons_cons a
      | succ r => exact (ih r).cons a

/-- The boundaries of a table ascend, and no two of them are the same. -/
theorem boundaries_strictly_ascending (t : Table) (rowsPerRegion : Nat) :
    (t.boundaries rowsPerRegion).Pairwise fun a b => compare a b = .lt := by
  have hstarts := t.rows.keys_ascending.sublist
    (pieceStarts_sublist rowsPerRegion t.rows.keys rowsPerRegion)
  rw [boundaries, List.cons_append, List.pairwise_cons, List.pairwise_append, List.pairwise_map]
  refine ⟨fun k hk => ?_, ?_, List.pairwise_singleton _ _, fun k hk last hlast => ?_⟩
  · rcases List.mem_append.1 hk with hk | hk
    · rcases List.mem_map.1 hk with ⟨h, _, rfl⟩
      exact Key.prefix_lt_record t.id h
    · rw [List.mem_singleton.1 hk]
      exact Key.prefix_lt_successor t.id
  · refine hstarts.imp fun {a b} hab => ?_
    rw [Key.compare_record, hab]
  · rcases List.mem_map.1 hk with ⟨h, _, rfl⟩
    rw [List.mem_singleton.1 hlast, Key.record_lt_successor]

/-- So none is above a later one. -/
theorem boundaries_ascending (t : Table) (rowsPerRegion : Nat) :
    (t.boundaries rowsPerRegion).Pairwise (fun a b => (compare a b).isLE) := by
  refine (t.boundaries_strictly_ascending rowsPerRegion).imp fun {a b} hab => ?_
  rw [hab]
  rfl

/-- No boundary behind the first one is the empty key, which would be none. -/
theorem boundaries_tail_ne_empty (t : Table) (rowsPerRegion : Nat) :
    ∀ k ∈ (t.boundaries rowsPerRegion).tail, k.isEmpty = false := by
  intro k hk
  rw [boundaries, List.cons_append, List.tail_cons] at hk
  rcases List.mem_append.1 hk with hk | hk
  · rcases List.mem_map.1 hk with ⟨h, _, rfl⟩
    rfl
  · rw [List.mem_singleton.1 hk]
    exact Key.tablePrefix_successor_isEmpty t.id

/-- Reading the regions of a table one after the other is reading the table,
    even if the rows are no longer those at which the regions were cut. -/
theorem flatMap_regions (t now : Table) (hid : now.id = t.id) (name : TableRef)
    (rowsPerRegion : Nat) (v : UInt64) :
    ((t.regions name rowsPerRegion).flatMap fun s => now.visibleRows s v) = now.rowsAt v := by
  -- The rows are those of `now`, the boundaries those of `t`: they share the number only.
  have hkeys : (now.rowsAt v).Pairwise
      fun a b => compare (Key.record now.id a.1) (Key.record now.id b.1) = .lt := by
    refine (now.rowsAt_ascending v).imp fun {a b} hab => ?_
    rw [Key.compare_record, hab]
  have hjoined := t.flatMap_splitsBetween name hkeys (t.boundaries rowsPerRegion).tail
    (.tablePrefix t.id) 0 (t.boundaries_ascending rowsPerRegion)
    (t.boundaries_tail_ne_empty rowsPerRegion)
  simp only [visibleRows_eq_filter]
  refine hjoined.trans (List.filter_eq_self.2 fun row _ => ?_)
  rw [Key.inRange_iff, boundaries, List.cons_append, List.tail_cons, List.getLastD_concat, hid]
  rw [Key.prefix_lt_record, Key.record_lt_successor]
  exact ⟨rfl, rfl⟩

end Table

end RegionScan
