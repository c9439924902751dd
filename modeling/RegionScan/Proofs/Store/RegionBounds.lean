import RegionScan.Proofs.Key.Range
import RegionScan.Proofs.Key.Record
import RegionScan.Proofs.Store.Tiling

/-!
# The Bounds of Regions

How many regions a table is cut into, and what lies in each of them.

`Tiling` reads all regions one after the other and does not ask where the cuts
are. Here the cuts are counted. They are made at every `k`-th handle that the
table holds, live or deleted, so the region of number `i` holds the handles from
place `i * k` on, `k` of them at most, and there are as many regions as it takes
to hold them all, or one if there is nothing to hold.

A key that the table does not hold lies in one region too, because the regions
meet at their boundaries and the outer two reach to the ends of the table. Keys
of other tables lie in none. All regions together reach from the table's prefix to
its successor, what lies there begins with the prefix, and a row key begins with
the prefix of no other table.

## Theorems

* `Key.not_inRange_of_ne`: Keys of other tables are outside a table's range.
* `Table.getElem?_pieceStarts`, `Table.length_pieceStarts`: Where the cuts are.
* `Table.countP_contains_regions`: How many regions hold a key.
* `Table.filter_contains_eq`: The handles that a region holds.
* `Table.regions_tile`: The regions of a table tile its keys.
-/

namespace RegionScan

/-- A filter that lets the elements at some neighbouring places pass is a part of
    the list. -/
theorem filter_eq_take_drop {p : α → Bool} (l : List α) :
    ∀ first count : Nat,
      (∀ place a, l[place]? = some a → (p a = true ↔ first ≤ place ∧ place < first + count)) →
      l.filter p = (l.drop first).take count := by
  induction l with
  | nil =>
      intro first count _
      rw [List.drop_nil, List.take_nil, List.filter_nil]
  | cons a rest ih =>
      intro first count h
      have ha := h 0 a rfl
      cases first with
      | succ first =>
          -- The part starts behind `a`, so it is a part of the rest.
          have hneg : ¬ p a = true := fun hp => by
            have hle := (ha.1 hp).1
            omega
          rw [List.filter_cons_of_neg hneg, List.drop_succ_cons]
          refine ih first count fun place b hb => (h (place + 1) b hb).trans ?_
          omega
      | zero =>
          cases count with
          | zero =>
              rw [List.take_zero, List.filter_eq_nil_iff]
              intro b hb hp
              rcases List.mem_iff_getElem?.1 hb with ⟨place, hplace⟩
              have hlt := ((h place b hplace).1 hp).2
              omega
          | succ count =>
              have hpos : p a = true := ha.2 (by omega)
              have hrest := ih 0 count fun place b hb => (h (place + 1) b hb).trans (by omega)
              rw [List.drop_zero] at hrest
              rw [List.filter_cons_of_pos hpos, List.drop_zero, List.take_succ_cons, hrest]

/-- Reading one element by several tests gives it as often as a test passes. -/
theorem countP_eq_length_flatMap {test : β → α → Bool} (l : List β) (a : α) :
    l.countP (fun b => test b a) = (l.flatMap fun b => [a].filter fun x => test b x).length := by
  induction l with
  | nil => rfl
  | cons b rest ih =>
      rw [List.countP_cons, List.flatMap_cons, List.length_append, ← ih, Nat.add_comm]
      congr 1
      by_cases hb : test b a = true
      · rw [if_pos hb, List.filter_cons_of_pos hb, List.filter_nil, List.length_singleton]
      · rw [if_neg hb, List.filter_cons_of_neg hb, List.filter_nil, List.length_nil]

namespace Key

/-- The keys of other tables are not in the range of a table, which has all that
    begin with its prefix. -/
theorem not_inRange_of_ne {table other : UInt64} (hne : other ≠ table) (h : Int64) :
    inRange (tablePrefix table) (tablePrefix table).successor (record other h) = false := by
  refine Bool.eq_false_iff.2 fun hin => ?_
  have hbegins := (startsWith_iff_between (tablePrefix_successor_isEmpty table) _).2
    ((inRange_iff _ _ _).1 hin)
  exact hne (startsWith_tablePrefix_iff.1 hbegins)

end Key

namespace Table

/-- The pieces of a list start at every so many of its elements. -/
theorem getElem?_pieceStarts {length : Nat} (hpos : 0 < length) (l : List α) :
    ∀ room i : Nat, (pieceStarts length room l)[i]? = l[room + i * length]? := by
  induction l with
  | nil =>
      intro room i
      rfl
  | cons a rest ih =>
      intro room i
      cases room with
      | succ room =>
          have hplace : room + 1 + i * length = (room + i * length) + 1 := by omega
          rw [pieceStarts, ih, hplace, List.getElem?_cons_succ]
      | zero =>
          rw [pieceStarts, Nat.zero_add]
          cases i with
          | zero => rw [Nat.zero_mul, List.getElem?_cons_zero, List.getElem?_cons_zero]
          | succ i =>
              -- The piece that starts at `a` holds `length - 1` more elements.
              have hplace : (i + 1) * length = (length - 1 + i * length) + 1 := by
                rw [Nat.succ_mul]
                omega
              rw [List.getElem?_cons_succ, ih, hplace, List.getElem?_cons_succ]

/-- The number of pieces that start behind the room left in the first one. -/
theorem length_pieceStarts {length : Nat} (hpos : 0 < length) (l : List α) :
    ∀ room : Nat, (pieceStarts length room l).length
      = (l.length - room + (length - 1)) / length := by
  induction l with
  | nil =>
      intro room
      rw [List.length_nil, Nat.zero_sub, Nat.zero_add, Nat.div_eq_of_lt (by omega)]
      rfl
  | cons a rest ih =>
      intro room
      cases room with
      | succ room =>
          rw [pieceStarts, ih, List.length_cons, Nat.succ_sub_succ]
      | zero =>
          have hfull : rest.length + 1 - 0 + (length - 1) = rest.length + length := by omega
          rw [pieceStarts, List.length_cons, ih, List.length_cons, hfull,
            Nat.add_div_right _ hpos]
          by_cases hle : length - 1 ≤ rest.length
          · rw [Nat.sub_add_cancel hle]
          · -- The rest does not fill the piece that starts at `a`.
            have hzero : rest.length - (length - 1) = 0 := by omega
            rw [hzero, Nat.zero_add, Nat.div_eq_of_lt (by omega), Nat.div_eq_of_lt (by omega)]

variable (t : Table) (name : TableRef)

/-- There is one range fewer than there are boundaries. -/
theorem length_splitsBetween (keys : List Key) :
    ∀ index : Nat, (t.splitsBetween name index keys).length = keys.length - 1 := by
  induction keys with
  | nil => exact fun _ => rfl
  | cons a rest ih =>
      intro index
      cases rest with
      | nil => rfl
      | cons b rest =>
          rw [splitsBetween, List.length_cons, ih, List.length_cons, List.length_cons,
            List.length_cons]
          omega

/-- A range reaches from the boundary of its number to the next one. -/
theorem getElem?_splitsBetween (keys : List Key) :
    ∀ {index i : Nat} {s : Split}, (t.splitsBetween name index keys)[i]? = some s →
      keys[i]? = some s.startKey ∧ keys[i + 1]? = some s.endKey := by
  induction keys with
  | nil =>
      intro index i s h
      cases h
  | cons a rest ih =>
      intro index i s h
      cases rest with
      | nil => cases h
      | cons b rest =>
          rw [splitsBetween] at h
          cases i with
          | zero =>
              rw [List.getElem?_cons_zero] at h
              rw [← Option.some.inj h]
              exact ⟨rfl, rfl⟩
          | succ i =>
              rw [List.getElem?_cons_succ] at h
              exact ih h

/-- The regions are the ranges between the boundaries. -/
theorem getElem?_regions {rowsPerRegion i : Nat} {s : Split}
    (h : (t.regions name rowsPerRegion)[i]? = some s) :
    (t.boundaries rowsPerRegion)[i]? = some s.startKey ∧
      (t.boundaries rowsPerRegion)[i + 1]? = some s.endKey :=
  t.getElem?_splitsBetween name _ h

/-- A region starts before it ends. -/
theorem startKey_lt_endKey {rowsPerRegion i : Nat} {s : Split}
    (h : (t.regions name rowsPerRegion)[i]? = some s) : compare s.startKey s.endKey = .lt := by
  rcases t.getElem?_regions name h with ⟨hstart, hend⟩
  rcases List.getElem?_eq_some_iff.1 hstart with ⟨hlt, hs⟩
  rcases List.getElem?_eq_some_iff.1 hend with ⟨hlt', he⟩
  have hasc := List.pairwise_iff_getElem.1 (t.boundaries_strictly_ascending rowsPerRegion)
  rw [← hs, ← he]
  exact hasc i (i + 1) hlt hlt' (Nat.lt_succ_self i)

/-- There are as many regions as it takes to hold all handles, and at least
    one. -/
theorem length_regions {rowsPerRegion : Nat} (hpos : 0 < rowsPerRegion) :
    (t.regions name rowsPerRegion).length
      = max 1 ((t.rows.keys.length + rowsPerRegion - 1) / rowsPerRegion) := by
  have hcuts := length_pieceStarts hpos t.rows.keys rowsPerRegion
  rw [regions, length_splitsBetween, boundaries]
  simp only [List.length_append, List.length_cons, List.length_nil, List.length_map, hcuts]
  by_cases hle : t.rows.keys.length ≤ rowsPerRegion
  · -- One region holds all handles, so there is no cut.
    have hzero : t.rows.keys.length - rowsPerRegion = 0 := by omega
    have hone : (t.rows.keys.length + rowsPerRegion - 1) / rowsPerRegion < 2 :=
      Nat.div_lt_of_lt_mul (by omega)
    rw [hzero, Nat.zero_add, Nat.div_eq_of_lt (by omega)]
    omega
  · have hplus : t.rows.keys.length + rowsPerRegion - 1
        = t.rows.keys.length - rowsPerRegion + (rowsPerRegion - 1) + rowsPerRegion := by
      omega
    rw [hplus, Nat.add_div_right _ hpos]
    omega

/-- How many regions hold a key: one if the key is in the range of the table, and
    none if it is not. -/
theorem countP_contains_regions (rowsPerRegion : Nat) (k : Key) :
    (t.regions name rowsPerRegion).countP (fun s => s.contains k)
      = if Key.inRange (.tablePrefix t.id) (Key.tablePrefix t.id).successor k then 1 else 0 := by
  -- Reading the key through all regions is reading it through their range.
  have hjoined := t.flatMap_splitsBetween name (List.pairwise_singleton
      (fun x y : Key => compare x y = .lt) k) (t.boundaries rowsPerRegion).tail
    (.tablePrefix t.id) 0 (t.boundaries_ascending rowsPerRegion)
    (t.boundaries_tail_ne_empty rowsPerRegion)
  rw [boundaries, List.cons_append, List.tail_cons, List.getLastD_concat] at hjoined
  rw [countP_eq_length_flatMap, regions, boundaries, List.cons_append, hjoined]
  by_cases hk : Key.inRange (.tablePrefix t.id) (Key.tablePrefix t.id).successor k = true
  · rw [if_pos hk, List.filter_cons_of_pos hk, List.filter_nil, List.length_singleton]
  · rw [if_neg hk, List.filter_cons_of_neg hk, List.filter_nil, List.length_nil]

/-- Where the region of a number starts: at the table's prefix, or at the handle
    that has as many handles before it as the regions before it hold. -/
theorem startKey_eq {rowsPerRegion i : Nat} (hpos : 0 < rowsPerRegion) {s : Split}
    (h : (t.regions name rowsPerRegion)[i]? = some s) :
    i = 0 ∧ s.startKey = .tablePrefix t.id ∨
      ∃ first, t.rows.keys[i * rowsPerRegion]? = some first ∧
        s.startKey = .record t.id first := by
  rcases t.getElem?_regions name h with ⟨hstart, hend⟩
  cases i with
  | zero => exact Or.inl ⟨rfl, (Option.some.inj hstart).symm⟩
  | succ i =>
      right
      rw [boundaries, List.cons_append, List.getElem?_cons_succ] at hstart hend
      -- There is a boundary behind this one, so it is not the last.
      have hlt : i < ((pieceStarts rowsPerRegion rowsPerRegion t.rows.keys).map
          (Key.record t.id)).length := by
        have hbound := (List.getElem?_eq_some_iff.1 hend).1
        rw [List.length_append, List.length_singleton] at hbound
        omega
      rw [List.getElem?_append_left hlt, List.getElem?_map, getElem?_pieceStarts hpos] at hstart
      rcases Option.map_eq_some_iff.1 hstart with ⟨first, hfirst, hkey⟩
      rw [Nat.succ_mul, Nat.add_comm]
      exact ⟨first, hfirst, hkey.symm⟩

/-- Where the region of a number ends: at the handle behind those that it has room
    for, or behind the table if there is no such handle. -/
theorem endKey_eq {rowsPerRegion i : Nat} (hpos : 0 < rowsPerRegion) {s : Split}
    (h : (t.regions name rowsPerRegion)[i]? = some s) :
    (∃ next, t.rows.keys[i * rowsPerRegion + rowsPerRegion]? = some next ∧
        s.endKey = .record t.id next) ∨
      t.rows.keys.length ≤ i * rowsPerRegion + rowsPerRegion ∧
        s.endKey = (Key.tablePrefix t.id).successor := by
  have hend := (t.getElem?_regions name h).2
  rw [boundaries, List.cons_append, List.getElem?_cons_succ] at hend
  by_cases hlt : i < ((pieceStarts rowsPerRegion rowsPerRegion t.rows.keys).map
      (Key.record t.id)).length
  · rw [List.getElem?_append_left hlt, List.getElem?_map, getElem?_pieceStarts hpos] at hend
    rcases Option.map_eq_some_iff.1 hend with ⟨next, hnext, hkey⟩
    rw [Nat.add_comm] at hnext
    exact Or.inl ⟨next, hnext, hkey.symm⟩
  · right
    have hle := Nat.le_of_not_lt hlt
    have hnone := getElem?_pieceStarts hpos t.rows.keys rowsPerRegion i
    rw [List.length_map] at hle
    rw [List.getElem?_eq_none hle, eq_comm, List.getElem?_eq_none_iff] at hnone
    rw [List.getElem?_append_right (Nat.le_of_not_lt hlt)] at hend
    refine ⟨by omega, ?_⟩
    have hmem := List.mem_of_getElem? hend
    exact List.mem_singleton.1 hmem

/-- The handles at two places of a table are in the order of the places. -/
theorem compare_keys_eq_lt_iff {i j : Nat} {a b : Int64} (ha : t.rows.keys[i]? = some a)
    (hb : t.rows.keys[j]? = some b) : compare a b = .lt ↔ i < j := by
  rcases List.getElem?_eq_some_iff.1 ha with ⟨hi, rfl⟩
  rcases List.getElem?_eq_some_iff.1 hb with ⟨hj, rfl⟩
  have hasc := List.pairwise_iff_getElem.1 t.rows.keys_ascending
  -- The handles ascend by place, so no other order of the places is possible.
  refine ⟨fun hab => ?_, fun hij => hasc i j hi hj hij⟩
  rcases Nat.lt_trichotomy i j with hlt | heq | hgt
  · exact hlt
  · subst heq
    rw [Std.ReflOrd.compare_self] at hab
    cases hab
  · exact absurd (hasc j i hj hi hgt) (Std.OrientedCmp.not_lt_of_lt hab)

/-- The handle at a place of the table lies in a region if the place is one of
    those that the region has room for. -/
theorem contains_iff_place {rowsPerRegion i : Nat} (hpos : 0 < rowsPerRegion) {s : Split}
    (h : (t.regions name rowsPerRegion)[i]? = some s) {place : Nat} {handle : Int64}
    (hplace : t.rows.keys[place]? = some handle) :
    s.contains (.record t.id handle) = true ↔
      i * rowsPerRegion ≤ place ∧ place < i * rowsPerRegion + rowsPerRegion := by
  have hstart : (compare s.startKey (.record t.id handle)).isLE ↔ i * rowsPerRegion ≤ place := by
    rcases t.startKey_eq name hpos h with ⟨rfl, hkey⟩ | ⟨first, hfirst, hkey⟩
    · rw [hkey, Key.prefix_lt_record, Nat.zero_mul]
      simp only [Ordering.isLE_lt, Nat.zero_le]
    · have hlt := t.compare_keys_eq_lt_iff hplace hfirst
      rw [hkey, Key.compare_record, Ordering.isLE_iff_ne_gt, Std.OrientedCmp.gt_iff_lt, hlt,
        Nat.not_lt]
  have hend : (s.endKey.isEmpty || compare (.record t.id handle) s.endKey == .lt) = true ↔
      place < i * rowsPerRegion + rowsPerRegion := by
    rcases t.endKey_eq name hpos h with ⟨next, hnext, hkey⟩ | ⟨hle, hkey⟩
    · have hne : (Key.record t.id next).isEmpty = false := rfl
      rw [hkey, hne, Bool.false_or, beq_iff_eq, Key.compare_record,
        t.compare_keys_eq_lt_iff hplace hnext]
    · -- The last region reaches to the end of the table.
      have hlt := (List.getElem?_eq_some_iff.1 hplace).1
      rw [hkey, Key.record_lt_successor]
      simp only [beq_self_eq_true, Bool.or_true, true_iff]
      omega
  rw [Split.contains, Bool.and_eq_true, hstart, hend]

/-- A region holds the handles from the place of its first one on, as many as it
    has room for. -/
theorem filter_contains_eq {rowsPerRegion i : Nat} (hpos : 0 < rowsPerRegion) {s : Split}
    (h : (t.regions name rowsPerRegion)[i]? = some s) :
    (t.rows.keys.filter fun handle => s.contains (.record t.id handle))
      = (t.rows.keys.drop (i * rowsPerRegion)).take rowsPerRegion :=
  filter_eq_take_drop _ _ _ fun _ _ hplace => t.contains_iff_place name hpos h hplace

/-- The regions of a table tile its keys. There are as many as it takes to hold
    all handles, live or deleted, so many in each, and at least one. The key of
    every handle lies in exactly one of them, and no key of another table in any.
    Each region starts before it ends and ends where the next one starts, so they
    are in ascending order. -/
theorem regions_tile {rowsPerRegion : Nat} (hpos : 0 < rowsPerRegion) :
    (t.regions name rowsPerRegion).length
        = max 1 ((t.rows.keys.length + rowsPerRegion - 1) / rowsPerRegion) ∧
      (∀ handle, (t.regions name rowsPerRegion).countP
        (fun s => s.contains (.record t.id handle)) = 1) ∧
      (∀ other handle, other ≠ t.id → ∀ s ∈ t.regions name rowsPerRegion,
        s.contains (.record other handle) = false) ∧
      (∀ s ∈ t.regions name rowsPerRegion,
        (t.rows.keys.countP fun handle => s.contains (.record t.id handle)) ≤ rowsPerRegion) ∧
      (∀ s ∈ t.regions name rowsPerRegion, compare s.startKey s.endKey = .lt) ∧
      ∀ i a b, (t.regions name rowsPerRegion)[i]? = some a →
        (t.regions name rowsPerRegion)[i + 1]? = some b →
          a.endKey = b.startKey ∧ compare a.startKey b.startKey = .lt := by
  refine ⟨t.length_regions name hpos, fun handle => ?_, fun other handle hne s hs => ?_,
    fun s hs => ?_, fun s hs => ?_, fun i a b ha hb => ?_⟩
  · rw [t.countP_contains_regions name, if_pos]
    rw [Key.inRange_iff, Key.prefix_lt_record, Key.record_lt_successor]
    exact ⟨rfl, rfl⟩
  · -- No region holds a key that is outside the range of all of them.
    have hnone := t.countP_contains_regions name rowsPerRegion (.record other handle)
    rw [Key.not_inRange_of_ne hne, if_neg (by decide), List.countP_eq_zero] at hnone
    exact Bool.eq_false_iff.2 (hnone s hs)
  · rcases List.mem_iff_getElem?.1 hs with ⟨i, hi⟩
    rw [List.countP_eq_length_filter, t.filter_contains_eq name hpos hi]
    exact List.length_take_le _ _
  · rcases List.mem_iff_getElem?.1 hs with ⟨i, hi⟩
    exact t.startKey_lt_endKey name hi
  · have hend := (t.getElem?_regions name ha).2
    have hstart := (t.getElem?_regions name hb).1
    have hshared : a.endKey = b.startKey := Option.some.inj (hend.symm.trans hstart)
    have hascending := t.startKey_lt_endKey name ha
    rw [hshared] at hascending
    exact ⟨hshared, hascending⟩

/-- A table with the least and the largest handle and a deleted one between. -/
def extremeRows : Table :=
  (((Table.new 255 []).addVersion Int64.maxValue ⟨1, some []⟩).addVersion Int64.minValue
    ⟨2, some []⟩).addVersion (-1) ⟨3, none⟩

/-- Two regions hold these handles, and each of them belongs to one region. -/
theorem regions_extremeRows :
    (extremeRows.regions ⟨"db", "t"⟩ 2).length = 2 ∧
      (extremeRows.regions ⟨"db", "t"⟩ 2).countP
        (fun s => s.contains (.record 255 Int64.maxValue)) = 1 := by
  have htile := extremeRows.regions_tile ⟨"db", "t"⟩ (by decide : 0 < 2)
  refine ⟨htile.1.trans ?_, htile.2.1 Int64.maxValue⟩
  decide

end Table

end RegionScan
