/-!
# Ordered Maps

Finite maps whose keys are kept in ascending order.

Rows are read in the order of their handles, properties are checked in the
order of their keys, and the members of a JSON object are written in the order
of their names. All three are the same structure: a list of entries whose keys
strictly ascend. The order is part of the type, so no reader of a map has to
ask whether a key may occur twice or out of place.

## Main definitions

* `OrderedMap`: Entries with strictly ascending keys.
* `OrderedMap.insertEntry`: Putting one entry into an ascending list.
* `OrderedMap.insert`: Binding a key, replacing what it was bound to.
* `OrderedMap.find?`: The value a key is bound to.
* `OrderedMap.insertAll`: Binding every key of a list.
* `OrderedMap.ofList`: The map of a list of bindings, later ones winning.

## Theorems

* `OrderedMap.mem_insertEntry`: An entry of the new list is the new entry or
  an old one.
* `OrderedMap.ascending_insertEntry`: Putting an entry in keeps the order.
-/

namespace RegionScan

/-- A finite map, held as its entries in ascending order of their keys. -/
structure OrderedMap (κ : Type u) (ν : Type v) [Ord κ] where
  /-- The bindings, least key first. -/
  entries : List (κ × ν)
  /-- Every key is strictly below all keys after it. -/
  ascending : entries.Pairwise (fun a b => compare a.1 b.1 = .lt)

namespace OrderedMap

variable {κ : Type u} {ν : Type v} [Ord κ]

/-- The map without bindings. -/
def empty : OrderedMap κ ν := ⟨[], .nil⟩

instance : Inhabited (OrderedMap κ ν) := ⟨empty⟩

/-- The value bound to a key. -/
def find? (m : OrderedMap κ ν) (k : κ) : Option ν :=
  (m.entries.find? fun e => compare e.1 k == .eq).map (·.2)

/-- Whether a key is bound. -/
def contains (m : OrderedMap κ ν) (k : κ) : Bool :=
  m.entries.any fun e => compare e.1 k == .eq

/-- The keys in ascending order. -/
def keys (m : OrderedMap κ ν) : List κ := m.entries.map (·.1)

/-- The largest key. -/
def lastKey? (m : OrderedMap κ ν) : Option κ := m.keys.getLast?

/-- Put an entry into an ascending list: before the first larger key, or in
    the place of an equal one. -/
def insertEntry (k : κ) (v : ν) : List (κ × ν) → List (κ × ν)
  | [] => [(k, v)]
  | e :: rest =>
    match compare k e.1 with
    | .lt => (k, v) :: e :: rest
    | .eq => (k, v) :: rest
    | .gt => e :: insertEntry k v rest

/-- An entry of the list after an insertion is the new entry or an old one. -/
theorem mem_insertEntry {k : κ} {v : ν} {a : κ × ν} {l : List (κ × ν)}
    (h : a ∈ insertEntry k v l) : a = (k, v) ∨ a ∈ l := by
  induction l with
  | nil => exact Or.inl (by simpa [insertEntry] using h)
  | cons e rest ih =>
      rw [insertEntry] at h
      cases hc : compare k e.1 with
      | lt => rw [hc] at h; simpa using h
      | eq =>
          rw [hc] at h
          rcases List.mem_cons.1 h with h | h
          · exact Or.inl h
          · exact Or.inr (List.mem_cons_of_mem _ h)
      | gt =>
          rw [hc] at h
          rcases List.mem_cons.1 h with h | h
          · exact Or.inr (h ▸ List.mem_cons_self)
          · exact (ih h).imp id (List.mem_cons_of_mem _)

/-- An insertion keeps the keys ascending. The new entry stands after the
    smaller keys because it was compared with each of them, and before the
    larger ones because the order is transitive. -/
theorem ascending_insertEntry [Std.TransOrd κ] (k : κ) (v : ν) {l : List (κ × ν)}
    (h : l.Pairwise (fun a b => compare a.1 b.1 = .lt)) :
    (insertEntry k v l).Pairwise (fun a b => compare a.1 b.1 = .lt) := by
  induction l with
  | nil => exact List.pairwise_singleton _ _
  | cons e rest ih =>
      have hrest := List.pairwise_cons.1 h
      rw [insertEntry]
      cases hc : compare k e.1 with
      | lt =>
          refine List.pairwise_cons.2 ⟨fun b hb => ?_, h⟩
          rcases List.mem_cons.1 hb with rfl | hb
          · exact hc
          · exact Std.TransCmp.lt_trans hc (hrest.1 b hb)
      | eq =>
          exact List.pairwise_cons.2
            ⟨fun b hb => Std.TransCmp.lt_of_eq_of_lt hc (hrest.1 b hb), hrest.2⟩
      | gt =>
          refine List.pairwise_cons.2 ⟨fun b hb => ?_, ih hrest.2⟩
          rcases mem_insertEntry hb with rfl | hb
          · exact Std.OrientedCmp.gt_iff_lt.1 hc
          · exact hrest.1 b hb

/-- Bind a key, replacing the value it was bound to. -/
def insert [Std.TransOrd κ] (m : OrderedMap κ ν) (k : κ) (v : ν) : OrderedMap κ ν :=
  ⟨insertEntry k v m.entries, ascending_insertEntry k v m.ascending⟩

/-- Bind every key of a list in turn. A later binding replaces an earlier one
    and whatever the map held. -/
def insertAll [Std.TransOrd κ] (m : OrderedMap κ ν) (l : List (κ × ν)) : OrderedMap κ ν :=
  l.foldl (fun m e => m.insert e.1 e.2) m

/-- The map of a list of bindings, later ones winning. -/
def ofList [Std.TransOrd κ] (l : List (κ × ν)) : OrderedMap κ ν := empty.insertAll l

/-- Bind a key unless it is bound already. -/
def insertIfNew [Std.TransOrd κ] (m : OrderedMap κ ν) (k : κ) (v : ν) : OrderedMap κ ν :=
  if m.contains k then m else m.insert k v

end OrderedMap

end RegionScan
