import RegionScan.OrderedMap
import RegionScan.Region

/-!
# Looking Things Up in Ordered Maps

What an ordered map says after a key was bound.

A map is its list of entries, but nothing above this module should have to
walk that list. Two views replace it: `find?`, for what a key is bound to, and
`lastKey?`, for where new rows are numbered from. Binding a key changes the
first at that key only, and moves the second if the key is beyond it.

All of it needs keys that compare as equal only if they are equal, which names
of tables do because their two texts do.

## Theorems

* `OrderedMap.find?_insert`: A bound key, and every other one.
* `OrderedMap.mem_entries_iff`: The entries are the bindings.
* `OrderedMap.contains_iff`: Containing a key is having it bound.
* `OrderedMap.entries_ofList`, `OrderedMap.mem_keys_ofList`,
  `OrderedMap.find?_ofList_of_last`: The map of a list of bindings.
* `OrderedMap.lastKey?_eq_some_iff`: The last key is the largest one bound.
* `OrderedMap.lastKey?_insert`: The last key after a key was bound.
-/

namespace RegionScan

instance : Std.LawfulEqOrd TableRef where
  eq_of_compare {a b} h := by
    have hparts := Ordering.then_eq_eq.1 h
    have hdatabase := Std.LawfulEqOrd.eq_of_compare hparts.1
    have htable := Std.LawfulEqOrd.eq_of_compare hparts.2
    cases a
    cases b
    simp only at hdatabase htable
    rw [hdatabase, htable]

namespace OrderedMap

variable {κ : Type u} {ν : Type v} [Ord κ]

/-- Containing a key is having it bound. -/
theorem contains_iff (m : OrderedMap κ ν) (k : κ) :
    m.contains k = (m.find? k).isSome := by
  rw [find?, contains, Option.isSome_map, List.isSome_find?]

/-- The keys ascend. -/
theorem keys_ascending (m : OrderedMap κ ν) :
    m.keys.Pairwise (fun a b => compare a b = .lt) := by
  rw [keys, List.pairwise_map]
  exact m.ascending

variable [Std.TransOrd κ]

/-- What a search finds after an insertion: the new entry at its own key, and
    at every other key what it found before. -/
theorem find?_insertEntry (k k' : κ) (v : ν) (l : List (κ × ν)) :
    (insertEntry k v l).find? (fun e => compare e.1 k' == .eq)
      = if compare k k' = .eq then some (k, v)
        else l.find? (fun e => compare e.1 k' == .eq) := by
  induction l with
  | nil =>
      by_cases hk : compare k k' = .eq
      · simp only [insertEntry, List.find?_cons, hk, beq_self_eq_true, if_true]
      · simp only [insertEntry, List.find?_cons, beq_eq_false_iff_ne.2 hk, if_neg hk]
  | cons e rest ih =>
      rw [insertEntry]
      cases hc : compare k e.1 with
      | lt =>
          by_cases hk : compare k k' = .eq
          · simp only [List.find?_cons, hk, beq_self_eq_true, if_true]
          · rw [if_neg hk, List.find?_cons_of_neg]
            simpa only [beq_iff_eq] using hk
      | eq =>
          by_cases hk : compare k k' = .eq
          · simp only [List.find?_cons, hk, beq_self_eq_true, if_true]
          · -- The entry that gives way did not have the searched key either.
            have he : compare e.1 k' ≠ .eq := fun h => hk (Std.TransCmp.eq_trans hc h)
            rw [if_neg hk, List.find?_cons_of_neg, List.find?_cons_of_neg]
            · simpa only [beq_iff_eq] using he
            · simpa only [beq_iff_eq] using hk
      | gt =>
          by_cases he : compare e.1 k' = .eq
          · -- The search ends before the place of the new entry, which has another key.
            have hk : compare k k' ≠ .eq := by
              rw [Std.TransCmp.gt_of_gt_of_eq hc he]
              decide
            simp only [List.find?_cons, he, beq_self_eq_true, if_neg hk]
          · simp only [List.find?_cons, beq_eq_false_iff_ne.2 he, ih]

/-- In a list with ascending keys an entry is what the search for its key
    finds. -/
theorem find?_of_mem {l : List (κ × ν)} {e : κ × ν}
    (h : l.Pairwise (fun a b => compare a.1 b.1 = .lt)) (he : e ∈ l) :
    l.find? (fun a => compare a.1 e.1 == .eq) = some e := by
  induction l with
  | nil => exact absurd he List.not_mem_nil
  | cons a rest ih =>
      have hrest := List.pairwise_cons.1 h
      rcases List.mem_cons.1 he with rfl | he
      · simp only [List.find?_cons, Std.ReflOrd.compare_self, beq_self_eq_true]
      · -- The keys ascend, so no entry in front of `e` has its key.
        have hne : compare a.1 e.1 ≠ .eq := by
          rw [hrest.1 e he]
          decide
        simp only [List.find?_cons, beq_eq_false_iff_ne.2 hne, ih hrest.2 he]

/-- A key beyond all others is appended. -/
theorem insertEntry_of_forall_lt {k : κ} {l : List (κ × ν)} (v : ν)
    (h : ∀ e ∈ l, compare e.1 k = .lt) : insertEntry k v l = l ++ [(k, v)] := by
  induction l with
  | nil => rfl
  | cons e rest ih =>
      have hgt : compare k e.1 = .gt := Std.OrientedCmp.gt_iff_lt.2 (h e List.mem_cons_self)
      rw [insertEntry, hgt, List.cons_append, ← ih fun a ha => h a (List.mem_cons_of_mem e ha)]

/-- Bindings that ascend stay as they are. -/
theorem entries_insertAll {m : OrderedMap κ ν} {l : List (κ × ν)}
    (h : (m.entries ++ l).Pairwise fun a b => compare a.1 b.1 = .lt) :
    (m.insertAll l).entries = m.entries ++ l := by
  induction l generalizing m with
  | nil => exact (List.append_nil _).symm
  | cons e rest ih =>
      have hfront : ∀ a ∈ m.entries, compare a.1 e.1 = .lt := fun a ha =>
        (List.pairwise_append.1 h).2.2 a ha e List.mem_cons_self
      have hinsert : (m.insert e.1 e.2).entries = m.entries ++ [e] :=
        insertEntry_of_forall_lt e.2 hfront
      have hrest := ih (m := m.insert e.1 e.2) (by rwa [hinsert, List.append_assoc])
      rwa [hinsert, List.append_assoc] at hrest

theorem entries_ofList {l : List (κ × ν)} (h : l.Pairwise fun a b => compare a.1 b.1 = .lt) :
    (ofList l).entries = l := entries_insertAll h

/-- Every entry was bound. -/
theorem mem_of_mem_insertAll {m : OrderedMap κ ν} {l : List (κ × ν)} {e : κ × ν}
    (h : e ∈ (m.insertAll l).entries) : e ∈ l ∨ e ∈ m.entries := by
  induction l generalizing m with
  | nil => exact .inr h
  | cons a rest ih =>
      rcases ih (m := m.insert a.1 a.2) h with h | h
      · exact .inl (List.mem_cons_of_mem a h)
      · rcases mem_insertEntry h with rfl | h
        · exact .inl List.mem_cons_self
        · exact .inr h

theorem mem_of_mem_ofList {l : List (κ × ν)} {e : κ × ν} (h : e ∈ (ofList l).entries) : e ∈ l :=
  (mem_of_mem_insertAll h).resolve_right List.not_mem_nil

variable [Std.LawfulEqOrd κ]

/-- Binding a key binds it and leaves all others as they were. -/
theorem find?_insert [DecidableEq κ] (m : OrderedMap κ ν) (k k' : κ) (v : ν) :
    (m.insert k v).find? k' = if k = k' then some v else m.find? k' := by
  rw [find?, insert, find?_insertEntry]
  by_cases hk : k = k'
  · rw [if_pos hk, if_pos (Std.LawfulEqOrd.compare_eq_iff_eq.2 hk)]
    rfl
  · rw [if_neg hk, if_neg (fun h => hk (Std.LawfulEqOrd.compare_eq_iff_eq.1 h))]
    rfl

/-- The entries are the bindings. -/
theorem mem_entries_iff (m : OrderedMap κ ν) (k : κ) (v : ν) :
    (k, v) ∈ m.entries ↔ m.find? k = some v := by
  constructor
  · intro h
    rw [find?, find?_of_mem m.ascending h]
    rfl
  · intro h
    rcases Option.map_eq_some_iff.1 h with ⟨e, he, hv⟩
    have hkey : e.1 = k := by
      have hp := List.find?_some he
      exact Std.LawfulEqOrd.compare_eq_iff_eq.1 (beq_iff_eq.1 hp)
    have heq : e = (k, v) := by rw [← hkey, ← hv]
    rw [← heq]
    exact List.mem_of_find?_eq_some he

/-- A key is among the keys if it is bound. -/
theorem mem_keys_iff (m : OrderedMap κ ν) (k : κ) : k ∈ m.keys ↔ ∃ v, m.find? k = some v := by
  constructor
  · intro h
    rcases List.mem_map.1 h with ⟨e, he, rfl⟩
    exact ⟨e.2, (mem_entries_iff m e.1 e.2).1 he⟩
  · rintro ⟨v, hv⟩
    exact List.mem_map.2 ⟨(k, v), (mem_entries_iff m k v).2 hv, rfl⟩

/-- The keys after a key was bound. -/
theorem mem_keys_insert [DecidableEq κ] (m : OrderedMap κ ν) (k k' : κ) (v : ν) :
    k' ∈ (m.insert k v).keys ↔ k' = k ∨ k' ∈ m.keys := by
  rw [mem_keys_iff, mem_keys_iff, find?_insert]
  by_cases hk : k = k'
  · subst hk
    simp only [if_true, true_or, iff_true, Option.some.injEq]
    exact ⟨v, rfl⟩
  · simp only [if_neg hk, Ne.symm hk, false_or]

theorem mem_keys_insertAll [DecidableEq κ] (m : OrderedMap κ ν) (l : List (κ × ν)) (k : κ) :
    k ∈ (m.insertAll l).keys ↔ k ∈ l.map (·.1) ∨ k ∈ m.keys := by
  induction l generalizing m with
  | nil => simp only [insertAll, List.foldl_nil, List.map_nil, List.not_mem_nil, false_or]
  | cons e rest ih =>
      rw [insertAll, List.foldl_cons, ← insertAll, ih, mem_keys_insert, List.map_cons,
        List.mem_cons, ← or_assoc, or_comm (a := k ∈ rest.map (·.1))]

/-- The map of a list has the keys of its bindings. -/
theorem mem_keys_ofList [DecidableEq κ] (l : List (κ × ν)) (k : κ) :
    k ∈ (ofList l).keys ↔ k ∈ l.map (·.1) := by
  rw [ofList, mem_keys_insertAll]
  exact or_iff_left List.not_mem_nil

/-- Bindings of other keys do not matter. -/
theorem find?_insertAll_of_forall_ne [DecidableEq κ] {m : OrderedMap κ ν} {l : List (κ × ν)}
    {k : κ} (h : ∀ e ∈ l, e.1 ≠ k) : (m.insertAll l).find? k = m.find? k := by
  induction l generalizing m with
  | nil => rfl
  | cons e rest ih =>
      rw [insertAll, List.foldl_cons, ← insertAll, ih fun a ha => h a (List.mem_cons_of_mem e ha),
        find?_insert, if_neg (h e List.mem_cons_self)]

/-- Of the bindings of one key the last one counts. -/
theorem find?_ofList_of_last [DecidableEq κ] {front behind : List (κ × ν)} {k : κ} {v : ν}
    (h : ∀ e ∈ behind, e.1 ≠ k) : (ofList (front ++ (k, v) :: behind)).find? k = some v := by
  have hsplit : ofList (front ++ (k, v) :: behind) = ((ofList front).insert k v).insertAll behind :=
    List.foldl_append
  rw [hsplit, find?_insertAll_of_forall_ne h, find?_insert, if_pos rfl]

/-- The last key is the largest one bound. -/
theorem lastKey?_eq_some_iff (m : OrderedMap κ ν) (l : κ) :
    m.lastKey? = some l ↔ l ∈ m.keys ∧ ∀ k ∈ m.keys, (compare k l).isLE := by
  have hasc := keys_ascending m
  rw [lastKey?]
  rcases List.eq_nil_or_concat m.keys with hnil | ⟨front, last, hlast⟩
  · simp only [hnil, List.getLast?_nil, reduceCtorEq, List.not_mem_nil, false_and]
  · rw [List.concat_eq_append] at hlast
    rw [hlast, List.pairwise_append] at hasc
    rw [hlast, List.getLast?_concat]
    constructor
    · intro h
      obtain rfl : last = l := Option.some.inj h
      refine ⟨List.mem_append_right _ (List.mem_singleton_self _), fun k hk => ?_⟩
      rcases List.mem_append.1 hk with hk | hk
      · rw [hasc.2.2 k hk last (List.mem_singleton_self _)]
        rfl
      · rw [List.mem_singleton.1 hk, Std.ReflOrd.compare_self]
        rfl
    · rintro ⟨hmem, hmax⟩
      rcases List.mem_append.1 hmem with hfront | hsingle
      · -- A key in front is below the last one, which it is said to bound.
        have hlt := hasc.2.2 l hfront last (List.mem_singleton_self _)
        have hle := hmax last (List.mem_append_right _ (List.mem_singleton_self _))
        exact absurd hlt (Std.OrientedCmp.not_lt_of_isLE hle)
      · rw [List.mem_singleton.1 hsingle]

/-- The last key after a key was bound is the larger of the two. -/
theorem lastKey?_insert [DecidableEq κ] (m : OrderedMap κ ν) (k : κ) (v : ν) :
    (m.insert k v).lastKey?
      = some (m.lastKey?.elim k fun l => if (compare k l).isLE then l else k) := by
  rw [lastKey?_eq_some_iff]
  cases hlast : m.lastKey? with
  | none =>
      -- The map is empty, so the new key is the only one.
      have hnil : m.keys = [] := List.getLast?_eq_none_iff.1 hlast
      refine ⟨(mem_keys_insert m k _ v).2 (Or.inl rfl), fun k' hk' => ?_⟩
      rcases (mem_keys_insert m k k' v).1 hk' with rfl | hk'
      · exact Std.ReflCmp.isLE_rfl
      · rw [hnil] at hk'
        exact absurd hk' List.not_mem_nil
  | some l =>
      have hl := (lastKey?_eq_some_iff m l).1 hlast
      simp only [Option.elim_some]
      by_cases hle : (compare k l).isLE
      · -- The last key is not below the new one, and stays the last.
        rw [if_pos hle]
        refine ⟨(mem_keys_insert m k l v).2 (Or.inr hl.1), fun k' hk' => ?_⟩
        rcases (mem_keys_insert m k k' v).1 hk' with rfl | hk'
        · exact hle
        · exact hl.2 k' hk'
      · have hgt : (compare l k).isLE := by
          rw [Std.OrientedCmp.lt_of_not_isLE hle]
          rfl
        rw [if_neg hle]
        refine ⟨(mem_keys_insert m k k v).2 (Or.inl rfl), fun k' hk' => ?_⟩
        rcases (mem_keys_insert m k k' v).1 hk' with rfl | hk'
        · exact Std.ReflCmp.isLE_rfl
        · exact Std.TransCmp.isLE_trans (hl.2 k' hk') hgt

end OrderedMap

end RegionScan
