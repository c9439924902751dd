import RegionScan.Proofs.Snapshot
import RegionScan.Proofs.Store.Action

/-!
# Versions and Commits

Why a reader of an old version is not disturbed by what is written later.

A store numbers its commits with packed snapshots. So long as the milliseconds
of the last commit fit the packed form, the next commit has a larger number
than the last one, whatever the clock does. It follows that no version in a
store is numbered above its last commit, which is the invariant `Ordered`: a
reader at the last commit or above sees the newest version of every row.

For a reader below the commits to come it does not matter where they are in the
order. New versions are put in front of a history and such a reader skips them
all, so what it sees is what it saw (`Store.seen?_run`).

What the next commit can be is said once, by `Snapshot.Follows`: a later reading
of the clock, or one more count, which carries if the counter is full.

## Main definitions

* `Snapshot.Follows`: What the commit after another one can be.
* `Store.Ordered`: No version is above the last commit.
* `Table.current?`: What a row holds now.
* `Store.seen?`: What a reader sees of one row.

## Theorems

* `Store.follows_nextCommit`: The next commit follows the last one.
* `Snapshot.Follows.rank_lt`: A commit is above the one it follows.
* `Store.ordered_run`: The invariant holds after every run.
* `Store.Ordered.lt_of_mem_commits`: The commits of a run are above those
  before it.
* `Store.Ordered.seen?_eq_current?`: At the last commit or above, the newest
  version is seen.
* `Store.seen?_run`: Later commits do not change what is seen below them.
-/

namespace RegionScan

namespace Snapshot

/-- What the commit after another one can be. -/
inductive Follows (c : Snapshot) : Snapshot → Prop where
  /-- The clock is ahead of the last commit. -/
  | later (now : UInt64) (h : c.physical < now) : Follows c (ofParts now 0)
  /-- The clock is not ahead, and the counter is full. -/
  | carry (hfull : c.logical.val = maxLogical) : Follows c (ofParts (c.physical + 1) 0)
  /-- The clock is not ahead, and the counter has room. -/
  | count (hroom : c.logical.val ≠ maxLogical) :
    Follows c (ofParts c.physical (c.logical.val + 1))

/-- A counter that has room goes on by one. -/
theorem logical_add_one {c : Snapshot} (h : c.logical.val ≠ maxLogical) :
    (c.logical.val + 1) % logicalRange = c.logical.val + 1 := by
  have hlogical := c.logical.isLt
  rw [maxLogical] at h
  exact Nat.mod_eq_of_lt (by omega)

/-- A reading that fits the packed form is far from the end of the clock. -/
theorem toNat_physical_add_one {c : Snapshot} (h : c.physical.toNat ≤ maxPhysical) :
    (c.physical + 1).toNat = c.physical.toNat + 1 := by
  rw [maxPhysical] at h
  rw [UInt64.toNat_add, UInt64.toNat_one]
  exact Nat.mod_eq_of_lt (by omega)

/-- A commit is above the one it follows, unless the milliseconds run over. -/
theorem Follows.rank_lt {c d : Snapshot} (h : c.Follows d)
    (hfits : c.physical.toNat ≤ maxPhysical) : c.rank < d.rank := by
  have hlogical := c.logical.isLt
  cases h with
  | later now hnow =>
      -- The clock is ahead, so its reading alone is larger.
      have hlt := UInt64.lt_iff_toNat_lt.1 hnow
      simp only [rank, ofParts, Nat.zero_mod, logicalRange] at hlogical ⊢
      omega
  | carry hfull =>
      -- The counter carries into the milliseconds.
      simp only [rank, ofParts, toNat_physical_add_one hfits, Nat.zero_mod, logicalRange]
        at hlogical ⊢
      omega
  | count hroom =>
      simp only [rank, ofParts, logical_add_one hroom]
      omega

end Snapshot

namespace Store

/-- The next commit follows the last one. -/
theorem follows_nextCommit (s : Store) : s.lastCommit.Follows s.nextCommit := by
  unfold nextCommit
  by_cases hnow : s.lastCommit.physical < s.now
  · simp only [hnow, if_true]
    exact .later s.now hnow
  · by_cases hfull : s.lastCommit.logical.val = maxLogical
    · simp only [hnow, if_false, hfull, if_true]
      exact .carry hfull
    · simp only [hnow, if_false, hfull]
      exact .count hfull

/-- The next commit has a larger number than the last one, if both fit. -/
theorem version_lt_nextCommit (s : Store) (h : s.lastCommit.physical.toNat ≤ maxPhysical)
    (h' : s.nextCommit.physical.toNat ≤ maxPhysical) :
    s.lastCommit.version < s.nextCommit.version := by
  rw [Snapshot.version_lt_iff_rank_lt h h']
  exact s.follows_nextCommit.rank_lt h

/-- The last commit fits the packed form, and no version is above it. -/
structure Ordered (s : Store) : Prop where
  physical_le : s.lastCommit.physical.toNat ≤ maxPhysical
  version_le : ∀ name t, s.tables.find? name = some t →
    ∀ handle, ∀ v ∈ t.history handle, v.version ≤ s.lastCommit.version

/-- A store without tables is ordered. -/
theorem ordered_new (clock : Clock) : (Store.new clock).Ordered where
  physical_le := Nat.zero_le _
  version_le := fun _ _ h => by cases h

/-- An action whose commit fits does not lower the number of the last commit,
    and leaves a last commit that fits. -/
theorem Ordered.lastCommit_act {s : Store} {a : StoreAction} (h : s.Ordered)
    (hfit : ∀ c, s.commitOf a = some c → c.physical.toNat ≤ maxPhysical) :
    s.lastCommit.version ≤ (s.act a).lastCommit.version ∧
      (s.act a).lastCommit.physical.toNat ≤ maxPhysical := by
  rw [Store.lastCommit_act]
  cases hc : s.commitOf a with
  | none => exact ⟨UInt64.le_refl _, h.physical_le⟩
  | some c =>
      have hfits := hfit c hc
      obtain rfl := commitOf_eq_nextCommit hc
      exact ⟨UInt64.le_of_lt (s.version_lt_nextCommit h.physical_le hfits), hfits⟩

/-- An action whose commit fits keeps a store ordered. The versions it adds are
    numbered by the commit, and the others were not above the commit before. -/
theorem ordered_act {s : Store} {a : StoreAction} (h : s.Ordered)
    (hfit : ∀ c, s.commitOf a = some c → c.physical.toNat ≤ maxPhysical) :
    (s.act a).Ordered := by
  have hlast := h.lastCommit_act hfit
  refine ⟨hlast.2, fun name t ht handle v hv => ?_⟩
  cases hbefore : s.tables.find? name with
  | none =>
      -- A table that was just created has no versions.
      rcases find?_act_of_none hbefore ht with ⟨columns, rfl⟩
      exact absurd hv List.not_mem_nil
  | some u =>
      rcases find?_act a hbefore with ⟨t', ht', hgrown⟩
      obtain rfl : t' = t := Option.some.inj (ht'.symm.trans ht)
      rcases hgrown with rfl | ⟨hcommit, hgrows⟩
      · exact UInt64.le_trans (h.version_le name t' hbefore handle v hv) hlast.1
      · rcases hgrows.history_eq handle with ⟨newer, heq, hnewer⟩
        rw [heq] at hv
        rcases List.mem_append.1 hv with hv | hv
        · -- The version is new, so it has the number of the commit itself.
          rw [hnewer v hv, Store.lastCommit_act, hcommit, Option.getD_some]
          exact UInt64.le_refl _
        · exact UInt64.le_trans (h.version_le name u hbefore handle v hv) hlast.1

/-- A run whose commits fit keeps a store ordered. -/
theorem ordered_run (actions : List StoreAction) :
    ∀ {s : Store}, s.Ordered → (∀ c ∈ s.commits actions, c.physical.toNat ≤ maxPhysical) →
      (s.run actions).Ordered := by
  induction actions with
  | nil => exact fun h _ => h
  | cons a rest ih =>
      intro s h hfit
      exact ih (ordered_act h fun c hc => hfit c (List.mem_append_left _ (Option.mem_toList.2 hc)))
        fun c hc => hfit c (List.mem_append_right _ hc)

/-- The commits of a run are above the last commit before it. -/
theorem Ordered.lt_of_mem_commits (actions : List StoreAction) :
    ∀ {s : Store}, s.Ordered → (∀ c ∈ s.commits actions, c.physical.toNat ≤ maxPhysical) →
      ∀ c ∈ s.commits actions, s.lastCommit.version < c.version := by
  induction actions with
  | nil => exact fun _ _ c hc => absurd hc List.not_mem_nil
  | cons a rest ih =>
      intro s h hfit c hc
      have hnow : ∀ d, s.commitOf a = some d → d.physical.toNat ≤ maxPhysical := fun d hd =>
        hfit d (List.mem_append_left _ (Option.mem_toList.2 hd))
      rcases List.mem_append.1 hc with hc | hc
      · have hfits := hfit c (List.mem_append_left _ hc)
        -- This action takes the commit.
        obtain rfl := commitOf_eq_nextCommit (Option.mem_toList.1 hc)
        exact s.version_lt_nextCommit h.physical_le hfits
      · -- A later one does, and this action did not lower the last commit.
        have hrest := ih (ordered_act h hnow) (fun d hd => hfit d (List.mem_append_right _ hd)) c hc
        exact UInt64.lt_of_le_of_lt (h.lastCommit_act hnow).1 hrest

end Store

/-- What the newest version of a row holds. -/
def Table.current? (t : Table) (handle : Int64) : Option RawRow :=
  (t.history handle).head?.bind (·.values)

/-- A reader that no version is too young for sees the newest one. -/
theorem visible?_of_forall_le {history : History} {v : UInt64}
    (h : ∀ w ∈ history, w.version ≤ v) :
    visible? history v = history.head?.bind (·.values) := by
  cases history with
  | nil => rfl
  | cons w rest =>
      have hw := h w List.mem_cons_self
      simp only [visible?, List.find?_cons, decide_eq_true hw, List.head?_cons]

/-- A reader skips the versions that are too young for it. -/
theorem visible?_append {newer history : History} {v : UInt64}
    (h : ∀ w ∈ newer, v < w.version) :
    visible? (newer ++ history) v = visible? history v := by
  -- The search for a version finds none among the newer ones.
  have hnone : newer.find? (fun w => decide (w.version ≤ v)) = none := by
    refine List.find?_eq_none.2 fun w hw => ?_
    rw [decide_eq_true_eq]
    exact UInt64.not_le.2 (h w hw)
  rw [visible?, visible?, List.find?_append, hnone, Option.none_or]

namespace Store

/-- What a reader of a version sees of the row with a handle. -/
def seen? (s : Store) (name : TableRef) (v : UInt64) (handle : Int64) : Option RawRow :=
  (s.tables.find? name).bind fun t => visible? (t.history handle) v

/-- At the last commit or above, a reader sees what the rows hold now. -/
theorem Ordered.seen?_eq_current? {s : Store} (h : s.Ordered) {v : UInt64}
    (hv : s.lastCommit.version ≤ v) (name : TableRef) (handle : Int64) :
    s.seen? name v handle = (s.tables.find? name).bind fun t => t.current? handle := by
  rw [seen?]
  cases ht : s.tables.find? name with
  | none => rfl
  | some t =>
      exact visible?_of_forall_le fun w hw =>
        UInt64.le_trans (h.version_le name t ht handle w hw) hv

/-- An action does not change what a reader below its commit sees. -/
theorem seen?_act {s : Store} {a : StoreAction} {v : UInt64}
    (hv : ∀ c, s.commitOf a = some c → v < c.version) (name : TableRef) (handle : Int64) :
    (s.act a).seen? name v handle = s.seen? name v handle := by
  rw [seen?, seen?]
  cases hbefore : s.tables.find? name with
  | none =>
      cases hafter : (s.act a).tables.find? name with
      | none => rfl
      | some t =>
          rcases find?_act_of_none hbefore hafter with ⟨columns, rfl⟩
          rfl
  | some t =>
      rcases find?_act a hbefore with ⟨t', ht', hgrown⟩
      rw [ht', Option.bind_some, Option.bind_some]
      rcases hgrown with rfl | ⟨hcommit, hgrows⟩
      · rfl
      · rcases hgrows.history_eq handle with ⟨newer, heq, hnewer⟩
        rw [heq]
        refine visible?_append fun w hw => ?_
        rw [hnewer w hw]
        exact hv _ hcommit

/-- A run does not change what a reader below its commits sees. -/
theorem seen?_run (actions : List StoreAction) :
    ∀ {s : Store} {v : UInt64}, (∀ c ∈ s.commits actions, v < c.version) →
      ∀ (name : TableRef) (handle : Int64),
        (s.run actions).seen? name v handle = s.seen? name v handle := by
  induction actions with
  | nil => exact fun _ _ _ => rfl
  | cons a rest ih =>
      intro s v hv name handle
      rw [run_cons, ih fun c hc => hv c (List.mem_append_right _ hc),
        seen?_act fun c hc => hv c (List.mem_append_left _ (Option.mem_toList.2 hc))]

end Store

end RegionScan
