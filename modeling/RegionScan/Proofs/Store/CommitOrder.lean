import Mathlib.Data.List.Chain
import RegionScan.Proofs.Store.Version

/-!
# The Order of Commits

Whether later commits have larger numbers.

A store takes its commits one after the other, and each of them is made from
the one before and a reading of the clock. So the commits of any run form a
chain of `Snapshot.Follows`, however the clock is moved, and what holds of
neighbours in the chain carries over to the whole run.

Readers do not compare commits but the numbers these pack to, and packing keeps
only the low bits of the milliseconds. So the numbers of a run rise as long as
the milliseconds that are kept do: always if all commits fit the packed form,
and not if the clock runs past it and the kept bits start from zero again.

## Main definitions

* `Snapshot.Climbs`: The milliseconds kept are the same reading's, or more.

## Theorems

* `Store.commits_isChain`: Each commit of a run follows the one before.
* `Snapshot.Follows.version_lt_iff`: When the number of the next commit is larger.
* `Store.commits_increase_iff`: When the numbers of a run rise.
-/

namespace RegionScan

namespace Snapshot

/-- A second snapshot of the same reading, or of one of which more is kept. -/
def Climbs (c d : Snapshot) : Prop := c.physical = d.physical ∨ c.kept < d.kept

instance : Trans Climbs Climbs Climbs where
  trans := by
    rintro c d e (hcd | hcd) (hde | hde)
    · exact Or.inl (hcd.trans hde)
    · refine Or.inr ?_
      rwa [kept, hcd, ← kept]
    · refine Or.inr ?_
      rwa [kept, kept, ← hde, ← kept, ← kept]
    · exact Or.inr (hcd.trans hde)

namespace Follows

variable {c d : Snapshot}

/-- The next commit has a larger number exactly if the milliseconds that are kept
    climb. A commit of a new reading starts its counter at zero, so its
    milliseconds alone decide. -/
theorem version_lt_iff (h : c.Follows d) : c.version < d.version ↔ c.Climbs d := by
  rw [version_lt_iff_kept, Climbs]
  cases h with
  | later now h =>
      have hne : c.physical ≠ now := UInt64.ne_of_lt h
      simp only [ofParts, hne, Nat.zero_mod, Nat.not_lt_zero, and_false, or_false, false_or]
  | carry _ =>
      have hne : c.physical ≠ c.physical + 1 := by
        intro heq
        have hnat := congrArg UInt64.toNat heq
        rw [UInt64.toNat_add, UInt64.toNat_one] at hnat
        omega
      simp only [ofParts, hne, Nat.zero_mod, Nat.not_lt_zero, and_false, or_false, false_or]
  | count hroom =>
      -- The milliseconds stay, and the counter has room for one more.
      simp only [ofParts, kept, logical_add_one hroom, Nat.lt_irrefl, true_and, false_or,
        true_or, iff_true]
      exact Nat.lt_succ_self _

/-- If both fit the packed form, the milliseconds climb. -/
theorem climbs_of_fits (h : c.Follows d) (hc : c.physical.toNat ≤ maxPhysical)
    (hd : d.physical.toNat ≤ maxPhysical) : c.Climbs d := by
  rw [← h.version_lt_iff, version_lt_iff_rank_lt hc hd]
  exact h.rank_lt hc

end Follows

end Snapshot

namespace Store

/-- Each commit of a run follows the one before, the first of them the last one
    before the run. -/
theorem commits_isChain (actions : List StoreAction) :
    ∀ s : Store, (s.lastCommit :: s.commits actions).IsChain Snapshot.Follows := by
  induction actions with
  | nil => exact fun s => .singleton s.lastCommit
  | cons a rest ih =>
      intro s
      have hrest := ih (s.act a)
      rw [lastCommit_act] at hrest
      rw [commits]
      cases hc : s.commitOf a with
      | none =>
          rw [hc] at hrest
          exact hrest
      | some c =>
          obtain rfl := commitOf_eq_nextCommit hc
          rw [hc] at hrest
          exact .cons_cons s.follows_nextCommit hrest

/-- The numbers of the commits of a run rise if all of them fit the packed form.
    Beyond that they rise exactly as long as the milliseconds that the packed form
    keeps climb from each commit to all later ones. -/
theorem commits_increase_iff (s : Store) (actions : List StoreAction) :
    ((∀ c ∈ s.commits actions, c.physical.toNat ≤ maxPhysical) →
        (s.commits actions).Pairwise fun c d => c.version < d.version) ∧
      ((s.commits actions).Pairwise (fun c d => c.version < d.version) ↔
        (s.commits actions).Pairwise Snapshot.Climbs) := by
  have hchain : (s.commits actions).IsChain Snapshot.Follows := (commits_isChain actions s).of_cons
  have htrans : Trans (fun c d : Snapshot => c.version < d.version)
      (fun c d : Snapshot => c.version < d.version)
      (fun c d : Snapshot => c.version < d.version) := ⟨UInt64.lt_trans⟩
  -- Both relations are transitive, so neighbours decide.
  have hiff : (s.commits actions).Pairwise (fun c d => c.version < d.version) ↔
      (s.commits actions).Pairwise Snapshot.Climbs := by
    rw [← List.isChain_iff_pairwise, ← List.isChain_iff_pairwise]
    simp only [List.isChain_iff_getElem] at hchain ⊢
    exact forall₂_congr fun i hi => (hchain i hi).version_lt_iff
  refine ⟨fun hfits => hiff.2 ?_, hiff⟩
  refine (hchain.imp_of_mem_imp fun c d hc hd hfollows => ?_).pairwise
  exact hfollows.climbs_of_fits (hfits c hc) (hfits d hd)

/-- Writes while the clock stands still, after it wrapped backwards, and after it
    moved on again. The third one is refused and takes a commit all the same. -/
def unsteadyClock : List StoreAction :=
  [.createTable ⟨"db", "t"⟩ [⟨"id", .bigInt, 0, false⟩],
    .insertRows ⟨"db", "t"⟩ [[.int 1], [.int 2]],
    .upsert ⟨"db", "t"⟩ 9 [.int 3],
    .upsert ⟨"db", "t"⟩ 9 [],
    .advanceClock (-7),
    .delete ⟨"db", "t"⟩ 1,
    .advanceClock 40,
    .upsert ⟨"db", "t"⟩ 1 [.int 4]]

/-- The numbers of all five commits rise. -/
theorem increase_unsteadyClock :
    ((new (.manual 10)).commits unsteadyClock).length = 5 ∧
      ((new (.manual 10)).commits unsteadyClock).Pairwise fun c d => c.version < d.version :=
  ⟨by decide, ((new (.manual 10)).commits_increase_iff unsteadyClock).1 (by decide)⟩

/-- Writes in the last millisecond that the packed form has room for, and in the one
    after it. -/
def lastMillisecond : List StoreAction :=
  [.createTable ⟨"db", "t"⟩ [⟨"id", .bigInt, 0, false⟩],
    .upsert ⟨"db", "t"⟩ 1 [.int 1],
    .advanceClock 1,
    .upsert ⟨"db", "t"⟩ 2 [.int 2]]

/-- The second commit has the number zero. It is below the first, and a reader of
    the first finds the row that the second one wrote. -/
theorem not_increase_lastMillisecond :
    ((new (.manual 70368744177663)).commits lastMillisecond).map Snapshot.version
        = [70368744177663 * 262144, 0] ∧
      ¬ ((new (.manual 70368744177663)).commits lastMillisecond).Pairwise
        (fun c d => c.version < d.version) ∧
      ((new (.manual 70368744177663)).run lastMillisecond).seen? ⟨"db", "t"⟩
        (70368744177663 * 262144) 2 = some [.int 2] := by
  decide

end Store

end RegionScan
