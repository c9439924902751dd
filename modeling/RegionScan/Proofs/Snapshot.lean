import RegionScan.Snapshot

/-!
# Packed Snapshots

Why commits can be compared by their numbers.

Snapshots are ordered by reading, then by counter. The counter is below its
range, so this is the order of one number, the `Snapshot.rank`, in which the
reading counts whole ranges. A snapshot packs to its rank as long as that fits
sixty-four bits, and then nothing is lost: the number is unpacked to the same
snapshot, and it is above the numbers of the snapshots before.

If the reading does not fit, its high bits are shifted out. Unpacking finds a
reading that fits, which is then not the one that was packed, so the snapshots
that are found again are exactly those that fit.

The definitions say this with products and remainders. On words, these are a
shift, a mask and a union of bits.

## Main definitions

* `Snapshot.rank`: The number that a snapshot packs to if it fits.
* `Snapshot.kept`: The milliseconds that the packed form keeps.

## Theorems

* `Snapshot.compare_eq_lt_iff_rank`: Snapshots are ordered as their ranks.
* `Snapshot.toNat_version_eq`: What a snapshot packs to.
* `Snapshot.toNat_version`: A snapshot that fits packs to its rank.
* `Snapshot.version_lt_iff_rank_lt`, `Snapshot.version_lt_iff_kept`: The order of
  packed forms.
* `Snapshot.version_eq_or`, `Snapshot.physical_ofVersion`,
  `Snapshot.logical_ofVersion`, `Snapshot.logical_ofParts`: The packed form bit
  by bit.
* `Snapshot.version_ofVersion`: Every number is the packed form of what it
  unpacks to.
* `Snapshot.ofVersion_version_iff`: Which snapshots are found again.
* `Snapshot.version_orderIso`: Packing keeps the order and loses nothing, as
  far as readings fit.
-/

namespace RegionScan

namespace Snapshot

/-- The number that a snapshot packs to, if its reading fits. -/
def rank (s : Snapshot) : Nat := s.physical.toNat * logicalRange + s.logical.val

/-- The milliseconds of a snapshot that the packed form keeps. -/
def kept (s : Snapshot) : Nat := s.physical.toNat % (maxPhysical + 1)

/-- A reading that fits the packed form is kept. -/
theorem kept_eq {s : Snapshot} (h : s.physical.toNat ≤ maxPhysical) :
    s.kept = s.physical.toNat :=
  Nat.mod_eq_of_lt (Nat.lt_succ_of_le h)

/-- Snapshots are ordered as their ranks: a counter does not make up for a
    millisecond. -/
theorem compare_eq_lt_iff_rank (a b : Snapshot) : compare a b = .lt ↔ a.rank < b.rank := by
  have ha := a.logical.isLt
  have hb := b.logical.isLt
  have hcompare : compare a b
      = (compare a.physical b.physical).then (compare a.logical.val b.logical.val) := rfl
  rw [hcompare, Ordering.then_eq_lt, Std.compare_eq_lt, Std.compare_eq_iff_eq, Nat.compare_eq_lt,
    UInt64.lt_iff_toNat_lt, ← UInt64.toNat_inj, rank, rank]
  simp only [logicalRange] at ha hb ⊢
  omega

/-- No two snapshots have one rank. -/
theorem eq_of_rank_eq {a b : Snapshot} (h : a.rank = b.rank) : a = b := by
  have ha := a.logical.isLt
  have hb := b.logical.isLt
  rw [rank, rank] at h
  have hparts : a.physical.toNat = b.physical.toNat ∧ a.logical.val = b.logical.val := by
    simp only [logicalRange] at ha hb h
    omega
  rw [Snapshot.mk.injEq]
  exact ⟨UInt64.toNat_inj.1 hparts.1, Fin.ext hparts.2⟩

/-- A snapshot packs to the milliseconds that are kept, with the counter behind
    them. -/
theorem toNat_version_eq (s : Snapshot) :
    s.version.toNat = s.kept * logicalRange + s.logical.val := by
  have hlogical := s.logical.isLt
  have hkept : maxPhysical + 1 = 2 ^ 46 := rfl
  rw [version, UInt64.toNat_ofNat', kept, hkept]
  simp only [logicalRange] at hlogical ⊢
  omega

/-- A snapshot whose reading fits packs to its rank. -/
theorem toNat_version {s : Snapshot} (h : s.physical.toNat ≤ maxPhysical) :
    s.version.toNat = s.rank := by
  rw [toNat_version_eq, kept_eq h, rank]

/-- Snapshots whose readings fit are numbered in the order of their ranks. -/
theorem version_lt_iff_rank_lt {a b : Snapshot} (ha : a.physical.toNat ≤ maxPhysical)
    (hb : b.physical.toNat ≤ maxPhysical) : a.version < b.version ↔ a.rank < b.rank := by
  rw [UInt64.lt_iff_toNat_lt, toNat_version ha, toNat_version hb]

/-- In general they are numbered in the order of what is kept of them. -/
theorem version_lt_iff_kept (c d : Snapshot) :
    c.version < d.version ↔
      c.kept < d.kept ∨ c.kept = d.kept ∧ c.logical.val < d.logical.val := by
  have hc := c.logical.isLt
  have hd := d.logical.isLt
  rw [UInt64.lt_iff_toNat_lt, toNat_version_eq, toNat_version_eq]
  simp only [logicalRange] at hc hd ⊢
  omega

/-- The reading is shifted to the left and the counter is put into the bits
    that this leaves free. -/
theorem version_eq_or (s : Snapshot) :
    s.version = s.physical <<< 18 ||| UInt64.ofNat s.logical.val := by
  have hlogical : s.logical.val < 2 ^ 18 := s.logical.isLt
  have hword : s.logical.val < UInt64.size := Nat.lt_trans hlogical (by decide)
  -- The bits that are shifted out are those of the milliseconds that are not kept.
  have hshift : (s.physical <<< 18).toNat = s.kept <<< 18 := by
    rw [UInt64.toNat_shiftLeft, Nat.shiftLeft_eq, Nat.shiftLeft_eq, kept]
    exact Nat.mul_mod_mul_right (2 ^ 18) s.physical.toNat (2 ^ 46)
  rw [← UInt64.toNat_inj, toNat_version_eq, UInt64.toNat_or, hshift,
    UInt64.toNat_ofNat_of_lt' hword, ← Nat.shiftLeft_add_eq_or_of_lt hlogical, Nat.shiftLeft_eq]
  rfl

/-- Of a counter the low eighteen bits are kept. -/
theorem logical_ofParts (physical : UInt64) (logical : Nat) :
    (ofParts physical logical).logical.val = logical &&& maxLogical :=
  (Nat.and_two_pow_sub_one_eq_mod logical 18).symm

/-- The reading of what a number unpacks to, as a quotient. -/
theorem toNat_physical_ofVersion (v : UInt64) :
    (ofVersion v).physical.toNat = v.toNat / logicalRange :=
  UInt64.toNat_ofNat_of_lt' (Nat.lt_of_le_of_lt (Nat.div_le_self _ _) v.toNat_lt)

/-- The reading is shifted back. -/
theorem physical_ofVersion (v : UInt64) : (ofVersion v).physical = v >>> 18 := by
  rw [← UInt64.toNat_inj, toNat_physical_ofVersion, UInt64.toNat_shiftRight]
  exact (Nat.shiftRight_eq_div_pow v.toNat 18).symm

/-- The counter is found behind a mask. -/
theorem logical_ofVersion (v : UInt64) :
    (ofVersion v).logical.val = (v &&& UInt64.ofNat maxLogical).toNat :=
  (logical_ofParts _ v.toNat).trans (UInt64.toNat_and v (UInt64.ofNat maxLogical)).symm

/-- A reading that is unpacked fits. -/
theorem physical_ofVersion_le (v : UInt64) : (ofVersion v).physical.toNat ≤ maxPhysical := by
  have hrange : logicalRange * (maxPhysical + 1) = 2 ^ 64 := by decide
  rw [toNat_physical_ofVersion]
  refine Nat.le_of_lt_succ (Nat.div_lt_of_lt_mul ?_)
  rw [hrange]
  exact v.toNat_lt

/-- A number is the rank of what it unpacks to. -/
theorem rank_ofVersion (v : UInt64) : (ofVersion v).rank = v.toNat := by
  rw [rank, toNat_physical_ofVersion]
  exact Nat.div_add_mod' v.toNat logicalRange

/-- Every number is the packed form of what it unpacks to. -/
theorem version_ofVersion (v : UInt64) : (ofVersion v).version = v := by
  rw [← UInt64.toNat_inj, toNat_version (physical_ofVersion_le v), rank_ofVersion]

/-- A snapshot whose reading fits is found again in its packed form. -/
theorem ofVersion_version {s : Snapshot} (h : s.physical.toNat ≤ maxPhysical) :
    ofVersion s.version = s :=
  eq_of_rank_eq ((rank_ofVersion s.version).trans (toNat_version h))

/-- Only such a snapshot is found again, because what is found fits. -/
theorem ofVersion_version_iff (s : Snapshot) :
    ofVersion s.version = s ↔ s.physical.toNat ≤ maxPhysical := by
  refine ⟨fun h => ?_, ofVersion_version⟩
  rw [← h]
  exact physical_ofVersion_le s.version

/-- Of the first reading that does not fit nothing is kept. -/
example : ofVersion (ofMillis 70368744177664).version = zero := by decide

/-- Packing is an isomorphism of orders between the snapshots whose readings fit
    and all numbers. Every number is found again once it is unpacked, a
    snapshot is found again exactly if its reading fits, and snapshots whose
    readings fit are ordered as their numbers. -/
theorem version_orderIso :
    (∀ v : UInt64, (ofVersion v).version = v) ∧
      (∀ (physical : UInt64) (logical : Nat),
        ofVersion (ofParts physical logical).version = ofParts physical logical ↔
          physical.toNat ≤ maxPhysical) ∧
      ∀ a b : Snapshot, a.physical.toNat ≤ maxPhysical → b.physical.toNat ≤ maxPhysical →
        (compare a b = .lt ↔ a.version < b.version) := by
  refine ⟨version_ofVersion, fun physical logical => ?_, fun a b ha hb => ?_⟩
  · exact ofVersion_version_iff (ofParts physical logical)
  · rw [compare_eq_lt_iff_rank, version_lt_iff_rank_lt ha hb]

/-- The last count of a millisecond is below the first of the next one, in the
    last milliseconds that fit. -/
theorem version_orderIso_lastCount :
    (ofParts 70368744177662 262143).physical.toNat ≤ maxPhysical ∧
      (ofParts 70368744177663 0).physical.toNat ≤ maxPhysical ∧
      compare (ofParts 70368744177662 262143) (ofParts 70368744177663 0) = .lt ∧
      (ofParts 70368744177662 262143).version < (ofParts 70368744177663 0).version :=
  ⟨by decide, by decide, by decide,
    (version_orderIso.2.2 _ _ (by decide) (by decide)).1 (by decide)⟩

end Snapshot

end RegionScan
