import Mathlib.Algebra.Order.Ring.Abs
import Mathlib.Data.Rat.Cast.CharZero
import Mathlib.Tactic.FieldSimp
import Mathlib.Tactic.Linarith
import Mathlib.Tactic.NormNum
import RegionScan.Proofs.Coercion

/-!
# Exact Numbers

The rational numbers that stored values are.

A whole number and a decimal are exact: each of them is an unscaled integer
divided by a power of ten, and for a whole number the power is one. So one
notion serves for all three kinds, `RawValue.decimal?`, and `Decimal.toRat` is
the number that it stands for.

A decimal is brought to another scale by multiplying or dividing its unscaled
number. `Decimal.rescale_eq_ok_iff` says that this is done whenever the number
can be written there at all. There is one exception, because the power of ten is
taken before anything else is looked at: zero can be written at every scale, but
it is not brought further than the powers of ten go.

## Main definitions

* `Decimal.toRat`: The number that a decimal is.
* `Decimal.FarZero`: A zero whose scale has to change too far.
* `RawValue.decimal?`: An exact number as a decimal.
* `Value.exactNumber`: The number that a value is.

## Theorems

* `Decimal.toRat_eq_iff`: Equality of decimals without fractions.
* `Decimal.rescale_eq_ok_iff`: What rescaling gives, and when.
-/

namespace RegionScan

namespace Int128

theorem ext {m n : Int128} (h : m.val = n.val) : m = n := by
  cases m
  cases n
  subst h
  rfl

theorem ofInt?_eq_some_iff (n : Int) (m : Int128) : ofInt? n = some m ↔ m.val = n := by
  rw [ofInt?]
  by_cases h : -(1 <<< 127) ≤ n ∧ n < 1 <<< 127
  · rw [dif_pos h, Option.some.injEq]
    constructor
    · rintro rfl
      rfl
    · exact fun heq => ext heq.symm
  · rw [dif_neg h]
    refine ⟨fun heq => (by cases heq), fun heq => absurd ?_ h⟩
    rw [← heq]
    exact m.val_mem

theorem abs_val_le (n : Int128) : |n.val| ≤ 2 ^ 127 := by
  have hmem := n.val_mem
  rw [abs_le]
  omega

end Int128

namespace Decimal

/-- The number that a decimal is. -/
def toRat (d : Decimal) : ℚ := d.unscaled.val / 10 ^ d.scale.toNat

/-- A zero whose scale has to change by more places than the largest power of ten
    has. -/
def FarZero (d : Decimal) (places : Nat) : Prop :=
  d.unscaled.val = 0 ∧
    (d.scale.toNat + maxPlaces < places ∨ places + maxPlaces < d.scale.toNat)

theorem ext {d e : Decimal} (hscale : d.scale = e.scale)
    (hunscaled : d.unscaled.val = e.unscaled.val) : d = e := by
  cases d
  cases e
  cases hscale
  cases Int128.ext hunscaled
  rfl

/-- Two decimals are the same number if their unscaled numbers are, once each is
    brought to the other's scale. -/
theorem toRat_eq_iff (d e : Decimal) :
    e.toRat = d.toRat ↔
      e.unscaled.val * 10 ^ d.scale.toNat = d.unscaled.val * 10 ^ e.scale.toNat := by
  have hd : (10 : ℚ) ^ d.scale.toNat ≠ 0 := pow_ne_zero _ (by norm_num)
  have he : (10 : ℚ) ^ e.scale.toNat ≠ 0 := pow_ne_zero _ (by norm_num)
  rw [toRat, toRat, div_eq_div_iff he hd]
  exact_mod_cast Iff.rfl

/-- A product with a power of ten of more than 38 places has 128 bits only if it
    is zero. -/
theorem eq_zero_of_far {n : Int128} {m : Int} {places : Nat} (hfar : maxPlaces < places)
    (h : n.val = m * 10 ^ places) : m = 0 := by
  by_contra hm
  have hpow : (0 : Int) ≤ 10 ^ places := pow_nonneg (by norm_num) _
  have hbig : (10 : Int) ^ (maxPlaces + 1) ≤ |n.val| :=
    calc (10 : Int) ^ (maxPlaces + 1) ≤ 10 ^ places := pow_le_pow_right₀ (by norm_num) hfar
      _ ≤ |m| * 10 ^ places :=
        le_mul_of_one_le_left hpow (Int.one_le_abs hm)
      _ = |m * 10 ^ places| := by rw [abs_mul, abs_of_nonneg hpow]
      _ = |n.val| := by rw [h]
  have hsmall := hbig.trans n.abs_val_le
  norm_num [maxPlaces] at hsmall

/-- Dividing a power of ten out succeeds exactly if the number is a multiple of it,
    unless it is zero and the power has too many places. -/
theorem exact_quotient_iff (n : Int128) (k : Nat) (m : Int) :
    ¬ maxPlaces < k ∧ n.val.tmod (10 ^ k) = 0 ∧ n.val.tdiv (10 ^ k) = m ↔
      n.val = m * 10 ^ k ∧ ¬ (n.val = 0 ∧ maxPlaces < k) := by
  have hten : (10 : Int) ^ k ≠ 0 := pow_ne_zero k (by norm_num)
  constructor
  · rintro ⟨hnear, heven, rfl⟩
    exact ⟨(Int.tdiv_mul_cancel (Int.dvd_of_tmod_eq_zero heven)).symm, fun h => hnear h.2⟩
  · rintro ⟨hn, hnot⟩
    refine ⟨fun hfar => hnot ⟨?_, hfar⟩, ?_, ?_⟩
    · rw [hn, eq_zero_of_far hfar hn, zero_mul]
    · rw [hn, Int.mul_tmod_left]
    · rw [hn, Int.mul_tdiv_cancel _ hten]

/-- The decimal of an unscaled number, if that has 128 bits. -/
def ofUnscaled (scale : UInt8) (n : Int) : Except RescaleError Decimal :=
  match Int128.ofInt? n with
  | some n => .ok ⟨n, scale⟩
  | none => .error .overflow

theorem ofUnscaled_eq_ok_iff (scale : UInt8) (n : Int) (e : Decimal) :
    ofUnscaled scale n = .ok e ↔ e.scale = scale ∧ n = e.unscaled.val := by
  unfold ofUnscaled
  cases hfit : Int128.ofInt? n with
  | none =>
      refine ⟨fun h => (by cases h), fun h => ?_⟩
      rw [(Int128.ofInt?_eq_some_iff n e.unscaled).2 h.2.symm] at hfit
      cases hfit
  | some m =>
      have hm := (Int128.ofInt?_eq_some_iff n m).1 hfit
      rw [Except.ok.injEq]
      constructor
      · rintro rfl
        exact ⟨rfl, hm.symm⟩
      · exact fun h => ext h.1.symm (hm.trans h.2)

/-- With more places, the power of ten between the scales is multiplied in. -/
theorem rescale_of_le {d : Decimal} {scale : UInt8} {k : Nat}
    (hk : scale.toNat = d.scale.toNat + k) :
    d.rescale scale =
      if maxPlaces < k then .error (.scaleTooLarge k)
      else ofUnscaled scale (d.unscaled.val * 10 ^ k) := by
  have hplaces : scale.toNat - d.scale.toNat = k := by omega
  rw [rescale, if_pos (by omega), hplaces]
  norm_cast

/-- With fewer places, it is divided out, and has to come out even. -/
theorem rescale_of_lt {d : Decimal} {scale : UInt8} {k : Nat}
    (hk : d.scale.toNat = scale.toNat + k) (hpos : 0 < k) :
    d.rescale scale =
      if maxPlaces < k then .error (.scaleTooLarge k)
      else if d.unscaled.val.tmod (10 ^ k) ≠ 0 then .error (.inexact scale.toNat)
      else ofUnscaled scale (d.unscaled.val.tdiv (10 ^ k)) := by
  have hplaces : d.scale.toNat - scale.toNat = k := by omega
  rw [rescale, if_neg (by omega), hplaces]
  norm_cast

/-- A decimal can be rescaled exactly if it can be written at the new scale, unless
    it is a zero that is too far away. The result is the same number. -/
theorem rescale_eq_ok_iff (d : Decimal) (scale : UInt8) (e : Decimal) :
    d.rescale scale = .ok e ↔
      e.scale = scale ∧ e.toRat = d.toRat ∧ ¬ d.FarZero scale.toNat := by
  have hten : ∀ k : Nat, (10 : Int) ^ k ≠ 0 := fun k => pow_ne_zero k (by norm_num)
  rw [toRat_eq_iff, FarZero]
  rcases Nat.lt_or_ge scale.toNat d.scale.toNat with hlt | hle
  · obtain ⟨k, hk⟩ := Nat.exists_eq_add_of_le (Nat.le_of_lt hlt)
    have hdivided : d.rescale scale = .ok e ↔ e.scale = scale ∧ ¬ maxPlaces < k ∧
        d.unscaled.val.tmod (10 ^ k) = 0 ∧ d.unscaled.val.tdiv (10 ^ k) = e.unscaled.val := by
      rw [rescale_of_lt hk (by omega)]
      split_ifs with hfar heven
      · simp only [hfar, not_true_eq_false, false_and, and_false]
      · simp only [heven, false_and, and_false]
      · simp only [ofUnscaled_eq_ok_iff, hfar, not_false_eq_true, not_not.1 heven, true_and]
    rw [hdivided, exact_quotient_iff]
    refine and_congr_right ?_
    rintro rfl
    rw [hk, pow_add, mul_comm ((10 : Int) ^ _), ← mul_assoc]
    refine and_congr ⟨fun h => by rw [h], fun h => (mul_right_cancel₀ (hten _) h).symm⟩ ?_
    omega
  · obtain ⟨k, hk⟩ := Nat.exists_eq_add_of_le hle
    have hmultiplied : d.rescale scale = .ok e ↔ e.scale = scale ∧ ¬ maxPlaces < k ∧
        d.unscaled.val * 10 ^ k = e.unscaled.val := by
      rw [rescale_of_le hk]
      split_ifs with hfar
      · simp only [hfar, not_true_eq_false, false_and, and_false]
      · simp only [ofUnscaled_eq_ok_iff, hfar, not_false_eq_true, true_and]
    rw [hmultiplied]
    refine and_congr_right ?_
    rintro rfl
    rw [hk, pow_add, mul_comm ((10 : Int) ^ _), ← mul_assoc]
    constructor
    · rintro ⟨hnear, hval⟩
      exact ⟨by rw [hval], fun hz => by omega⟩
    · rintro ⟨hval, hnot⟩
      have hval := mul_right_cancel₀ (hten _) hval
      exact ⟨fun hfar => hnot ⟨eq_zero_of_far hfar hval, by omega⟩, hval.symm⟩

end Decimal

/-- An exact number as a decimal. A whole number has no places. -/
def RawValue.decimal? : RawValue → Option Decimal
  | .int n => some ⟨.ofInt64 n, 0⟩
  | .uint n => some ⟨.ofUInt64 n, 0⟩
  | .decimal d => some d
  | _ => none

/-- The number that a value is, if it is a whole number or a decimal. -/
def Value.exactNumber : Value → Option ℚ
  | .decimal d => some d.toRat
  | v => v.toInt?.map fun n : Int => (n : ℚ)

end RegionScan
