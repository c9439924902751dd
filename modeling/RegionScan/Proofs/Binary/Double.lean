import Mathlib.Order.Compare
import RegionScan.Proofs.Binary.Rounding

/-!
# Doubles

What the 64-bit format computes, as rational arithmetic.

`Double.rounded` takes a number to the nearest one that is a double. In range,
`Double.ofRat` gives that double, and the conversion of integers and the division
are rounded in this sense: once, and to the nearest. A power of ten is the result
of several products. How far it is off is not followed through them but read off
at the end, for all powers that a scale can ask for.

## Main definitions

* `Double.toRat?`: The number that a double is.
* `Double.ofRat`, `Double.rounded`: The nearest double, and its number.
* `Double.InRange`: Numbers of the size of a normal double.
* `Double.Denotes`: A double is a number, with zero unsigned.
* `Double.tenTo`: The number that stands for a power of ten.

## Theorems

* `Datum.compare?_eq`: Finite data are compared as numbers.
* `Double.abs_rounded_sub_le`: Rounding is off by a part in `2 ^ 53` at most.
* `Double.rounded_mono`: Rounding keeps the order.
* `Double.toRat?_ofRat`: The nearest double is the rounded number.
* `Double.div_eq_ofRat`: A quotient is rounded to the nearest double.
* `Double.toRat?_powerOfTen`: A power of ten is nearly one.
-/

namespace RegionScan

/-- A strictly increasing function keeps the order of two values. -/
theorem compare_map {α β : Type} [LinearOrder α] [LinearOrder β] {f : α → β}
    (hf : StrictMono f) (a b : α) : compare (f a) (f b) = compare a b := by
  rw [compare_iff]
  rcases horder : compare a b with _ | _ | _
  · exact hf ((compare_iff a b).mp horder)
  · exact congrArg f ((compare_iff a b).mp horder)
  · exact hf ((compare_iff a b).mp horder)

namespace Datum

/-- A finite datum in units that are not coarser than its own. -/
theorem inUnits_mul {unit : Int} {negative : Bool} {m : Nat} {e : Int} (h : unit ≤ e) :
    (inUnits unit negative m e : ℚ) * 2 ^ unit =
      if negative then -(m * 2 ^ e : ℚ) else m * 2 ^ e := by
  obtain ⟨k, rfl⟩ : ∃ k : Nat, e = k + unit := ⟨(e - unit).toNat, by omega⟩
  rw [zpow_add₀ (by norm_num), zpow_natCast, inUnits, add_sub_cancel_right, Int.toNat_natCast,
    Nat.one_shiftLeft]
  cases negative
  · simp [mul_assoc]
  · simp [mul_assoc]

theorem exists_finite_of_toRat? {x : Datum} {v : ℚ} (h : x.toRat? = some v) :
    ∃ negative m e, x = .finite negative m e ∧
      (if negative then -(m * 2 ^ e : ℚ) else m * 2 ^ e) = v := by
  cases x with
  | finite negative m e => exact ⟨negative, m, e, rfl, Option.some.inj h⟩
  | nan => cases h
  | infinite => cases h

/-- Finite data are compared as the numbers they are. -/
theorem compare?_eq {x y : Datum} {v w : ℚ} (hx : x.toRat? = some v) (hy : y.toRat? = some w) :
    x.compare? y = some (compare v w) := by
  obtain ⟨s, m, e, rfl, rfl⟩ := exists_finite_of_toRat? hx
  obtain ⟨t, n, g, rfl, rfl⟩ := exists_finite_of_toRat? hy
  -- Both are whole numbers of the smaller of their two units.
  have hunit : (0 : ℚ) < 2 ^ min e g := by positivity
  have hmono : StrictMono fun i : Int => (i : ℚ) * 2 ^ min e g :=
    fun i j hij => by dsimp only; gcongr
  rw [← inUnits_mul (min_le_left e g), ← inUnits_mul (min_le_right e g), compare?]
  exact congrArg some (compare_map hmono _ _).symm

end Datum

open BinaryFormat

namespace Double

/-- The number that a double is, if it is finite. -/
def toRat? (x : Double) : Option ℚ := x.datum.toRat?

/-- The double nearest to a number. -/
def ofRat (x : ℚ) : Double := ofPattern (binary64.ofRatio (x < 0) x.num.natAbs x.den)

/-- The number with the bits of a double that is nearest to a number. -/
def rounded (x : ℚ) : ℚ := if x < 0 then -binary64.nearest |x| else binary64.nearest |x|

/-- A number is zero or has the size of a normal double, the largest exponent
    left out. -/
def InRange (x : ℚ) : Prop := x ≠ 0 → 2 ^ (-1022 : Int) ≤ |x| ∧ |x| < 2 ^ (1023 : Int)

variable {x y : ℚ}

/-! ### Size and error of a rounded number -/

theorem rounded_zero : rounded 0 = 0 := by
  rw [rounded, if_neg (lt_irrefl 0), abs_zero, nearest_zero]

theorem InRange.log_mem (hx : InRange x) (hne : x ≠ 0) :
    -1022 ≤ Int.log 2 |x| ∧ Int.log 2 |x| < 1023 := by
  obtain ⟨hlow, hhigh⟩ := hx hne
  have habs : 0 < |x| := abs_pos.mpr hne
  exact ⟨(Int.zpow_le_iff_le_log (b := 2) (by norm_num) habs).mp (by exact_mod_cast hlow),
    (Int.lt_zpow_iff_log_lt (b := 2) (by norm_num) habs).mp (by exact_mod_cast hhigh)⟩

/-- The exponent of the smallest data. -/
theorem minExponent_binary64 : binary64.minExponent = -1074 := rfl

theorem fractionBits_binary64 : binary64.fractionBits = 52 := rfl

theorem fullField_binary64 : binary64.fullField = 2047 := rfl

/-- In range, a number is rounded at its 53rd bit. -/
theorem abs_rounded_sub_le (hx : InRange x) : |rounded x - x| ≤ |x| / 2 ^ 53 := by
  rcases eq_or_ne x 0 with rfl | hne
  · rw [rounded_zero]
    norm_num
  obtain ⟨hlow, -⟩ := hx.log_mem hne
  have habs : 0 < |x| := abs_pos.mpr hne
  have hlast : binary64.lastBit |x| = Int.log 2 |x| - 52 := by
    rw [lastBit, minExponent_binary64, fractionBits_binary64]
    omega
  have hunit : (2 : ℚ) ^ Int.log 2 |x| ≤ |x| := by
    exact_mod_cast Int.zpow_log_le_self (b := 2) (by norm_num) habs
  have hnearest : |binary64.nearest (|x|) - (|x|)| ≤ |x| / 2 ^ 53 :=
    calc |binary64.nearest (|x|) - (|x|)| ≤ 2 ^ binary64.lastBit |x| / 2 :=
          abs_nearest_sub_le habs.le
      _ = 2 ^ Int.log 2 |x| / 2 ^ 53 := by
        rw [hlast, zpow_sub₀ (by norm_num)]
        norm_num [div_div]
      _ ≤ |x| / 2 ^ 53 := by gcongr
  rw [rounded]
  split_ifs with hneg
  · calc |-binary64.nearest (|x|) - x| = |binary64.nearest (|x|) - (|x|)| := by
          rw [← abs_neg, abs_of_neg hneg]
          ring_nf
      _ ≤ |x| / 2 ^ 53 := hnearest
  · rwa [abs_of_nonneg (not_lt.mp hneg)] at hnearest ⊢

/-- Rounding neither halves nor doubles a number. -/
theorem abs_rounded_mem (hx : InRange x) : |x| / 2 ≤ |rounded x| ∧ |rounded x| ≤ 2 * |x| := by
  have herror : |rounded x - x| ≤ |x| / 2 :=
    (abs_rounded_sub_le hx).trans (by gcongr; norm_num)
  have hlow := abs_sub_abs_le_abs_sub x (rounded x)
  have hhigh := abs_sub_abs_le_abs_sub (rounded x) x
  rw [abs_sub_comm] at hlow
  constructor <;> linarith

theorem rounded_ne_zero (hx : InRange x) (hne : x ≠ 0) : rounded x ≠ 0 := by
  intro hzero
  have h := (abs_rounded_mem hx).1
  rw [hzero, abs_zero] at h
  linarith [abs_pos.mpr hne]

/-- Rounding keeps the order, and negative numbers are rounded as positive ones. -/
theorem rounded_mono (h : x ≤ y) : rounded x ≤ rounded y := by
  unfold rounded
  split_ifs with hx hy hy
  · have habs : |y| ≤ |x| := by rw [abs_of_neg hx, abs_of_neg hy]; linarith
    exact neg_le_neg (nearest_mono (abs_nonneg y) habs)
  · exact (neg_nonpos.mpr nearest_nonneg).trans nearest_nonneg
  · linarith
  · have habs : |x| ≤ |y| := by
      rwa [abs_of_nonneg (not_lt.mp hx), abs_of_nonneg (not_lt.mp hy)]
    exact nearest_mono (abs_nonneg x) habs

/-- Whole numbers of 53 bits are doubles. -/
theorem rounded_intCast {n : Int} (hn : n.natAbs < 2 ^ 53) : rounded n = n := by
  have habs : |(n : ℚ)| = n.natAbs := by rw [Nat.cast_natAbs, Int.cast_abs]
  have hself : binary64.nearest |(n : ℚ)| = |(n : ℚ)| :=
    nearest_of_lt (k := n.natAbs) (e := 0) hn (by decide) (by rw [habs, zpow_zero, mul_one])
  rw [rounded, hself]
  split_ifs with hneg
  · rw [abs_of_neg hneg, neg_neg]
  · rw [abs_of_nonneg (not_lt.mp hneg)]

/-- A rounded number is a double. -/
theorem rounded_rounded (x : ℚ) : rounded (rounded x) = rounded x := by
  have hself : binary64.nearest (binary64.nearest |x|) = binary64.nearest |x| := by
    rcases (abs_nonneg x).eq_or_lt with hzero | hpos
    · rw [← hzero, nearest_zero, nearest_zero]
    · exact nearest_nearest hpos
  have hnonneg : 0 ≤ binary64.nearest |x| := nearest_nonneg
  unfold rounded
  split_ifs with hneg hneg' hneg'
  · rw [abs_neg, abs_of_nonneg hnonneg, hself]
  · have hzero : binary64.nearest |x| = 0 := by linarith
    rw [hzero, neg_zero, abs_zero, nearest_zero]
  · linarith
  · rw [abs_of_nonneg hnonneg, hself]

/-! ### Patterns -/

/-- Every rounded pattern of the format has 64 bits. -/
theorem datum_ofPattern_ofRatio (negative : Bool) (num den : Nat) :
    (ofPattern (binary64.ofRatio negative num den)).datum =
      binary64.decode (binary64.ofRatio negative num den) := by
  have hround : binary64.roundRatio num den ≤ binary64.infinity := by
    unfold roundRatio
    split_ifs
    · exact Nat.zero_le _
    · exact min_le_right _ _
  have hinfinity : binary64.signBit + binary64.infinity < 2 ^ 64 := by decide
  have hbits : binary64.ofRatio negative num den < 2 ^ 64 := by
    unfold ofRatio withSign
    split_ifs <;> omega
  rw [datum, ofPattern, UInt64.toNat_ofNat_of_lt' hbits]

/-- The size of a number as a quotient. -/
theorem natAbs_num_div_den (x : ℚ) : (x.num.natAbs / x.den : ℚ) = |x| := by
  conv_rhs => rw [← Rat.num_div_den x, abs_div, Nat.abs_cast]
  rw [Nat.cast_natAbs, Int.cast_abs]

/-- A signed quotient is rounded as the number it is. -/
theorem ofPattern_ofRatio {num den : Nat} (hden : 0 < den) (h : (num / den : ℚ) = |x|) :
    ofPattern (binary64.ofRatio (x < 0) num den) = ofRat x := by
  have hsame : binary64.roundRatio num den = binary64.roundRatio x.num.natAbs x.den := by
    rcases Nat.eq_zero_or_pos num with rfl | hnum
    · obtain rfl : x = 0 := by simpa using h.symm
      rw [Rat.num_zero, Int.natAbs_zero, roundRatio, roundRatio, if_pos rfl, if_pos rfl]
    · have hne : x ≠ 0 := by
        rintro rfl
        have hzero : (num / den : ℚ) ≠ 0 := by positivity
        exact hzero (h.trans abs_zero)
      rw [roundRatio_eq hnum hden h,
        roundRatio_eq (Int.natAbs_pos.mpr (Rat.num_ne_zero.mpr hne)) x.den_pos
          (natAbs_num_div_den x)]
  rw [ofRat, ofRatio, ofRatio, hsame]

/-- Integers are rounded to the nearest double. -/
theorem ofInt_eq_ofRat (n : Int) : ofInt n = ofRat n := by
  have habs : ((n.natAbs : Nat) / (1 : Nat) : ℚ) = |(n : ℚ)| := by
    rw [Nat.cast_one, div_one, Nat.cast_natAbs, Int.cast_abs]
  rw [ofInt, ← ofPattern_ofRatio Nat.one_pos habs]
  simp only [Int.cast_lt_zero]

/-- The zero that is rounded to has no sign. -/
theorem datum_ofRat_zero : (ofRat 0).datum = .finite false 0 (-1074) := by
  have h : (ofInt 0).datum = .finite false 0 (-1074) := by decide
  rwa [ofInt_eq_ofRat, Int.cast_zero] at h

/-- In range, the nearest double is the rounded number. -/
theorem toRat?_ofRat (hx : InRange x) : (ofRat x).toRat? = some (rounded x) := by
  rcases eq_or_ne x 0 with rfl | hne
  · rw [rounded_zero, toRat?, datum_ofRat_zero, Datum.toRat?]
    simp
  obtain ⟨hlow, hhigh⟩ := hx.log_mem hne
  have hmax : (binary64.lastBit |x| - binary64.minExponent).toNat + 2 < binary64.fullField := by
    rw [lastBit, minExponent_binary64, fractionBits_binary64, fullField_binary64]
    omega
  rw [toRat?, ofRat, datum_ofPattern_ofRatio,
    toRat?_ofRatio (Int.natAbs_pos.mpr (Rat.num_ne_zero.mpr hne)) x.den_pos
      (natAbs_num_div_den x) hmax, rounded]
  simp only [decide_eq_true_eq]

/-! ### Quotients -/

/-- A double is a number, and is without a sign if that is zero. -/
def Denotes (a : Double) (v : ℚ) : Prop := ∃ m e, a.datum = .finite (v < 0) m e ∧ m * 2 ^ e = |v|

variable {a b : Double} {v w : ℚ}

/-- A finite double denotes its number, unless that is zero. -/
theorem denotes_of_ne_zero (h : a.toRat? = some v) (hv : v ≠ 0) : a.Denotes v := by
  obtain ⟨negative, m, e, ha, hval⟩ := Datum.exists_finite_of_toRat? h
  have hsize : (0 : ℚ) ≤ m * 2 ^ e := by positivity
  cases negative
  · replace hval : m * 2 ^ e = v := hval
    have hnonneg : 0 ≤ v := hval ▸ hsize
    exact ⟨m, e, by rw [ha, decide_eq_false hnonneg.not_gt], by rw [hval, abs_of_nonneg hnonneg]⟩
  · replace hval : -(m * 2 ^ e : ℚ) = v := hval
    have hneg : v < 0 := lt_of_le_of_ne (by linarith) hv
    exact ⟨m, e, by rw [ha, decide_eq_true hneg], by rw [abs_of_neg hneg]; linarith⟩

/-- No number in range is rounded to zero, so none gets a signed zero. -/
theorem denotes_ofRat (hx : InRange x) : (ofRat x).Denotes (rounded x) := by
  rcases eq_or_ne x 0 with rfl | hne
  · exact ⟨0, -1074, by rw [rounded_zero, datum_ofRat_zero]; rfl, by rw [rounded_zero]; simp⟩
  · exact denotes_of_ne_zero (toRat?_ofRat hx) (rounded_ne_zero hx hne)

/-- The quotient of two doubles is the double nearest to the quotient of the
    numbers. -/
theorem div_eq_ofRat (ha : a.Denotes v) (hb : b.Denotes w) (hw : 0 < w) :
    a.div b = ofRat (v / w) := by
  obtain ⟨m, e, hda, hv⟩ := ha
  obtain ⟨n, g, hdb, hn⟩ := hb
  rw [abs_of_pos hw] at hn
  rw [decide_eq_false hw.not_gt] at hdb
  have hnpos : 0 < n := by
    rcases Nat.eq_zero_or_pos n with rfl | hnpos
    · simp only [Nat.cast_zero, zero_mul] at hn
      exact absurd hn hw.ne
    · exact hnpos
  -- Exact as a quotient of integers, and rounded once from there.
  have hquot : ((scaleDown m n (g - e)).1 / (scaleDown m n (g - e)).2 : ℚ) = |v / w| := by
    rw [scaleDown_div, abs_div, abs_of_pos hw, ← hv, ← hn, zpow_sub₀ (by norm_num)]
    field_simp
  have hsign : decide (v < 0) = decide (v / w < 0) := by
    rw [decide_eq_decide, div_lt_iff₀ hw, zero_mul]
  rw [← ofPattern_ofRatio (scaleDown_snd_pos hnpos _) hquot, ← hsign, div, hda, hdb, Datum.div,
    if_neg hnpos.ne', Bool.bne_false]

/-! ### Powers of ten -/

/-- A fraction is ten to the power `n` up to a part in `2 ^ 50`. Up to 22 places,
    when the power has no more bits than a significand, it is exactly that. -/
def NearPower (n num den : Nat) : Prop :=
  2 ^ 50 * ((num : Int) - (10 ^ n * den : Nat)).natAbs ≤ 10 ^ n * den ∧
    (n ≤ 22 → num = 10 ^ n * den)

instance (n num den : Nat) : Decidable (NearPower n num den) :=
  inferInstanceAs (Decidable (_ ∧ _))

theorem NearPower.spec {n num den : Nat} (h : NearPower n num den) (hden : 0 < den) :
    2 ^ 50 * |(num / den : ℚ) - 10 ^ n| ≤ 10 ^ n ∧ (n ≤ 22 → (num / den : ℚ) = 10 ^ n) := by
  obtain ⟨herror, hexact⟩ := h
  have hdenQ : (0 : ℚ) < den := by exact_mod_cast hden
  constructor
  · have hcast : (2 : ℚ) ^ 50 * |(num : ℚ) - 10 ^ n * den| ≤ 10 ^ n * den := by
      have h : ((2 ^ 50 * ((num : Int) - (10 ^ n * den : Nat)).natAbs : Nat) : ℚ) ≤
          (10 ^ n * den : Nat) := Nat.cast_le.mpr herror
      rw [Nat.cast_mul, Nat.cast_natAbs] at h
      push_cast at h
      exact h
    have hscale : |(num / den : ℚ) - 10 ^ n| = |(num : ℚ) - 10 ^ n * den| / den := by
      rw [← abs_of_pos hdenQ, ← abs_div, abs_of_pos hdenQ, sub_div,
        mul_div_cancel_right₀ _ hdenQ.ne']
    rw [hscale, ← mul_div_assoc, div_le_iff₀ hdenQ]
    exact hcast
  · intro hle
    rw [hexact hle, Nat.cast_mul, mul_div_cancel_right₀ _ hdenQ.ne', Nat.cast_pow, Nat.cast_ofNat]

/-- A datum is ten to the power `n` in this sense. -/
def IsPowerOfTen (n : Nat) : Datum → Prop
  | .finite false m e => NearPower n (scaleDown m 1 (-e)).1 (scaleDown m 1 (-e)).2
  | _ => False

instance (n : Nat) (x : Datum) : Decidable (IsPowerOfTen n x) :=
  match x with
  | .finite false m e =>
    inferInstanceAs (Decidable (NearPower n (scaleDown m 1 (-e)).1 (scaleDown m 1 (-e)).2))
  | .finite true _ _ => .isFalse id
  | .nan => .isFalse id
  | .infinite _ => .isFalse id

/-- Repeated squaring loses little at any scale, and nothing at small ones. A bound
    on each product would add up to several times as much, since the errors partly
    cancel. So the powers themselves are looked at. -/
theorem isPowerOfTen_powerOfTen : ∀ n < 256, IsPowerOfTen n (powerOfTen n).datum := by
  decide +kernel

/-- The number that stands for a power of ten. -/
def tenTo (n : Nat) : ℚ := (powerOfTen n).toRat?.getD 0

/-- What stands for a power of ten is finite, close to it, and equal to it if short. -/
theorem powerOfTen_spec {n : Nat} (hn : n < 256) :
    (powerOfTen n).toRat? = some (tenTo n) ∧ 2 ^ 50 * |tenTo n - 10 ^ n| ≤ 10 ^ n ∧
      (n ≤ 22 → tenTo n = 10 ^ n) := by
  have h := isPowerOfTen_powerOfTen n hn
  match hdatum : (powerOfTen n).datum with
  | .finite false m e =>
    rw [hdatum] at h
    have hval : ((scaleDown m 1 (-e)).1 / (scaleDown m 1 (-e)).2 : ℚ) = m * 2 ^ e := by
      rw [scaleDown_div, Nat.cast_one, div_one, zpow_neg, div_inv_eq_mul]
    have hten : (powerOfTen n).toRat? = some (m * 2 ^ e : ℚ) := by
      rw [toRat?, hdatum]
      rfl
    rw [tenTo, hten, Option.getD_some, ← hval]
    exact ⟨rfl, NearPower.spec h (scaleDown_snd_pos Nat.one_pos (-e))⟩
  | .finite true m e | .nan | .infinite s =>
    rw [hdatum] at h
    exact h.elim

theorem toRat?_powerOfTen {n : Nat} (hn : n < 256) : (powerOfTen n).toRat? = some (tenTo n) :=
  (powerOfTen_spec hn).1

/-- A power of ten is off by a part in `2 ^ 50` at most. -/
theorem abs_tenTo_sub_le {n : Nat} (hn : n < 256) : 2 ^ 50 * |tenTo n - 10 ^ n| ≤ 10 ^ n :=
  (powerOfTen_spec hn).2.1

theorem tenTo_of_le {n : Nat} (hn : n ≤ 22) : tenTo n = 10 ^ n :=
  (powerOfTen_spec (by omega)).2.2 hn

theorem tenTo_mem {n : Nat} (hn : n < 256) : 1 / 2 ≤ tenTo n ∧ tenTo n ≤ 2 * 10 ^ n := by
  have h := abs_tenTo_sub_le hn
  have hone : (1 : ℚ) ≤ 10 ^ n := one_le_pow₀ (by norm_num)
  have hsmall : |tenTo n - 10 ^ n| ≤ 10 ^ n / 2 := by linarith [abs_nonneg (tenTo n - 10 ^ n)]
  have hbounds := abs_le.mp hsmall
  constructor <;> linarith

end Double

end RegionScan
