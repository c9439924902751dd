import Mathlib.Algebra.Order.Field.Power
import Mathlib.Data.Int.Log
import Mathlib.Data.Rat.Floor
import Mathlib.Tactic.FieldSimp
import Mathlib.Tactic.Linarith
import Mathlib.Tactic.NormNum
import Mathlib.Tactic.Positivity
import Mathlib.Tactic.Ring
import RegionScan.Binary.Format

/-!
# Rounding

What is rounded to, as rational arithmetic.

`BinaryFormat.roundRatio` works on the numerator and the denominator of a
quotient and counts bit patterns. What it computes is a function of the
quotient alone. `BinaryFormat.lastBit` is the exponent of the last bit that data
of that size have, and `BinaryFormat.nearest` is the closest multiple of it, a
tie going to the even one. `toRat?_ofRatio` says that the pattern decodes to this
number. All that is said of rounding later is said of `nearest`.

## Main definitions

* `Datum.toRat?`: The number that a finite datum is.
* `BinaryFormat.nearestInt`: The nearest integer.
* `BinaryFormat.lastBit`: The exponent of the last bit.
* `BinaryFormat.nearest`: The nearest number with the bits of a format.

## Theorems

* `BinaryFormat.log2Ratio_eq`: The binary logarithm of a quotient.
* `BinaryFormat.abs_nearest_sub_le`: Rounding is off by half a last bit at most.
* `BinaryFormat.nearest_of_lt`: Short numbers round to themselves.
* `BinaryFormat.nearest_mono`: Rounding keeps the order.
* `BinaryFormat.decode_withSign`: The fields of a pattern.
* `BinaryFormat.toRat?_ofRatio`: A rounded quotient decodes to the nearest number.
-/

namespace RegionScan

/-- The number that a datum is, if it is finite. -/
def Datum.toRat? : Datum → Option ℚ
  | .finite negative m e => some (if negative then -(m * 2 ^ e) else m * 2 ^ e)
  | _ => none

namespace BinaryFormat

variable {num den : Nat}

/-! ### Scaling -/

theorem scaleDown_snd_pos (hden : 0 < den) (e : Int) : 0 < (scaleDown num den e).2 := by
  unfold scaleDown
  split_ifs
  · exact Nat.mul_pos hden (by rw [Nat.one_shiftLeft]; positivity)
  · exact hden

/-- Scaling divides by the power of two. -/
theorem scaleDown_div (num den : Nat) (e : Int) :
    ((scaleDown num den e).1 : ℚ) / (scaleDown num den e).2 = num / den / 2 ^ e := by
  unfold scaleDown
  split_ifs with he
  · obtain ⟨k, rfl⟩ := Int.eq_ofNat_of_zero_le he
    simp only [Int.toNat_natCast, Nat.one_shiftLeft, Nat.cast_mul, Nat.cast_pow, Nat.cast_ofNat,
      zpow_natCast, div_div]
  · obtain ⟨k, rfl⟩ : ∃ k : Nat, e = -k := ⟨(-e).toNat, by omega⟩
    simp only [neg_neg, Int.toNat_natCast, Nat.one_shiftLeft, Nat.cast_mul, Nat.cast_pow,
      Nat.cast_ofNat, zpow_neg, zpow_natCast, div_inv_eq_mul]
    ring

/-- The bit lengths put a quotient within one power of two of its size. -/
theorem quotient_mem_binades (hnum : 0 < num) (hden : 0 < den) :
    (2 : ℚ) ^ ((num.log2 : Int) - den.log2 - 1) ≤ num / den ∧
      (num / den : ℚ) < 2 ^ ((num.log2 : Int) - den.log2 + 1) := by
  have h2 : (2 : ℚ) ≠ 0 := by norm_num
  have hnumLow : (2 : ℚ) ^ num.log2 ≤ num := by exact_mod_cast Nat.log2_self_le hnum.ne'
  have hnumHigh : (num : ℚ) < 2 ^ (num.log2 + 1) := by exact_mod_cast Nat.lt_log2_self
  have hdenLow : (2 : ℚ) ^ den.log2 ≤ den := by exact_mod_cast Nat.log2_self_le hden.ne'
  have hdenHigh : (den : ℚ) < 2 ^ (den.log2 + 1) := by exact_mod_cast Nat.lt_log2_self
  constructor
  · rw [le_div_iff₀ (by positivity)]
    calc (2 : ℚ) ^ ((num.log2 : Int) - den.log2 - 1) * den
        ≤ 2 ^ ((num.log2 : Int) - den.log2 - 1) * 2 ^ (den.log2 + 1) := by gcongr
      _ = 2 ^ num.log2 := by
        rw [← zpow_natCast, ← zpow_natCast, ← zpow_add₀ h2]
        congr 1
        push_cast
        omega
      _ ≤ num := hnumLow
  · rw [div_lt_iff₀ (by positivity)]
    calc (num : ℚ) < 2 ^ (num.log2 + 1) := hnumHigh
      _ = 2 ^ ((num.log2 : Int) - den.log2 + 1) * 2 ^ den.log2 := by
        rw [← zpow_natCast, ← zpow_natCast, ← zpow_add₀ h2]
        congr 1
        push_cast
        omega
      _ ≤ 2 ^ ((num.log2 : Int) - den.log2 + 1) * den := by gcongr

/-- The bit lengths and one comparison give the binary logarithm. -/
theorem log2Ratio_eq (hnum : 0 < num) (hden : 0 < den) :
    log2Ratio num den = Int.log 2 (num / den : ℚ) := by
  have hq : (0 : ℚ) < num / den := by positivity
  have hlog (e : Int) : (2 : ℚ) ^ e ≤ num / den ↔ e ≤ Int.log 2 (num / den : ℚ) := by
    exact_mod_cast Int.zpow_le_iff_le_log (b := 2) (by norm_num) hq
  obtain ⟨hlow, hhigh⟩ := quotient_mem_binades hnum hden
  set guess : Int := (num.log2 : Int) - den.log2 with hguess
  have hlower : guess - 1 ≤ Int.log 2 (num / den : ℚ) := (hlog _).mp hlow
  have hupper : Int.log 2 (num / den : ℚ) < guess + 1 := by
    by_contra hle
    exact hhigh.not_ge ((hlog _).mpr (not_lt.mp hle))
  -- The comparison asks whether the quotient reaches the guessed power.
  have hle : (scaleDown num den guess).2 ≤ (scaleDown num den guess).1 ↔
      guess ≤ Int.log 2 (num / den : ℚ) := by
    have hpos : (0 : ℚ) < (scaleDown num den guess).2 := by
      exact_mod_cast scaleDown_snd_pos hden _
    have hscale : (0 : ℚ) < 2 ^ guess := by positivity
    rw [← hlog, ← one_le_div hscale, ← scaleDown_div, one_le_div hpos, Nat.cast_le]
  change (if (scaleDown num den guess).2 ≤ (scaleDown num den guess).1 then guess
    else guess - 1) = _
  split_ifs with h
  · have := hle.mp h
    omega
  · have := mt hle.mpr h
    omega

/-! ### Rounding to an integer -/

/-- A rounded quotient is no further from the quotient than a half. -/
theorem abs_roundHalfEven_sub_le (hden : 0 < den) :
    |(roundHalfEven num den : ℚ) - num / den| ≤ 1 / 2 := by
  have hdenQ : (0 : ℚ) < den := by exact_mod_cast hden
  have hsplit : (num : ℚ) = den * (num / den : Nat) + (num % den : Nat) := by
    exact_mod_cast (Nat.div_add_mod num den).symm
  have hmod : num % den < den := Nat.mod_lt _ hden
  have hquot : (num : ℚ) / den = (num / den : Nat) + (num % den : Nat) / den := by
    rw [hsplit]
    field_simp
  unfold roundHalfEven
  rw [hquot, abs_le]
  simp only
  split_ifs with hdown
  · -- Rounded down: what is left is at most half the denominator.
    have hhalf : 2 * ((num % den : Nat) : ℚ) ≤ den := by
      have : 2 * (num % den) ≤ den := by omega
      exact_mod_cast this
    have hrest : ((num % den : Nat) : ℚ) / den ≤ 1 / 2 := by
      rw [div_le_iff₀ hdenQ]
      linarith
    have hnonneg : (0 : ℚ) ≤ ((num % den : Nat) : ℚ) / den := by positivity
    constructor <;> linarith
  · have hhalf : (den : ℚ) ≤ 2 * ((num % den : Nat) : ℚ) := by
      have : den ≤ 2 * (num % den) := by omega
      exact_mod_cast this
    have hrest : 1 / 2 ≤ ((num % den : Nat) : ℚ) / den := by
      rw [le_div_iff₀ hdenQ]
      linarith
    have hless : ((num % den : Nat) : ℚ) / den ≤ 1 := by
      rw [div_le_one hdenQ]
      exact_mod_cast hmod.le
    push_cast
    constructor <;> linarith

/-- A common factor does not matter. -/
theorem roundHalfEven_mul_left {k : Nat} (hk : 0 < k) :
    roundHalfEven (k * num) (k * den) = roundHalfEven num den := by
  have hhalf : 2 * (k * (num % den)) < k * den ↔ 2 * (num % den) < den := by
    rw [mul_left_comm]
    exact Nat.mul_lt_mul_left hk
  have htie : 2 * (k * (num % den)) = k * den ↔ 2 * (num % den) = den := by
    rw [mul_left_comm]
    exact Nat.mul_right_inj hk.ne'
  unfold roundHalfEven
  simp only [Nat.mul_div_mul_left _ _ hk, Nat.mul_mod_mul_left, hhalf, htie]

/-- The integer nearest to a number that is not negative, a half going to the
    even neighbour. -/
def nearestInt (q : ℚ) : Nat := roundHalfEven q.num.toNat q.den

theorem roundHalfEven_eq (hden : 0 < den) : roundHalfEven num den = nearestInt (num / den) := by
  set q : ℚ := num / den with hq
  have hnonneg : 0 ≤ q := by positivity
  have hnum : (q.num.toNat : Int) = q.num := Int.toNat_of_nonneg (Rat.num_nonneg.mpr hnonneg)
  -- Both fractions are extended to the product of their denominators.
  have hcross : num * q.den = q.num.toNat * den := by
    have hdenQ : (den : ℚ) ≠ 0 := by exact_mod_cast hden.ne'
    have hqden : (q.den : ℚ) ≠ 0 := by exact_mod_cast q.den_ne_zero
    have hval : (num : ℚ) / den = (q.num.toNat : Int) / q.den := by rw [hnum, Rat.num_div_den]
    rw [div_eq_div_iff hdenQ hqden] at hval
    exact_mod_cast hval
  calc roundHalfEven num den = roundHalfEven (q.den * num) (q.den * den) :=
        (roundHalfEven_mul_left q.den_pos).symm
    _ = roundHalfEven (den * q.num.toNat) (den * q.den) := by
        rw [mul_comm q.den num, hcross, mul_comm q.num.toNat, mul_comm q.den]
    _ = nearestInt q := roundHalfEven_mul_left hden

theorem abs_nearestInt_sub_le {q : ℚ} (hq : 0 ≤ q) : |(nearestInt q : ℚ) - q| ≤ 1 / 2 := by
  have hnum : ((q.num.toNat : Nat) : ℚ) = q.num := by
    exact_mod_cast congrArg (Int.cast : Int → ℚ) (Int.toNat_of_nonneg (Rat.num_nonneg.mpr hq))
  have h := @abs_roundHalfEven_sub_le q.num.toNat q.den q.den_pos
  rwa [hnum, Rat.num_div_den] at h

/-- Integers are not changed. -/
theorem nearestInt_natCast (k : Nat) : nearestInt k = k := by
  have h := abs_le.mp (abs_nearestInt_sub_le (q := k) k.cast_nonneg)
  have hlow : k < nearestInt k + 1 := by
    have : (k : ℚ) < nearestInt k + 1 := by linarith
    exact_mod_cast this
  have hhigh : nearestInt k < k + 1 := by
    have : (nearestInt k : ℚ) < k + 1 := by linarith
    exact_mod_cast this
  omega

/-- Rounding keeps the order. Numbers a whole step apart in the wrong order would
    both have to be the half between. -/
theorem nearestInt_mono {q r : ℚ} (hq : 0 ≤ q) (h : q ≤ r) : nearestInt q ≤ nearestInt r := by
  by_contra hlt
  have hstep : (nearestInt r : ℚ) + 1 ≤ nearestInt q := by exact_mod_cast Nat.lt_of_not_le hlt
  have hqError := abs_le.mp (abs_nearestInt_sub_le hq)
  have hrError := abs_le.mp (abs_nearestInt_sub_le (hq.trans h))
  have heq : q = r := by linarith
  exact hlt (heq ▸ le_rfl)

/-! ### Rounding to the bits of a format -/

/-- The exponent of the last bit of the data next to a positive number. -/
def lastBit (f : BinaryFormat) (q : ℚ) : Int :=
  max (Int.log 2 q - f.fractionBits) f.minExponent

/-- The multiple of the last bit that is nearest to a number. -/
def nearest (f : BinaryFormat) (q : ℚ) : ℚ := nearestInt (q / 2 ^ f.lastBit q) * 2 ^ f.lastBit q

variable {f : BinaryFormat} {q r : ℚ}

theorem abs_nearest_sub_le (hq : 0 ≤ q) : |f.nearest q - q| ≤ 2 ^ f.lastBit q / 2 := by
  have hunit : (0 : ℚ) < 2 ^ f.lastBit q := by positivity
  have h := abs_nearestInt_sub_le (q := q / 2 ^ f.lastBit q) (by positivity)
  calc |f.nearest q - q|
      = |(nearestInt (q / 2 ^ f.lastBit q) : ℚ) - q / 2 ^ f.lastBit q| * 2 ^ f.lastBit q := by
        rw [← abs_of_pos hunit, ← abs_mul, abs_of_pos hunit, sub_mul, div_mul_cancel₀ _ hunit.ne',
          nearest]
    _ ≤ 1 / 2 * 2 ^ f.lastBit q := by gcongr
    _ = 2 ^ f.lastBit q / 2 := by ring

/-- In units of its last bit a number has at most as many bits as a significand. -/
theorem div_lastBit_lt : q / 2 ^ f.lastBit q < 2 ^ (f.fractionBits + 1) := by
  have hunit : (0 : ℚ) < 2 ^ f.lastBit q := by positivity
  rw [div_lt_iff₀ hunit]
  have hlog : q < (2 : ℚ) ^ (Int.log 2 q + 1) := by
    exact_mod_cast Int.lt_zpow_succ_log_self (b := 2) (by norm_num) q
  calc q < (2 : ℚ) ^ (Int.log 2 q + 1) := hlog
    _ ≤ 2 ^ ((f.fractionBits + 1 : Nat) + f.lastBit q) :=
      zpow_le_zpow_right₀ (by norm_num) (by unfold lastBit; omega)
    _ = 2 ^ (f.fractionBits + 1) * 2 ^ f.lastBit q := by
      rw [zpow_add₀ (by norm_num), zpow_natCast]

/-- Above the smallest exponent it has as many. -/
theorem le_div_lastBit (hq : 0 < q) (hmin : f.minExponent ≤ Int.log 2 q - f.fractionBits) :
    2 ^ f.fractionBits ≤ q / 2 ^ f.lastBit q := by
  have hunit : (0 : ℚ) < 2 ^ f.lastBit q := by positivity
  rw [le_div_iff₀ hunit, lastBit, max_eq_left hmin, ← zpow_natCast, ← zpow_add₀ (by norm_num),
    add_sub_cancel]
  exact_mod_cast Int.zpow_log_le_self (b := 2) (by norm_num) hq

/-- A multiple of the last bit rounds to itself. -/
theorem nearest_eq_self {k : Nat} (h : q = k * 2 ^ f.lastBit q) : f.nearest q = q := by
  have hunit : (2 : ℚ) ^ f.lastBit q ≠ 0 := by positivity
  have hk : q / 2 ^ f.lastBit q = k := by
    rw [div_eq_iff hunit]
    exact h
  rw [nearest, hk, nearestInt_natCast, ← h]

/-- Larger numbers have their last bit no lower. -/
theorem lastBit_mono (hq : 0 < q) (h : q ≤ r) : f.lastBit q ≤ f.lastBit r :=
  max_le_max_right _ (Int.sub_le_sub_right (Int.log_mono_right hq h) _)

/-- A number with no more bits than a significand rounds to itself. -/
theorem nearest_of_lt {k : Nat} {e : Int} (hk : k < 2 ^ (f.fractionBits + 1))
    (he : f.minExponent ≤ e) (h : q = k * 2 ^ e) : f.nearest q = q := by
  rcases Nat.eq_zero_or_pos k with rfl | hpos
  · have hzero : q = 0 := by simpa using h
    exact nearest_eq_self (k := 0) (by simp [hzero])
  have hq : 0 < q := by rw [h]; positivity
  have hlog : Int.log 2 q < f.fractionBits + 1 + e := by
    apply (Int.lt_zpow_iff_log_lt (b := 2) (by norm_num) hq).mp
    calc q = k * 2 ^ e := h
      _ < 2 ^ (f.fractionBits + 1) * 2 ^ e := by gcongr; exact_mod_cast hk
      _ = ((2 : Nat) : ℚ) ^ (f.fractionBits + 1 + e) := by
        rw [Nat.cast_ofNat, zpow_add₀ (by norm_num)]
        norm_cast
  -- So its last bit is at most `e`, and it is a multiple of that.
  obtain ⟨j, hj⟩ : ∃ j : Nat, e = j + f.lastBit q :=
    ⟨(e - f.lastBit q).toNat, by unfold lastBit; omega⟩
  refine nearest_eq_self (k := k * 2 ^ j) ?_
  have hpow : (2 : ℚ) ^ e = 2 ^ j * 2 ^ f.lastBit q := by
    rw [← zpow_natCast, ← zpow_add₀ (by norm_num), ← hj]
  rw [Nat.cast_mul, Nat.cast_pow, Nat.cast_ofNat, mul_assoc, ← hpow, ← h]

/-- A rounded significand has at most the bits of the format, or is the next power
    of two. -/
theorem nearestInt_div_lastBit_le (hq : 0 < q) :
    nearestInt (q / 2 ^ f.lastBit q) ≤ 2 ^ (f.fractionBits + 1) := by
  have h := nearestInt_mono (q := q / 2 ^ f.lastBit q) (by positivity) (div_lastBit_lt (f := f)).le
  have hcast : ((2 : ℚ) ^ (f.fractionBits + 1)) = ((2 ^ (f.fractionBits + 1) : Nat) : ℚ) := by
    norm_cast
  rwa [hcast, nearestInt_natCast] at h

/-- It has no fewer, except at the smallest exponent. -/
theorem le_nearestInt_div_lastBit (hq : 0 < q) (hmin : f.minExponent < f.lastBit q) :
    2 ^ f.fractionBits ≤ nearestInt (q / 2 ^ f.lastBit q) := by
  have hlog : f.minExponent ≤ Int.log 2 q - f.fractionBits := by unfold lastBit at hmin; omega
  have h := nearestInt_mono (by positivity) (le_div_lastBit hq hlog)
  have hcast : ((2 : ℚ) ^ f.fractionBits) = ((2 ^ f.fractionBits : Nat) : ℚ) := by norm_cast
  rwa [hcast, nearestInt_natCast] at h

theorem nearest_nonneg : 0 ≤ f.nearest q := by
  unfold nearest
  positivity

theorem nearest_zero : f.nearest 0 = 0 := nearest_eq_self (k := 0) (by simp)

/-- Rounding to a format keeps the order, from one exponent to the next too. -/
theorem nearest_mono (hq : 0 ≤ q) (h : q ≤ r) : f.nearest q ≤ f.nearest r := by
  rcases hq.eq_or_lt with rfl | hq
  · rw [nearest_zero]
    exact nearest_nonneg
  have hr : 0 < r := hq.trans_le h
  have hunit : (0 : ℚ) < 2 ^ f.lastBit r := by positivity
  rcases (lastBit_mono (f := f) hq h).eq_or_lt with heq | hlt
  · have hints : nearestInt (q / 2 ^ f.lastBit r) ≤ nearestInt (r / 2 ^ f.lastBit r) :=
      nearestInt_mono (by positivity) (by gcongr)
    rw [nearest, nearest, heq]
    gcongr
  · -- The power of two between the two exponents separates them.
    have hmin : f.minExponent < f.lastBit r := (le_max_right _ _).trans_lt hlt
    have hlow : ((2 ^ f.fractionBits : Nat) : ℚ) ≤ nearestInt (r / 2 ^ f.lastBit r) := by
      exact_mod_cast le_nearestInt_div_lastBit hr hmin
    have hhigh : (nearestInt (q / 2 ^ f.lastBit q) : ℚ) ≤ (2 ^ (f.fractionBits + 1) : Nat) := by
      exact_mod_cast nearestInt_div_lastBit_le hq
    calc f.nearest q ≤ (2 ^ (f.fractionBits + 1) : Nat) * 2 ^ f.lastBit q := by
          rw [nearest]; gcongr
      _ = (2 ^ f.fractionBits : Nat) * 2 ^ (f.lastBit q + 1) := by
          rw [zpow_add_one₀ (by norm_num)]; push_cast; ring
      _ ≤ (2 ^ f.fractionBits : Nat) * 2 ^ f.lastBit r := by
          gcongr
          · norm_num
          · exact hlt
      _ ≤ f.nearest r := by rw [nearest]; gcongr

/-- What is rounded needs no more rounding. -/
theorem nearest_nearest (hq : 0 < q) : f.nearest (f.nearest q) = f.nearest q := by
  have hmin : f.minExponent ≤ f.lastBit q := le_max_right _ _
  rcases (nearestInt_div_lastBit_le (f := f) hq).eq_or_lt with hfull | hlt
  · -- Rounded up to the next power of two, which has a bit to spare.
    refine nearest_of_lt (k := 2 ^ f.fractionBits) (e := f.lastBit q + 1)
      (Nat.pow_lt_pow_right (by norm_num) (by omega)) (by omega) ?_
    rw [nearest, hfull, zpow_add_one₀ (by norm_num), pow_succ]
    push_cast
    ring
  · exact nearest_of_lt hlt hmin rfl

/-! ### Patterns -/

/-- The rounded pattern of a quotient depends on the quotient alone. -/
theorem roundRatio_eq (hnum : 0 < num) (hden : 0 < den) (hq : (num / den : ℚ) = q) :
    f.roundRatio num den =
      min ((f.lastBit q - f.minExponent).toNat * 2 ^ f.fractionBits +
        nearestInt (q / 2 ^ f.lastBit q)) f.infinity := by
  subst hq
  rw [roundRatio, if_neg hnum.ne', log2Ratio_eq hnum hden, Nat.one_shiftLeft]
  change min (_ + roundHalfEven (scaleDown num den (f.lastBit _)).1
    (scaleDown num den (f.lastBit _)).2) _ = _
  rw [roundHalfEven_eq (scaleDown_snd_pos hden _), scaleDown_div]
  rfl

/-- Below infinity, a pattern is an exponent field and a fraction. -/
theorem decode_withSign {negative : Bool} {field fraction : Nat} (hfield : field < f.fullField)
    (hfraction : fraction < 2 ^ f.fractionBits) :
    f.decode (f.withSign negative (field * 2 ^ f.fractionBits + fraction)) =
      if field = 0 then .finite negative fraction f.minExponent
      else
        .finite negative (2 ^ f.fractionBits + fraction) (f.minExponent + (field - 1 : Nat)) := by
  have hpos : 0 < 2 ^ f.fractionBits := by positivity
  have hbits : field < 2 ^ f.exponentBits := by
    rw [fullField, Nat.one_shiftLeft] at hfield
    omega
  set bits := field * 2 ^ f.fractionBits + fraction with hdef
  have hsplit : f.signBit = 2 ^ f.exponentBits * 2 ^ f.fractionBits := by
    rw [signBit, Nat.one_shiftLeft, pow_add]
  have hsmall : bits < f.signBit := by
    rw [hsplit]
    nlinarith
  have hdivFraction : bits / 2 ^ f.fractionBits = field := by
    rw [hdef, mul_comm, Nat.mul_add_div hpos, Nat.div_eq_of_lt hfraction, add_zero]
  have hmodFraction : bits % 2 ^ f.fractionBits = fraction := by
    rw [hdef, mul_comm, Nat.mul_add_mod, Nat.mod_eq_of_lt hfraction]
  -- The sign bit stands above both fields and does not touch them.
  have hsign : f.withSign negative bits / f.signBit % 2 = negative.toNat := by
    cases negative
    · rw [withSign, if_neg (by decide), Nat.div_eq_of_lt hsmall]
      rfl
    · rw [withSign, if_pos rfl, Nat.add_div_left _ (by omega), Nat.div_eq_of_lt hsmall]
      rfl
  have hfieldOf : f.withSign negative bits / 2 ^ f.fractionBits % 2 ^ f.exponentBits = field := by
    cases negative
    · rw [withSign, if_neg (by decide), hdivFraction, Nat.mod_eq_of_lt hbits]
    · rw [withSign, if_pos rfl, hsplit, mul_comm, Nat.mul_add_div hpos, hdivFraction,
        Nat.add_mod_left, Nat.mod_eq_of_lt hbits]
  have hfractionOf : f.withSign negative bits % 2 ^ f.fractionBits = fraction := by
    cases negative
    · rw [withSign, if_neg (by decide), hmodFraction]
    · rw [withSign, if_pos rfl, hsplit, mul_comm, Nat.mul_add_mod, hmodFraction]
  unfold decode
  simp only [Nat.one_shiftLeft, hsign, hfieldOf, hfractionOf, if_neg hfield.ne]
  cases negative <;> rfl

/-- A significand of as many bits as the format has, counted from zero upwards
    in its binade, decodes to what it is worth there. It may also be the first
    of the next binade. -/
theorem toRat?_decode {negative : Bool} {k m : Nat} (hhigh : m ≤ 2 ^ (f.fractionBits + 1))
    (hlow : 0 < k → 2 ^ f.fractionBits ≤ m) (hfield : k + 2 < f.fullField) :
    (f.decode (f.withSign negative (k * 2 ^ f.fractionBits + m))).toRat? =
      some (if negative then -(m * 2 ^ (f.minExponent + k) : ℚ)
        else m * 2 ^ (f.minExponent + k)) := by
  have hpos : 0 < 2 ^ f.fractionBits := by positivity
  rw [pow_succ] at hhigh
  rcases Nat.lt_or_ge m (2 ^ f.fractionBits) with hsub | hnormal
  · obtain rfl : k = 0 := by
      by_contra hk
      exact absurd (hlow (Nat.pos_of_ne_zero hk)) (by omega)
    rw [decode_withSign (by omega) hsub, if_pos rfl]
    simp [Datum.toRat?]
  obtain ⟨fraction, rfl⟩ := Nat.exists_eq_add_of_le hnormal
  rcases Nat.lt_or_ge fraction (2 ^ f.fractionBits) with hsame | hnext
  · have hpattern : k * 2 ^ f.fractionBits + (2 ^ f.fractionBits + fraction) =
        (k + 1) * 2 ^ f.fractionBits + fraction := by ring
    rw [hpattern, decode_withSign (by omega) hsame, if_neg (by omega)]
    simp [Datum.toRat?]
  · -- The carry into the exponent field.
    obtain rfl : fraction = 2 ^ f.fractionBits := by omega
    have hpattern : k * 2 ^ f.fractionBits + (2 ^ f.fractionBits + 2 ^ f.fractionBits) =
        (k + 2) * 2 ^ f.fractionBits + 0 := by ring
    have hvalue : ((2 ^ f.fractionBits + 0 : Nat) : ℚ) * 2 ^ (f.minExponent + (k + 1 : Nat)) =
        ((2 ^ f.fractionBits + 2 ^ f.fractionBits : Nat) : ℚ) * 2 ^ (f.minExponent + k) := by
      rw [Nat.cast_succ, ← add_assoc, zpow_add_one₀ (by norm_num)]
      push_cast
      ring
    rw [hpattern, decode_withSign hfield hpos, if_neg (by omega), Datum.toRat?]
    simp only [show k + 2 - 1 = k + 1 from rfl, hvalue]

/-- Rounding a quotient gives the nearest number with the bits of the format,
    as long as that is not too large. -/
theorem toRat?_ofRatio {negative : Bool} (hnum : 0 < num) (hden : 0 < den)
    (hq : (num / den : ℚ) = q) (hmax : (f.lastBit q - f.minExponent).toNat + 2 < f.fullField) :
    (f.decode (f.ofRatio negative num den)).toRat? =
      some (if negative then -f.nearest q else f.nearest q) := by
  have hpos : 0 < q := by rw [← hq]; positivity
  set k := (f.lastBit q - f.minExponent).toNat with hk
  set m := nearestInt (q / 2 ^ f.lastBit q) with hm
  have hle : f.minExponent ≤ f.lastBit q := le_max_right _ _
  -- The pattern counts exponents from the smallest one.
  have hexponent : f.minExponent + k = f.lastBit q := by omega
  have hhigh : m ≤ 2 ^ (f.fractionBits + 1) := nearestInt_div_lastBit_le hpos
  have hlow : 0 < k → 2 ^ f.fractionBits ≤ m := fun h => le_nearestInt_div_lastBit hpos (by omega)
  have hfinite : k * 2 ^ f.fractionBits + m ≤ f.infinity := by
    rw [pow_succ] at hhigh
    rw [infinity, Nat.one_shiftLeft]
    calc k * 2 ^ f.fractionBits + m ≤ (k + 2) * 2 ^ f.fractionBits := by linarith
      _ ≤ f.fullField * 2 ^ f.fractionBits := Nat.mul_le_mul_right _ hmax.le
  rw [ofRatio, roundRatio_eq hnum hden hq, ← hk, ← hm, min_eq_left hfinite,
    toRat?_decode hhigh hlow hmax, hexponent]
  rfl

end BinaryFormat

end RegionScan
