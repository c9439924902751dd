import RegionScan.Proofs.Binary.Double
import RegionScan.Proofs.Number.Exact
import RegionScan.Store.Table

/-!
# Comparison of Exact Numbers

How whole numbers and decimals compare, and what filters make of it.

Two whole numbers are compared as they are. As soon as one of the two is a
decimal, both are compared as doubles: the unscaled number is rounded, the power
of ten may be off a little, and the quotient is rounded again. The doubles are in
the order of the numbers if the numbers are further apart than that. Short
decimals are rounded only once, and decimals are spaced widely enough for that.

Beyond these conditions the order can be wrong. Different numbers can have the
same double, which `not_compare_exact_manyBits` shows, and with different scales
equal numbers can have different ones.

## Main definitions

* `Decimal.approx`: The number of the double that a decimal is compared as.
* `Decimal.Short`: A decimal that is rounded only once.
* `Decimal.Apart`: Decimals that differ by more than errors do.

## Theorems

* `Decimal.toRat?_toDouble`: Every decimal has a finite double.
* `Decimal.abs_approx_sub_le`: That is off by a part in `2 ^ 49` at most.
* `Decimal.compare_approx_of_short`: Short decimals keep their order.
* `Decimal.approx_mono`: At one scale, no order is reversed.
* `RawValue.compare_exact_numbers`: The order of any two exact numbers.
-/

namespace RegionScan

open Double

/-! ### Relative errors -/

/-- A number that is off by a part is the true one times a factor near one. -/
theorem exists_factor {x v : ℚ} (part : ℚ) (hpart : 0 ≤ part) (h : |v - x| ≤ part * |x|) :
    ∃ δ, |δ| ≤ part ∧ v = x * (1 + δ) := by
  rcases eq_or_ne x 0 with rfl | hne
  · rw [abs_zero, mul_zero, sub_zero] at h
    refine ⟨0, by rwa [abs_zero], ?_⟩
    rw [abs_nonpos_iff.mp h, zero_mul]
  · refine ⟨(v - x) / x, ?_, by field_simp; ring⟩
    rw [abs_div, div_le_iff₀ (abs_pos.mpr hne)]
    exact h

/-- Two factors of a rounding and the factor of a power of ten together. -/
theorem abs_factors_sub_one_le {α β γ : ℚ} (hα : |α| ≤ 1 / 2 ^ 53) (hβ : |β| ≤ 1 / 2 ^ 50)
    (hγ : |γ| ≤ 1 / 2 ^ 53) : 2 ^ 49 * |(1 + α) / (1 + β) * (1 + γ) - 1| ≤ 1 := by
  obtain ⟨hαl, hαh⟩ := abs_le.mp hα
  obtain ⟨hβl, hβh⟩ := abs_le.mp hβ
  obtain ⟨hγl, hγh⟩ := abs_le.mp hγ
  have hpos : 0 < 1 + β := by linarith
  have hprod : |α * γ| ≤ 1 / 2 ^ 53 :=
    calc |α * γ| = |α| * |γ| := abs_mul α γ
      _ ≤ 1 / 2 ^ 53 * 1 := by gcongr; linarith
      _ = 1 / 2 ^ 53 := mul_one _
  obtain ⟨hprodl, hprodh⟩ := abs_le.mp hprod
  have hquot : (1 + α) / (1 + β) * (1 + γ) - 1 = (α + γ + α * γ - β) / (1 + β) := by
    field_simp
    ring
  rw [hquot, abs_div, abs_of_pos hpos, ← mul_div_assoc, div_le_one hpos]
  have hnum : |α + γ + α * γ - β| ≤ 11 / 2 ^ 53 := by
    rw [abs_le]
    constructor <;> linarith
  linarith

/-- Errors smaller than what two numbers are apart do not change their order. -/
theorem lt_of_errors_lt {x y v w k : ℚ} (hk : 0 < k) (hv : k * |v - x| ≤ |x|)
    (hw : k * |w - y| ≤ |y|) (hapart : |x| + |y| < k * |x - y|) (h : x < y) : v < w := by
  have hgap : |x - y| = y - x := by rw [abs_sub_comm, abs_of_pos (sub_pos.mpr h)]
  have hvx : k * (v - x) ≤ |x| := (mul_le_mul_of_nonneg_left (le_abs_self _) hk.le).trans hv
  have hwy : k * -(w - y) ≤ |y| := (mul_le_mul_of_nonneg_left (neg_le_abs _) hk.le).trans hw
  have hdiff : k * 0 < k * (w - v) := by
    rw [hgap] at hapart
    linarith
  linarith [lt_of_mul_lt_mul_left hdiff hk.le]

/-- So both ways of comparing agree. -/
theorem compare_of_errors_lt {x y v w k : ℚ} (hk : 0 < k) (hv : k * |v - x| ≤ |x|)
    (hw : k * |w - y| ≤ |y|) (hapart : |x| + |y| < k * |x - y|) : compare v w = compare x y := by
  rcases lt_trichotomy x y with h | rfl | h
  · rw [compare_lt_iff_lt.mpr h, compare_lt_iff_lt.mpr (lt_of_errors_lt hk hv hw hapart h)]
  · rw [sub_self, abs_zero, mul_zero] at hapart
    linarith [abs_nonneg x]
  · rw [add_comm, abs_sub_comm] at hapart
    rw [compare_gt_iff_gt.mpr h, compare_gt_iff_gt.mpr (lt_of_errors_lt hk hw hv hapart h)]

namespace Decimal

/-! ### A decimal as a double -/

/-- The number that a decimal is compared as. -/
def approx (d : Decimal) : ℚ := rounded (rounded d.unscaled.val / tenTo d.scale.toNat)

/-- A decimal of 52 bits with a power of ten that is exact. -/
def Short (d : Decimal) : Prop := d.unscaled.val.natAbs < 2 ^ 52 ∧ d.scale.toNat ≤ 22

/-- Two decimals differ within their first 48 bits. -/
def Apart (d e : Decimal) : Prop := |d.toRat| + |e.toRat| < 2 ^ 49 * |d.toRat - e.toRat|

variable {d e : Decimal}

theorem abs_unscaled_mem (d : Decimal) (hne : (d.unscaled.val : ℚ) ≠ 0) :
    1 ≤ |(d.unscaled.val : ℚ)| ∧ |(d.unscaled.val : ℚ)| ≤ 2 ^ 127 :=
  ⟨by exact_mod_cast Int.one_le_abs (by exact_mod_cast hne),
    by exact_mod_cast d.unscaled.abs_val_le⟩

/-- Integers of 128 bits are in range. -/
theorem inRange_unscaled (d : Decimal) : InRange d.unscaled.val := by
  intro hne
  obtain ⟨hlow, hhigh⟩ := d.abs_unscaled_mem hne
  constructor
  · calc (2 : ℚ) ^ (-1022 : Int) ≤ 2 ^ (0 : Int) := zpow_le_zpow_right₀ (by norm_num) (by norm_num)
      _ ≤ |(d.unscaled.val : ℚ)| := by rw [zpow_zero]; exact hlow
  · calc |(d.unscaled.val : ℚ)| ≤ 2 ^ (127 : Int) := by exact_mod_cast hhigh
      _ < 2 ^ (1023 : Int) := zpow_lt_zpow_right₀ (by norm_num) (by norm_num)

/-- A power of ten has a thousand's ten bits for every three places. -/
theorem tenTo_scale_mem (d : Decimal) :
    1 / 2 ≤ tenTo d.scale.toNat ∧ tenTo d.scale.toNat ≤ 2 ^ (10 * 85 + 1) := by
  obtain ⟨hlow, hhigh⟩ := tenTo_mem d.scale.toNat_lt
  have hscale : d.scale.toNat ≤ 3 * 85 := by have := d.scale.toNat_lt; omega
  refine ⟨hlow, hhigh.trans ?_⟩
  calc (2 : ℚ) * 10 ^ d.scale.toNat ≤ 2 * 10 ^ (3 * 85) := by gcongr; norm_num
    _ = 2 * (10 ^ 3) ^ 85 := by rw [pow_mul]
    _ ≤ 2 * (2 ^ 10) ^ 85 := by gcongr; norm_num
    _ = 2 ^ (10 * 85 + 1) := by rw [← pow_mul, ← pow_succ']

theorem tenTo_scale_pos (d : Decimal) : 0 < tenTo d.scale.toNat := by linarith [d.tenTo_scale_mem.1]

/-- No quotient is too large or too small to be normal. -/
theorem inRange_quotient (d : Decimal) :
    InRange (rounded d.unscaled.val / tenTo d.scale.toNat) := by
  intro hne
  obtain ⟨hlow, hhigh⟩ := d.tenTo_scale_mem
  have hpos := d.tenTo_scale_pos
  have hn : (d.unscaled.val : ℚ) ≠ 0 := by
    intro h
    rw [h, rounded_zero, zero_div] at hne
    exact hne rfl
  obtain ⟨hone, hmax⟩ := d.abs_unscaled_mem hn
  obtain ⟨hroundLow, hroundHigh⟩ := abs_rounded_mem d.inRange_unscaled
  rw [abs_div, abs_of_pos hpos]
  constructor
  · rw [le_div_iff₀ hpos]
    calc (2 : ℚ) ^ (-1022 : Int) * tenTo d.scale.toNat
        ≤ 2 ^ (-1022 : Int) * 2 ^ (10 * 85 + 1) := by gcongr
      _ = 2 ^ (-171 : Int) := by
        rw [← zpow_natCast, ← zpow_add₀ (by norm_num)]
        rfl
      _ ≤ 2 ^ (-1 : Int) := zpow_le_zpow_right₀ (by norm_num) (by norm_num)
      _ ≤ |rounded d.unscaled.val| := by norm_num; linarith
  · rw [div_lt_iff₀ hpos]
    calc |rounded d.unscaled.val| ≤ 2 ^ 128 := by linarith
      _ < 2 ^ 1022 := pow_lt_pow_right₀ (by norm_num) (by norm_num)
      _ = 2 ^ (1023 : Int) * (1 / 2) := by
        rw [one_div, ← zpow_neg_one, ← zpow_add₀ (by norm_num), ← zpow_natCast]
        rfl
      _ ≤ 2 ^ (1023 : Int) * tenTo d.scale.toNat := by gcongr

/-- Every decimal has a finite double. -/
theorem toRat?_toDouble (d : Decimal) : d.toDouble.toRat? = some d.approx := by
  have hten := denotes_of_ne_zero (toRat?_powerOfTen d.scale.toNat_lt) d.tenTo_scale_pos.ne'
  rw [toDouble, ofInt_eq_ofRat, div_eq_ofRat (denotes_ofRat d.inRange_unscaled) hten
    d.tenTo_scale_pos]
  exact toRat?_ofRat d.inRange_quotient

/-- The double of a decimal is off by a part in `2 ^ 49` at most. -/
theorem abs_approx_sub_le (d : Decimal) : 2 ^ 49 * |d.approx - d.toRat| ≤ |d.toRat| := by
  have hpow : (0 : ℚ) < 10 ^ d.scale.toNat := by positivity
  obtain ⟨α, hα, hunscaled⟩ := exists_factor (1 / 2 ^ 53) (by norm_num)
    ((abs_rounded_sub_le d.inRange_unscaled).trans_eq (by ring))
  have htenError :
      |tenTo d.scale.toNat - 10 ^ d.scale.toNat| ≤ 1 / 2 ^ 50 * |10 ^ d.scale.toNat| := by
    rw [abs_of_pos hpow]
    linarith [abs_tenTo_sub_le d.scale.toNat_lt]
  -- Three factors: of the unscaled number, of the power and of the quotient.
  obtain ⟨β, hβ, hten⟩ := exists_factor (1 / 2 ^ 50) (by norm_num) htenError
  obtain ⟨γ, hγ, hquotient⟩ := exists_factor (1 / 2 ^ 53) (by norm_num)
    ((abs_rounded_sub_le d.inRange_quotient).trans_eq (by ring))
  have hfactor : d.approx - d.toRat = d.toRat * ((1 + α) / (1 + β) * (1 + γ) - 1) := by
    rw [approx, hquotient, hunscaled, hten, toRat, mul_div_mul_comm]
    ring
  rw [hfactor, abs_mul, mul_left_comm]
  exact mul_le_of_le_one_right (abs_nonneg _) (abs_factors_sub_one_le hα hβ hγ)

/-- A short decimal is rounded once. -/
theorem Short.approx_eq (h : d.Short) : d.approx = rounded d.toRat := by
  obtain ⟨hbits, hscale⟩ := h
  rw [approx, toRat, tenTo_of_le hscale, rounded_intCast (by omega)]

theorem Short.inRange (h : d.Short) : InRange d.toRat := by
  obtain ⟨hbits, hscale⟩ := h
  have hrange := d.inRange_quotient
  rwa [tenTo_of_le hscale, rounded_intCast (by omega)] at hrange

/-! ### The order of two decimals -/

/-- Decimals that are apart are in the order of their doubles. -/
theorem compare_approx_of_apart (h : d.Apart e) :
    compare d.approx e.approx = compare d.toRat e.toRat :=
  compare_of_errors_lt (by norm_num) d.abs_approx_sub_le e.abs_approx_sub_le h

/-- At the larger of two scales, decimals are whole numbers of units. So different
    ones are a unit apart, and one of 52 bits is less than `2 ^ 52` units. -/
theorem apart_of_ne (hbits : e.unscaled.val.natAbs < 2 ^ 52)
    (hscale : d.scale.toNat ≤ e.scale.toNat) (hne : d.toRat ≠ e.toRat) :
    |d.toRat| + |e.toRat| < 2 ^ 53 * |d.toRat - e.toRat| := by
  obtain ⟨k, hk⟩ := Nat.exists_eq_add_of_le hscale
  set unit : ℚ := 10 ^ e.scale.toNat with hunit
  have hpos : 0 < unit := by positivity
  have hd : unit * d.toRat = (d.unscaled.val * 10 ^ k : Int) := by
    have hten : (10 : ℚ) ^ d.scale.toNat ≠ 0 := by positivity
    rw [hunit, hk, toRat, pow_add]
    push_cast
    field_simp
  have he : unit * e.toRat = e.unscaled.val := mul_div_cancel₀ _ hpos.ne'
  have habs (q : ℚ) : unit * |q| = |unit * q| := by rw [abs_mul, abs_of_pos hpos]
  have hgap : 1 ≤ unit * |d.toRat - e.toRat| := by
    rw [habs, mul_sub, hd, he, ← Int.cast_sub]
    have hdiff : d.unscaled.val * 10 ^ k - e.unscaled.val ≠ 0 := by
      intro hzero
      have heq : unit * d.toRat = unit * e.toRat := by
        rw [hd, he]
        exact_mod_cast sub_eq_zero.mp hzero
      exact hne (mul_left_cancel₀ hpos.ne' heq)
    exact_mod_cast Int.one_le_abs hdiff
  have hsize : unit * |e.toRat| ≤ 2 ^ 52 - 1 := by
    rw [habs, he]
    have hbound : |e.unscaled.val| ≤ 2 ^ 52 - 1 := by
      rw [Int.abs_eq_natAbs]
      omega
    exact_mod_cast hbound
  have hother : unit * |d.toRat| ≤ unit * |d.toRat - e.toRat| + unit * |e.toRat| := by
    rw [← mul_add]
    gcongr
    linarith [abs_sub_abs_le_abs_sub d.toRat e.toRat]
  refine lt_of_mul_lt_mul_left (a := unit) ?_ hpos.le
  linarith

/-- Short decimals are in the order of their doubles, also if they are close. -/
theorem compare_approx_of_short (hd : d.Short) (he : e.Short) :
    compare d.approx e.approx = compare d.toRat e.toRat := by
  rw [hd.approx_eq, he.approx_eq]
  have herror : ∀ {x : ℚ}, InRange x → 2 ^ 53 * |rounded x - x| ≤ |x| := fun hx => by
    linarith [abs_rounded_sub_le hx]
  -- The same number is rounded to the same double, however it is written.
  rcases eq_or_ne d.toRat e.toRat with heq | hne
  · rw [heq, compare_eq_iff_eq.mpr rfl, compare_eq_iff_eq.mpr rfl]
  · refine compare_of_errors_lt (by norm_num) (herror hd.inRange) (herror he.inRange) ?_
    rcases Nat.le_total d.scale.toNat e.scale.toNat with hle | hle
    · exact apart_of_ne he.1 hle hne
    · rw [add_comm, abs_sub_comm]
      exact apart_of_ne hd.1 hle hne.symm

/-- At one scale, a larger decimal has no smaller double. -/
theorem approx_mono (hscale : d.scale = e.scale) (h : d.toRat ≤ e.toRat) :
    d.approx ≤ e.approx := by
  have hpow : (0 : ℚ) < 10 ^ e.scale.toNat := by positivity
  rw [toRat, toRat, hscale, div_le_div_iff_of_pos_right hpow] at h
  rw [approx, approx, hscale]
  exact rounded_mono (div_le_div_of_nonneg_right (rounded_mono h) e.tenTo_scale_pos.le)

/-- At one scale, the doubles are in the order of the decimals or the same. -/
theorem compare_approx_of_scale (hscale : d.scale = e.scale) :
    compare d.approx e.approx = compare d.toRat e.toRat ∨ compare d.approx e.approx = .eq := by
  rcases lt_trichotomy d.approx e.approx with h | h | h
  · have hlt : d.toRat < e.toRat := not_le.mp fun hle => h.not_ge (approx_mono hscale.symm hle)
    exact .inl (by rw [compare_lt_iff_lt.mpr h, compare_lt_iff_lt.mpr hlt])
  · exact .inr (compare_eq_iff_eq.mpr h)
  · have hlt : e.toRat < d.toRat := not_le.mp fun hle => h.not_ge (approx_mono hscale hle)
    exact .inl (by rw [compare_gt_iff_gt.mpr h, compare_gt_iff_gt.mpr hlt])

/-- The double of a whole number is the one that it is as a decimal. -/
theorem approx_of_scale_zero (hscale : d.scale = 0) : d.approx = rounded d.unscaled.val := by
  have hten : tenTo d.scale.toNat = 1 := by
    rw [hscale]
    exact tenTo_of_le (n := 0) (by norm_num)
  rw [approx, hten, div_one, rounded_rounded]

end Decimal

namespace RawValue

variable {a b : RawValue} {x y : Decimal}

/-! ### The order of two values -/

/-- The double that an exact number is compared as. -/
theorem toDouble?_of_decimal? (ha : a.decimal? = some x) :
    ∃ c, a.toDouble? = some c ∧ c.toRat? = some x.approx := by
  have hwhole (n : Int128) : (ofInt n.val).toRat? = some (Decimal.approx ⟨n, 0⟩) := by
    rw [Decimal.approx_of_scale_zero rfl, ofInt_eq_ofRat]
    exact toRat?_ofRat (Decimal.inRange_unscaled ⟨n, 0⟩)
  cases a with
  | int n =>
    obtain rfl := Option.some.inj ha
    exact ⟨_, rfl, hwhole (.ofInt64 n)⟩
  | uint n =>
    obtain rfl := Option.some.inj ha
    exact ⟨_, rfl, hwhole (.ofUInt64 n)⟩
  | decimal d =>
    obtain rfl := Option.some.inj ha
    exact ⟨_, rfl, d.toRat?_toDouble⟩
  | _ => cases ha

/-- A whole number is the same number as a decimal. -/
theorem toRat_of_toInt? (ha : a.decimal? = some x) {m : Int} (hm : a.toInt? = some m) :
    x.toRat = m := by
  cases a with
  | int n | uint n =>
    obtain rfl := Option.some.inj ha
    obtain rfl := Option.some.inj hm
    simp [Decimal.toRat, Int128.ofInt64, Int128.ofUInt64]
  | _ => cases hm

/-- Whole numbers are compared exactly, and all other exact numbers as doubles. -/
theorem compare?_of_decimal? (ha : a.decimal? = some x) (hb : b.decimal? = some y) :
    a.compare? b =
      some (if a.toInt?.isSome ∧ b.toInt?.isSome then compare x.toRat y.toRat
        else compare x.approx y.approx) := by
  have hnumbers : a.compare? b = a.compareNumbers? b := by
    cases a <;> first | rfl | cases ha
  obtain ⟨c, hc, hcx⟩ := toDouble?_of_decimal? ha
  obtain ⟨c', hc', hcy⟩ := toDouble?_of_decimal? hb
  have hdouble : c.compare? c' = some (compare x.approx y.approx) := Datum.compare?_eq hcx hcy
  rw [hnumbers, compareNumbers?]
  cases hm : a.toInt? with
  | none => simp [hc, hc', hdouble]
  | some m =>
    cases hn : b.toInt? with
    | none => simp [hc, hc', hdouble]
    | some n =>
      have hcast : compare (m : ℚ) n = compare m n := compare_map Int.cast_strictMono m n
      simp [toRat_of_toInt? ha hm, toRat_of_toInt? hb hn, hcast]

theorem isNull_of_decimal? (ha : a.decimal? = some x) : a.isNull = false := by
  cases a <;> first | rfl | cases ha

/-- A comparison in a filter keeps the rows whose value stands in such an order. -/
theorem accepts_compare {order : Ordering} (ha : a.decimal? = some x) (hb : b.decimal? = some y)
    (horder : a.compare? b = some order) {row : List RawValue} {i : Nat} (hrow : row[i]? = some a)
    (op : CompareOp) : (Filter.compare i op b).accepts row = .ok (op.holds order) := by
  simp [Filter.accepts, Filter.evaluate, Filter.column, hrow, Filter.compareValues,
    isNull_of_decimal? ha, isNull_of_decimal? hb, horder, Except.map]

/-- Any two exact numbers are in some order, and filters go by that. It is the
    order of the numbers if both are whole, if both are short, or if they differ
    early enough. At one scale it is never the wrong way round. -/
theorem compare_exact_numbers (ha : a.decimal? = some x) (hb : b.decimal? = some y) :
    ∃ order, a.compare? b = some order ∧
      (∀ (row : List RawValue) (i : Nat) (op : CompareOp), row[i]? = some a →
        (Filter.compare i op b).accepts row = .ok (op.holds order)) ∧
      ((a.toInt?.isSome ∧ b.toInt?.isSome ∨ x.Short ∧ y.Short ∨ x.Apart y) →
        order = compare x.toRat y.toRat) ∧
      (x.scale = y.scale → order = compare x.toRat y.toRat ∨ order = .eq) := by
  have horder := compare?_of_decimal? ha hb
  refine ⟨_, horder, fun row i op hrow => accepts_compare ha hb horder hrow op, ?_, ?_⟩
  · split_ifs with hwhole
    · exact fun _ => rfl
    · rintro (h | ⟨hx, hy⟩ | h)
      · exact absurd h hwhole
      · exact Decimal.compare_approx_of_short hx hy
      · exact Decimal.compare_approx_of_apart h
  · split_ifs with hwhole
    · exact fun _ => .inl rfl
    · exact Decimal.compare_approx_of_scale

/-- The longest unscaled number, with 200 places, is above one unit of 162 places. -/
theorem compare_exact_smallFractions :
    let x : Decimal := ⟨⟨2 ^ 127 - 1, by decide⟩, 200⟩
    let y : Decimal := ⟨⟨1, by decide⟩, 162⟩
    x.Apart y ∧ (RawValue.decimal x).compare? (.decimal y) = some .gt ∧
      (Filter.compare 0 .gt (.decimal y)).accepts [.decimal x] = .ok true := by
  intro x y
  have hx : x.toRat = (2 ^ 127 - 1) / 10 ^ 200 := by
    rw [Decimal.toRat, show x.scale.toNat = 200 from rfl]
    norm_num [x]
  have hy : y.toRat = 1 / 10 ^ 162 := by
    rw [Decimal.toRat, show y.scale.toNat = 162 from rfl]
    norm_num [y]
  have hapart : x.Apart y := by
    rw [Decimal.Apart, hx, hy]
    norm_num [abs_of_pos]
  have hgt : compare x.toRat y.toRat = .gt := by
    rw [compare_gt_iff_gt, hx, hy]
    norm_num
  obtain ⟨order, horder, hfilter, hexact, -⟩ :=
    compare_exact_numbers (a := .decimal x) (b := .decimal y) rfl rfl
  obtain rfl : order = .gt := (hexact (.inr (.inr hapart))).trans hgt
  exact ⟨hapart, horder, hfilter [.decimal x] 0 .gt rfl⟩

/-- Of two whole numbers of 54 bits, held as decimals, the smaller one is taken to be
    the same as the larger, and a filter for the larger one keeps it. -/
theorem not_compare_exact_manyBits :
    let x : Decimal := ⟨⟨9007199254740992, by decide⟩, 0⟩
    let y : Decimal := ⟨⟨9007199254740993, by decide⟩, 0⟩
    x.toRat < y.toRat ∧ (RawValue.decimal x).compare? (.decimal y) = some .eq ∧
      (Filter.compare 0 .eq (.decimal y)).accepts [.decimal x] = .ok true := by
  intro x y
  refine ⟨?_, by decide +kernel, by decide +kernel⟩
  norm_num [x, y, Decimal.toRat]

end RawValue

end RegionScan
