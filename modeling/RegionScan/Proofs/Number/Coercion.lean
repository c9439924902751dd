import RegionScan.Proofs.Number.Exact

/-!
# Coercion of Exact Numbers

That exact numbers are converted without loss, and whenever that is possible.

The types that hold exact numbers are all grids: a type has a number of places
and a number of bits, and the numbers it holds are the integers of these bits
divided by the power of ten. An integer type is a grid without places.

So a whole number or a decimal is converted exactly if it lies on the grid of
the type, and what comes out is the same number. This is an equivalence, in
which only the far zeros of `Decimal.rescale_eq_ok_iff` are left out.

## Main definitions

* `ExactGrid`, `ExactGrid.Holds`: A grid, and the numbers on it.
* `DataType.grid?`: The grid of a type.
* `DataType.ofInt`: The value of an integer type.

## Theorems

* `Coercion.toInt64_eq_ok_iff`: When an exact number is a 64-bit integer.
* `Coercion.toNarrow_eq_ok_iff`: When it is an integer of fewer bits.
* `coerce_eq_ok_iff_exact`: What an exact number is converted to.
* `coerce_exact_iff`: The same, with the numbers that can be converted.
-/

namespace RegionScan

/-- The numbers that a type can hold: integers of so many bits, divided by a power
    of ten. -/
structure ExactGrid where
  places : Nat
  bits : Nat

/-- A number on a grid. -/
def ExactGrid.Holds (g : ExactGrid) (q : ℚ) : Prop :=
  ∃ n : Int, q * 10 ^ g.places = n ∧ -2 ^ (g.bits - 1) ≤ n ∧ n < 2 ^ (g.bits - 1)

namespace DataType

/-- The grid of a type that holds exact numbers. -/
def grid? : DataType → Option ExactGrid
  | .tinyInt => some ⟨0, 8⟩
  | .smallInt => some ⟨0, 16⟩
  | .int => some ⟨0, 32⟩
  | .bigInt => some ⟨0, 64⟩
  | .decimal _ (some scale) => some ⟨scale.toNat, 128⟩
  | _ => none

/-- The value of an integer type. -/
def ofInt : DataType → Int → Value
  | .tinyInt, n => .tinyInt (Int8.ofInt n)
  | .smallInt, n => .smallInt (Int16.ofInt n)
  | .int, n => .int (Int32.ofInt n)
  | .bigInt, n => .bigInt (Int64.ofInt n)
  | _, _ => .null

variable {target : DataType} {g : ExactGrid}

/-- An integer type has no places. -/
theorem grid?_of_isInteger (hint : target.isInteger = true) (hgrid : target.grid? = some g) :
    g.places = 0 ∧ g.bits ≤ 64 := by
  cases target with
  | tinyInt | smallInt | int | bigInt =>
      cases hgrid
      decide
  | _ => cases hint

/-- Any other type with a grid is a decimal with a scale. -/
theorem eq_decimal (hint : target.isInteger ≠ true) (hgrid : target.grid? = some g) :
    ∃ precision scale, target = .decimal precision (some scale) := by
  cases target with
  | decimal precision scale =>
      cases scale with
      | none => cases hgrid
      | some scale => exact ⟨precision, scale, rfl⟩
  | tinyInt | smallInt | int | bigInt => exact absurd rfl hint
  | _ => cases hgrid

/-- A value that holds an integer of so many bits is what the integer is wrapped in. -/
theorem wrapped_eq_iff {α : Type} {wrap : α → Value} {ofInt : Int → α} {toInt : α → Int}
    {bits : Nat} (hrange : ∀ m, -2 ^ bits ≤ toInt m ∧ toInt m < 2 ^ bits)
    (htoInt : ∀ n, -2 ^ bits ≤ n → n < 2 ^ bits → toInt (ofInt n) = n)
    (hofInt : ∀ m, ofInt (toInt m) = m) (n : Int) (v : Value) :
    wrap (ofInt n) = v ∧ -2 ^ bits ≤ n ∧ n < 2 ^ bits ↔ ∃ m, v = wrap m ∧ toInt m = n := by
  constructor
  · rintro ⟨rfl, hlow, hhigh⟩
    exact ⟨ofInt n, rfl, htoInt n hlow hhigh⟩
  · rintro ⟨m, rfl, rfl⟩
    exact ⟨congrArg wrap (hofInt m), hrange m⟩

/-- The values of an integer type are the integers of its bits. -/
theorem ofInt_eq_iff (hint : target.isInteger = true) (hgrid : target.grid? = some g) (n : Int)
    (v : Value) :
    target.ofInt n = v ∧ -2 ^ (g.bits - 1) ≤ n ∧ n < 2 ^ (g.bits - 1) ↔
      v.matchesType target = true ∧ v.toInt? = some n := by
  cases target with
  | tinyInt =>
      cases hgrid
      refine (wrapped_eq_iff (fun m => ⟨m.le_toInt, m.toInt_lt⟩) (fun _ => Int8.toInt_ofInt_of_le)
        Int8.ofInt_toInt n v).trans ?_
      cases v <;> simp [Value.matchesType, Value.toInt?]
  | smallInt =>
      cases hgrid
      refine (wrapped_eq_iff (fun m => ⟨m.le_toInt, m.toInt_lt⟩) (fun _ => Int16.toInt_ofInt_of_le)
        Int16.ofInt_toInt n v).trans ?_
      cases v <;> simp [Value.matchesType, Value.toInt?]
  | int =>
      cases hgrid
      refine (wrapped_eq_iff (fun m => ⟨m.le_toInt, m.toInt_lt⟩) (fun _ => Int32.toInt_ofInt_of_le)
        Int32.ofInt_toInt n v).trans ?_
      cases v <;> simp [Value.matchesType, Value.toInt?]
  | bigInt =>
      cases hgrid
      refine (wrapped_eq_iff (fun m => ⟨m.le_toInt, m.toInt_lt⟩) (fun _ => Int64.toInt_ofInt_of_le)
        Int64.ofInt_toInt n v).trans ?_
      cases v <;> simp [Value.matchesType, Value.toInt?]
  | _ => cases hint

end DataType

namespace Coercion

/-- An integer is the same number as a decimal if it is the unscaled number without
    the places. -/
theorem intCast_eq_toRat_iff (n : Int) (d : Decimal) :
    (n : ℚ) = d.toRat ↔ d.unscaled.val = n * 10 ^ d.scale.toNat := by
  rw [Decimal.toRat, eq_div_iff (pow_ne_zero _ (by norm_num)), eq_comm]
  exact_mod_cast Iff.rfl

/-- All places of a decimal are divided out, and have to come out even. -/
theorem toInt64_decimal (e : Decimal) :
    toInt64 (.decimal e) =
      if Decimal.maxPlaces < e.scale.toNat then
        .error (.rescaling (.scaleTooLarge e.scale.toNat))
      else if e.unscaled.val.tmod (10 ^ e.scale.toNat) ≠ 0 then .error .fractionalPart
      else if -(1 <<< 63) ≤ e.unscaled.val.tdiv (10 ^ e.scale.toNat) ∧
          e.unscaled.val.tdiv (10 ^ e.scale.toNat) < 1 <<< 63 then
        .ok (Int64.ofInt (e.unscaled.val.tdiv (10 ^ e.scale.toNat)))
      else .error .decimalOutOfRange := by
  rw [toInt64]
  norm_cast

/-- An exact number is converted to the 64-bit integer that it is. -/
theorem toInt64_eq_ok_iff {raw : RawValue} {d : Decimal} (hraw : raw.decimal? = some d)
    (n : Int64) : toInt64 raw = .ok n ↔ (n.toInt : ℚ) = d.toRat ∧ ¬ d.FarZero 0 := by
  rw [intCast_eq_toRat_iff, Decimal.FarZero]
  cases raw with
  | int m =>
      obtain rfl := Option.some.inj hraw
      simp only [toInt64, Int128.ofInt64, Except.ok.injEq, UInt8.toNat_zero, pow_zero, mul_one,
        Nat.zero_add, Nat.not_lt_zero, or_false, and_false, not_false_eq_true, and_true]
      exact Int64.toInt_inj.symm
  | uint m =>
      obtain rfl := Option.some.inj hraw
      have hn := n.le_toInt
      have hn' := n.toInt_lt
      simp only [toInt64, Int128.ofUInt64, UInt8.toNat_zero, pow_zero, mul_one,
        Nat.zero_add, Nat.not_lt_zero, or_false, and_false, not_false_eq_true, and_true]
      by_cases hm : m.toNat < 1 <<< 63
      · rw [if_pos hm, Except.ok.injEq, ← Int64.toInt_inj,
          Int64.toInt_ofInt_of_le (by omega) (by omega)]
      · rw [if_neg hm]
        refine ⟨fun h => (by cases h), fun h => ?_⟩
        omega
  | decimal e =>
      obtain rfl := Option.some.inj hraw
      have hn := n.le_toInt
      have hn' := n.toInt_lt
      simp only [Nat.not_lt_zero, false_or, Nat.zero_add]
      rw [← Decimal.exact_quotient_iff, toInt64_decimal]
      split_ifs with hfar heven hrange
      · simp only [hfar, not_true_eq_false, false_and]
      · simp only [heven, false_and, and_false]
      · simp only [Except.ok.injEq, hfar, not_false_eq_true, not_not.1 heven, true_and]
        rw [← Int64.toInt_inj, Int64.toInt_ofInt_of_le (by omega) (by omega)]
      · -- The quotient is no 64-bit integer, so it is not the one asked for.
        refine ⟨fun h => (by cases h), fun h => absurd ?_ hrange⟩
        omega
  | _ => cases hraw

/-- It is converted to an integer of fewer bits if it fits these. -/
theorem toNarrow_eq_ok_iff {raw : RawValue} {d : Decimal} (hraw : raw.decimal? = some d)
    {bits : Nat} (hbits : bits ≤ 64) (n : Int) :
    toNarrow bits raw = .ok n ↔
      ((n : ℚ) = d.toRat ∧ ¬ d.FarZero 0) ∧ -2 ^ (bits - 1) ≤ n ∧ n < 2 ^ (bits - 1) := by
  have hwidth : (2 : Int) ^ (bits - 1) ≤ 2 ^ 63 := pow_le_pow_right₀ (by norm_num) (by omega)
  rw [toNarrow, except_bind_eq_ok]
  simp only [Nat.shiftLeft_eq, one_mul, Nat.cast_pow, Nat.cast_ofNat]
  constructor
  · rintro ⟨m, hm, h⟩
    split_ifs at h with hrange
    obtain rfl := Except.ok.inj h
    exact ⟨(toInt64_eq_ok_iff hraw m).1 hm, hrange⟩
  · rintro ⟨hexact, hrange⟩
    have hn := Int64.toInt_ofInt_of_le (hrange.1.trans' (neg_le_neg hwidth))
      (hrange.2.trans_le hwidth)
    refine ⟨Int64.ofInt n, (toInt64_eq_ok_iff hraw _).2 (by rwa [hn]), ?_⟩
    rw [hn, if_pos hrange]
    rfl

/-- Any 64-bit integer fits 64 bits. -/
theorem toNarrow_64 (raw : RawValue) : toNarrow 64 raw = (toInt64 raw).map (·.toInt) := by
  rw [toNarrow]
  cases toInt64 raw with
  | error _ => rfl
  | ok n =>
      have hn := n.le_toInt
      have hn' := n.toInt_lt
      exact if_pos ⟨by omega, by omega⟩

/-- An exact number is the decimal that it is taken for. -/
theorem toExactDecimal_eq {raw : RawValue} {d : Decimal} (hraw : raw.decimal? = some d) :
    toExactDecimal raw = .ok d := by
  cases raw with
  | int _ =>
      cases hraw
      rfl
  | uint _ =>
      cases hraw
      rfl
  | decimal _ =>
      cases hraw
      rfl
  | _ => cases hraw

end Coercion

section Coerce

open Coercion

variable {raw : RawValue} {d : Decimal} {target : DataType} {g : ExactGrid}

theorem isNull_eq_false_of_decimal? (hraw : raw.decimal? = some d) : raw.isNull = false := by
  cases raw with
  | null => cases hraw
  | _ => rfl

/-- An integer type takes an exact number as an integer of its bits. -/
theorem coerce_of_isInteger (hraw : raw.decimal? = some d) (hint : target.isInteger = true)
    (hgrid : target.grid? = some g) (pattern : Option Pattern) :
    coerce raw target pattern = (toNarrow g.bits raw).map target.ofInt := by
  unfold coerce
  rw [if_neg (Bool.eq_false_iff.1 (isNull_eq_false_of_decimal? hraw))]
  cases target with
  | tinyInt =>
      cases hgrid
      rfl
  | smallInt =>
      cases hgrid
      rfl
  | int =>
      cases hgrid
      rfl
  | bigInt =>
      cases hgrid
      change (toInt64 raw).map Value.bigInt = (toNarrow 64 raw).map DataType.bigInt.ofInt
      rw [toNarrow_64]
      cases toInt64 raw with
      | error _ => rfl
      | ok n => exact congrArg (Except.ok ∘ Value.bigInt) (Int64.ofInt_toInt n).symm
  | _ => cases hint

/-- A type with a scale takes an exact number as a decimal of that scale. -/
theorem coerce_decimal (hraw : raw.decimal? = some d) (precision : Option UInt8) (scale : UInt8)
    (pattern : Option Pattern) :
    coerce raw (.decimal precision (some scale)) pattern =
      ((d.rescale scale).mapError CoercionFault.rescaling).map .decimal := by
  unfold coerce
  rw [if_neg (Bool.eq_false_iff.1 (isNull_eq_false_of_decimal? hraw))]
  dsimp only
  rw [toDecimal, toExactDecimal_eq hraw]
  rfl

/-- An integer's value is the integer. -/
theorem Value.exactNumber_of_isInteger (hint : target.isInteger = true) {v : Value}
    (htype : v.matchesType target = true) (q : ℚ) :
    v.exactNumber = some q ↔ ∃ n : Int, v.toInt? = some n ∧ (n : ℚ) = q := by
  have hv : v.exactNumber = v.toInt?.map fun n : Int => (n : ℚ) := by
    cases v with
    | decimal _ =>
        cases target with
        | decimal _ _ => cases hint
        | _ => cases htype
    | _ => rfl
  rw [hv, Option.map_eq_some_iff]

/-- An exact number is converted to a value of the type that is the same number, if
    there is one, unless it is a zero that is too far from the type's places. -/
theorem coerce_eq_ok_iff_exact (hraw : raw.decimal? = some d) (hgrid : target.grid? = some g)
    (pattern : Option Pattern) (v : Value) :
    coerce raw target pattern = .ok v ↔
      v.matchesType target = true ∧ v.exactNumber = some d.toRat ∧ ¬ d.FarZero g.places := by
  by_cases hint : target.isInteger = true
  · have hplaces := DataType.grid?_of_isInteger hint hgrid
    rw [coerce_of_isInteger hraw hint hgrid, except_map_eq_ok, hplaces.1]
    constructor
    · rintro ⟨n, hn, heq⟩
      have hexact := (toNarrow_eq_ok_iff hraw hplaces.2 n).1 hn
      have hvalue := (DataType.ofInt_eq_iff hint hgrid n v).1 ⟨heq, hexact.2⟩
      exact ⟨hvalue.1, (Value.exactNumber_of_isInteger hint hvalue.1 _).2 ⟨n, hvalue.2, hexact.1.1⟩,
        hexact.1.2⟩
    · rintro ⟨htype, hvalue, hnot⟩
      obtain ⟨n, hn, hnum⟩ := (Value.exactNumber_of_isInteger hint htype _).1 hvalue
      have heq := (DataType.ofInt_eq_iff hint hgrid n v).2 ⟨htype, hn⟩
      exact ⟨n, (toNarrow_eq_ok_iff hraw hplaces.2 n).2 ⟨⟨hnum, hnot⟩, heq.2⟩, heq.1⟩
  · obtain ⟨precision, scale, rfl⟩ := DataType.eq_decimal hint hgrid
    cases hgrid
    rw [coerce_decimal hraw, except_map_eq_ok]
    simp only [except_mapError_eq_ok, Decimal.rescale_eq_ok_iff]
    constructor
    · rintro ⟨e, ⟨rfl, hnum, hnot⟩, rfl⟩
      exact ⟨beq_self_eq_true _, congrArg some hnum, hnot⟩
    · rintro ⟨htype, hvalue, hnot⟩
      cases v with
      | decimal e =>
          have hscale : scale = e.scale := LawfulBEq.eq_of_beq htype
          exact ⟨e, ⟨hscale.symm, Option.some.inj hvalue, hnot⟩, rfl⟩
      | null => cases hvalue
      | _ => cases htype

/-- The values of a type are the numbers on its grid. -/
theorem DataType.exists_exactNumber_iff (hgrid : target.grid? = some g) (q : ℚ) :
    (∃ v : Value, v.matchesType target = true ∧ v.exactNumber = some q) ↔ g.Holds q := by
  have hten : ∀ k : Nat, (10 : ℚ) ^ k ≠ 0 := fun k => pow_ne_zero k (by norm_num)
  unfold ExactGrid.Holds
  by_cases hint : target.isInteger = true
  · have hplaces := (DataType.grid?_of_isInteger hint hgrid).1
    simp only [hplaces, pow_zero, mul_one]
    constructor
    · rintro ⟨v, htype, hv⟩
      obtain ⟨n, hn, hnum⟩ := (Value.exactNumber_of_isInteger hint htype q).1 hv
      exact ⟨n, hnum.symm, ((DataType.ofInt_eq_iff hint hgrid n v).2 ⟨htype, hn⟩).2⟩
    · rintro ⟨n, hnum, hrange⟩
      have hv := (DataType.ofInt_eq_iff hint hgrid n _).1 ⟨rfl, hrange⟩
      exact ⟨_, hv.1, (Value.exactNumber_of_isInteger hint hv.1 q).2 ⟨n, hv.2, hnum.symm⟩⟩
  · obtain ⟨precision, scale, rfl⟩ := DataType.eq_decimal hint hgrid
    cases hgrid
    constructor
    · rintro ⟨v, htype, hv⟩
      cases v with
      | decimal e =>
          have hscale : scale = e.scale := LawfulBEq.eq_of_beq htype
          have hnum := Option.some.inj hv
          rw [Decimal.toRat, ← hscale, div_eq_iff (hten _)] at hnum
          exact ⟨e.unscaled.val, hnum.symm, e.unscaled.val_mem⟩
      | null => cases hv
      | _ => cases htype
    · rintro ⟨n, hnum, hrange⟩
      refine ⟨.decimal ⟨⟨n, hrange⟩, scale⟩, beq_self_eq_true scale, congrArg some ?_⟩
      rw [Decimal.toRat, div_eq_iff (hten _)]
      exact hnum.symm

/-- An exact number is converted to what is the same number among the values of
    the type, and to nothing else. This succeeds exactly if the number lies on the
    grid of the type, unless it is a zero that is too far from the type's places. -/
theorem coerce_exact_iff (hraw : raw.decimal? = some d) (hgrid : target.grid? = some g)
    (pattern : Option Pattern) :
    (∀ v, coerce raw target pattern = .ok v ↔
        v.matchesType target = true ∧ v.exactNumber = some d.toRat ∧ ¬ d.FarZero g.places) ∧
      ((∃ v, coerce raw target pattern = .ok v) ↔
        g.Holds d.toRat ∧ ¬ d.FarZero g.places) := by
  have hiff := coerce_eq_ok_iff_exact hraw hgrid pattern
  refine ⟨hiff, ?_⟩
  rw [← DataType.exists_exactNumber_iff hgrid]
  simp only [hiff, ← and_assoc, exists_and_right]

end Coerce

/-- The largest unsigned integer has room for eighteen places. Zero is not taken as
    far as 39 places, although it could be written there. -/
theorem coerce_largestPlaces :
    coerce (.uint 18446744073709551615) (.decimal none (some 18)) none =
        .ok (.decimal ⟨⟨18446744073709551615 * 10 ^ 18, by decide⟩, 18⟩) ∧
      ¬ ∃ v, coerce (.int 0) (.decimal none (some 39)) none = .ok v := by
  constructor
  · refine ((coerce_exact_iff rfl rfl none).1 _).2 ⟨rfl, congrArg some ?_, ?_⟩
    · exact (Decimal.toRat_eq_iff _ _).2 (by decide)
    · exact fun hfar => absurd hfar.1 (by decide)
  · intro h
    exact ((coerce_exact_iff rfl rfl none).2.1 h).2 ⟨rfl, by decide⟩

end RegionScan
