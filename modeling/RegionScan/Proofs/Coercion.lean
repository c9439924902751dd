import RegionScan.Proofs.Store.Reading
import RegionScan.Scan.Coercer

/-!
# Coercion

What a raw value becomes when it is converted to a type.

A conversion that succeeds gives a value of the type that was asked for, however
many converters it goes through, because the last thing done is to put the
result into the constructor of the type. Only a decimal has more to a type than
its constructor. Its scale is that of the type if the type has one, because
rescaling gives a decimal at exactly the scale it is asked for or fails.

A missing value is looked for before the type is, so it stays missing and is
never refused. No converter gives a missing value, so nothing that was there gets
lost.

## Theorems

* `Decimal.scale_of_rescale`: Rescaling gives the scale asked for.
* `coerce_eq_ok`: A converted value has its type, and is missing only if the raw
  value was.
* `Coercer.coerce_eq_ok`: The same for the column of a scan.
* `Coercer.coerce_null`: A missing value is converted.
-/

namespace RegionScan

theorem RawValue.isNull_iff (raw : RawValue) : raw.isNull = true ↔ raw = .null := by
  cases raw with
  | null => simp only [isNull]
  | _ => simp only [isNull, Bool.false_eq_true, reduceCtorEq]

/-- A decimal that could be rescaled has the scale asked for. -/
theorem Decimal.scale_of_rescale {d rescaled : Decimal} {scale : UInt8}
    (h : d.rescale scale = .ok rescaled) : rescaled.scale = scale := by
  rw [rescale] at h
  -- Places are added or taken away, and may be too many either way.
  split at h
  · dsimp only at h
    split at h
    · cases h
    · split at h
      · obtain rfl := Except.ok.inj h
        rfl
      · cases h
  · dsimp only at h
    split at h
    · cases h
    · split at h
      · cases h
      · split at h
        · obtain rfl := Except.ok.inj h
          rfl
        · cases h

/-- A decimal for a type that has a scale has that scale. -/
theorem Coercion.scale_of_toDecimal {scale : Option UInt8} {raw : RawValue} {d : Decimal}
    (h : toDecimal scale raw = .ok d) : scale.all (· == d.scale) = true := by
  rcases except_bind_eq_ok.1 h with ⟨exact, _, hscaled⟩
  cases scale with
  | none => rfl
  | some s =>
      have hscale := Decimal.scale_of_rescale (except_mapError_eq_ok.1 hscaled)
      rw [Option.all_some, hscale, beq_self_eq_true]

/-- A value that is there is converted to one that is there, of the type that was
    asked for. -/
theorem coerce_of_not_null {raw : RawValue} {target : DataType} {pattern : Option Pattern}
    {value : Value} (hraw : raw.isNull = false) (h : coerce raw target pattern = .ok value) :
    value.matchesType target = true ∧ value ≠ .null := by
  unfold coerce at h
  rw [if_neg (Bool.eq_false_iff.1 hraw)] at h
  cases target with
  | decimal precision scale =>
      rcases except_map_eq_ok.1 h with ⟨d, hd, rfl⟩
      exact ⟨Coercion.scale_of_toDecimal hd, Value.noConfusion⟩
  | _ =>
      -- The converter's result is put into the constructor of the type.
      rcases except_map_eq_ok.1 h with ⟨_, _, rfl⟩
      exact ⟨rfl, Value.noConfusion⟩

/-- A missing value stays missing, whatever the type and the pattern. -/
theorem coerce_null (target : DataType) (pattern : Option Pattern) :
    coerce .null target pattern = .ok .null := by
  unfold coerce
  exact if_pos (RawValue.null.isNull_iff.2 rfl)

/-- A converted value has the type that was asked for, and it is missing if and
    only if the raw value was. -/
theorem coerce_eq_ok {raw : RawValue} {target : DataType} {pattern : Option Pattern}
    {value : Value} (h : coerce raw target pattern = .ok value) :
    value.matchesType target = true ∧ (value = .null ↔ raw = .null) := by
  by_cases hraw : raw = .null
  · rw [hraw, coerce_null] at h
    obtain rfl := Except.ok.inj h
    exact ⟨rfl, iff_of_true rfl hraw⟩
  · have hnot : raw.isNull = false := by
      rw [← Bool.not_eq_true, raw.isNull_iff]
      exact hraw
    have hvalue := coerce_of_not_null hnot h
    exact ⟨hvalue.1, iff_of_false hvalue.2 hraw⟩

namespace Coercer

/-- A coercer has the fields that it was compiled for. -/
theorem fields_of_compile {fields : List Field} {config : ScanConfig} {coercer : Coercer}
    (h : compile fields config = .ok coercer) : coercer.fields = fields := by
  rcases except_bind_eq_ok.1 h with ⟨patterns, _, h⟩
  obtain rfl := Except.ok.inj h
  rfl

/-- What a coercer gives for a column is of the type of its field. -/
theorem coerce_eq_ok {c : Coercer} {ordinal : Nat} {raw : RawValue} {value : Value}
    (h : c.coerce ordinal raw = .ok value) :
    ∃ field, c.fields[ordinal]? = some field ∧ value.matchesType field.type = true ∧
      (value = .null ↔ raw = .null) := by
  rw [Coercer.coerce] at h
  cases hfield : c.fields[ordinal]? with
  | none =>
      rw [hfield] at h
      cases h
  | some field =>
      rw [hfield] at h
      exact ⟨field, rfl, RegionScan.coerce_eq_ok (except_mapError_eq_ok.1 h)⟩

/-- A missing value of any column is converted. -/
theorem coerce_null {c : Coercer} {ordinal : Nat} (h : ordinal < c.fields.length) :
    c.coerce ordinal .null = .ok .null := by
  rw [Coercer.coerce, List.getElem?_eq_getElem h]
  exact except_mapError_eq_ok.2 (RegionScan.coerce_null _ _)

/-- A value of a column there is is converted, or refused by a failure that
    names its field and its kind. -/
theorem coerce_error {c : Coercer} {ordinal : Nat} (h : ordinal < c.fields.length)
    {raw : RawValue} {err : ScanError} (herror : c.coerce ordinal raw = .error err) :
    ∃ fault, err = .coercion c.fields[ordinal].name raw.kind c.fields[ordinal].type fault := by
  rw [Coercer.coerce, List.getElem?_eq_getElem h] at herror
  dsimp only at herror
  cases hcoerce : RegionScan.coerce raw c.fields[ordinal].type (c.pattern? ordinal) with
  | ok value =>
      rw [hcoerce] at herror
      cases herror
  | error fault =>
      rw [hcoerce] at herror
      exact ⟨fault, (Except.error.inj herror).symm⟩

end Coercer

end RegionScan
