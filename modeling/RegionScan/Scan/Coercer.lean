import RegionScan.Scan.Config

/-!
# Coercers

The conversion of the columns of one scan.

A coercer holds the output field of every column and the pattern configured for
the field's name, compiled. It is made before the first row is read, so a bad
pattern is found before any value is.

## Main definitions

* `Coercer`: Fields and their patterns.
* `Coercer.compile`: The coercer of fields and a configuration.
* `Coercer.coerce`: A raw value of a column converted.
-/

namespace RegionScan

/-- Fields and their patterns, one of each for every column. -/
structure Coercer where
  fields : List Field
  patterns : List (Option Pattern)

namespace Coercer

/-- The pattern configured for a field, compiled. -/
def compileField (config : ScanConfig) (f : Field) : Except ScanError (Option Pattern) :=
  match config.patterns.find? f.name with
  | none => .ok none
  | some text =>
    match Pattern.compile text with
    | .ok p => .ok (some p)
    | .error fault => .error (.invalidPattern f.name text fault)

/-- The coercer of fields and a configuration. Patterns for other names are
    not looked at. -/
def compile (fields : List Field) (config : ScanConfig) : Except ScanError Coercer := do
  let patterns ← fields.mapM (compileField config)
  return ⟨fields, patterns⟩

/-- The pattern of a column's field. -/
def pattern? (c : Coercer) (ordinal : Nat) : Option Pattern := (c.patterns[ordinal]?).join

/-- A raw value of a column, converted to the type of its field. -/
def coerce (c : Coercer) (ordinal : Nat) (raw : RawValue) : Except ScanError Value :=
  match c.fields[ordinal]? with
  | none => .error (.invalidProjection (.ordinalOutOfRange ordinal c.fields.length))
  | some f =>
    (RegionScan.coerce raw f.type (c.pattern? ordinal)).mapError
      (.coercion f.name raw.kind f.type ·)

end Coercer

end RegionScan
