import RegionScan.RawValue

/-!
# Filters

Conditions on rows that the store checks while it reads.

A filter names columns by their place in the stored row. It is evaluated in
the three-valued logic of SQL: a comparison with a missing value is neither
true nor false, and a row is kept only if the filter is true of it. The parts
of a conjunction are evaluated in order and only until one is false, those of a
disjunction until one is true, so a part that cannot be evaluated is reported
only if it is reached.

## Main definitions

* `CompareOp`, `Filter`: Comparisons and conditions.
* `FilterFault`: Why a filter cannot be evaluated.
* `Filter.evaluate`: The truth value of a filter on a row, none if unknown.
* `Filter.accepts`: Whether a row is kept.
* `Filter.maxColumn?`: The last column a filter names.
* `Filter.display`: A filter as text.
-/

namespace RegionScan

/-- A comparison. -/
inductive CompareOp where
  | eq
  | notEq
  | lt
  | ltEq
  | gt
  | gtEq
  deriving DecidableEq

namespace CompareOp

/-- Whether a comparison holds of two values in a given order. -/
def holds (op : CompareOp) (order : Ordering) : Bool :=
  match op with
  | .eq => order == .eq
  | .notEq => order != .eq
  | .lt => order == .lt
  | .ltEq => order != .gt
  | .gt => order == .gt
  | .gtEq => order != .lt

/-- The sign of a comparison. -/
def symbol : CompareOp → String
  | .eq => "="
  | .notEq => "<>"
  | .lt => "<"
  | .ltEq => "<="
  | .gt => ">"
  | .gtEq => ">="

end CompareOp

/-- A condition on rows. Columns are places in the stored row. -/
inductive Filter where
  | compare (column : Nat) (op : CompareOp) (value : RawValue)
  | isNull (column : Nat)
  | isNotNull (column : Nat)
  | all (parts : List Filter)
  | any (parts : List Filter)
  | not (inner : Filter)

/-- Why a filter cannot be evaluated on a row. -/
inductive FilterFault where
  | columnOutOfRange (column width : Nat)
  | incomparable (left right : RawKind)
  /-- A fault that a store reports in its own words. -/
  | reported (message : String)
  deriving DecidableEq

/-- The wording of the fault. -/
def FilterFault.message : FilterFault → String
  | .columnOutOfRange column width => s!"column {column} out of range for {width} columns"
  | .incomparable left right => "cannot compare " ++ left.name ++ " with " ++ right.name
  | .reported message => message

namespace Filter

/-- A filter and a further condition. A conjunction takes the condition as its
    last part. -/
def and (f g : Filter) : Filter :=
  match f with
  | .all parts => .all (parts ++ [g])
  | _ => .all [f, g]

mutual

/-- The last column that a filter names. -/
def maxColumn? : Filter → Option Nat
  | .compare column _ _ => some column
  | .isNull column => some column
  | .isNotNull column => some column
  | .all parts => maxColumnOf? parts
  | .any parts => maxColumnOf? parts
  | .not inner => inner.maxColumn?

/-- The last column that any of several filters names. -/
def maxColumnOf? : List Filter → Option Nat
  | [] => none
  | part :: rest =>
    match part.maxColumn?, maxColumnOf? rest with
    | some m, some n => some (max m n)
    | some m, none => some m
    | none, n => n

end

/-- The value of a row at a place. -/
def column (row : List RawValue) (i : Nat) : Except FilterFault RawValue :=
  match row[i]? with
  | some v => .ok v
  | none => .error (.columnOutOfRange i row.length)

/-- The truth value of a comparison. It is unknown if a value is missing. -/
def compareValues (left : RawValue) (op : CompareOp) (right : RawValue) :
    Except FilterFault (Option Bool) :=
  if left.isNull || right.isNull then .ok none
  else
    match left.compare? right with
    | some order => .ok (some (op.holds order))
    | none => .error (.incomparable left.kind right.kind)

mutual

/-- The truth value of a filter on a row, none if it is unknown. -/
def evaluate (row : List RawValue) : Filter → Except FilterFault (Option Bool)
  | .compare i op value =>
    match column row i with
    | .error e => .error e
    | .ok left => compareValues left op value
  | .isNull i => (column row i).map fun v => some v.isNull
  | .isNotNull i => (column row i).map fun v => some !v.isNull
  | .all parts => evaluateAll row parts
  | .any parts => evaluateAny row parts
  | .not inner => (inner.evaluate row).map fun v => v.map (!·)

/-- The truth value of a conjunction. A false part settles it, and the parts
    behind that one are not evaluated. -/
def evaluateAll (row : List RawValue) : List Filter → Except FilterFault (Option Bool)
  | [] => .ok (some true)
  | part :: rest =>
    match part.evaluate row with
    | .error e => .error e
    | .ok (some false) => .ok (some false)
    | .ok (some true) => evaluateAll row rest
    | .ok none =>
      match evaluateAll row rest with
      | .ok (some true) => .ok none
      | other => other

/-- The truth value of a disjunction. A true part settles it, and the parts
    behind that one are not evaluated. -/
def evaluateAny (row : List RawValue) : List Filter → Except FilterFault (Option Bool)
  | [] => .ok (some false)
  | part :: rest =>
    match part.evaluate row with
    | .error e => .error e
    | .ok (some true) => .ok (some true)
    | .ok (some false) => evaluateAny row rest
    | .ok none =>
      match evaluateAny row rest with
      | .ok (some false) => .ok none
      | other => other

end

/-- Whether a row is kept: the filter is true of it. -/
def accepts (f : Filter) (row : List RawValue) : Except FilterFault Bool :=
  (f.evaluate row).map (· == some true)

mutual

/-- A filter as text. -/
def display : Filter → String
  | .compare column op value =>
    "#" ++ toString column ++ " " ++ op.symbol ++ " " ++ value.display
  | .isNull column => "#" ++ toString column ++ " IS NULL"
  | .isNotNull column => "#" ++ toString column ++ " IS NOT NULL"
  | .all parts => "(" ++ displayJoined " AND " parts ++ ")"
  | .any parts => "(" ++ displayJoined " OR " parts ++ ")"
  | .not inner => "NOT " ++ inner.display

/-- Several filters with a word between them. -/
def displayJoined (word : String) : List Filter → String
  | [] => ""
  | [part] => part.display
  | part :: rest => part.display ++ word ++ displayJoined word rest

end

end Filter

end RegionScan
