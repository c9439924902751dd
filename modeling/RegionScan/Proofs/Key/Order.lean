import Mathlib.Data.UInt
import RegionScan.Region

/-!
# The Order of Keys

Why a range of keys is a range of handles.

Keys are compared byte by byte, and a handle is written into a key with its
most significant byte first after its sign was moved out of the way. So of two
row keys of one table the lesser one belongs to the lesser handle, and the row
keys of a table are above its prefix. These are the facts that cutting a table
into regions rests on.

## Theorems

* `compare_append_left`: A common beginning does not matter.
* `compare_append_right`: A list is below those that it begins.
* `compare_append_append`: Beginnings of one length decide before what follows.
* `compare_bigEndian`: Fixed-width big-endian bytes are ordered as numbers.
* `Key.compare_records`: Row keys are ordered by table, then by handle.
* `Key.compare_record`: Row keys of one table are ordered as their handles.
* `Key.prefix_lt_record`: A table's prefix is below its row keys.
-/

namespace RegionScan

instance : Std.TransOrd Key := inferInstanceAs (Std.TransCmp (compareOn Key.bytes))

/-- A common beginning does not matter for the order of lists. -/
theorem compare_append_left [Ord α] [Std.ReflOrd α] (p a b : List α) :
    compare (p ++ a) (p ++ b) = compare a b := by
  induction p with
  | nil => rfl
  | cons x xs ih =>
      rw [List.cons_append, List.cons_append, List.compare_cons_cons, Std.ReflOrd.compare_self,
        Ordering.eq_then, ih]

/-- A list is not above any that it begins. -/
theorem isLE_compare_append_right [Ord α] [Std.ReflOrd α] (p a : List α) :
    (compare p (p ++ a)).isLE := by
  have h := compare_append_left p [] a
  rw [List.append_nil] at h
  rw [h]
  exact List.isLE_compare_nil_left

/-- A list is below all longer ones that it begins. -/
theorem compare_append_right [Ord α] [Std.ReflOrd α] (p : List α) {a : List α} (ha : a ≠ []) :
    compare p (p ++ a) = .lt := by
  have h := compare_append_left p [] a
  rw [List.append_nil] at h
  rw [h]
  cases a with
  | nil => exact absurd rfl ha
  | cons x xs => rfl

/-- Lists that begin with parts of one length are ordered by these parts, and
    by what follows only if the parts are the same. -/
theorem compare_append_append [Ord α] {a b : List α} (h : a.length = b.length) (x y : List α) :
    compare (a ++ x) (b ++ y) = (compare a b).then (compare x y) := by
  induction a generalizing b with
  | nil =>
      have hb : b = [] := List.eq_nil_of_length_eq_zero h.symm
      rw [hb]
      rfl
  | cons c cs ih =>
      cases b with
      | nil => cases h
      | cons d ds =>
          have hlength : cs.length = ds.length := Nat.succ.inj h
          rw [List.cons_append, List.cons_append, List.compare_cons_cons, List.compare_cons_cons,
            ih hlength, Ordering.then_assoc]

/-- Handles are ordered as the whole numbers they hold. -/
theorem compare_handle (a b : Int64) : compare a b = compare a.toInt b.toInt := by
  have heq : a = b ↔ a.toInt = b.toInt := Int64.toInt_inj.symm
  simp only [compare, compareOfLessAndEq, Int64.lt_iff_toInt_lt, heq]

/-- A number is ordered by its quotient first, then by its remainder. -/
theorem compare_quotient_remainder {base r r' : Nat} (q q' : Nat) (hr : r < base)
    (hr' : r' < base) :
    compare (r + base * q) (r' + base * q') = (compare q q').then (compare r r') := by
  rcases Nat.lt_trichotomy q q' with h | h | h
  · have hstep : base * (q + 1) ≤ base * q' := Nat.mul_le_mul_left base h
    rw [Nat.mul_add] at hstep
    -- A remainder is below the base, so it cannot make up for the quotient.
    rw [Nat.compare_eq_lt.2 h, Nat.compare_eq_lt.2 (by omega)]
    rfl
  · subst h
    rw [Nat.compare_eq_eq.2 rfl, Ordering.eq_then]
    rcases Nat.lt_trichotomy r r' with h | h | h
    · rw [Nat.compare_eq_lt.2 h, Nat.compare_eq_lt.2 (by omega)]
    · rw [h, Nat.compare_eq_eq.2 rfl, Nat.compare_eq_eq.2 rfl]
    · rw [Nat.compare_eq_gt.2 h, Nat.compare_eq_gt.2 (by omega)]
  · have hstep : base * (q' + 1) ≤ base * q := Nat.mul_le_mul_left base h
    rw [Nat.mul_add] at hstep
    rw [Nat.compare_eq_gt.2 h, Nat.compare_eq_gt.2 (by omega)]
    rfl

/-- Fixed-width big-endian bytes are ordered as the numbers they are taken
    from, of which they keep the low part. The induction is on the width: the
    first byte is a quotient, the others are the remainder. -/
theorem compare_bigEndian (width m n : Nat) :
    compare (bigEndian width m) (bigEndian width n)
      = compare (m % 256 ^ width) (n % 256 ^ width) := by
  induction width with
  | zero =>
      rw [Nat.pow_zero, Nat.mod_one, Nat.mod_one]
      rfl
  | succ w ih =>
      have hpos : 0 < 256 ^ w := Nat.pow_pos (by decide)
      have hshift (k : Nat) : k >>> (8 * w) = k / 256 ^ w := by
        rw [Nat.shiftRight_eq_div_pow, Nat.pow_mul]
      rw [bigEndian, bigEndian, List.compare_cons_cons, ih, UInt8.compare_eq_toNat_compare_toNat,
        UInt8.toNat_ofNat', UInt8.toNat_ofNat', hshift, hshift, @Nat.mod_pow_succ m 256 w,
        @Nat.mod_pow_succ n 256 w,
        compare_quotient_remainder _ _ (Nat.mod_lt _ hpos) (Nat.mod_lt _ hpos)]

/-- A number is written in as many bytes as are asked for. -/
theorem length_bigEndian (width n : Nat) : (bigEndian width n).length = width := by
  induction width with
  | zero => rfl
  | succ w ih => rw [bigEndian, List.length_cons, ih]

namespace Key

/-- The rank of a handle fits eight bytes. -/
theorem handleRank_lt (h : Int64) : handleRank h < 256 ^ 8 := by
  have hlow := h.le_toInt
  have hhigh := h.toInt_lt
  rw [handleRank]
  omega

/-- Ranks are ordered as handles. -/
theorem compare_handleRank (a b : Int64) :
    compare (handleRank a) (handleRank b) = compare a b := by
  have ha := a.le_toInt
  have hb := b.le_toInt
  rw [compare_handle, handleRank, handleRank]
  rcases Int.lt_trichotomy a.toInt b.toInt with h | h | h
  · rw [Std.compare_eq_lt.2 h, Nat.compare_eq_lt]
    omega
  · rw [h, Std.ReflOrd.compare_self, Std.ReflOrd.compare_self]
  · rw [Std.compare_eq_gt.2 h, Nat.compare_eq_gt]
    omega

/-- The prefixes of tables are as long as each other. -/
theorem length_tablePrefix (table : UInt64) : (tablePrefix table).bytes.length = 11 := by
  rw [tablePrefix, List.length_append, List.length_cons, length_bigEndian]
  rfl

/-- The prefixes of tables are ordered as the numbers of the tables. -/
theorem compare_tablePrefix (a b : UInt64) :
    compare (tablePrefix a).bytes (tablePrefix b).bytes = compare a.toNat b.toNat := by
  have hlength : (tableMark :: bigEndian 8 a.toNat).length
      = (tableMark :: bigEndian 8 b.toNat).length := by
    rw [List.length_cons, List.length_cons, length_bigEndian, length_bigEndian]
  -- Eight bytes are enough for the numbers, so nothing of them is cut off.
  have ha : a.toNat % 256 ^ 8 = a.toNat := Nat.mod_eq_of_lt a.toNat_lt
  have hb : b.toNat % 256 ^ 8 = b.toNat := Nat.mod_eq_of_lt b.toNat_lt
  refine (compare_append_append hlength recordSeparator recordSeparator).trans ?_
  rw [List.compare_cons_cons, Std.ReflOrd.compare_self, Ordering.eq_then, compare_bigEndian, ha, hb,
    Std.ReflOrd.compare_self, Ordering.then_eq]

/-- Row keys are ordered by the numbers of their tables, and by their handles if
    these are the same. -/
theorem compare_records (table other : UInt64) (a b : Int64) :
    compare (record table a) (record other b)
      = (compare table.toNat other.toNat).then (compare a b) := by
  have hlength := (length_tablePrefix table).trans (length_tablePrefix other).symm
  refine (compare_append_append hlength (bigEndian 8 (handleRank a))
    (bigEndian 8 (handleRank b))).trans ?_
  rw [compare_tablePrefix, compare_bigEndian, Nat.mod_eq_of_lt (handleRank_lt a),
    Nat.mod_eq_of_lt (handleRank_lt b), compare_handleRank]

/-- Row keys of one table are ordered as their handles. -/
theorem compare_record (table : UInt64) (a b : Int64) :
    compare (record table a) (record table b) = compare a b := by
  rw [compare_records, Std.ReflOrd.compare_self, Ordering.eq_then]

/-- A table's prefix is below its row keys. -/
theorem prefix_lt_record (table : UInt64) (h : Int64) :
    compare (tablePrefix table) (record table h) = .lt :=
  compare_append_right _ (List.cons_ne_nil _ _)

end Key

end RegionScan
