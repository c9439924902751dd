import RegionScan.Proofs.Key.Order

/-!
# Row Keys

What the key of a row says of the row, and what is read back from it.

The bytes of a key are two numbers of fixed width with a separator between them and
a letter in front. Written in so many bytes, a number is read back, and so many
bytes are the writing of the number that they spell. So row keys of different rows
are different, a row key begins with the prefix of its own table and of no other,
and the handle can be taken from it.

Reading a handle looks at the length of a key and at its first letter. It does not
look at the separator. So it reads a handle from all keys that are laid out as row
keys with any two bytes between the numbers, and from no others. Among these the row
keys are the ones that have the separator in its place.

## Theorems

* `ofBigEndian_bigEndian`, `bigEndian_ofBigEndian`: Numbers and their bytes.
* `Key.record_preserves_order`: Row keys are ordered as their tables and handles.
* `Key.recordHandle?_eq_some_iff_bytes`: What is looked at to read a handle.
* `Key.recordHandle?_eq_some_iff`: The keys from which a handle is read.
-/

namespace RegionScan

/-- Reading goes on from what stands before the bytes, which counts as often as there
    are numbers of so many bytes. -/
theorem foldl_eq_ofBigEndian (bytes : List UInt8) :
    ∀ n : Nat, bytes.foldl (fun n b => 256 * n + b.toNat) n
      = 256 ^ bytes.length * n + ofBigEndian bytes := by
  induction bytes with
  | nil =>
      intro n
      rw [List.length_nil, Nat.pow_zero, Nat.one_mul]
      rfl
  | cons b rest ih =>
      intro n
      rw [ofBigEndian, List.foldl_cons, List.foldl_cons, ih, ih, List.length_cons, Nat.pow_succ,
        Nat.mul_zero, Nat.zero_add, Nat.mul_add, Nat.mul_assoc, Nat.add_assoc]

/-- The first byte counts as often as there are numbers of the others. -/
theorem ofBigEndian_cons (b : UInt8) (rest : List UInt8) :
    ofBigEndian (b :: rest) = 256 ^ rest.length * b.toNat + ofBigEndian rest := by
  rw [ofBigEndian, List.foldl_cons, Nat.mul_zero, Nat.zero_add, foldl_eq_ofBigEndian]

/-- So many bytes spell no larger number. -/
theorem ofBigEndian_lt (bytes : List UInt8) : ofBigEndian bytes < 256 ^ bytes.length := by
  induction bytes with
  | nil => exact Nat.one_pos
  | cons b rest ih =>
      have hb : 256 ^ rest.length * (b.toNat + 1) ≤ 256 ^ rest.length * 256 :=
        Nat.mul_le_mul_left _ b.toNat_lt
      rw [ofBigEndian_cons, List.length_cons, Nat.pow_succ]
      rw [Nat.mul_add] at hb
      omega

/-- What is written of a number is read back. -/
theorem ofBigEndian_bigEndian (width n : Nat) :
    ofBigEndian (bigEndian width n) = n % 256 ^ width := by
  induction width with
  | zero =>
      rw [Nat.pow_zero, Nat.mod_one]
      rfl
  | succ w ih =>
      rw [bigEndian, ofBigEndian_cons, length_bigEndian, ih, UInt8.toNat_ofNat',
        Nat.shiftRight_eq_div_pow, Nat.pow_mul, @Nat.mod_pow_succ n 256 w, Nat.add_comm]

/-- So many bytes that spell one number are the same. -/
theorem eq_of_ofBigEndian_eq {a b : List UInt8} (hlength : a.length = b.length)
    (h : ofBigEndian a = ofBigEndian b) : a = b := by
  induction a generalizing b with
  | nil => exact (List.eq_nil_of_length_eq_zero hlength.symm).symm
  | cons x xs ih =>
      cases b with
      | nil => cases hlength
      | cons y ys =>
          have hrest : xs.length = ys.length := Nat.succ.inj hlength
          have hpos : 0 < 256 ^ ys.length := Nat.pow_pos (by decide)
          have hx := ofBigEndian_lt xs
          have hy := ofBigEndian_lt ys
          rw [ofBigEndian_cons, ofBigEndian_cons, hrest] at h
          rw [hrest] at hx
          -- The first byte is the quotient and the others are the remainder.
          have hhead := congrArg (· / 256 ^ ys.length) h
          have htail := congrArg (· % 256 ^ ys.length) h
          simp only [Nat.mul_add_div hpos, Nat.div_eq_of_lt hx, Nat.div_eq_of_lt hy,
            Nat.add_zero] at hhead
          simp only [Nat.mul_add_mod_self_left, Nat.mod_eq_of_lt hx, Nat.mod_eq_of_lt hy] at htail
          rw [UInt8.toNat_inj.1 hhead, ih hrest htail]

/-- Bytes are what is written of the number that they spell. -/
theorem bigEndian_ofBigEndian (bytes : List UInt8) :
    bigEndian bytes.length (ofBigEndian bytes) = bytes := by
  refine eq_of_ofBigEndian_eq (length_bigEndian _ _) ?_
  rw [ofBigEndian_bigEndian, Nat.mod_eq_of_lt (ofBigEndian_lt bytes)]

namespace Key

/-- A handle has the rank that it is found by. -/
theorem handleOfRank_handleRank (h : Int64) : handleOfRank (handleRank h) = h := by
  have hlow := h.le_toInt
  have hrank : ((handleRank h : Nat) : Int) - (1 <<< 63) = h.toInt := by
    rw [handleRank]
    omega
  rw [handleOfRank, hrank, Int64.ofInt_toInt]

/-- The handle of a rank has that rank, if it fits eight bytes. -/
theorem handleRank_handleOfRank {rank : Nat} (h : rank < 256 ^ 8) :
    handleRank (handleOfRank rank) = rank := by
  rw [handleRank, handleOfRank, Int64.toInt_ofInt_of_le (by omega) (by omega)]
  omega

/-- Tables of one prefix are the same. -/
theorem eq_of_tablePrefix_eq {table other : UInt64}
    (h : (tablePrefix table).bytes = (tablePrefix other).bytes) : table = other := by
  have hcompare := compare_tablePrefix table other
  rw [h, Std.ReflOrd.compare_self, eq_comm, Nat.compare_eq_eq] at hcompare
  exact UInt64.toNat_inj.1 hcompare

/-- A row key begins with the prefix of its own table and of no other. -/
theorem startsWith_tablePrefix_iff {table other : UInt64} {h : Int64} :
    (record table h).startsWith (tablePrefix other) = true ↔ table = other := by
  rw [startsWith, List.isPrefixOf_iff_prefix]
  constructor
  · intro hother
    have hown : (tablePrefix table).bytes <+: (record table h).bytes := List.prefix_append _ _
    have hlength := (length_tablePrefix table).trans (length_tablePrefix other).symm
    exact eq_of_tablePrefix_eq
      ((List.prefix_of_prefix_length_le hown hother (Nat.le_of_eq hlength)).eq_of_length hlength)
  · rintro rfl
    exact List.prefix_append _ _

/-- Row keys are ordered by their tables and, within a table, by their handles as
    whole numbers. They are the same only for one row, and each begins with the
    prefix of its own table only. -/
theorem record_preserves_order (table other : UInt64) (h i : Int64) :
    (compare (record table h) (record other i) = .lt ↔
        table < other ∨ table = other ∧ h.toInt < i.toInt) ∧
      (record table h = record other i ↔ table = other ∧ h = i) ∧
      ((record table h).startsWith (tablePrefix other) = true ↔ table = other) := by
  refine ⟨?_, ⟨fun heq => ?_, ?_⟩, startsWith_tablePrefix_iff⟩
  · rw [compare_records, Ordering.then_eq_lt, Nat.compare_eq_lt, Nat.compare_eq_eq,
      compare_handle, Std.compare_eq_lt, UInt64.lt_iff_toNat_lt, UInt64.toNat_inj]
  · have hcompare := compare_records table other h i
    rw [heq, Std.ReflOrd.compare_self, eq_comm, Ordering.then_eq_eq, Nat.compare_eq_eq,
      compare_handle, Std.compare_eq_iff_eq] at hcompare
    exact ⟨UInt64.toNat_inj.1 hcompare.1, Int64.toInt_inj.1 hcompare.2⟩
  · rintro ⟨rfl, rfl⟩
    rfl

/-- A handle is read from a key of the length and the first letter of a row key, and
    it is the one that the last eight bytes are written of. -/
theorem recordHandle?_eq_some_iff_bytes {k : Key} {h : Int64} :
    k.recordHandle? = some h ↔
      k.bytes.length = recordLength ∧ k.bytes.head? = some tableMark ∧
        k.bytes.drop 11 = bigEndian 8 (handleRank h) := by
  unfold recordHandle?
  constructor
  · intro hread
    by_cases hlooks : k.bytes.length = recordLength ∧ k.bytes.head? = some tableMark
    · rw [if_pos hlooks] at hread
      have hlength : (k.bytes.drop 11).length = 8 := by
        rw [List.length_drop, hlooks.1]
        rfl
      have hlt := ofBigEndian_lt (k.bytes.drop 11)
      have hbytes := bigEndian_ofBigEndian (k.bytes.drop 11)
      rw [hlength] at hlt hbytes
      refine ⟨hlooks.1, hlooks.2, ?_⟩
      rw [← Option.some.inj hread, handleRank_handleOfRank hlt, hbytes]
    · rw [if_neg hlooks] at hread
      cases hread
  · rintro ⟨hlength, hhead, hdrop⟩
    rw [if_pos ⟨hlength, hhead⟩, hdrop, ofBigEndian_bigEndian,
      Nat.mod_eq_of_lt (handleRank_lt h), handleOfRank_handleRank]

/-- The bytes that are laid out as those of a row key, with any two between the
    numbers. -/
theorem recordHandle?_layout (table : UInt64) {between : List UInt8} (hlength : between.length = 2)
    (h : Int64) :
    recordHandle? ⟨tableMark :: bigEndian 8 table.toNat ++ between
      ++ bigEndian 8 (handleRank h)⟩ = some h := by
  have hfront : (tableMark :: bigEndian 8 table.toNat ++ between).length = 11 := by
    rw [List.length_append, List.length_cons, length_bigEndian, hlength]
  refine recordHandle?_eq_some_iff_bytes.2 ⟨?_, rfl, List.drop_left' hfront⟩
  rw [List.length_append, hfront, length_bigEndian]
  rfl

/-- A key from which a handle is read is laid out so: behind the first letter there are
    eight bytes, which are some number, then two, and then those of the handle. -/
theorem exists_layout {k : Key} {h : Int64} (hread : k.recordHandle? = some h) :
    ∃ (table : UInt64) (between : List UInt8), between.length = 2 ∧
      k = ⟨tableMark :: bigEndian 8 table.toNat ++ between ++ bigEndian 8 (handleRank h)⟩ := by
  obtain ⟨hlength, hhead, hdrop⟩ := recordHandle?_eq_some_iff_bytes.1 hread
  obtain ⟨bytes⟩ := k
  cases bytes with
  | nil => cases hhead
  | cons mark rest =>
      obtain rfl : mark = tableMark := Option.some.inj hhead
      have hrest : rest.length = 18 := Nat.succ.inj hlength
      have htake : (rest.take 8).length = 8 := by
        rw [List.length_take]
        omega
      have hlt := ofBigEndian_lt (rest.take 8)
      have hnumber := bigEndian_ofBigEndian (rest.take 8)
      rw [htake] at hlt hnumber
      refine ⟨UInt64.ofNat (ofBigEndian (rest.take 8)), (rest.drop 8).take 2, ?_, ?_⟩
      · rw [List.length_take, List.length_drop]
        omega
      · rw [UInt64.toNat_ofNat_of_lt' hlt, hnumber, ← hdrop]
        have htail : rest.drop 10 = (rest.drop 8).drop 2 := by rw [List.drop_drop]
        rw [List.cons_append, List.cons_append, List.append_assoc, List.drop_succ_cons, htail,
          List.take_append_drop, List.take_append_drop]

/-- The bytes that stand between the numbers of a key. -/
theorem take_drop_between (table : UInt64) {between : List UInt8} (hlength : between.length = 2)
    (tail : List UInt8) :
    ((tableMark :: bigEndian 8 table.toNat ++ between ++ tail).drop 9).take 2 = between := by
  have hfront : (tableMark :: bigEndian 8 table.toNat).length = 9 := by
    rw [List.length_cons, length_bigEndian]
  rw [List.append_assoc, List.drop_left' hfront, List.take_left' hlength]

/-- A handle is read from exactly the keys that are laid out as row keys, whatever
    the two bytes between the numbers are. The row keys are those of them with the
    separator between the numbers. -/
theorem recordHandle?_eq_some_iff (k : Key) (h : Int64) :
    (k.recordHandle? = some h ↔ ∃ (table : UInt64) (between : List UInt8), between.length = 2 ∧
        k = ⟨tableMark :: bigEndian 8 table.toNat ++ between ++ bigEndian 8 (handleRank h)⟩) ∧
      ((∃ table, k = record table h) ↔
        k.recordHandle? = some h ∧ (k.bytes.drop 9).take 2 = recordSeparator) := by
  refine ⟨⟨exists_layout, ?_⟩, ?_, ?_⟩
  · rintro ⟨table, between, hlength, rfl⟩
    exact recordHandle?_layout table hlength h
  · rintro ⟨table, rfl⟩
    exact ⟨recordHandle?_layout table rfl h, take_drop_between table rfl _⟩
  · rintro ⟨hread, hbetween⟩
    obtain ⟨table, between, hlength, rfl⟩ := exists_layout hread
    obtain rfl : between = recordSeparator := (take_drop_between table hlength _).symm.trans hbetween
    exact ⟨table, rfl⟩

/-- A key with another separator between the numbers of a table and a handle. -/
def otherSeparator : Key :=
  ⟨tableMark :: bigEndian 8 1 ++ [0x5F, 0x69] ++ bigEndian 8 (handleRank 5)⟩

/-- A handle is read from it, and it is not the key of any row. -/
theorem not_record_otherSeparator :
    ¬ (otherSeparator.recordHandle? = some 5 ↔ ∃ table, otherSeparator = record table 5) := by
  intro h
  obtain ⟨table, heq⟩ := h.1 (by decide)
  -- Row keys have the separator in its place, whatever their table is.
  have hbetween := congrArg (fun k : Key => (k.bytes.drop 9).take 2) heq
  have hrecord : ((record table 5).bytes.drop 9).take 2 = recordSeparator :=
    take_drop_between table rfl _
  rw [hrecord] at hbetween
  exact absurd hbetween (by decide)

end Key

end RegionScan
