import RegionScan.Proofs.Key.Order

/-!
# Keys with a Beginning

A key and its successor are the bounds of the keys that begin with it.

Both halves are about one byte. The successor raises the last byte that can be
raised and drops what follows, so a key that keeps all bytes of the beginning is
below it. For the converse, a key between the bounds has no room to differ from the
beginning. In a byte before the raised one it could only be larger, and then it
would not be below the successor. In the raised byte it would have to be less than
one larger. The bytes behind are the largest that there are. If no byte can be
raised there is no upper bound, and none is needed.

From this the successor is the least key above all that begin with the given one.
A lesser key would be in the range itself, so it would be one of them.

## Theorems

* `Key.lt_successor`: Keys that share a beginning are below its successor.
* `Key.prefix_of_between`: What lies between the bounds has the beginning.
* `Key.startsWith_iff_between`: The two bounds, if there is an upper one.
* `Key.successor_isLE_of_above`: The upper bound is the least one.
* `Key.record_lt_successor`: A table's row keys are below the successor of its
  prefix.
* `Key.contains_iff_startsWith`: The split from a key to its successor.
-/

namespace RegionScan

namespace Key

/-- A byte that is not the largest can be raised. -/
theorem toNat_add_one {b : UInt8} (h : b ≠ 0xFF) : (b + 1).toNat = b.toNat + 1 := by
  have hne : b.toNat ≠ 255 := fun hmax => h (UInt8.toNat_inj.1 hmax)
  have hlt := b.toNat_lt
  rw [UInt8.toNat_add, UInt8.toNat_one]
  exact Nat.mod_eq_of_lt (by omega)

/-- Byte strings that share a beginning are below its successor. The byte that
    the successor raises is the last one that can be, and it decides. -/
theorem lt_successorBytes (p rest : List UInt8) (hne : successorBytes p ≠ []) :
    compare (p ++ rest) (successorBytes p) = .lt := by
  induction p with
  | nil => exact absurd rfl hne
  | cons b bs ih =>
      rw [successorBytes] at hne ⊢
      cases hs : successorBytes bs with
      | nil =>
          rw [hs] at hne
          by_cases hb : b = 0xFF
          · exact absurd (if_pos hb) hne
          · -- No byte behind `b` can be raised, so `b` itself is, and it can be.
            simp only [if_neg hb, List.cons_append, List.compare_cons_cons]
            rw [UInt8.compare_eq_toNat_compare_toNat, toNat_add_one hb,
              Nat.compare_eq_lt.2 (Nat.lt_succ_self _)]
            rfl
      | cons n ns =>
          -- A byte behind `b` is raised, so `b` stands on both sides.
          have hrec := ih (by rw [hs]; exact List.cons_ne_nil _ _)
          rw [hs] at hrec
          simp only [List.cons_append, List.compare_cons_cons]
          rw [Std.ReflOrd.compare_self, Ordering.eq_then, hrec]

/-- Keys that share a beginning are below its successor, if it has one. -/
theorem lt_successor {k beginning : Key} (h : k.startsWith beginning = true)
    (hne : beginning.successor.isEmpty = false) :
    compare k beginning.successor = .lt := by
  rcases List.isPrefixOf_iff_prefix.1 h with ⟨rest, hrest⟩
  have hbytes : successorBytes beginning.bytes ≠ [] := by
    intro hnil
    rw [isEmpty, successor, hnil] at hne
    exact absurd hne (by decide)
  have hlt := lt_successorBytes beginning.bytes rest hbytes
  rw [hrest] at hlt
  exact hlt

/-- The first bytes of what lies between the bounds are the same, and what follows
    lies below the successor of what follows, if there is one. -/
theorem head_of_between {b c : UInt8} {bs cs : List UInt8} (hlow : (compare b c).isLE)
    (hhigh : successorBytes (b :: bs) = [] ∨ compare (c :: cs) (successorBytes (b :: bs)) = .lt) :
    c = b ∧ (successorBytes bs = [] ∨ compare cs (successorBytes bs) = .lt) := by
  have hb := b.toNat_lt
  have hc := c.toNat_lt
  have hle : b.toNat ≤ c.toNat := by
    rw [UInt8.compare_eq_toNat_compare_toNat, Nat.isLE_compare] at hlow
    exact hlow
  rw [successorBytes] at hhigh
  cases hs : successorBytes bs with
  | nil =>
      refine ⟨?_, Or.inl rfl⟩
      rw [hs] at hhigh
      by_cases hmax : b = 0xFF
      · -- No byte is larger than `b`.
        have hlargest : b.toNat = 255 := congrArg UInt8.toNat hmax
        exact UInt8.toNat_inj.1 (by omega)
      · have hraise := toNat_add_one hmax
        simp only [if_neg hmax, List.cons_ne_nil, false_or, List.compare_cons_cons,
          Ordering.then_eq_lt] at hhigh
        rcases hhigh with hlt | ⟨_, hnil⟩
        · -- `b` itself is raised, and only by one.
          rw [UInt8.compare_eq_toNat_compare_toNat, hraise, Nat.compare_eq_lt] at hlt
          exact UInt8.toNat_inj.1 (by omega)
        · cases cs <;> cases hnil
  | cons n ns =>
      -- A byte behind `b` is raised, so `b` stands in both bounds.
      simp only [hs, List.cons_ne_nil, false_or, List.compare_cons_cons,
        Ordering.then_eq_lt] at hhigh
      rcases hhigh with hlt | ⟨heq, hrest⟩
      · rw [UInt8.compare_eq_toNat_compare_toNat, Nat.compare_eq_lt] at hlt
        omega
      · rw [UInt8.compare_eq_toNat_compare_toNat, Nat.compare_eq_eq] at heq
        exact ⟨UInt8.toNat_inj.1 heq, Or.inr hrest⟩

/-- What is not below a byte string and below its successor, if there is one, begins
    with it. -/
theorem prefix_of_between {p x : List UInt8} (hlow : (compare p x).isLE)
    (hhigh : successorBytes p = [] ∨ compare x (successorBytes p) = .lt) : p <+: x := by
  induction p generalizing x with
  | nil => exact List.nil_prefix
  | cons b bs ih =>
      cases x with
      | nil => exact absurd hlow (by rw [List.compare_cons_nil]; decide)
      | cons c cs =>
          rw [List.compare_cons_cons, Ordering.isLE_then_iff_or] at hlow
          have hhead : (compare b c).isLE := by
            rcases hlow with hlt | ⟨heq, _⟩
            · rw [hlt]
              rfl
            · rw [heq]
              rfl
          obtain ⟨rfl, hrest⟩ := head_of_between hhead hhigh
          rw [Std.ReflOrd.compare_self] at hlow
          rcases hlow with hlt | ⟨_, htail⟩
          · cases hlt
          · exact (List.prefix_cons_inj c).2 (ih htail hrest)

/-- A key is not above any that begins with it. -/
theorem isLE_of_startsWith {k x : Key} (h : x.startsWith k = true) : (compare k x).isLE := by
  rcases List.isPrefixOf_iff_prefix.1 h with ⟨rest, hrest⟩
  have hle := isLE_compare_append_right k.bytes rest
  rw [hrest] at hle
  exact hle

/-- The keys that begin with a key which has a successor are those between the two. -/
theorem startsWith_iff_between {k : Key} (hne : k.successor.isEmpty = false) (x : Key) :
    x.startsWith k = true ↔ (compare k x).isLE ∧ compare x k.successor = .lt := by
  constructor
  · intro h
    exact ⟨isLE_of_startsWith h, lt_successor h hne⟩
  · rintro ⟨hlow, hhigh⟩
    exact List.isPrefixOf_iff_prefix.2 (prefix_of_between hlow (Or.inr hhigh))

/-- The successor of a key is not above any key that is above all those that begin
    with the key. -/
theorem successor_isLE_of_above {k y : Key} (hne : k.successor.isEmpty = false)
    (habove : ∀ x : Key, x.startsWith k = true → compare x y = .lt) :
    (compare k.successor y).isLE := by
  have hself : k.startsWith k = true := List.isPrefixOf_iff_prefix.2 (List.prefix_refl _)
  have hlow : (compare k y).isLE := by
    rw [habove k hself]
    rfl
  by_cases hle : (compare k.successor y).isLE
  · exact hle
  · -- A lesser key is in the range, and so above itself.
    have hbetween := (startsWith_iff_between hne y).2 ⟨hlow, Std.OrientedCmp.lt_of_not_isLE hle⟩
    have hirrefl := habove y hbetween
    rw [Std.ReflOrd.compare_self] at hirrefl
    cases hirrefl

/-- What ends in a byte that can be raised has a successor. -/
theorem successorBytes_append_ne_nil (p q : List UInt8) (hq : successorBytes q ≠ []) :
    successorBytes (p ++ q) ≠ [] := by
  induction p with
  | nil => exact hq
  | cons b bs ih =>
      rw [List.cons_append, successorBytes]
      cases hs : successorBytes (bs ++ q) with
      | nil => exact absurd hs ih
      | cons n ns => exact List.cons_ne_nil _ _

/-- The prefix of a table has a successor, for it ends in a letter. -/
theorem tablePrefix_successor_isEmpty (table : UInt64) :
    (tablePrefix table).successor.isEmpty = false := by
  -- The number may end in bytes that cannot be raised, but the letter behind it can.
  have hne := successorBytes_append_ne_nil (tableMark :: bigEndian 8 table.toNat)
    recordSeparator (by decide)
  rw [isEmpty, successor, tablePrefix, List.isEmpty_eq_false_iff]
  exact hne

/-- A table's row keys are below the successor of its prefix. -/
theorem record_lt_successor (table : UInt64) (h : Int64) :
    compare (record table h) (tablePrefix table).successor = .lt := by
  refine lt_successor ?_ (tablePrefix_successor_isEmpty table)
  exact List.isPrefixOf_iff_prefix.2 (List.prefix_append _ _)

/-- A table's prefix is below its own successor. -/
theorem prefix_lt_successor (table : UInt64) :
    compare (tablePrefix table) (tablePrefix table).successor = .lt :=
  lt_successor (List.isPrefixOf_iff_prefix.2 (List.prefix_refl _))
    (tablePrefix_successor_isEmpty table)

/-- The split from a key to its successor contains the keys that begin with the key,
    whatever its bytes are, and if the successor is not empty it is the least key
    above all of these. -/
theorem contains_iff_startsWith (k : Key) (table : TableRef) (region : RegionId) :
    (∀ x : Key, (Split.mk table region k k.successor).contains x = true ↔
        x.startsWith k = true) ∧
      (k.successor.isEmpty = false →
        (∀ x : Key, x.startsWith k = true → compare x k.successor = .lt) ∧
        ∀ y : Key, (∀ x : Key, x.startsWith k = true → compare x y = .lt) →
          (compare k.successor y).isLE) := by
  refine ⟨fun x => ?_, fun hne => ⟨fun x hx => lt_successor hx hne, fun y hy =>
    successor_isLE_of_above hne hy⟩⟩
  rw [Split.contains, Bool.and_eq_true, Bool.or_eq_true, beq_iff_eq]
  cases hempty : k.successor.isEmpty with
  | false =>
      rw [startsWith_iff_between hempty]
      simp only [Bool.false_eq_true, false_or]
  | true =>
      -- Without an upper bound the lower one decides.
      simp only [true_or, and_true]
      refine ⟨fun hlow => ?_, isLE_of_startsWith⟩
      exact List.isPrefixOf_iff_prefix.2
        (prefix_of_between hlow (Or.inl (List.isEmpty_iff.1 hempty)))

/-- The last byte of this key cannot be raised, so the one before it is. -/
theorem contains_iff_startsWith_carry :
    (Split.mk ⟨"db", "t"⟩ ⟨0⟩ ⟨[1, 0xFF]⟩ ⟨[2]⟩).contains ⟨[1, 0xFF, 7]⟩ = true ∧
      (Split.mk ⟨"db", "t"⟩ ⟨0⟩ ⟨[1, 0xFF]⟩ ⟨[2]⟩).contains ⟨[1, 0xFE]⟩ = false ∧
      (∀ y : Key, (∀ x : Key, x.startsWith ⟨[1, 0xFF]⟩ = true → compare x y = .lt) →
        (compare ⟨[2]⟩ y).isLE) := by
  have hbounds := contains_iff_startsWith ⟨[1, 0xFF]⟩ ⟨"db", "t"⟩ ⟨0⟩
  refine ⟨(hbounds.1 ⟨[1, 0xFF, 7]⟩).2 (by decide), ?_, (hbounds.2 (by decide)).2⟩
  exact Bool.eq_false_iff.2 fun h => absurd ((hbounds.1 ⟨[1, 0xFE]⟩).1 h) (by decide)

end Key

end RegionScan
