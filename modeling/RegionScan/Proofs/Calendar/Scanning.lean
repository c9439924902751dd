import RegionScan.Calendar.Reader
import RegionScan.Proofs.Results
import RegionScan.Proofs.Text.Digits

/-!
# Scanning What Was Written

Each piece of a written date-time is read again from the front of a text, whatever
stands behind it.

Numbers are written without separators, so it is the width that says where one
ends. A number of at most `width` digits is written with exactly so many, and a
reader that takes so many takes these and no digit of what follows. Literal text
and the offset end where they end. Nothing that is written starts with a blank
unless it is white space, so dropping blanks in front drops nothing.

## Theorems

* `scanNumber_zeroPadded`, `scanYear_zeroPadded`, `scanFractionDigits_zeroPadded`:
  Padded numbers are read again.
* `scanOffset_utc`, `readLiteral_append`: So are the offset and literal text.
-/

namespace RegionScan

/-- A text is at least as long in bytes as in characters. -/
theorem foldl_utf8Size (s : List Char) :
    ∀ n : Nat, s.foldl (fun n c => n + c.utf8Size) n = n + byteLength s := by
  induction s with
  | nil => exact fun _ => rfl
  | cons c s ih =>
      intro n
      rw [byteLength, List.foldl_cons, List.foldl_cons, ih, ih]
      omega

theorem byteLength_append (s s' : List Char) :
    byteLength (s ++ s') = byteLength s + byteLength s' := by
  rw [byteLength, List.foldl_append, foldl_utf8Size, ← byteLength]

theorem length_le_byteLength (s : List Char) : s.length ≤ byteLength s := by
  induction s with
  | nil => exact Nat.le_refl 0
  | cons c s ih =>
      have hpos := c.utf8Size_pos
      rw [byteLength, List.foldl_cons, foldl_utf8Size, List.length_cons]
      omega

section

variable {width n : Nat} (hwidth : 0 < width) (hn : n < 10 ^ width) (rest : List Char)

include hwidth hn

/-- A number of a width is read by a reader of that width. -/
theorem scanNumber_zeroPadded (hsmall : n < 1 <<< 63) :
    scanNumber width (zeroPadded width n ++ rest) = .ok (n, rest) := by
  have hlength := length_zeroPadded hwidth hn
  have hdigits : ((zeroPadded width n ++ rest).take width).takeWhile Char.isDigit
      = zeroPadded width n := by
    rw [List.take_left' hlength, List.takeWhile_eq_self_iff]
    exact fun c hc => isDigit_of_mem_zeroPadded hc
  have hne : (zeroPadded width n).isEmpty = false := by
    rw [List.isEmpty_eq_false_iff]
    exact (solid_zeroPadded width n).ne_nil
  rw [scanNumber]
  · simp only [hdigits, hne, digitsValue_zeroPadded, Nat.not_le.2 hsmall, List.drop_left]
    rfl
  · intro hnil
    exact (solid_zeroPadded width n).ne_nil (List.append_eq_nil_iff.1 hnil).1

/-- A fraction is read by a reader of as many digits as it has. -/
theorem scanFractionDigits_zeroPadded :
    scanFractionDigits width (zeroPadded width n ++ rest)
      = .ok (n * Nat.pow 10 (9 - width), rest) := by
  have hlength := length_zeroPadded hwidth hn
  have hlong : ¬ byteLength (zeroPadded width n ++ rest) < width := by
    have hle := length_le_byteLength (zeroPadded width n)
    rw [byteLength_append]
    omega
  have hall : (zeroPadded width n).all Char.isDigit = true :=
    List.all_eq_true.2 fun c hc => isDigit_of_mem_zeroPadded hc
  rw [scanFractionDigits, if_neg hlong]
  simp only [List.take_left' hlength, List.drop_left' hlength, digitsValue_zeroPadded]
  rw [if_pos ⟨hlength, hall⟩]

end

/-- A year of four digits is read without a sign. -/
theorem scanYear_zeroPadded {n : Nat} (hn : n < 10 ^ 4) (rest : List Char) :
    scanYear (zeroPadded 4 n ++ rest) = .ok ((n : Int), rest) := by
  have hscan := scanNumber_zeroPadded (by omega) hn rest (by omega)
  cases hw : zeroPadded 4 n with
  | nil => exact absurd hw (solid_zeroPadded 4 n).ne_nil
  | cons c w =>
      have hc : c.isDigit = true := isDigit_of_mem_zeroPadded (hw ▸ List.mem_cons_self)
      rw [hw] at hscan
      -- The signs are looked for first, and a digit is neither of them.
      rw [List.cons_append, scanYear]
      · rw [← List.cons_append, hscan]
        rfl
      · rintro _ ⟨rfl, _⟩
        cases hc
      · rintro _ ⟨rfl, _⟩
        cases hc

theorem scanTwoDigits_cons {a b : Char} (ha : a.isDigit = true) (hb : b.isDigit = true)
    (rest : List Char) : scanTwoDigits (a :: b :: rest) = .ok (digitsValue [a, b], rest) := by
  have hlong : ¬ byteLength (a :: b :: rest) < 2 := by
    have hle := length_le_byteLength (a :: b :: rest)
    simp only [List.length_cons] at hle
    omega
  rw [scanTwoDigits, if_neg hlong]
  exact if_pos ⟨ha, hb⟩

/-- The offset of UTC is read as nothing. -/
theorem scanOffset_utc (rest : List Char) :
    scanOffset skipColons ("+00:00".toList ++ rest) = .ok (0, rest) := by
  have hhours := scanTwoDigits_cons (a := '0') (b := '0') rfl rfl (':' :: '0' :: '0' :: rest)
  have hminutes := scanTwoDigits_cons (a := '0') (b := '0') rfl rfl rest
  have hcolon : skipColons (':' :: '0' :: '0' :: rest) = .ok ('0' :: '0' :: rest) := rfl
  have hsign : scanOffsetSign ("+00:00".toList ++ rest)
      = .ok (false, '0' :: '0' :: ':' :: '0' :: '0' :: rest) := rfl
  rw [scanOffset]
  refine except_bind_eq_ok.2 ⟨_, hsign, except_bind_eq_ok.2 ⟨_, hhours, ?_⟩⟩
  exact except_bind_eq_ok.2 ⟨_, hcolon, except_bind_eq_ok.2 ⟨_, hminutes, rfl⟩⟩

/-- Literal text is read as it is. -/
theorem readLiteral_append (text rest : List Char) :
    LayoutItem.readLiteral text (text ++ rest) = .ok rest := by
  have hlong : ¬ byteLength (text ++ rest) < byteLength text := by
    rw [byteLength_append]
    omega
  rw [LayoutItem.readLiteral, if_neg hlong, if_pos, List.drop_left]
  exact List.isPrefixOf_iff_prefix.2 (List.prefix_append text rest)

end RegionScan
