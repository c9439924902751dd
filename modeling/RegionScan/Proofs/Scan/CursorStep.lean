import RegionScan.Proofs.Scan.Drain

/-!
# Moves of a Cursor

Everything that one move of an open cursor can do.

The store fails the move, or there is a row to move to, or there is none. A
cursor that is failed stays where it is, so the next move is the same one again.
A cursor that finds no row has none from then on. In no case does it lose a row
or give up the rows that it was opened with.

Properties of reading are case analyses over `Cursor.Advances`, in which the
place of a cursor is not mentioned: what it has still to give says enough.

## Main definitions

* `Cursor.Advances`: What a move does.

## Theorems

* `Cursor.advance_advances`: A move does one of these things.
* `SplitCursor.advance_eq_mapError`: The reader of a split moves its cursor.
-/

namespace RegionScan

namespace Cursor

/-- What a move of an open cursor does, with its answer. -/
inductive Advances (c : Cursor) (s : Store) : Except StoreError Bool → Cursor → Prop where
  /-- The store fails the move, and the cursor stays where it is. -/
  | fail (hfault : s.advanceLimit? = some c.yielded) :
      Advances c s (.error (.requestFailed (.advancing c.region c.yielded))) c
  /-- The cursor moves to the first of the rows that it has still to give. -/
  | next {c' : Cursor} {row : RawRow} (hfault : s.advanceLimit? ≠ some c.yielded)
      (hrest : c.rest = row :: c'.rest) (hopen : c'.isClosed = false) (hrows : c'.rows = c.rows)
      (hyielded : c'.yielded = c.yielded + 1) (hcurrent : c'.current? = some row) :
      Advances c s (.ok true) c'
  /-- The cursor has no row to give. -/
  | finish {c' : Cursor} (hfault : s.advanceLimit? ≠ some c.yielded) (hrest : c.rest = [])
      (hopen : c'.isClosed = false) (hrows : c'.rows = c.rows)
      (hyielded : c'.yielded = c.yielded) (hrest' : c'.rest = []) :
      Advances c s (.ok false) c'

/-- Where an open cursor goes that the store does not fail. -/
theorem advance_eq {c : Cursor} {s : Store} (hopen : c.isClosed = false)
    (hfault : s.advanceLimit? ≠ some c.yielded) :
    c.advance s =
      if c.nextPlace < c.rows.length then
        (.ok true, { c with position := some c.nextPlace, yielded := c.yielded + 1 })
      else (.ok false, { c with position := some c.rows.length }) := by
  rw [advance, if_neg (Bool.eq_false_iff.1 hopen), if_neg hfault]
  rfl

/-- A move of an open cursor does one of the three things. -/
theorem advance_advances {c : Cursor} (hopen : c.isClosed = false) (s : Store) :
    c.Advances s (c.advance s).1 (c.advance s).2 := by
  by_cases hfault : s.advanceLimit? = some c.yielded
  · rw [advance, if_neg (Bool.eq_false_iff.1 hopen), if_pos hfault]
    exact .fail hfault
  · rw [advance_eq hopen hfault]
    by_cases hlt : c.nextPlace < c.rows.length
    · rw [if_pos hlt]
      have hrow : c.rows[c.nextPlace]? = some c.rows[c.nextPlace] := List.getElem?_eq_getElem hlt
      exact .next hfault (List.drop_eq_getElem_cons hlt) hopen rfl rfl hrow
    · rw [if_neg hlt]
      -- Standing behind the last row, it is asked for a row further behind.
      have hnil : c.rest = [] := List.drop_eq_nil_of_le (Nat.le_of_not_lt hlt)
      have hnil' : c.rows.drop (c.rows.length + 1) = [] := List.drop_eq_nil_of_le (by omega)
      exact .finish hfault hnil hopen rfl rfl hnil'

/-- A move keeps the rows of a cursor and leaves it open. -/
theorem Advances.kept {c c' : Cursor} {s : Store} {answer : Except StoreError Bool}
    (h : c.Advances s answer c') (hopen : c.isClosed = false) :
    c'.isClosed = false ∧ c'.rows = c.rows := by
  cases h with
  | fail _ => exact ⟨hopen, rfl⟩
  | next _ _ hopen' hrows _ _ => exact ⟨hopen', hrows⟩
  | finish _ _ hopen' hrows _ _ => exact ⟨hopen', hrows⟩

end Cursor

namespace SplitCursor

variable {c : SplitCursor} {inner : Cursor}

/-- The reader of a split moves as its cursor does, and names the split in a
    failure. -/
theorem advance_eq_mapError (hinner : c.inner = some inner) (s : Store) :
    (c.advance s).1 = (inner.advance s).1.mapError (.cursor c.split) ∧
      (c.advance s).2.inner = some (inner.advance s).2 := by
  rw [advance, hinner]
  dsimp only
  rcases inner.advance s with ⟨_ | moved, inner'⟩
  · exact ⟨rfl, rfl⟩
  · exact ⟨rfl, rfl⟩

end SplitCursor

end RegionScan
