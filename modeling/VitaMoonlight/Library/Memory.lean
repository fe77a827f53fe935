import Mathlib.Data.List.Basic

/-! One block of memory whose parts are moved within it, and rows that are moved to its front one
after another.
-/

namespace Library

universe u

variable {Item : Type u}

/-- `memmove` within one block: the source is read as it was before, also where the two ranges
overlap. A range that leaves the block is no defined access.
-/
def memmove (memory : List Item) (destination source count : Nat) : Option (List Item) :=
  if source + count ≤ memory.length ∧ destination + count ≤ memory.length then
    some
      (memory.take destination
        ++ (memory.drop source).take count
        ++ memory.drop (destination + count))
  else none

/-- Items that are moved to the end of a part of the block from behind it leave that part alone. -/
theorem memmove_append {front rest : List Item} {offset count : Nat}
    (inside : offset + count ≤ rest.length)
    : memmove (front ++ rest) front.length (front.length + offset) count
      = some (front ++ (rest.drop offset).take count ++ rest.drop count) := by
  have bounds
      : front.length + offset + count ≤ (front ++ rest).length
        ∧ front.length + count ≤ (front ++ rest).length := by
    rw [List.length_append]
    omega
  rw [memmove, if_pos bounds, List.take_left, List.drop_length_add_append,
    List.drop_length_add_append]

section Rows

variable (memory : List Item) (count : Nat) (source : Nat → Nat)

/-- The rows that start at the given places of a block, one behind the other. -/
def gatherRows (rows : Nat) : List Item :=
  (List.range rows).flatMap fun row => (memory.drop (source row)).take count

theorem gatherRows_succ (rows : Nat)
    : gatherRows memory count source (rows + 1)
      = gatherRows memory count source rows ++ (memory.drop (source rows)).take count := by
  rw [gatherRows, List.range_succ, List.flatMap_append]
  simp [gatherRows]

theorem length_gatherRows {rows : Nat} (inside : ∀ row < rows, source row + count ≤ memory.length)
    : (gatherRows memory count source rows).length = rows * count := by
  induction rows with
  | zero => simp [gatherRows]
  | succ rows ih =>
      have last := inside rows (Nat.lt_succ_self rows)
      rw [gatherRows_succ, List.length_append, ih fun row earlier => inside row (by omega),
        List.length_take, List.length_drop, Nat.succ_mul]
      omega

/-- The items of a row that was gathered, by induction on the rows. -/
theorem getElem?_gatherRows {rows row offset : Nat} (rest : List Item)
    (inside : ∀ row < rows, source row + count ≤ memory.length) (within : row < rows)
    (short : offset < count)
    : (gatherRows memory count source rows ++ rest)[row * count + offset]?
      = memory[source row + offset]? := by
  induction rows generalizing rest with
  | zero => exact absurd within (Nat.not_lt_zero row)
  | succ rows ih =>
      have earlier : ∀ row < rows, source row + count ≤ memory.length :=
        fun row earlier => inside row (by omega)
      rw [gatherRows_succ, List.append_assoc]
      obtain before | rfl := Nat.lt_succ_iff_lt_or_eq.1 within
      · exact ih _ earlier before
      · have last := inside row (Nat.lt_succ_self row)
        rw [← length_gatherRows memory count source earlier,
          List.getElem?_append_right (Nat.le_add_right _ _), Nat.add_sub_cancel_left,
          List.getElem?_append_left (by rw [List.length_take, List.length_drop]; omega),
          List.getElem?_take_of_lt short, List.getElem?_drop]

/-- Rows that are moved to the front of the block, each from behind the rows before it, are the rows
of the original block: what is still to be read has not been written yet. By induction on the rows.
-/
theorem foldlM_memmove_rows {rows : Nat} (behind : ∀ row < rows, row * count ≤ source row)
    (inside : ∀ row < rows, source row + count ≤ memory.length)
    : (List.range rows).foldlM
          (fun memory row => memmove memory (row * count) (source row) count) memory
      = some (gatherRows memory count source rows ++ memory.drop (rows * count)) := by
  induction rows with
  | zero => simp [gatherRows]
  | succ rows ih =>
      have earlier : ∀ row < rows, source row + count ≤ memory.length :=
        fun row earlier => inside row (by omega)
      have done := ih (fun row earlier => behind row (by omega)) earlier
      have last := inside rows (Nat.lt_succ_self rows)
      obtain ⟨offset, start⟩ := Nat.exists_eq_add_of_le (behind rows (Nat.lt_succ_self rows))
      have moved
          : memmove (gatherRows memory count source rows ++ memory.drop (rows * count))
                (gatherRows memory count source rows).length
                ((gatherRows memory count source rows).length + offset) count
              = some _ :=
        memmove_append (by rw [List.length_drop]; omega)
      rw [length_gatherRows memory count source earlier, List.drop_drop, List.drop_drop, ← start]
        at moved
      rw [List.range_succ, List.foldlM_append, done, gatherRows_succ, Nat.succ_mul]
      simpa using moved

end Rows

end Library
