import Mathlib.Algebra.GroupWithZero.Nat
import Mathlib.Data.List.Basic
import Mathlib.Data.Fin.Basic
import Mathlib.Logic.Function.Basic

/-! The contents of a ring buffer: `count` slots from `head` on, wrapping at the end. -/

namespace Library.Ring

universe u

variable {size : Nat} [NeZero size] {α : Type u}

/-- The slot `offset` places after `head`. -/
def slot (head : Fin size) (offset : Nat) : Fin size := head + Fin.ofNat size offset

/-- The occupied slots in order. -/
def window (slots : Fin size → α) (head : Fin size) (count : Nat) : List α :=
  (List.range count).map (fun offset => slots (slot head offset))

@[simp] theorem slot_zero (head : Fin size) : slot head 0 = head := by
  ext
  simp [slot]

theorem slot_succ (head : Fin size) (offset : Nat)
    : slot head (offset + 1) = slot (slot head 1) offset := by
  ext
  simp only [slot, Fin.val_add, Fin.val_ofNat, Nat.add_mod_mod, Nat.mod_add_mod]
  congr 1
  omega

theorem slot_add_one (head : Fin size) (offset : Nat)
    : slot head (offset + 1) = slot (slot head offset) 1 := by
  ext
  simp only [slot, Fin.val_add, Fin.val_ofNat, Nat.add_mod_mod, Nat.mod_add_mod, Nat.add_assoc]

/-- Distinct offsets below the size name distinct slots. -/
theorem slot_injective (head : Fin size) {left right : Nat} (leftBound : left < size)
    (rightBound : right < size) (same : slot head left = slot head right)
    : left = right := by
  have values := congrArg Fin.val same
  simp only [slot, Fin.val_add, Fin.val_ofNat, Nat.add_mod_mod] at values
  have := head.isLt
  have wraps (count : Nat) : size ≤ head.val + count
      → (head.val + count) % size = (head.val + count - size) % size :=
    Nat.mod_eq_sub_mod
  have leftCases := wraps left
  have rightCases := wraps right
  by_cases leftWraps : size ≤ head.val + left
  · rw [leftCases leftWraps, Nat.mod_eq_of_lt (by omega)] at values
    by_cases rightWraps : size ≤ head.val + right
    · rw [rightCases rightWraps, Nat.mod_eq_of_lt (by omega)] at values
      omega
    · rw [Nat.mod_eq_of_lt (by omega : head.val + right < size)] at values
      omega
  · rw [Nat.mod_eq_of_lt (by omega : head.val + left < size)] at values
    by_cases rightWraps : size ≤ head.val + right
    · rw [rightCases rightWraps, Nat.mod_eq_of_lt (by omega)] at values
      omega
    · rw [Nat.mod_eq_of_lt (by omega : head.val + right < size)] at values
      omega

@[simp] theorem window_zero (slots : Fin size → α) (head : Fin size)
    : window slots head 0 = [] := rfl

@[simp] theorem length_window (slots : Fin size → α) (head : Fin size) (count : Nat)
    : (window slots head count).length = count := by
  simp [window]

/-- Writing the first free slot appends to the contents. -/
theorem window_push (slots : Fin size → α) (head : Fin size) {count : Nat}
    (room : count < size) (value : α)
    : window (Function.update slots (slot head count) value) head (count + 1)
      = window slots head count ++ [value] := by
  simp only [window, List.range_succ, List.map_append, List.map_cons, List.map_nil,
    Function.update_self]
  congr 1
  refine List.map_congr_left ?_
  intro offset member
  have earlier := List.mem_range.mp member
  refine Function.update_of_ne ?_ value slots
  intro same
  have := slot_injective head (by omega) room same
  omega

/-- Advancing the head drops the oldest slot. -/
theorem window_pop (slots : Fin size → α) (head : Fin size) (count : Nat)
    : window slots head (count + 1) = slots head :: window slots (slot head 1) count := by
  simp only [window, List.range_succ_eq_map, List.map_cons, slot_zero, List.map_map]
  congr 1
  refine List.map_congr_left ?_
  intro offset _
  simp only [Function.comp_apply, Nat.succ_eq_add_one, slot_succ head offset]

end Library.Ring
