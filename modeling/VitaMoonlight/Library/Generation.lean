import Mathlib.Algebra.GroupWithZero.Nat
import Mathlib.Data.Nat.Basic
import Mathlib.Data.Nat.ModEq
import Mathlib.Logic.Function.Iterate

/-! Generation numbers: 32-bit counters that pass over zero, so that they come round after
4294967295 turns.
-/

namespace Library

/-- The number after a generation, `if (++generation == 0) ++generation`. -/
def nextGeneration (generation : UInt32) : UInt32 :=
  if generation + 1 = 0 then 1 else generation + 1

/-- The position of a generation among the numbers that are not zero. -/
def generationIndex (generation : UInt32) : Nat := generation.toNat - 1

theorem nextGeneration_ne_zero (generation : UInt32) : nextGeneration generation ≠ 0 := by
  unfold nextGeneration
  split
  · decide
  · assumption

theorem nextGeneration_ne_self (generation : UInt32) : nextGeneration generation ≠ generation := by
  intro same
  have step : generation + 1 ≠ generation := by simp
  unfold nextGeneration at same
  split at same
  · rename_i round
    rw [← same] at round
    exact absurd round (by decide)
  · exact step same

/-- Generations go round through the numbers that are not zero. -/
theorem generationIndex_next {generation : UInt32} (nonzero : generation ≠ 0)
    : generationIndex (nextGeneration generation)
      = (generationIndex generation + 1) % (2 ^ 32 - 1) := by
  have positive : 0 < generation.toNat := by
    rw [Nat.pos_iff_ne_zero]
    intro zero
    exact nonzero (UInt32.toNat_inj.1 zero)
  have below := generation.toNat_lt
  have sum : (generation + 1).toNat = (generation.toNat + 1) % 2 ^ 32 := UInt32.toNat_add _ _
  unfold nextGeneration generationIndex
  split
  · rename_i round
    rw [round] at sum
    have zero : (0 : UInt32).toNat = 0 := rfl
    have one : (1 : UInt32).toNat = 1 := rfl
    omega
  · rename_i more
    have some : (generation + 1).toNat ≠ 0 := fun zero => more (UInt32.toNat_inj.1 zero)
    omega

/-- The generation some turns after the first one, by induction on the turns. -/
theorem generationIndex_turns (turns : Nat)
    : nextGeneration^[turns] 1 ≠ 0
      ∧ generationIndex (nextGeneration^[turns] 1) = turns % (2 ^ 32 - 1) := by
  induction turns with
  | zero => exact ⟨by decide, rfl⟩
  | succ turns ih =>
      rw [Function.iterate_succ_apply']
      refine ⟨nextGeneration_ne_zero _, ?_⟩
      rw [generationIndex_next ih.1, ih.2]
      omega

/-- Whole rounds lead back to the first generation. -/
theorem nextGeneration_round {turns : Nat} (round : turns % (2 ^ 32 - 1) = 0)
    : nextGeneration^[turns] 1 = 1 := by
  obtain ⟨nonzero, index⟩ := generationIndex_turns turns
  rw [round, generationIndex] at index
  have positive : (nextGeneration^[turns] 1).toNat ≠ 0 := fun zero =>
    nonzero (UInt32.toNat_inj.1 zero)
  apply UInt32.toNat_inj.1
  have one : (1 : UInt32).toNat = 1 := rfl
  omega

/-- A counter that started at zero returns to a number only by going round. -/
theorem generation_returns {earlier later : Nat} (ordered : earlier ≤ later)
    (same : nextGeneration^[later] 0 = nextGeneration^[earlier] 0)
    : (later - earlier) % (2 ^ 32 - 1) = 0 := by
  cases earlier with
  | zero =>
      cases later with
      | zero => rfl
      | succ later =>
          rw [Function.iterate_succ_apply'] at same
          exact absurd same (nextGeneration_ne_zero _)
  | succ earlier =>
      cases later with
      | zero => omega
      | succ later =>
          -- both have left zero behind, and their positions agree
          rw [Function.iterate_succ_apply, Function.iterate_succ_apply] at same
          have first : nextGeneration 0 = 1 := rfl
          rw [first] at same
          have index := congrArg generationIndex same
          rw [(generationIndex_turns later).2, (generationIndex_turns earlier).2] at index
          omega

/-- A counter that started at zero and has left it is at one number again just when it has gone round.
-/
theorem generation_eq_iff {earlier later : Nat} (left : 0 < earlier) (ordered : earlier ≤ later)
    : nextGeneration^[later] 0 = nextGeneration^[earlier] 0
      ↔ later ≡ earlier [MOD 2 ^ 32 - 1] := by
  obtain ⟨earlier, rfl⟩ := Nat.exists_eq_succ_of_ne_zero (Nat.pos_iff_ne_zero.mp left)
  obtain ⟨later, rfl⟩ := Nat.exists_eq_succ_of_ne_zero (by omega : later ≠ 0)
  have first : nextGeneration 0 = 1 := rfl
  obtain ⟨nonzero, index⟩ := generationIndex_turns earlier
  obtain ⟨nonzero', index'⟩ := generationIndex_turns later
  rw [Function.iterate_succ_apply, Function.iterate_succ_apply, first, Nat.ModEq]
  rw [generationIndex] at index index'
  have positive : (nextGeneration^[earlier] 1).toNat ≠ 0 := fun zero =>
    nonzero (UInt32.toNat_inj.1 zero)
  have positive' : (nextGeneration^[later] 1).toNat ≠ 0 := fun zero =>
    nonzero' (UInt32.toNat_inj.1 zero)
  rw [← UInt32.toNat_inj]
  omega

end Library
