import Mathlib.Algebra.Order.Field.Basic
import Mathlib.Algebra.Order.Floor.Div
import Mathlib.Data.Nat.Cast.Order.Ring
import Mathlib.Order.Bounds.Defs

/-! Sizes rounded up to a multiple of an alignment, and the masks by which machine words do it
where the alignment is a power of two.
-/

namespace Library

/-- The size rounded up to a multiple of the alignment. -/
def roundUp (size alignment : Nat) : Nat := (size + (alignment - 1)) / alignment * alignment

theorem dvd_roundUp (size alignment : Nat) : alignment ∣ roundUp size alignment :=
  Nat.dvd_mul_left alignment _

theorem le_roundUp (size : Nat) {alignment : Nat} (positive : 0 < alignment)
    : size ≤ roundUp size alignment := by
  have remainder := Nat.mod_lt (size + (alignment - 1)) positive
  have split := Nat.div_add_mod' (size + (alignment - 1)) alignment
  unfold roundUp
  omega

theorem roundUp_le {size alignment bound : Nat} (above : size ≤ bound) (aligned : alignment ∣ bound)
    : roundUp size alignment ≤ bound := by
  obtain ⟨count, rfl⟩ := aligned
  obtain rfl | positive := Nat.eq_zero_or_pos alignment
  · simp [roundUp]
  · rw [roundUp, Nat.mul_comm alignment]
    refine Nat.mul_le_mul_right alignment ?_
    rw [← Nat.lt_succ_iff, Nat.div_lt_iff_lt_mul positive, Nat.succ_mul, Nat.mul_comm count]
    omega

theorem roundUp_le_iff {size alignment bound : Nat} (positive : 0 < alignment)
    (aligned : alignment ∣ bound)
    : roundUp size alignment ≤ bound ↔ size ≤ bound :=
  ⟨(le_roundUp size positive).trans, fun above => roundUp_le above aligned⟩

theorem roundUp_le_add (size alignment : Nat)
    : roundUp size alignment ≤ size + (alignment - 1) :=
  Nat.div_mul_le_self _ _

/-- Rounding up gives the least multiple that is not below the size. -/
theorem isLeast_roundUp (size : Nat) {alignment : Nat} (positive : 0 < alignment)
    : IsLeast { bound | alignment ∣ bound ∧ size ≤ bound } (roundUp size alignment) :=
  ⟨⟨dvd_roundUp size alignment, le_roundUp size positive⟩, fun _ ⟨aligned, above⟩ =>
    roundUp_le above aligned⟩

/-- Rounding a quotient up to a whole number and then to a multiple gives the least multiple that is
not below the exact quotient.
-/
theorem isLeast_roundUp_ceilDiv (Exact : Type*) [Field Exact] [LinearOrder Exact]
    [IsStrictOrderedRing Exact] (size : Nat) {scale alignment : Nat} (scales : 0 < scale)
    (positive : 0 < alignment)
    : IsLeast { bound : Nat | alignment ∣ bound ∧ (size : Exact) / scale ≤ bound }
        (roundUp (size ⌈/⌉ scale) alignment) := by
  have exact (bound : Nat) : (size : Exact) / scale ≤ bound ↔ size ⌈/⌉ scale ≤ bound := by
    rw [div_le_iff₀ (Nat.cast_pos.2 scales), ← Nat.cast_mul, Nat.cast_le,
      ceilDiv_le_iff_le_mul scales, Nat.mul_comm]
  simp only [exact]
  exact isLeast_roundUp _ positive

/-- Clearing the low bits of a number leaves a multiple of the power of two. -/
theorem and_not_low_bits {word width bits : Nat} (fits : word < 2 ^ width) (narrow : bits ≤ width)
    : word &&& (2 ^ width - 1 - (2 ^ bits - 1)) = word / 2 ^ bits * 2 ^ bits := by
  have mask : 2 ^ width - 1 - (2 ^ bits - 1) = (2 ^ (width - bits) - 1) * 2 ^ bits := by
    rw [Nat.sub_mul, ← Nat.pow_add, Nat.sub_add_cancel narrow, Nat.one_mul]
    have := Nat.one_le_two_pow (n := bits)
    omega
  refine Nat.eq_of_testBit_eq fun position => ?_
  rw [mask, Nat.testBit_and, Nat.testBit_mul_two_pow, Nat.testBit_mul_two_pow,
    Nat.testBit_two_pow_sub_one, Nat.testBit_div_two_pow]
  by_cases low : bits ≤ position
  · rw [Nat.sub_add_cancel low]
    by_cases inside : position < width
    · simp [low, show position - bits < width - bits by omega]
    · have absent : word.testBit position = false :=
        Nat.testBit_lt_two_pow (fits.trans_le (Nat.pow_le_pow_right (by decide) (not_lt.1 inside)))
      simp [absent]
  · simp [low]

end Library
