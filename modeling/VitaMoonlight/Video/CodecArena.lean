import VitaMoonlight.Library.Alignment
import VitaMoonlight.Video.SystemVideo

/-! Which arena is requested for the codec. `round_allocation` answers 0 for a size that it refuses,
and the sum of the arena takes such a 0 for a size.
-/

namespace VitaMoonlight

open Library

/-- A size is refused, or rounded up without a wrap. -/
theorem roundAllocation_cases (size alignment : UInt32) {bits : Nat} (narrow : bits ≤ 26)
    (power : alignment.toNat = 2 ^ bits)
    : roundAllocation size alignment = 0
        ∧ (size.toNat = 0 ∨ 2 ^ 26 < size.toNat + (2 ^ bits - 1))
      ∨ 0 < size.toNat
        ∧ size.toNat + (2 ^ bits - 1) ≤ 2 ^ 26
        ∧ (roundAllocation size alignment).toNat = roundUp size.toNat (2 ^ bits) := by
  have positive := Nat.one_le_two_pow (n := bits)
  have bounded : 2 ^ bits ≤ 2 ^ 26 := Nat.pow_le_pow_right (by decide) narrow
  have low : (alignment - 1).toNat = 2 ^ bits - 1 := by
    rw [UInt32.toNat_sub_of_le _ _ (by rw [UInt32.le_iff_toNat_le, power]; exact positive), power]
    rfl
  have limit : systemVideoMemLimit.toNat = 2 ^ 26 := rfl
  have room : (systemVideoMemLimit - (alignment - 1)).toNat = 2 ^ 26 - (2 ^ bits - 1) := by
    rw [UInt32.toNat_sub_of_le _ _ (by rw [UInt32.le_iff_toNat_le, low, limit]; omega), low, limit]
  unfold roundAllocation
  split
  · rename_i refused
    rw [← UInt32.toNat_inj, GT.gt, UInt32.lt_iff_toNat_lt, room] at refused
    refine .inl ⟨rfl, refused.imp id fun large => ?_⟩
    omega
  · rename_i kept
    rw [← UInt32.toNat_inj, GT.gt, UInt32.lt_iff_toNat_lt, room, not_or] at kept
    obtain ⟨filled, fits⟩ := kept
    have filled : size.toNat ≠ 0 := filled
    have whole : (size + alignment).toNat = size.toNat + 2 ^ bits := by
      rw [UInt32.toNat_add, power]
      exact Nat.mod_eq_of_lt (by omega)
    have sum : (size + alignment - 1).toNat = size.toNat + (2 ^ bits - 1) := by
      have one : (1 : UInt32).toNat = 1 := rfl
      rw [UInt32.toNat_sub_of_le _ _ (by rw [UInt32.le_iff_toNat_le, whole, one]; omega), whole, one]
      omega
    refine .inr ⟨Nat.pos_of_ne_zero filled, by omega, ?_⟩
    rw [UInt32.toNat_and, UInt32.toNat_not, sum, low]
    change (size.toNat + (2 ^ bits - 1)) &&& (2 ^ 32 - 1 - (2 ^ bits - 1)) = _
    exact and_not_low_bits (by omega) (by omega)

/-- What the arena is for: every rounding and every sum is that of the numbers, and the request
has room for both sizes and one alignment unit within the limit.
-/
structure ArenaCovers (librarySize frameMemSize : UInt32) : Prop where
  context
    : (codecSizes librarySize frameMemSize).contextSize.toNat = roundUp librarySize.toNat 0x40000
  frameStore
    : (codecSizes librarySize frameMemSize).frameStoreSize.toNat
      = roundUp frameMemSize.toNat 0x100000
  arena
    : (codecSizes librarySize frameMemSize).arenaSize.toNat
      = roundUp (roundUp librarySize.toNat 0x40000) 0x100000 + roundUp frameMemSize.toNat 0x100000
        + 0x100000
  covers
    : (codecSizes librarySize frameMemSize).contextSize.toNat
        + (codecSizes librarySize frameMemSize).frameStoreSize.toNat + 0x100000
      ≤ (codecSizes librarySize frameMemSize).arenaSize.toNat
  within : (codecSizes librarySize frameMemSize).arenaSize.toNat ≤ 64 * 1024 * 1024

/-- The sizes that are accepted are the roundings of sizes that can be rounded, and add up without a
wrap; only the context may be too large to be rounded once more, and then it counts as 0.
-/
theorem codecSizes_accepted {librarySize frameMemSize : UInt32}
    (accepted : (codecSizes librarySize frameMemSize).accepted = true)
    : (codecSizes librarySize frameMemSize).contextSize.toNat = roundUp librarySize.toNat 0x40000
      ∧ 0 < librarySize.toNat
      ∧ (codecSizes librarySize frameMemSize).frameStoreSize.toNat
        = roundUp frameMemSize.toNat 0x100000
      ∧ (codecSizes librarySize frameMemSize).arenaSize.toNat
        = (if roundUp librarySize.toNat 0x40000 ≤ 63 * 1024 * 1024 then
              roundUp (roundUp librarySize.toNat 0x40000) 0x100000
            else 0)
          + roundUp frameMemSize.toNat 0x100000 + 0x100000
      ∧ (codecSizes librarySize frameMemSize).arenaSize.toNat ≤ 64 * 1024 * 1024 := by
  have sizes := accepted
  simp only [CodecSizes.accepted, Bool.not_eq_true', Bool.or_eq_false_iff, beq_eq_false_iff_ne,
    decide_eq_false_iff_not, GT.gt, UInt32.not_lt, UInt32.le_iff_toNat_le] at sizes
  obtain ⟨⟨context, frameStore⟩, within⟩ := sizes
  have unit : systemVideoMemAlignment.toNat = 2 ^ 20 := rfl
  obtain ⟨refused, -⟩ | ⟨filled, fits, contextRounds⟩ :=
    roundAllocation_cases librarySize 0x40000 (by decide : 18 ≤ 26) rfl
  · exact absurd refused context
  obtain ⟨refused, -⟩ | ⟨-, frameFits, frameRounds⟩ :=
    roundAllocation_cases frameMemSize systemVideoMemAlignment (by decide) unit
  · exact absurd refused frameStore
  have contextRounds
      : (codecSizes librarySize frameMemSize).contextSize.toNat
        = roundUp librarySize.toNat 0x40000 := contextRounds
  have frameRounds
      : (codecSizes librarySize frameMemSize).frameStoreSize.toNat
        = roundUp frameMemSize.toNat 0x100000 := frameRounds
  have frameBound : roundUp frameMemSize.toNat 0x100000 ≤ 2 ^ 26 :=
    (roundUp_le_add frameMemSize.toNat 0x100000).trans frameFits
  have inner
      : (roundAllocation (codecSizes librarySize frameMemSize).contextSize
            systemVideoMemAlignment).toNat
          = (if roundUp librarySize.toNat 0x40000 ≤ 63 * 1024 * 1024 then
              roundUp (roundUp librarySize.toNat 0x40000) 0x100000
            else 0)
        ∧ (roundAllocation (codecSizes librarySize frameMemSize).contextSize
            systemVideoMemAlignment).toNat ≤ 2 ^ 26 := by
    obtain ⟨refused, large⟩ | ⟨-, small, rounds⟩ :=
      roundAllocation_cases (codecSizes librarySize frameMemSize).contextSize
        systemVideoMemAlignment (by decide) unit
    · have beyond : ¬ roundUp librarySize.toNat 0x40000 ≤ 63 * 1024 * 1024 := by
        have above := le_roundUp librarySize.toNat (by decide : 0 < 0x40000)
        rw [contextRounds] at large
        omega
      rw [refused, if_neg beyond]
      exact ⟨rfl, Nat.zero_le _⟩
    · have within : roundUp librarySize.toNat 0x40000 ≤ 63 * 1024 * 1024 := by
        -- One byte more than 63 MiB would still be rounded, but the context is a multiple of 256 KiB.
        obtain ⟨blocks, aligned⟩ := dvd_roundUp librarySize.toNat 0x40000
        rw [contextRounds] at small
        omega
      have bound := roundUp_le_add (codecSizes librarySize frameMemSize).contextSize.toNat (2 ^ 20)
      rw [if_pos within, rounds]
      refine ⟨?_, bound.trans small⟩
      rw [contextRounds]
      rfl
  have sum
      : (codecSizes librarySize frameMemSize).arenaSize.toNat
        = (roundAllocation (codecSizes librarySize frameMemSize).contextSize
              systemVideoMemAlignment).toNat
          + roundUp frameMemSize.toNat 0x100000 + 0x100000 := by
    have first
        : (roundAllocation (codecSizes librarySize frameMemSize).contextSize systemVideoMemAlignment
              + (codecSizes librarySize frameMemSize).frameStoreSize).toNat
          = (roundAllocation (codecSizes librarySize frameMemSize).contextSize
                systemVideoMemAlignment).toNat
            + roundUp frameMemSize.toNat 0x100000 := by
      rw [UInt32.toNat_add, frameRounds]
      exact Nat.mod_eq_of_lt (by omega)
    change
      (roundAllocation (codecSizes librarySize frameMemSize).contextSize systemVideoMemAlignment
        + (codecSizes librarySize frameMemSize).frameStoreSize + systemVideoMemAlignment).toNat = _
    rw [UInt32.toNat_add, first, unit]
    exact Nat.mod_eq_of_lt (by omega)
  refine ⟨contextRounds, filled, frameRounds, ?_, within⟩
  rw [sum, inner.1]

/-- The arena has the room it needs exactly when the library asks for no more than 63 MiB: a larger
context can still be rounded to its own alignment, but not to the arena's.
-/
theorem arena_covers_iff {librarySize frameMemSize : UInt32}
    (accepted : (codecSizes librarySize frameMemSize).accepted = true)
    : ArenaCovers librarySize frameMemSize ↔ librarySize.toNat ≤ 63 * 1024 * 1024 := by
  obtain ⟨context, filled, frameStore, arena, within⟩ := codecSizes_accepted accepted
  have larger := le_roundUp librarySize.toNat (by decide : 0 < 0x40000)
  have fits
      : librarySize.toNat ≤ 63 * 1024 * 1024
        ↔ roundUp librarySize.toNat 0x40000 ≤ 63 * 1024 * 1024 :=
    ⟨fun small => roundUp_le small (by decide), larger.trans⟩
  constructor
  · intro covers
    by_contra large
    have room := covers.covers
    rw [fits] at large
    rw [arena, if_neg large, context, frameStore] at room
    omega
  · intro small
    rw [if_pos (fits.1 small)] at arena
    refine ⟨context, frameStore, arena, ?_, within⟩
    rw [arena, context, frameStore]
    have again := le_roundUp (roundUp librarySize.toNat 0x40000) (by decide : 0 < 0x100000)
    omega

theorem arena_covers_iff_six_mebibytes
    : (codecSizes 0x600000 0x280000).accepted = true
      ∧ (ArenaCovers 0x600000 0x280000 ↔ (0x600000 : UInt32).toNat ≤ 63 * 1024 * 1024) :=
  ⟨by decide, arena_covers_iff (by decide)⟩

/-- One byte more than 63 MiB is accepted with an arena of 2 MiB. -/
theorem arena_too_small_for_context
    : ¬ ∀ librarySize frameMemSize : UInt32,
        (codecSizes librarySize frameMemSize).accepted = true
        -> ArenaCovers librarySize frameMemSize := by
  intro covered
  have covers := (covered 0x3F00001 1 (by decide)).covers
  have short
      : ¬ (codecSizes 0x3F00001 1).contextSize.toNat + (codecSizes 0x3F00001 1).frameStoreSize.toNat
            + 0x100000
          ≤ (codecSizes 0x3F00001 1).arenaSize.toNat := by
    decide
  exact short covers

end VitaMoonlight
