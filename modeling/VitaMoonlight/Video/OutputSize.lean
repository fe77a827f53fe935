import Mathlib.Algebra.Field.Rat
import Mathlib.Algebra.Order.Ring.Rat
import VitaMoonlight.Library.Alignment

/-! The size that the decoder is asked for (`vita_video_calculate_output_size`), and the centre of
it that is shown (`vita_video_submit`).
-/

namespace VitaMoonlight

open Library

/-- `VITA_SCREEN_WIDTH`. -/
def screenWidth : UInt32 := 960

/-- `VITA_SCREEN_HEIGHT`. -/
def screenHeight : UInt32 := 544

/-- `s_frame_width` and `s_frame_height`. -/
structure FrameSize where
  width : UInt32
  height : UInt32
deriving DecidableEq

/-- A size rounded up to a multiple of 16, in 64 bits. -/
def alignedSize (value : UInt64) : UInt64 := (value + 15) &&& ~~~15

/-- `align_decoder_resolution`, which narrows the size to 32 bits. -/
def alignDecoderResolution (value : UInt64) : UInt32 := (alignedSize value).toUInt32

/-- `divide_round_up`. -/
def divideRoundUp (numerator denominator : UInt64) : UInt64 :=
  if denominator = 0 then 0 else (numerator + denominator - 1) / denominator

/-- `vita_video_calculate_output_size`; `centerRegion` is `s_center_region`. -/
def calculateOutputSize (centerRegion : Bool) (sourceWidth sourceHeight : UInt32) : FrameSize :=
  if sourceWidth = 0 ∨ sourceHeight = 0 then { width := screenWidth, height := screenHeight }
  else
    let sourceIsNarrower := screenWidth.toUInt64 * sourceHeight.toUInt64
    let screenIsNarrower := screenHeight.toUInt64 * sourceWidth.toUInt64
    if sourceIsNarrower = screenIsNarrower then { width := screenWidth, height := screenHeight }
    else
      -- A narrow source fits at screen height and covers at screen width, a wide one the opposite.
      let scaleToWidth :=
        if centerRegion then decide (sourceIsNarrower > screenIsNarrower)
        else decide (sourceIsNarrower < screenIsNarrower)
      if scaleToWidth then
        { width := screenWidth
          height :=
            alignDecoderResolution
              (divideRoundUp (screenWidth.toUInt64 * sourceHeight.toUInt64) sourceWidth.toUInt64) }
      else
        { width :=
            alignDecoderResolution
              (divideRoundUp (screenHeight.toUInt64 * sourceWidth.toUInt64) sourceHeight.toUInt64)
          height := screenHeight }

/-- `crop_x`, an unsigned subtraction. -/
def FrameSize.cropX (frame : FrameSize) : UInt32 := (frame.width - screenWidth) / 2

/-- `crop_y`. -/
def FrameSize.cropY (frame : FrameSize) : UInt32 := (frame.height - screenHeight) / 2

-----------------------------------------------------------------------------------------
-- What the sizes are for
-----------------------------------------------------------------------------------------

/-- A dimension of the source, scaled exactly by what brings the other one to the screen's. -/
def exactSize (limit size scale : UInt32) : ℚ := (limit.toNat * size.toNat : Nat) / scale.toNat

/-- The same dimension as the code computes it, before it is narrowed to 32 bits. -/
def scaledSize (limit size scale : UInt32) : UInt64 :=
  alignedSize (divideRoundUp (limit.toUInt64 * size.toUInt64) scale.toUInt64)

section Geometry

variable (sourceWidth sourceHeight : UInt32)

/-- One dimension is that of the screen, and the other is the least multiple of 16 that is not below
the exact size.
-/
def ScaledToScreen (frame : FrameSize) : Prop :=
  (frame.width = screenWidth
      ∧ IsLeast { size : Nat | 16 ∣ size ∧ exactSize screenWidth sourceHeight sourceWidth ≤ size }
          frame.height.toNat)
    ∨ (frame.height = screenHeight
      ∧ IsLeast { size : Nat | 16 ∣ size ∧ exactSize screenHeight sourceWidth sourceHeight ≤ size }
          frame.width.toNat)

/-- The whole image is inside the screen. -/
structure FitsScreen (frame : FrameSize) : Prop where
  width : frame.width ≤ screenWidth
  height : frame.height ≤ screenHeight
  scaled : ScaledToScreen sourceWidth sourceHeight frame

/-- The image covers the screen, and the crop offsets are those of the numbers, with the screen's
rectangle inside the image.
-/
structure CoversScreen (frame : FrameSize) : Prop where
  width : screenWidth ≤ frame.width
  height : screenHeight ≤ frame.height
  scaled : ScaledToScreen sourceWidth sourceHeight frame
  cropX : frame.cropX.toNat = (frame.width.toNat - 960) / 2
  cropY : frame.cropY.toNat = (frame.height.toNat - 544) / 2
  insideX : frame.cropX.toNat + 960 ≤ frame.width.toNat
  insideY : frame.cropY.toNat + 544 ≤ frame.height.toNat

end Geometry

-----------------------------------------------------------------------------------------
-- Scaling in 64 bits
-----------------------------------------------------------------------------------------

theorem toNat_alignedSize {value : UInt64} (fits : value.toNat + 15 < 2 ^ 64)
    : (alignedSize value).toNat = roundUp value.toNat 16 := by
  have sum : (value + 15).toNat = value.toNat + 15 := by
    rw [UInt64.toNat_add]
    exact Nat.mod_eq_of_lt fits
  rw [alignedSize, UInt64.toNat_and, UInt64.toNat_not, sum]
  exact and_not_low_bits fits (by decide : 4 ≤ 64)

theorem toNat_divideRoundUp {numerator denominator : UInt64} (divides : denominator ≠ 0)
    (fits : numerator.toNat + denominator.toNat < 2 ^ 64)
    : (divideRoundUp numerator denominator).toNat = numerator.toNat ⌈/⌉ denominator.toNat := by
  have positive : 0 < denominator.toNat :=
    Nat.pos_of_ne_zero fun zero => divides (UInt64.toNat_inj.1 zero)
  have sum : (numerator + denominator).toNat = numerator.toNat + denominator.toNat := by
    rw [UInt64.toNat_add]
    exact Nat.mod_eq_of_lt fits
  have one : (1 : UInt64).toNat = 1 := rfl
  have less : 1 ≤ numerator + denominator := by
    rw [UInt64.le_iff_toNat_le, sum, one]
    omega
  rw [divideRoundUp, if_neg divides, UInt64.toNat_div, UInt64.toNat_sub_of_le _ _ less, sum, one,
    Nat.ceilDiv_eq_add_pred_div]

/-- A size of the screen times a size of the source does not wrap. -/
theorem toNat_product {limit : UInt32} (small : limit.toNat < 1024) (size : UInt32)
    : (limit.toUInt64 * size.toUInt64).toNat = limit.toNat * size.toNat
      ∧ limit.toNat * size.toNat < 2 ^ 42 := by
  have bounded : limit.toNat * size.toNat < 2 ^ 42 := by
    have := Nat.mul_lt_mul'' small size.toNat_lt
    omega
  refine ⟨?_, bounded⟩
  rw [UInt64.toNat_mul, UInt32.toNat_toUInt64, UInt32.toNat_toUInt64]
  exact Nat.mod_eq_of_lt (by omega)

section Scaling

variable {limit scale : UInt32} (small : limit.toNat < 1024) (size : UInt32) (scales : 0 < scale)

include small scales

/-- Neither of the two roundings of such a product wraps. -/
theorem toNat_scaledSize
    : (scaledSize limit size scale).toNat
      = roundUp (limit.toNat * size.toNat ⌈/⌉ scale.toNat) 16 := by
  obtain ⟨product, bounded⟩ := toNat_product small size
  have positive : 0 < scale.toNat := UInt32.lt_iff_toNat_lt.1 scales
  have divides : scale.toUInt64 ≠ 0 := fun zero => by
    have same := congrArg UInt64.toNat zero
    rw [UInt32.toNat_toUInt64] at same
    exact positive.ne' same
  have scaleBound := scale.toNat_lt
  have rounded := toNat_divideRoundUp divides
    (by rw [product, UInt32.toNat_toUInt64]; omega
      : (limit.toUInt64 * size.toUInt64).toNat + scale.toUInt64.toNat < 2 ^ 64)
  rw [product, UInt32.toNat_toUInt64] at rounded
  have quotient : limit.toNat * size.toNat ⌈/⌉ scale.toNat ≤ limit.toNat * size.toNat :=
    (ceilDiv_le_iff_le_mul positive).2 (Nat.le_mul_of_pos_left _ positive)
  rw [scaledSize, toNat_alignedSize (by omega), rounded]

theorem isLeast_scaledSize
    : IsLeast { bound : Nat | 16 ∣ bound ∧ exactSize limit size scale ≤ bound }
        (scaledSize limit size scale).toNat := by
  rw [toNat_scaledSize small size scales]
  exact isLeast_roundUp_ceilDiv ℚ _ (UInt32.lt_iff_toNat_lt.1 scales) (by decide)

/-- The scaled size is within a multiple of 16 where the exact one is. -/
theorem scaledSize_le_iff {bound : Nat} (aligned : 16 ∣ bound)
    : (scaledSize limit size scale).toNat ≤ bound
      ↔ limit.toNat * size.toNat ≤ bound * scale.toNat := by
  rw [toNat_scaledSize small size scales, roundUp_le_iff (by decide) aligned,
    ceilDiv_le_iff_le_mul (UInt32.lt_iff_toNat_lt.1 scales), Nat.mul_comm bound]

theorem le_scaledSize {bound : Nat} (below : bound * scale.toNat ≤ limit.toNat * size.toNat)
    : bound ≤ (scaledSize limit size scale).toNat := by
  have positive : 0 < scale.toNat := UInt32.lt_iff_toNat_lt.1 scales
  have covered := (ceilDiv_le_iff_le_mul positive).1 (le_refl (limit.toNat * size.toNat ⌈/⌉ scale.toNat))
  rw [toNat_scaledSize small size scales]
  refine le_trans ?_ (le_roundUp _ (by decide))
  exact Nat.le_of_mul_le_mul_left (Nat.mul_comm bound _ ▸ below.trans covered) positive

end Scaling

/-- A size that fits in 32 bits is not changed when it is narrowed. -/
theorem toNat_narrowed {size : UInt64} (fits : size.toNat < 2 ^ 32)
    : size.toUInt32.toNat = size.toNat := by
  rw [UInt64.toNat_toUInt32]
  exact Nat.mod_eq_of_lt fits

section Sizes

variable {sourceWidth sourceHeight : UInt32} (wide : 0 < sourceWidth) (high : 0 < sourceHeight)

include wide high

omit high in
/-- At the ratio of the screen the scaled height is that of the screen. -/
theorem scaledHeight_of_ratio (ratio : 960 * sourceHeight.toNat = 544 * sourceWidth.toNat)
    : (scaledSize screenWidth sourceHeight sourceWidth).toUInt32 = screenHeight := by
  have height : (scaledSize screenWidth sourceHeight sourceWidth).toNat = 544 :=
    le_antisymm ((scaledSize_le_iff (by decide) _ wide (by decide)).2 ratio.le)
      (le_scaledSize (by decide) _ wide ratio.ge)
  rw [← UInt32.toNat_inj, toNat_narrowed (by omega), height]
  rfl

/-- Which dimension is scaled; at the ratio of the screen either one gives the screen's size. -/
theorem calculateOutputSize_eq (centerRegion : Bool)
    : calculateOutputSize centerRegion sourceWidth sourceHeight
      = if (if centerRegion then 544 * sourceWidth.toNat ≤ 960 * sourceHeight.toNat
            else 960 * sourceHeight.toNat ≤ 544 * sourceWidth.toNat) then
          { width := screenWidth
            height := (scaledSize screenWidth sourceHeight sourceWidth).toUInt32 }
        else
          { width := (scaledSize screenHeight sourceWidth sourceHeight).toUInt32
            height := screenHeight } := by
  have heights
      : (screenWidth.toUInt64 * sourceHeight.toUInt64).toNat = 960 * sourceHeight.toNat :=
    (toNat_product (by decide) sourceHeight).1
  have widths
      : (screenHeight.toUInt64 * sourceWidth.toUInt64).toNat = 544 * sourceWidth.toNat :=
    (toNat_product (by decide) sourceWidth).1
  have positive : ¬ (sourceWidth = 0 ∨ sourceHeight = 0) := by
    rw [UInt32.lt_iff_toNat_lt] at wide high
    rintro (rfl | rfl)
    · exact Nat.lt_irrefl _ wide
    · exact Nat.lt_irrefl _ high
  simp only [calculateOutputSize, if_neg positive, ← UInt64.toNat_inj, GT.gt, UInt64.lt_iff_toNat_lt,
    heights, widths]
  obtain narrow | ratio | wider
      := lt_trichotomy (960 * sourceHeight.toNat) (544 * sourceWidth.toNat)
  · cases centerRegion
    · simp [narrow, narrow.ne, narrow.le, alignDecoderResolution, scaledSize]
    · simp [narrow.ne, not_lt_of_gt narrow, not_le_of_gt narrow, alignDecoderResolution, scaledSize]
  · simp [ratio, scaledHeight_of_ratio wide ratio]
  · cases centerRegion
    · simp [wider.ne', not_lt_of_gt wider, not_le_of_gt wider, alignDecoderResolution, scaledSize]
    · simp [wider, wider.ne', wider.le, alignDecoderResolution, scaledSize]

theorem fitsScreen
    : FitsScreen sourceWidth sourceHeight
        (calculateOutputSize false sourceWidth sourceHeight) := by
  simp only [calculateOutputSize_eq wide high, Bool.false_eq_true, if_false]
  split
  · rename_i narrow
    have within : (scaledSize screenWidth sourceHeight sourceWidth).toNat ≤ 544 :=
      (scaledSize_le_iff (by decide) _ wide (by decide)).2 narrow
    have narrowed := toNat_narrowed
      (by omega : (scaledSize screenWidth sourceHeight sourceWidth).toNat < 2 ^ 32)
    refine ⟨UInt32.le_refl _, ?_, .inl ⟨rfl, ?_⟩⟩
    · rw [UInt32.le_iff_toNat_le, narrowed]
      exact within
    · rw [narrowed]
      exact isLeast_scaledSize (by decide) _ wide
  · rename_i wider
    have within : (scaledSize screenHeight sourceWidth sourceHeight).toNat ≤ 960 :=
      (scaledSize_le_iff (by decide) _ high (by decide)).2 (Nat.le_of_not_le wider)
    have narrowed := toNat_narrowed
      (by omega : (scaledSize screenHeight sourceWidth sourceHeight).toNat < 2 ^ 32)
    refine ⟨?_, UInt32.le_refl _, .inr ⟨rfl, ?_⟩⟩
    · rw [UInt32.le_iff_toNat_le, narrowed]
      exact within
    · rw [narrowed]
      exact isLeast_scaledSize (by decide) _ high

omit wide high in
/-- Over an image that covers the screen the crop offsets are those of the numbers. -/
theorem FrameSize.toNat_crop {frame : FrameSize} (width : screenWidth ≤ frame.width)
    (height : screenHeight ≤ frame.height)
    : frame.cropX.toNat = (frame.width.toNat - 960) / 2
      ∧ frame.cropY.toNat = (frame.height.toNat - 544) / 2
      ∧ frame.cropX.toNat + 960 ≤ frame.width.toNat
      ∧ frame.cropY.toNat + 544 ≤ frame.height.toNat := by
  have cropX : frame.cropX.toNat = (frame.width.toNat - 960) / 2 := by
    rw [FrameSize.cropX, UInt32.toNat_div, UInt32.toNat_sub_of_le _ _ width]
    rfl
  have cropY : frame.cropY.toNat = (frame.height.toNat - 544) / 2 := by
    rw [FrameSize.cropY, UInt32.toNat_div, UInt32.toNat_sub_of_le _ _ height]
    rfl
  have covered : 960 ≤ frame.width.toNat := UInt32.le_iff_toNat_le.1 width
  have covers : 544 ≤ frame.height.toNat := UInt32.le_iff_toNat_le.1 height
  exact ⟨cropX, cropY, by omega, by omega⟩

omit wide high in
theorem CoversScreen.of_covers {frame : FrameSize} (width : screenWidth ≤ frame.width)
    (height : screenHeight ≤ frame.height) (scaled : ScaledToScreen sourceWidth sourceHeight frame)
    : CoversScreen sourceWidth sourceHeight frame := by
  obtain ⟨cropX, cropY, insideX, insideY⟩ := FrameSize.toNat_crop width height
  exact { width, height, scaled, cropX, cropY, insideX, insideY }

omit wide high in
/-- A source so narrow that its height does not fit in 32 bits scales to a width of at most 16, and
the other way round.
-/
theorem scaledSize_le_of_large (limit other : UInt32) {size scale : UInt32}
    (small : limit.toNat < 1024) (otherSmall : other.toNat < 1024) (positive : 0 < size) (scales : 0 < scale)
    (large : 2 ^ 32 ≤ (scaledSize limit size scale).toNat)
    : (scaledSize other scale size).toNat ≤ 16 := by
  rw [scaledSize_le_iff otherSmall scale positive (by decide)]
  have beyond : ¬ (scaledSize limit size scale).toNat ≤ 2 ^ 32 - 16 := by omega
  rw [scaledSize_le_iff small size scales (by decide), not_le] at beyond
  have products : limit.toNat * other.toNat ≤ 2 ^ 32 - 16 :=
    (Nat.mul_le_mul small.le otherSmall.le).trans (by decide)
  have ratio : limit.toNat * (other.toNat * scale.toNat) < limit.toNat * size.toNat := by
    rw [← Nat.mul_assoc]
    exact (Nat.mul_le_mul_right scale.toNat products).trans_lt beyond
  have := Nat.lt_of_mul_lt_mul_left ratio
  omega

/-- In cover mode the size is right exactly when it still fits in 32 bits. -/
theorem coversScreen_iff
    : CoversScreen sourceWidth sourceHeight (calculateOutputSize true sourceWidth sourceHeight)
      ↔ (scaledSize screenWidth sourceHeight sourceWidth).toNat < 2 ^ 32
        ∧ (scaledSize screenHeight sourceWidth sourceHeight).toNat < 2 ^ 32 := by
  have leastHeight := isLeast_scaledSize (by decide : screenWidth.toNat < 1024) sourceHeight wide
  have leastWidth := isLeast_scaledSize (by decide : screenHeight.toNat < 1024) sourceWidth high
  simp only [calculateOutputSize_eq wide high, if_true]
  split
  · rename_i narrow
    have within : (scaledSize screenHeight sourceWidth sourceHeight).toNat ≤ 960 :=
      (scaledSize_le_iff (by decide) _ high (by decide)).2 narrow
    have covers : 544 ≤ (scaledSize screenWidth sourceHeight sourceWidth).toNat :=
      le_scaledSize (by decide) _ wide narrow
    constructor
    · intro image
      refine ⟨not_le.1 fun large => ?_, by omega⟩
      obtain ⟨-, least⟩ | ⟨-, least⟩ := image.scaled
      · exact absurd (leastHeight.unique least ▸ UInt32.toNat_lt _) (not_lt.2 large)
      · have tiny :=
          scaledSize_le_of_large screenWidth screenHeight (by decide) (by decide) high wide large
        have same : _ = (960 : Nat) := leastWidth.unique least
        omega
    · intro ⟨fits, _⟩
      have narrowed := toNat_narrowed fits
      refine .of_covers (UInt32.le_refl _) ?_ (.inl ⟨rfl, ?_⟩)
      · rw [UInt32.le_iff_toNat_le, narrowed]
        exact covers
      · rw [narrowed]
        exact leastHeight
  · rename_i wider
    have within : (scaledSize screenWidth sourceHeight sourceWidth).toNat ≤ 544 :=
      (scaledSize_le_iff (by decide) _ wide (by decide)).2 (Nat.le_of_not_le wider)
    have covers : 960 ≤ (scaledSize screenHeight sourceWidth sourceHeight).toNat :=
      le_scaledSize (by decide) _ high (Nat.le_of_not_le wider)
    constructor
    · intro image
      refine ⟨by omega, not_le.1 fun large => ?_⟩
      obtain ⟨-, least⟩ | ⟨-, least⟩ := image.scaled
      · have tiny :=
          scaledSize_le_of_large screenHeight screenWidth (by decide) (by decide) wide high large
        have same : _ = (544 : Nat) := leastHeight.unique least
        omega
      · exact absurd (leastWidth.unique least ▸ UInt32.toNat_lt _) (not_lt.2 large)
    · intro ⟨_, fits⟩
      have narrowed := toNat_narrowed fits
      refine .of_covers ?_ (UInt32.le_refl _) (.inr ⟨rfl, ?_⟩)
      · rw [UInt32.le_iff_toNat_le, narrowed]
        exact covers
      · rw [narrowed]
        exact leastWidth

/-- The size that is computed for a source: in fit mode it is always right, and in cover mode
exactly when the scaled size fits in 32 bits, as it does for every source below 65536.
-/
theorem output_size_geometry
    : FitsScreen sourceWidth sourceHeight (calculateOutputSize false sourceWidth sourceHeight)
      ∧ (CoversScreen sourceWidth sourceHeight (calculateOutputSize true sourceWidth sourceHeight)
          ↔ (scaledSize screenWidth sourceHeight sourceWidth).toNat < 2 ^ 32
            ∧ (scaledSize screenHeight sourceWidth sourceHeight).toNat < 2 ^ 32)
      ∧ (sourceWidth < 65536
          → sourceHeight < 65536
          → (scaledSize screenWidth sourceHeight sourceWidth).toNat < 2 ^ 32
            ∧ (scaledSize screenHeight sourceWidth sourceHeight).toNat < 2 ^ 32) := by
  refine ⟨fitsScreen wide high, coversScreen_iff wide high, fun narrow low => ?_⟩
  have small (limit size scale : UInt32) (bounded : limit.toNat < 1024) (short : size < 65536)
      (scales : 0 < scale)
      : (scaledSize limit size scale).toNat < 2 ^ 32 := by
    have within : (scaledSize limit size scale).toNat ≤ 2 ^ 32 - 16 := by
      rw [scaledSize_le_iff bounded size scales (by decide)]
      have product := Nat.mul_le_mul bounded.le (UInt32.lt_iff_toNat_lt.1 short).le
      have positive : 0 < scale.toNat := UInt32.lt_iff_toNat_lt.1 scales
      refine product.trans (le_trans ?_ (Nat.le_mul_of_pos_right _ positive))
      decide
    omega
  exact ⟨small _ _ _ (by decide) low wide, small _ _ _ (by decide) narrow high⟩

end Sizes

theorem output_size_geometry_hd
    : FitsScreen 1280 720 { width := 960, height := 544 }
      ∧ (CoversScreen 1280 720 { width := 976, height := 544 }
          ↔ (scaledSize screenWidth 720 1280).toNat < 2 ^ 32
            ∧ (scaledSize screenHeight 1280 720).toNat < 2 ^ 32)
      ∧ ((1280 : UInt32) < 65536
          → (720 : UInt32) < 65536
          → (scaledSize screenWidth 720 1280).toNat < 2 ^ 32
            ∧ (scaledSize screenHeight 1280 720).toNat < 2 ^ 32) :=
  output_size_geometry (by decide : 0 < (1280 : UInt32)) (by decide : 0 < (720 : UInt32))

end VitaMoonlight
