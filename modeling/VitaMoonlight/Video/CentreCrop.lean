import VitaMoonlight.Library.Memory
import VitaMoonlight.Video.OutputSize

/-! The crop of a decoded image to its centre, in place (`vita_video_submit`): the rows of the
centre are moved one by one to the start of the buffer that they are part of.
-/

namespace VitaMoonlight

open Library

namespace FrameSize

variable (frame : FrameSize)

/-- Where the code writes a row, in a `size_t` of 32 bits. -/
def destinationWord (row : UInt32) : UInt32 := row * screenWidth * 4

/-- Where the code reads a row, in a `size_t` of 32 bits. -/
def sourceWord (row : UInt32) : UInt32 := ((row + frame.cropY) * frame.width + frame.cropX) * 4

/-- The same two offsets as numbers. -/
def destinationOffset (row : Nat) : Nat := row * screenWidth.toNat * 4

def sourceOffset (row : Nat) : Nat :=
  ((row + frame.cropY.toNat) * frame.width.toNat + frame.cropX.toNat) * 4

/-- The body of the loop. -/
def moveRow (buffer : List UInt8) (row : Nat) : Option (List UInt8) :=
  memmove buffer (destinationOffset row) (frame.sourceOffset row) (screenWidth.toNat * 4)

/-- The crop of `vita_video_submit`; `none` stands for an access outside the buffer. -/
def cropCentre (buffer : List UInt8) : Option (List UInt8) :=
  if frame.width ≠ screenWidth ∨ frame.height ≠ screenHeight then
    (List.range screenHeight.toNat).foldlM frame.moveRow buffer
  else some buffer

end FrameSize

/-- A byte of a pixel in an image whose rows are `stride` pixels apart. -/
def pixelByte (image : List UInt8) (stride x y lane : Nat) : Option UInt8 :=
  image[(y * stride + x) * 4 + lane]?

/-- What the crop is for. The loop leaves no access outside the buffer, the first pixels of the
buffer are those of the centre, and whatever lies behind them is untouched. In a buffer that a
`size_t` of 32 bits can address, the offsets that the code computes are the ones meant.
-/
structure CentreCropped (frame : FrameSize) (buffer : List UInt8) : Prop where
  cropped
    : ∃ image,
        frame.cropCentre buffer = some image
        ∧ (∀ x y lane,
            x < 960
            → y < 544
            → lane < 4
            → pixelByte image 960 x y lane
              = pixelByte buffer frame.width.toNat (x + frame.cropX.toNat) (y + frame.cropY.toNat)
                  lane)
        ∧ image.length = buffer.length
        ∧ image.drop (960 * 544 * 4) = buffer.drop (960 * 544 * 4)
  addressed
    : buffer.length ≤ 2 ^ 32
      → ∀ row : UInt32,
          row < screenHeight
          → (FrameSize.destinationWord row).toNat = FrameSize.destinationOffset row.toNat
            ∧ (frame.sourceWord row).toNat = frame.sourceOffset row.toNat

section Crop

variable {frame : FrameSize} (wide : screenWidth ≤ frame.width) (high : screenHeight ≤ frame.height)

include wide high

/-- A row of the centre starts behind the rows before it at their new place, and ends inside the
image.
-/
theorem row_inside {row : Nat} (within : row < 544)
    : row * (960 * 4) ≤ frame.sourceOffset row
      ∧ frame.sourceOffset row + 960 * 4 ≤ frame.width.toNat * frame.height.toNat * 4 := by
  obtain ⟨-, -, insideX, insideY⟩ := FrameSize.toNat_crop wide high
  have width : 960 ≤ frame.width.toNat := UInt32.le_iff_toNat_le.1 wide
  have above : row * 960 ≤ (row + frame.cropY.toNat) * frame.width.toNat :=
    Nat.mul_le_mul (Nat.le_add_right _ _) width
  have below
      : (row + frame.cropY.toNat) * frame.width.toNat + frame.width.toNat
        ≤ frame.height.toNat * frame.width.toNat := by
    rw [← Nat.succ_mul]
    exact Nat.mul_le_mul_right _ (by omega)
  rw [Nat.mul_comm frame.height.toNat] at below
  rw [FrameSize.sourceOffset]
  omega

/-- In a buffer that 32 bits can address, none of the offsets wraps. -/
theorem toNat_rowWords (addressable : frame.width.toNat * frame.height.toNat * 4 ≤ 2 ^ 32)
    {row : UInt32} (within : row < screenHeight)
    : (FrameSize.destinationWord row).toNat = FrameSize.destinationOffset row.toNat
      ∧ (frame.sourceWord row).toNat = frame.sourceOffset row.toNat := by
  have short : row.toNat < 544 := UInt32.lt_iff_toNat_lt.1 within
  obtain ⟨-, inside⟩ := row_inside wide high short
  obtain ⟨-, -, -, insideY⟩ := FrameSize.toNat_crop wide high
  have heightBound := frame.height.toNat_lt
  have screen : screenWidth.toNat = 960 := rfl
  have four : (4 : UInt32).toNat = 4 := rfl
  unfold FrameSize.sourceOffset at inside
  constructor
  · have line : (row * screenWidth).toNat = row.toNat * 960 := by
      rw [UInt32.toNat_mul, screen]
      exact Nat.mod_eq_of_lt (by omega)
    rw [FrameSize.destinationWord, FrameSize.destinationOffset, UInt32.toNat_mul, line, four, screen]
    exact Nat.mod_eq_of_lt (by omega)
  · have line : (row + frame.cropY).toNat = row.toNat + frame.cropY.toNat := by
      rw [UInt32.toNat_add]
      exact Nat.mod_eq_of_lt (by omega)
    have first
        : ((row + frame.cropY) * frame.width).toNat
          = (row.toNat + frame.cropY.toNat) * frame.width.toNat := by
      rw [UInt32.toNat_mul, line]
      exact Nat.mod_eq_of_lt (by omega)
    have pixel
        : ((row + frame.cropY) * frame.width + frame.cropX).toNat
          = (row.toNat + frame.cropY.toNat) * frame.width.toNat + frame.cropX.toNat := by
      rw [UInt32.toNat_add, first]
      exact Nat.mod_eq_of_lt (by omega)
    rw [FrameSize.sourceWord, FrameSize.sourceOffset, UInt32.toNat_mul, pixel, four]
    exact Nat.mod_eq_of_lt (by omega)

/-- The loop gathers the rows of the centre at the start of the buffer. -/
theorem foldlM_moveRow {buffer : List UInt8}
    (sized : buffer.length = frame.width.toNat * frame.height.toNat * 4)
    : (List.range screenHeight.toNat).foldlM frame.moveRow buffer
      = some
          (gatherRows buffer (960 * 4) frame.sourceOffset 544 ++ buffer.drop (544 * (960 * 4))) := by
  have body
      : frame.moveRow
        = fun memory row => memmove memory (row * (960 * 4)) (frame.sourceOffset row) (960 * 4) := by
    funext memory row
    rw [FrameSize.moveRow, FrameSize.destinationOffset, Nat.mul_assoc]
    rfl
  rw [body]
  exact foldlM_memmove_rows buffer (960 * 4) frame.sourceOffset
    (fun row within => (row_inside wide high within).1)
    fun row within => sized ▸ (row_inside wide high within).2

/-- The crop of every image that covers the screen, whatever its buffer holds. -/
theorem centre_cropped {buffer : List UInt8}
    (sized : buffer.length = frame.width.toNat * frame.height.toNat * 4)
    : CentreCropped frame buffer where
  cropped := by
    have inside : ∀ row < 544, frame.sourceOffset row + 960 * 4 ≤ buffer.length :=
      fun row within => sized ▸ (row_inside wide high within).2
    obtain ⟨cropX, cropY, -, -⟩ := FrameSize.toNat_crop wide high
    unfold FrameSize.cropCentre
    split
    · have gathered := length_gatherRows buffer (960 * 4) frame.sourceOffset inside
      refine ⟨_, foldlM_moveRow wide high sized, fun x y lane column row byte => ?_, ?_, ?_⟩
      · have moved :=
          getElem?_gatherRows buffer (960 * 4) frame.sourceOffset
            (buffer.drop (544 * (960 * 4))) inside row
            (by omega : x * 4 + lane < 960 * 4)
        have target : (y * 960 + x) * 4 + lane = y * (960 * 4) + (x * 4 + lane) := by omega
        have origin
            : ((y + frame.cropY.toNat) * frame.width.toNat + (x + frame.cropX.toNat)) * 4 + lane
              = frame.sourceOffset y + (x * 4 + lane) := by
          rw [FrameSize.sourceOffset]
          omega
        rw [pixelByte, pixelByte, target, origin]
        exact moved
      · have first := (row_inside wide high (by decide : 543 < 544)).1
        have last := inside 543 (by decide)
        rw [List.length_append, gathered, List.length_drop]
        omega
      · exact List.drop_left' (gathered.trans (by decide))
    · rename_i exactSize
      obtain ⟨width, height⟩ := not_or.1 exactSize
      rw [not_not] at width height
      refine ⟨buffer, rfl, fun x y lane _ _ _ => ?_, rfl, rfl⟩
      rw [cropX, cropY, width, height]
      rfl
  addressed := fun addressable row within => toNat_rowWords wide high (sized ▸ addressable) within

end Crop

/-- An image whose bytes go up from pixel to pixel. -/
def gradientImage (frame : FrameSize) : List UInt8 :=
  (List.range (frame.width.toNat * frame.height.toNat * 4)).map UInt8.ofNat

theorem centre_cropped_gradient
    : CentreCropped { width := 976, height := 560 }
        (gradientImage { width := 976, height := 560 }) :=
  centre_cropped (by decide) (by decide) (by rw [gradientImage, List.length_map, List.length_range])

end VitaMoonlight
