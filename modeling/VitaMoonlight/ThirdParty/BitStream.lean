import VitaMoonlight.Library.BitString
import Mathlib.Tactic.Common

/-! The bit reader and writer of the vendored H.264 library (`third_party/h264bitstream/bs.h`).
A coder is code over one stream; it has no result where the behaviour of the source is undefined.
-/

namespace VitaMoonlight.H264

open Library

/-- `bs_t`: the bytes from `start` to `end`, the place of `p` among them, and the bits that are
left in its byte.
-/
structure BitStream where
  bytes : List UInt8
  p : Nat
  bitsLeft : Nat
deriving DecidableEq

/-- Code over a stream. -/
abbrev Coder := StateT BitStream Option

/-- Code whose behaviour is undefined. -/
def undefined {Value : Type} : Coder Value := fun _ => none

/-- A coder goes on with the stream that the one before it has left. -/
theorem bind_apply {Value Other : Type} (first : Coder Value) (next : Value → Coder Other)
    (b : BitStream)
    : (first >>= next) b = (first b).bind fun result => next result.1 result.2 := rfl

theorem bind_eq_some {Value Other : Type} {first : Coder Value} {next : Value → Coder Other}
    {b final : BitStream} {other : Other}
    : (first >>= next) b = some (other, final)
      ↔ ∃ value between,
          first b = some (value, between) ∧ next value between = some (other, final) := by
  rw [bind_apply, Option.bind_eq_some_iff]
  constructor
  · rintro ⟨⟨value, between⟩, front, behind⟩
    exact ⟨value, between, front, behind⟩
  · rintro ⟨value, between, front, behind⟩
    exact ⟨(value, between), front, behind⟩

/-- `bs_init`. -/
def BitStream.init (bytes : List UInt8) : BitStream := ⟨bytes, 0, 8⟩

/-- `bs_byte_aligned`. -/
def BitStream.byteAligned (b : BitStream) : Bool := b.bitsLeft == 8

/-- `bs_eof`. -/
def BitStream.eof (b : BitStream) : Bool := b.bytes.length ≤ b.p

/-- `bs_overrun`. -/
def BitStream.overrun (b : BitStream) : Bool := b.bytes.length < b.p

/-- `bs_pos`. -/
def BitStream.pos (b : BitStream) : Nat := if b.overrun then b.bytes.length else b.p

-----------------------------------------------------------------------------------------
-- Single bits
-----------------------------------------------------------------------------------------

/-- `bs_peek_u1`: there are only zeros behind the end. -/
def BitStream.peekU1 (b : BitStream) : Bool :=
  match b.bytes[b.p]? with
  | some byte => byte.toNat.testBit (b.bitsLeft - 1)
  | none => false

/-- `bs_skip_u1`, which is also how the other single steps move on. -/
def BitStream.skipU1 (b : BitStream) : BitStream :=
  if b.bitsLeft - 1 = 0 then { b with p := b.p + 1, bitsLeft := 8 }
  else { b with bitsLeft := b.bitsLeft - 1 }

/-- `bs_skip_u1`. -/
def skipU1 : Coder Unit := fun b => some ((), b.skipU1)

/-- `bs_read_u1`. -/
def readU1 : Coder Bool := fun b => some (b.peekU1, b.skipU1)

/-- A byte with one bit cleared and set again. -/
def putBit (v : Bool) (place : Nat) (byte : UInt8) : UInt8 :=
  byte &&& ~~~((1 : UInt8) <<< place.toUInt8) ||| (v.toUInt8 <<< place.toUInt8)

/-- `bs_write_u1`: nothing is stored behind the end. -/
def writeU1 (v : Bool) : Coder Unit := fun b =>
  some ((), { b.skipU1 with bytes := b.bytes.modify b.p (putBit v (b.bitsLeft - 1)) })

-----------------------------------------------------------------------------------------
-- Numbers of a fixed width
-----------------------------------------------------------------------------------------

/-- The loop of `bs_read_u` with the bits that are still to be read. -/
def readBits : Nat → Nat → Coder Nat
  | 0, r => pure r
  | left + 1, r => do
      let bit ← readU1
      readBits left (r ||| bit.toNat <<< left)

/-- `bs_read_u`, for at most 32 bits. -/
def readU (n : Nat) : Coder (BitVec n) := do
  let r ← readBits n 0
  pure (BitVec.ofNat n r)

/-- `bs_skip_u`. -/
def skipU : Nat → Coder Unit
  | 0 => pure ()
  | left + 1 => do
      skipU1
      skipU left

/-- `bs_read_u8`: a whole byte at once where the stream stands at one. -/
def readU8 : Coder (BitVec 8) := fun b =>
  match b.bytes[b.p]? with
  | some byte =>
      if b.byteAligned then some (byte.toBitVec, { b with p := b.p + 1 }) else readU 8 b
  | none => readU 8 b

/-- The loop of `bs_write_u` with the bits that are still to be written. -/
def writeBits (v : Nat) : Nat → Coder Unit
  | 0 => pure ()
  | left + 1 => do
      writeU1 (v.testBit left)
      writeBits v left

/-- `bs_write_u`: a shift of an `uint32_t` by its width is undefined. -/
def writeU (n v : Nat) : Coder Unit := if n ≤ 32 then writeBits v n else undefined

/-- `bs_write_u8`. -/
def writeU8 (v : BitVec 8) : Coder Unit := fun b =>
  if b.byteAligned && !b.eof then
    some ((), { b with bytes := b.bytes.set b.p (UInt8.ofBitVec v), p := b.p + 1 })
  else writeU 8 v.toNat b

-----------------------------------------------------------------------------------------
-- Exp-Golomb numbers
-----------------------------------------------------------------------------------------

/-- What `bs_read_ue` can return. -/
abbrev Ue := Fin 2147483647

instance Ue.neZero : NeZero 2147483647 := ⟨by decide⟩

/-- What `bs_read_se` can return. -/
structure Se where
  val : Int
  small : val.natAbs < 1073741824
deriving DecidableEq

def Se.zero : Se := ⟨0, by decide⟩

/-- The first loop of `bs_read_ue` with the zeros it may still count: it stops at a one, at 32
zeros and at the end of the stream.
-/
def countZeros : Nat → Nat → Coder Nat
  | 0, i => do
      let _ ← readU1
      pure i
  | room + 1, i => do
      let bit ← readU1
      let b ← get
      if bit || b.eof then pure i else countZeros room (i + 1)

/-- The sum that `bs_read_ue` returns. -/
def codeValue {i : Nat} (small : i ≤ 30) (r : BitVec i) : Ue :=
  ⟨r.toNat + (2 ^ i - 1), by
    have wide : 2 ^ i ≤ 2 ^ 30 := Nat.pow_le_pow_right (by decide) small
    have low := r.isLt
    omega⟩

/-- `bs_read_ue`: `1 << i` has no defined value from 31 zeros on. -/
def readUe : Coder Ue := do
  let i ← countZeros 32 0
  if small : i ≤ 30 then do
    let r ← readU i
    pure (codeValue small r)
  else undefined

/-- The number that `bs_read_se` takes from an unsigned one. -/
def toSe (r : Ue) : Se :=
  if r.val % 2 = 1 then ⟨((r.val + 1) / 2 : Nat), by omega⟩
  else ⟨-((r.val / 2 : Nat) : Int), by omega⟩

/-- `bs_read_se`. -/
def readSe : Coder Se := do
  let r ← readUe
  pure (toSe r)

/-- `len_table`. -/
def lenTable : List Nat :=
  [1, 1] ++ List.replicate 2 2 ++ List.replicate 4 3 ++ List.replicate 8 4
    ++ List.replicate 16 5 ++ List.replicate 32 6 ++ List.replicate 64 7 ++ List.replicate 128 8

/-- The length that `bs_write_ue` takes from its table for an incremented number. -/
def codeLen (v : Nat) : Nat :=
  if 0x01000000 ≤ v then 24 + lenTable.getD (v >>> 24) 0
  else if 0x00010000 ≤ v then 16 + lenTable.getD (v >>> 16) 0
  else if 0x00000100 ≤ v then 8 + lenTable.getD (v >>> 8) 0
  else lenTable.getD v 0

/-- `bs_write_ue`. -/
def writeUe (v : Ue) : Coder Unit :=
  if v.val = 0 then writeU1 true
  else writeU (2 * codeLen (v.val + 1) - 1) (v.val + 1)

/-- The unsigned number that `bs_write_se` passes on. -/
def ofSe (v : Se) : Ue :=
  if nonpositive : v.val ≤ 0 then ⟨(-v.val * 2).toNat, by have := v.small; omega⟩
  else ⟨(v.val * 2 - 1).toNat, by have := v.small; omega⟩

/-- `bs_write_se`. -/
def writeSe (v : Se) : Coder Unit := writeUe (ofSe v)

-----------------------------------------------------------------------------------------
-- A stream at a bit
-----------------------------------------------------------------------------------------

/-- The stream that stands at a bit of its bytes. -/
def seek (bytes : List UInt8) (offset : Nat) : BitStream :=
  ⟨bytes, offset / 8, 8 - offset % 8⟩

@[simp]
theorem seek_bytes (bytes : List UInt8) (offset : Nat)
    : (seek bytes offset).bytes = bytes := rfl

theorem init_eq_seek (bytes : List UInt8)
    : BitStream.init bytes = seek bytes 0 := rfl

theorem skipU1_seek (bytes : List UInt8) (offset : Nat)
    : (seek bytes offset).skipU1 = seek bytes (offset + 1) := by
  rw [BitStream.skipU1]
  by_cases last : offset % 8 = 7
  · rw [if_pos (by simp only [seek]; omega)]
    simp only [seek, BitStream.mk.injEq, true_and]
    omega
  · rw [if_neg (by simp only [seek]; omega)]
    simp only [seek, BitStream.mk.injEq, true_and]
    omega

theorem peekU1_seek (bytes : List UInt8) (offset : Nat)
    : (seek bytes offset).peekU1 = (bytesBits bytes).getD offset false := by
  have place : 8 - offset % 8 - 1 = 7 - offset % 8 := by omega
  rw [List.getD_eq_getElem?_getD, bytesBits_getElem?]
  simp only [BitStream.peekU1, seek, place]
  cases bytes[offset / 8]? <;> rfl

theorem readU1_seek (bytes : List UInt8) (offset : Nat)
    : readU1 (seek bytes offset)
      = some ((bytesBits bytes).getD offset false, seek bytes (offset + 1)) := by
  rw [readU1, peekU1_seek, skipU1_seek]

end VitaMoonlight.H264
