import VitaMoonlight.ThirdParty.NalUnit
import VitaMoonlight.ThirdParty.ParameterSetCoding

/-! NAL units with a parameter set: `read_nal_unit` and `write_nal_unit` of
`third_party/h264bitstream/h264_stream.c`. The syntax of the other unit types is a parameter.
-/

namespace VitaMoonlight.H264

open Library

/-- The header of the last unit and the parameter set of `h264_stream_t`, as `h264_new` makes them.
-/
structure H264Stream where
  nalRefIdc : BitVec 2 := 0
  nalUnitType : BitVec 5 := 0
  sps : Sps := { chromaFormat := { chromaFormatIdc := 0 } }
deriving DecidableEq

/-- `NAL_UNIT_TYPE_SPS`. -/
def spsUnit : BitVec 5 := 7

/-- The payloads of the other unit types, which leave the parameter set alone; the types without
any are answered with an error.
-/
structure OtherUnits where
  read : H264Stream → BitStream → Option (Option BitStream)
  write : H264Stream → BitStream → Option (Option BitStream)

-----------------------------------------------------------------------------------------
-- The functions of the library
-----------------------------------------------------------------------------------------

/-- Skip to the next byte; fewer than eight turns are left. -/
def skipToByte : Nat → Coder Unit
  | 0 => pure ()
  | turns + 1 => do
      let b ← get
      if b.byteAligned then pure ()
      else do
        skipU 1
        skipToByte turns

/-- `read_rbsp_trailing_bits`. -/
def readTrailingBits : Coder Unit := do
  skipU 1
  skipToByte 7

def clearToByte : Nat → Coder Unit
  | 0 => pure ()
  | turns + 1 => do
      let b ← get
      if b.byteAligned then pure ()
      else do
        writeU 1 0
        clearToByte turns

/-- `write_rbsp_trailing_bits`. -/
def writeTrailingBits : Coder Unit := do
  writeU 1 1
  clearToByte 7

/-- `read_seq_parameter_set_rbsp`: the record is copied into a table of 32. -/
def readSeqParameterSet : Coder Sps := do
  let sps ← Sps.read
  readTrailingBits
  if sps.seqParameterSetId.val < 32 then pure sps else undefined

/-- The header of a NAL unit. -/
def readNalHeader : Coder (BitVec 2 × BitVec 5) := do
  skipU 1
  let nalRefIdc ← readU 2
  let nalUnitType ← readU 5
  pure (nalRefIdc, nalUnitType)

/-- The switch of `read_nal_unit` over the unit types. -/
def readNalPayload (others : OtherUnits) (h : H264Stream) (b : BitStream)
    : Option (H264Stream × Option BitStream) :=
  if h.nalUnitType = spsUnit then
    (readSeqParameterSet b).map fun (sps, b) => ({ h with sps }, some b)
  else (others.read h b).map fun left => (h, left)

/-- The size that `read_nal_unit` answers. -/
def readAnswer (nalSize : Nat) : Option BitStream → Option Nat
  | none => none
  | some b => if b.overrun then none else some nalSize

/-- `read_nal_unit`: the stream with what was read, also where that is an error, and the size that
it answers.
-/
def readNalUnit (others : OtherUnits) (h : H264Stream) (buf : List UInt8)
    : Option (H264Stream × Option Nat) :=
  match nalToRbsp buf.length 0 buf with
  | none => some (h, none)
  | some (rbsp, nalSize) => do
      let ((nalRefIdc, nalUnitType), b) ← readNalHeader (BitStream.init rbsp)
      let (h, left) ← readNalPayload others { h with nalRefIdc, nalUnitType } b
      some (h, readAnswer nalSize left)

/-- `write_seq_parameter_set_rbsp`. -/
def writeSeqParameterSet (sps : Sps) : Coder Unit := do
  sps.write
  writeTrailingBits

def writeNalHeader (h : H264Stream) : Coder Unit := do
  writeU 1 0
  writeU 2 h.nalRefIdc.toNat
  writeU 5 h.nalUnitType.toNat

/-- The switch of `write_nal_unit` over the unit types. -/
def writeNalPayload (others : OtherUnits) (h : H264Stream) (b : BitStream)
    : Option (Option BitStream) :=
  if h.nalUnitType = spsUnit then (writeSeqParameterSet h.sps b).map fun (_, b) => some b
  else others.write h b

/-- The bytes that `write_nal_unit` stores and the size that it answers. -/
def writeAnswer (size : Nat) : Option BitStream → List UInt8 × Option Nat
  | none => ([], none)
  | some b =>
      if b.overrun then ([], none)
      else
        let (stored, finished) := rbspToNal size 0 (b.bytes.take b.pos)
        (stored, if finished then some stored.length else none)

/-- `write_nal_unit`: the bytes that it stores, also where that is an error, and the size that it
answers. The payload has three quarters of the size of the buffer.
-/
def writeNalUnit (others : OtherUnits) (h : H264Stream) (size : Nat)
    : Option (List UInt8 × Option Nat) := do
  let (_, b) ← writeNalHeader h (BitStream.init (List.replicate (size * 3 / 4) 0))
  let left ← writeNalPayload others h b
  some (writeAnswer size left)

-----------------------------------------------------------------------------------------
-- The end of a payload
-----------------------------------------------------------------------------------------

/-- The next byte from a bit on. -/
def nextByte (offset : Nat) : Nat := 8 * ((offset + 7) / 8)

/-- The bits that close a payload: a one, and zeros up to the next byte. -/
def trailingBits (offset : Nat) : List Bool := true :: List.replicate (7 - offset % 8) false

theorem length_trailingBits (offset : Nat)
    : offset + (trailingBits offset).length = 8 * (offset / 8 + 1) := by
  simp only [trailingBits, List.length_cons, List.length_replicate]
  omega

theorem byteAligned_seek (bytes : List UInt8) (offset : Nat)
    : (seek bytes offset).byteAligned = decide (nextByte offset = offset) := by
  rw [BitStream.byteAligned, Bool.eq_iff_iff, beq_iff_eq, decide_eq_true_iff]
  simp only [seek, nextByte]
  omega

theorem skipToByte_seek (bytes : List UInt8) {turns offset : Nat}
    (enough : nextByte offset - offset ≤ turns)
    : skipToByte turns (seek bytes offset) = some ((), seek bytes (nextByte offset)) := by
  induction turns generalizing offset with
  | zero =>
      have here : nextByte offset = offset := by
        simp only [nextByte] at enough ⊢
        omega
      rw [here]
      rfl
  | succ turns ih =>
      rw [skipToByte, bind_apply]
      change (if (seek bytes offset).byteAligned then _ else _ : Coder Unit) (seek bytes offset) = _
      rw [byteAligned_seek]
      by_cases aligned : nextByte offset = offset
      · rw [decide_eq_true aligned, if_pos rfl, aligned]
        rfl
      · have next : nextByte (offset + 1) = nextByte offset := by
          simp only [nextByte] at aligned ⊢
          omega
        have one : skipU 1 (seek bytes offset) = some ((), seek bytes (offset + 1)) := by
          rw [← skipU1_seek]
          rfl
        rw [decide_eq_false aligned, if_neg (by simp), bind_apply, one, Option.bind_some,
          ih (by rw [next]; omega), next]

theorem readTrailingBits_seek (bytes : List UInt8) (offset : Nat)
    : readTrailingBits (seek bytes offset) = some ((), seek bytes (8 * (offset / 8 + 1))) := by
  have one : skipU 1 (seek bytes offset) = some ((), seek bytes (offset + 1)) := by
    rw [← skipU1_seek]
    rfl
  have next : nextByte (offset + 1) = 8 * (offset / 8 + 1) := by
    simp only [nextByte]
    omega
  rw [readTrailingBits, bind_apply, one, Option.bind_some,
    skipToByte_seek bytes (by rw [next]; omega), next]

/-- Zeros are written up to the next byte, by induction on the turns. -/
theorem clearToByte_seek {bytes : List UInt8} {turns offset : Nat} {b : BitStream}
    (enough : nextByte offset - offset ≤ turns)
    (run : clearToByte turns (seek bytes offset) = some ((), b))
    : ∃ after,
        b = seek after (nextByte offset)
        ∧ bytesBits after
          = overwrite (bytesBits bytes) offset
              (List.replicate (nextByte offset - offset) false) := by
  induction turns generalizing bytes offset with
  | zero =>
      cases run
      have here : nextByte offset = offset := by
        simp only [nextByte] at enough ⊢
        omega
      rw [here, Nat.sub_self]
      exact ⟨bytes, rfl, rfl⟩
  | succ turns ih =>
      rw [clearToByte, bind_apply] at run
      change (if (seek bytes offset).byteAligned then _ else _ : Coder Unit) (seek bytes offset) = _
        at run
      rw [byteAligned_seek] at run
      by_cases aligned : nextByte offset = offset
      · rw [decide_eq_true aligned, if_pos rfl] at run
        cases run
        rw [aligned, Nat.sub_self]
        exact ⟨bytes, rfl, rfl⟩
      · rw [decide_eq_false aligned, if_neg (by simp)] at run
        have next : nextByte (offset + 1) = nextByte offset := by
          simp only [nextByte] at aligned ⊢
          omega
        have more : nextByte offset - offset = 1 + (nextByte offset - (offset + 1)) := by
          simp only [nextByte] at aligned ⊢
          omega
        obtain ⟨⟨⟩, between, front, behind⟩ := bind_eq_some.mp run
        obtain ⟨middle, rfl, written⟩ := writes_u 1 0 bytes offset between front
        obtain ⟨after, rfl, overwritten⟩ := ih (by simp only [length_bitsOf]; rw [next]; omega) behind
        rw [length_bitsOf] at overwritten
        refine ⟨after, by rw [length_bitsOf, next], ?_⟩
        rw [overwritten, written, next, more, List.replicate_add, overwrite_append]
        rfl

theorem writeTrailingBits_seek {bytes : List UInt8} {offset : Nat} {b : BitStream}
    (run : writeTrailingBits (seek bytes offset) = some ((), b))
    : ∃ after,
        b = seek after (8 * (offset / 8 + 1))
        ∧ bytesBits after = overwrite (bytesBits bytes) offset (trailingBits offset) := by
  have next : nextByte (offset + 1) = 8 * (offset / 8 + 1) := by
    simp only [nextByte]
    omega
  have zeros : 7 - offset % 8 = 8 * (offset / 8 + 1) - (offset + 1) := by omega
  obtain ⟨⟨⟩, between, front, behind⟩ := bind_eq_some.mp run
  obtain ⟨middle, rfl, written⟩ := writes_u 1 1 bytes offset between front
  rw [length_bitsOf] at behind
  obtain ⟨after, rfl, overwritten⟩ := clearToByte_seek (by rw [next]; omega) behind
  rw [next] at overwritten ⊢
  refine ⟨after, rfl, ?_⟩
  rw [overwritten, written, trailingBits, zeros]
  rfl

-----------------------------------------------------------------------------------------
-- A parameter set at any bit
-----------------------------------------------------------------------------------------

/-- The bits of a parameter set from a bit on, with those that close it. -/
def Sps.closedBits (sps : Sps) (offset : Nat) : List Bool :=
  sps.bits ++ trailingBits (offset + sps.bits.length)

/-- Where a parameter set that begins at a bit ends. -/
def Sps.closedEnd (sps : Sps) (offset : Nat) : Nat := 8 * ((offset + sps.bits.length) / 8 + 1)

theorem Sps.length_closedBits (sps : Sps) (offset : Nat)
    : offset + (sps.closedBits offset).length = sps.closedEnd offset := by
  rw [Sps.closedBits, List.length_append, ← Nat.add_assoc, length_trailingBits, Sps.closedEnd]

/-- What `write_seq_parameter_set_rbsp` leaves behind. -/
theorem writeSeqParameterSet_seek {sps : Sps} {bytes : List UInt8} {offset : Nat} {b : BitStream}
    (run : writeSeqParameterSet sps (seek bytes offset) = some ((), b))
    : ∃ after,
        b = seek after (sps.closedEnd offset)
        ∧ bytesBits after = overwrite (bytesBits bytes) offset (sps.closedBits offset) := by
  obtain ⟨⟨⟩, between, syntaxRun, trailing⟩ := bind_eq_some.mp run
  obtain ⟨middle, rfl, syntaxWritten⟩ := sps.writes bytes offset between syntaxRun
  obtain ⟨after, rfl, closed⟩ := writeTrailingBits_seek trailing
  refine ⟨after, rfl, ?_⟩
  rw [closed, syntaxWritten, Sps.closedBits, overwrite_append]

/-- `read_seq_parameter_set_rbsp` reads the bits of a set whose id is in the table. -/
theorem readSeqParameterSet_seek {sps : Sps} {bytes : List UInt8} {offset : Nat}
    (tabled : sps.seqParameterSetId.val < 32) (here : sps.bits <+: (bytesBits bytes).drop offset)
    : readSeqParameterSet (seek bytes offset)
      = some (sps.seen, seek bytes (sps.closedEnd offset)) := by
  rw [readSeqParameterSet, bind_apply, sps.reads bytes offset here, Option.bind_some, bind_apply,
    readTrailingBits_seek, Option.bind_some]
  change (if sps.seqParameterSetId.val < 32 then _ else _ : Coder Sps) _ = _
  rw [if_pos tabled]
  rfl

/-- A parameter set of the table that is written at any bit of a stream is read back there as a
reader sees it, and no other bit of the stream has changed.
-/
theorem sps_round_trip {sps : Sps} {bytes : List UInt8} {offset : Nat} {b : BitStream}
    (tabled : sps.seqParameterSetId.val < 32)
    (inside : sps.closedEnd offset ≤ 8 * bytes.length)
    (run : writeSeqParameterSet sps (seek bytes offset) = some ((), b))
    : readSeqParameterSet (seek b.bytes offset) = some (sps.seen, b)
      ∧ (bytesBits b.bytes).take offset = (bytesBits bytes).take offset
      ∧ (bytesBits b.bytes).drop (sps.closedEnd offset)
        = (bytesBits bytes).drop (sps.closedEnd offset) := by
  obtain ⟨after, rfl, written⟩ := writeSeqParameterSet_seek run
  have length := sps.length_closedBits offset
  rw [overwrite_eq (by rw [length_bytesBits]; omega)] at written
  have before : ((bytesBits bytes).take offset).length = offset :=
    List.length_take_of_le (by rw [length_bytesBits]; omega)
  have here : sps.bits <+: (bytesBits after).drop offset := by
    rw [written, List.append_assoc, List.drop_left' before, Sps.closedBits, List.append_assoc]
    exact List.prefix_append _ _
  have front
      : ((bytesBits bytes).take offset ++ sps.closedBits offset).length = sps.closedEnd offset := by
    rw [List.length_append, before, length]
  simp only [seek_bytes]
  refine ⟨readSeqParameterSet_seek tabled here, ?_, ?_⟩
  · rw [written, List.append_assoc, List.take_left' before]
  · rw [written, length, List.drop_left' front]

theorem sps_round_trip_mainSps
    : readSeqParameterSet (seek [233, 160, 6, 91, 40, 10, 0, 183, 64, 16, 255, 255] 3)
        = some (mainSps.seen, seek [233, 160, 6, 91, 40, 10, 0, 183, 64, 16, 255, 255] 80)
      ∧ (bytesBits [233, 160, 6, 91, 40, 10, 0, 183, 64, 16, 255, 255]).take 3
        = (bytesBits (List.replicate 12 255)).take 3
      ∧ (bytesBits [233, 160, 6, 91, 40, 10, 0, 183, 64, 16, 255, 255]).drop 80
        = (bytesBits (List.replicate 12 255)).drop 80 :=
  have run
      : writeSeqParameterSet mainSps (seek (List.replicate 12 255) 3)
        = some ((), seek [233, 160, 6, 91, 40, 10, 0, 183, 64, 16, 255, 255] 80) := by
    decide +kernel
  sps_round_trip (by decide) (by decide) run

-----------------------------------------------------------------------------------------
-- A unit and its bits
-----------------------------------------------------------------------------------------

def H264Stream.headerBits (h : H264Stream) : List Bool :=
  [[false], bitsOf 2 h.nalRefIdc.toNat, bitsOf 5 h.nalUnitType.toNat].flatten

@[simp]
theorem H264Stream.length_headerBits (h : H264Stream)
    : h.headerBits.length = 8 := by
  simp [H264Stream.headerBits]

/-- The bits of the payload of a parameter set. -/
def H264Stream.rbspBits (h : H264Stream) : List Bool :=
  h.headerBits ++ h.sps.bits ++ trailingBits (8 + h.sps.bits.length)

/-- The bytes of the payload of a parameter set. -/
def H264Stream.rbspSize (h : H264Stream) : Nat := (8 + h.sps.bits.length) / 8 + 1

theorem H264Stream.length_rbspBits (h : H264Stream)
    : h.rbspBits.length = 8 * h.rbspSize := by
  rw [H264Stream.rbspBits, List.length_append, List.length_append, h.length_headerBits,
    length_trailingBits, H264Stream.rbspSize]

theorem writes_header (h : H264Stream)
    : Writes (writeNalHeader h) h.headerBits :=
  (writes_u 1 0).seq <| (writes_u 2 _).seq <| (writes_u 5 _).last

theorem reads_header (h : H264Stream)
    : Reads readNalHeader h.headerBits (h.nalRefIdc, h.nalUnitType) :=
  (reads_skipU [false]).bind <| (reads_u h.nalRefIdc).bind <| (reads_u h.nalUnitType).bind <|
    Reads.pure (h.nalRefIdc, h.nalUnitType)

/-- A unit that is written stands in the bytes in front of the stream. -/
theorem writeSeqParameterSet_bits {h : H264Stream} {bytes : List UInt8} {between b : BitStream}
    (header : writeNalHeader h (seek bytes 0) = some ((), between))
    (payload : writeSeqParameterSet h.sps between = some ((), b))
    : ∃ after,
        b = seek after (8 * h.rbspSize)
        ∧ bytesBits after = overwrite (bytesBits bytes) 0 h.rbspBits := by
  obtain ⟨first, rfl, headerWritten⟩ := writes_header h bytes 0 between header
  rw [h.length_headerBits, Nat.zero_add] at payload
  obtain ⟨after, rfl, closed⟩ := writeSeqParameterSet_seek payload
  refine ⟨after, rfl, ?_⟩
  rw [closed, headerWritten, H264Stream.rbspBits, List.append_assoc, overwrite_append,
    h.length_headerBits, Nat.zero_add, Sps.closedBits]

/-- The payload that `write_nal_unit` stuffs spells the unit, wherever it did not overrun. -/
theorem bytesBits_payload {h : H264Stream} {bytes after : List UInt8}
    (written : bytesBits after = overwrite (bytesBits bytes) 0 h.rbspBits)
    (fits : (seek after (8 * h.rbspSize)).overrun = false)
    : bytesBits (after.take (seek after (8 * h.rbspSize)).pos) = h.rbspBits := by
  have place : (seek after (8 * h.rbspSize)).pos = h.rbspSize := by
    rw [BitStream.pos, fits, if_neg (by simp)]
    exact Nat.mul_div_cancel_left _ (by decide)
  have inside : h.rbspSize ≤ after.length := by
    rw [BitStream.overrun, decide_eq_false_iff_not] at fits
    simp only [seek, Nat.mul_div_cancel_left _ (by decide : 0 < 8)] at fits
    omega
  have lengths := congrArg List.length written
  rw [length_overwrite, length_bytesBits] at lengths
  have room : 0 + h.rbspBits.length ≤ (bytesBits bytes).length := by
    rw [h.length_rbspBits]
    omega
  rw [place, bytesBits_take, written, overwrite_eq room, ← h.length_rbspBits]
  simp

/-- What a unit that `write_nal_unit` reports as written is made of. -/
theorem writeNalUnit_eq_some {others : OtherUnits} {h : H264Stream} {size count : Nat}
    {stored : List UInt8} (parameterSet : h.nalUnitType = spsUnit)
    (written : writeNalUnit others h size = some (stored, some count))
    : ∃ rbsp,
        bytesBits rbsp = h.rbspBits
        ∧ rbspToNal size 0 rbsp = (stored, true)
        ∧ count = stored.length := by
  rw [writeNalUnit] at written
  obtain ⟨⟨⟨⟩, between⟩, header, rest⟩ := Option.bind_eq_some_iff.mp written
  obtain ⟨left, choice, answer⟩ := Option.bind_eq_some_iff.mp rest
  rw [writeNalPayload, if_pos parameterSet] at choice
  obtain ⟨⟨⟨⟩, b⟩, payload, rfl⟩ := Option.map_eq_some_iff.mp choice
  obtain ⟨after, rfl, spelled⟩ := writeSeqParameterSet_bits header payload
  cases fits : (seek after (8 * h.rbspSize)).overrun with
  | true => simp [writeAnswer, fits] at answer
  | false =>
      refine ⟨after.take (seek after (8 * h.rbspSize)).pos, bytesBits_payload spelled fits, ?_⟩
      rcases stuffed : rbspToNal size 0 (after.take (seek after (8 * h.rbspSize)).pos)
        with ⟨bytes, finished⟩
      simp only [writeAnswer, fits, Bool.false_eq_true, if_false, seek_bytes, stuffed,
        Option.some.injEq, Prod.mk.injEq] at answer
      obtain ⟨rfl, size⟩ := answer
      cases finished with
      | false => cases size
      | true => exact ⟨rfl, (Option.some.inj size).symm⟩

/-- A payload that spells a unit is read as the unit that a reader sees. -/
theorem readNalUnit_eq_some {others : OtherUnits} {h : H264Stream} {nal rbsp : List UInt8}
    {used : Nat} (parameterSet : h.nalUnitType = spsUnit)
    (tabled : h.sps.seqParameterSetId.val < 32)
    (unstuffed : nalToRbsp nal.length 0 nal = some (rbsp, used))
    (spelled : bytesBits rbsp = h.rbspBits) (before : H264Stream)
    : readNalUnit others before nal = some ({ h with sps := h.sps.seen }, some used) := by
  have front : h.headerBits <+: (bytesBits rbsp).drop 0 := by
    rw [List.drop_zero, spelled, H264Stream.rbspBits, List.append_assoc]
    exact List.prefix_append _ _
  have middle : h.sps.bits <+: (bytesBits rbsp).drop 8 := by
    have eight : 8 = h.headerBits.length := h.length_headerBits.symm
    rw [spelled, H264Stream.rbspBits, List.append_assoc, eight, List.drop_left]
    exact List.prefix_append _ _
  have header := reads_header h rbsp 0 front
  rw [h.length_headerBits, Nat.zero_add] at header
  have payload : readSeqParameterSet (seek rbsp 8)
      = some (h.sps.seen, seek rbsp (8 * h.rbspSize)) :=
    readSeqParameterSet_seek tabled middle
  have inside : (seek rbsp (8 * h.rbspSize)).overrun = false := by
    have lengths := congrArg List.length spelled
    rw [length_bytesBits, h.length_rbspBits] at lengths
    rw [BitStream.overrun, decide_eq_false_iff_not]
    simp only [seek, Nat.mul_div_cancel_left _ (by decide : 0 < 8)]
    omega
  rw [readNalUnit, unstuffed]
  simp only [init_eq_seek, header, readNalPayload, parameterSet, payload, if_true, Option.map_some,
    readAnswer, inside, Option.bind_eq_bind, Option.bind_some, Bool.false_eq_true, if_false]

/-- A parameter set that was written is read back as a reader sees it. -/
theorem readNalUnit_writeNalUnit {others : OtherUnits} {h : H264Stream} {size count : Nat}
    {stored : List UInt8} (parameterSet : h.nalUnitType = spsUnit)
    (tabled : h.sps.seqParameterSetId.val < 32)
    (written : writeNalUnit others h size = some (stored, some count)) (before : H264Stream)
    : readNalUnit others before stored = some ({ h with sps := h.sps.seen }, some count) := by
  obtain ⟨rbsp, spelled, stuffed, rfl⟩ := writeNalUnit_eq_some parameterSet written
  have finished : (rbspToNal size 0 rbsp).2 = true := by rw [stuffed]
  have fits := length_le_rbspToNal finished
  have unstuffed := nalToRbsp_of_rbspToNal (Nat.zero_le 2) finished fits
  rw [stuffed] at unstuffed
  exact readNalUnit_eq_some parameterSet tabled unstuffed spelled before

/-- No unit but parameter sets. -/
def OtherUnits.none : OtherUnits := ⟨fun _ _ => some .none, fun _ _ => some .none⟩

def mainUnit : H264Stream := ⟨3, spsUnit, mainSps⟩

def mainNal : List UInt8 := [103, 77, 0, 50, 217, 64, 80, 5, 186, 0, 128]

theorem readNalUnit_mainNal
    : readNalUnit .none {} mainNal = some (mainUnit, some 11) :=
  readNalUnit_writeNalUnit (h := mainUnit) (by decide) (by decide)
    (by decide +kernel : writeNalUnit .none mainUnit 128 = some (mainNal, some 11)) {}

end VitaMoonlight.H264
