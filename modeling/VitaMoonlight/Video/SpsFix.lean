import VitaMoonlight.ThirdParty.ParameterSetSize
import Mathlib.Tactic.Linarith

/-! The rewriting of sequence parameter sets (`sps.c`): the parameter set of a stream is read, a
few of its fields are set to what decoders with few buffers need, and it is written again.
-/

namespace VitaMoonlight

open Library H264

/-- The static variables of `sps.c`. -/
structure SpsFixer where
  h264Stream : H264Stream
  initialWidth : Nat
  initialHeight : Nat
deriving DecidableEq

/-- The size that the decoder was set up for. -/
def SpsFixer.size (fixer : SpsFixer) : Nat × Nat := (fixer.initialWidth, fixer.initialHeight)

/-- `gs_sps_init`. -/
def gsSpsInit (width height : Nat) : SpsFixer := ⟨{}, width, height⟩

/-- The `GS_SPS_` flags. -/
structure SpsFlags where
  bitstreamFixup : Bool
  removeVst : Bool
  removeCli : Bool

-----------------------------------------------------------------------------------------
-- The changed fields
-----------------------------------------------------------------------------------------

/-- The level of the known sizes. -/
def SpsFixer.fixLevel (fixer : SpsFixer) (levelIdc : BitVec 8) : BitVec 8 :=
  if fixer.initialWidth = 1280 ∧ fixer.initialHeight = 720 then 32
  else if fixer.initialWidth = 1920 ∧ fixer.initialHeight = 1080 then 42
  else levelIdc

/-- The restriction of a parameter set without one. -/
def restrictBitstream (vui : Vui) : Vui :=
  if vui.bitstreamRestrictionFlag then vui
  else
    { vui with
      bitstreamRestrictionFlag := true
      bitstreamRestriction :=
        { vui.bitstreamRestriction with
          motionVectorsOverPicBoundariesFlag := true
          maxBitsPerMbDenom := 1
          log2MaxMvLengthHorizontal := 16
          log2MaxMvLengthVertical := 16
          numReorderFrames := 0 } }

/-- The fields that every bitstream fixup sets. -/
def limitBuffering (vui : Vui) : Vui :=
  { vui with
    bitstreamRestriction :=
      { vui.bitstreamRestriction with
        maxDecFrameBuffering := 1
        maxBytesPerPicDenom := 2
        maxBitsPerMbDenom := 1 } }

def fixVui (flags : SpsFlags) (vui : Vui) : Vui :=
  let vui := if flags.removeVst then { vui with videoSignalTypePresentFlag := false } else vui
  let vui := if flags.removeCli then { vui with chromaLocInfoPresentFlag := false } else vui
  if flags.bitstreamFixup then limitBuffering (restrictBitstream vui) else vui

/-- The fields that `gs_sps_fix` sets between reading and writing. -/
def SpsFixer.fixSps (fixer : SpsFixer) (flags : SpsFlags) (sps : Sps) : Sps :=
  { sps with
    levelIdc := fixer.fixLevel sps.levelIdc
    numRefFrames := 1
    vui := fixVui flags sps.vui }

-----------------------------------------------------------------------------------------
-- The rewriting
-----------------------------------------------------------------------------------------

/-- The length of the start code: its third byte tells the short one from the long one. -/
def startLen (data : List UInt8) : Option Nat :=
  match data[2]? with
  | some third =>
      let length := if third = 0x01 then 3 else 4
      if length ≤ data.length then some length else none
  | none => none

/-- What `gs_sps_fix` stores at its output and how far it moves the output on. -/
structure SpsOutput where
  stored : List UInt8
  moved : Int
deriving DecidableEq

/-- What the answer of a writing adds to an offset. -/
def answerMove : Option Nat → Int
  | some size => size
  | none => -1

/-- `gs_sps_fix`: whether the reading succeeds is not looked at, and a writing that fails moves the
output back by the error that it answers.
-/
def gsSpsFix (others : OtherUnits) (fixer : SpsFixer) (data : List UInt8) (flags : SpsFlags)
    : Option (SpsFixer × SpsOutput) := do
  let start ← startLen data
  let (read, _) ← readNalUnit others fixer.h264Stream (data.drop start)
  let fixed := { read with sps := fixer.fixSps flags read.sps }
  let (stored, written) ← writeNalUnit others fixed 128
  some (
    { fixer with h264Stream := fixed },
    {
      stored := data.take start ++ stored
      moved := start + answerMove written
    })

-----------------------------------------------------------------------------------------
-- The size of the rewritten set
-----------------------------------------------------------------------------------------

/-- The usability information without a part that a flag removes. -/
def dropSignalType (vui : Vui) : Vui :=
  { vui with videoSignalTypePresentFlag := false, videoSignalType := {} }

def dropChromaLocation (vui : Vui) : Vui :=
  { vui with chromaLocInfoPresentFlag := false, chromaLocation := {} }

/-- The usability information that the decoder is meant to see. -/
def meantVui (flags : SpsFlags) (vui : Vui) : Vui :=
  let vui := if flags.removeVst then dropSignalType vui else vui
  let vui := if flags.removeCli then dropChromaLocation vui else vui
  if flags.bitstreamFixup then limitBuffering (restrictBitstream vui) else vui

/-- The parameter set that the decoder is meant to see: its level, its number of reference frames
and, where the stream has usability information, the parts that the flags name are the changed ones.
-/
def SpsFixer.rewritten (fixer : SpsFixer) (flags : SpsFlags) (sps : Sps) : Sps :=
  { sps with
    levelIdc := fixer.fixLevel sps.levelIdc
    numRefFrames := 1
    vui := if sps.vuiParametersPresentFlag then meantVui flags sps.vui else sps.vui }

/-- A reader sees the limits, whether or not there was a restriction before. -/
theorem limitBuffering_seen (vui : Vui)
    : (limitBuffering (restrictBitstream vui)).seen
      = limitBuffering (restrictBitstream vui.seen) := by
  cases restricted : vui.bitstreamRestrictionFlag with
  | false => simp [limitBuffering, restrictBitstream, restricted, Vui.seen]
  | true => simp [limitBuffering, restrictBitstream, restricted, Vui.seen]

/-- A reader sees the information without the removed parts and with the limits. -/
theorem fixVui_seen (flags : SpsFlags) (vui : Vui)
    : (fixVui flags vui).seen = meantVui flags vui.seen := by
  have vst (vui : Vui)
      : (if flags.removeVst then { vui with videoSignalTypePresentFlag := false } else vui).seen
        = if flags.removeVst then dropSignalType vui.seen else vui.seen := by
    split <;> rfl
  have cli (vui : Vui)
      : (if flags.removeCli then { vui with chromaLocInfoPresentFlag := false } else vui).seen
        = if flags.removeCli then dropChromaLocation vui.seen else vui.seen := by
    split <;> rfl
  rw [fixVui, meantVui]
  split
  · rw [limitBuffering_seen, cli, vst]
  · rw [cli, vst]

/-- The usability information is seen as the other fields are. -/
theorem seen_withFields {sps : Sps} (seen : sps.seen = sps) (levelIdc : BitVec 8)
    (numRefFrames : Ue) (vui : Vui)
    : Sps.seen { sps with levelIdc, numRefFrames, vui }
      = { sps with
          levelIdc, numRefFrames
          vui := if sps.vuiParametersPresentFlag then vui.seen else {} } := by
  cases sps
  simp only [Sps.seen, Sps.mk.injEq, true_and, and_true] at seen ⊢
  exact ⟨seen.1, seen.2.1, seen.2.2.1, seen.2.2.2.1, seen.2.2.2.2.1⟩

/-- Reading the rewritten set gives the meant one. -/
theorem seen_fixSps {sps : Sps} (seen : sps.seen = sps) (fixer : SpsFixer) (flags : SpsFlags)
    : (fixer.fixSps flags sps).seen = fixer.rewritten flags sps := by
  rw [SpsFixer.fixSps, seen_withFields seen, SpsFixer.rewritten]
  congr 1
  have vui := congrArg Sps.vui seen
  cases present : sps.vuiParametersPresentFlag with
  | false =>
      rw [Sps.seen, present] at vui
      exact vui
  | true =>
      rw [Sps.seen, present] at vui
      have same : sps.vui.seen = sps.vui := vui
      rw [if_pos rfl, if_pos rfl, fixVui_seen, same]

/-- The steps of a rewriting. -/
theorem gsSpsFix_eq_some {others : OtherUnits} {fixer next : SpsFixer} {data : List UInt8}
    {flags : SpsFlags} {output : SpsOutput}
    (run : gsSpsFix others fixer data flags = some (next, output))
    : ∃ start read answer stored written,
        startLen data = some start
        ∧ readNalUnit others fixer.h264Stream (data.drop start) = some (read, answer)
        ∧ writeNalUnit others { read with sps := fixer.fixSps flags read.sps } 128
          = some (stored, written)
        ∧ output.stored = data.take start ++ stored
        ∧ output.moved = start + answerMove written := by
  obtain ⟨start, startCode, run⟩ := Option.bind_eq_some_iff.mp run
  obtain ⟨⟨read, answer⟩, readRun, run⟩ := Option.bind_eq_some_iff.mp run
  obtain ⟨⟨stored, written⟩, writeRun, run⟩ := Option.bind_eq_some_iff.mp run
  cases run
  exact ⟨start, read, answer, stored, written, startCode, readRun, writeRun, rfl, rfl⟩

theorem startLen_le {data : List UInt8} {start : Nat} (startCode : startLen data = some start)
    : 3 ≤ start ∧ start ≤ data.length := by
  rw [startLen] at startCode
  cases third : data[2]? with
  | none => simp [third] at startCode
  | some byte =>
      simp only [third, Option.ite_none_right_eq_some, Option.some.injEq] at startCode
      obtain ⟨fits, rfl⟩ := startCode
      refine ⟨?_, fits⟩
      split <;> omega

/-- The rewritten unit keeps its start code, contains no other, and is read as the parameter set
of the stream with the few changed fields.
-/
theorem gsSpsFix_readBack {others : OtherUnits} {fixer next : SpsFixer} {data : List UInt8}
    {flags : SpsFlags} {start used : Nat} {read : H264Stream} {output : SpsOutput}
    (startCode : startLen data = some start)
    (readRun : readNalUnit others fixer.h264Stream (data.drop start) = some (read, some used))
    (parameterSet : read.nalUnitType = spsUnit)
    (run : gsSpsFix others fixer data flags = some (next, output))
    (written : output.moved = output.stored.length)
    : output.stored.take start = data.take start
      ∧ (∀ last < 0x03, ¬[0, 0, last] <:+: output.stored.drop start)
      ∧ ∀ before,
          readNalUnit others before (output.stored.drop start)
            = some ({ read with sps := fixer.rewritten flags read.sps },
                some (output.stored.length - start)) := by
  obtain ⟨seen, tabled, -⟩ := parameterSetRead readRun parameterSet
  obtain ⟨_, _, _, stored, answer, startEq, readEq, writeRun, storedEq, movedEq⟩ :=
    gsSpsFix_eq_some run
  rw [startCode] at startEq
  cases startEq
  rw [readRun] at readEq
  cases readEq
  have length : (data.take start).length = start :=
    List.length_take_of_le (startLen_le startCode).2
  cases answer with
  | none =>
      rw [movedEq, storedEq, List.length_append, length, answerMove] at written
      omega
  | some size =>
      have front : output.stored.take start = data.take start := by
        rw [storedEq, List.take_left' length]
      have behind : output.stored.drop start = stored := by
        rw [storedEq, List.drop_left' length]
      have sizeEq : output.stored.length - start = size := by
        rw [movedEq, storedEq, List.length_append, length, answerMove] at written
        rw [storedEq, List.length_append, length]
        omega
      obtain ⟨rbsp, spelled, stuffed, rfl⟩ :=
        writeNalUnit_eq_some (h := { read with sps := fixer.fixSps flags read.sps })
          parameterSet writeRun
      have finished : (rbspToNal 128 0 rbsp).2 = true := by rw [stuffed]
      have unstuffed :=
        nalToRbsp_of_rbspToNal (Nat.zero_le 2) finished (length_le_rbspToNal finished)
      rw [stuffed] at unstuffed
      have fixed := @readNalUnit_eq_some others
        { read with sps := fixer.fixSps flags read.sps } stored rbsp _ parameterSet tabled
        unstuffed spelled
      refine ⟨front, fun last low => ?_, fun before => ?_⟩
      · have startless := @rbspToNal_startless 128 0 rbsp (Nat.zero_le 2) last low
        rwa [stuffed, List.replicate_zero, List.nil_append, ← behind] at startless
      · rw [behind, sizeEq, fixed before, seen_fixSps seen fixer flags]

def mainFixer : SpsFixer := gsSpsInit 1280 720

def mainRewritten : List UInt8 :=
  [0, 0, 0, 1, 103, 77, 0, 32, 218, 1, 64, 22, 232, 6, 208, 68, 35, 80]

/-- A parameter set with a signal type and chroma locations. -/
def signalUnit : H264Stream :=
  { mainUnit with
    sps :=
      { mainSps with
        vui :=
          { videoSignalTypePresentFlag := true
            videoSignalType := { videoFormat := 5, videoFullRangeFlag := true }
            chromaLocInfoPresentFlag := true
            chromaLocation := { topField := 1, bottomField := 2 } } } }

def signalData : List UInt8 := [0, 0, 0, 1, 103, 77, 0, 50, 217, 64, 80, 5, 186, 109, 76, 16]

theorem gsSpsFix_signalData
    : gsSpsFix .none mainFixer signalData ⟨true, true, true⟩
      = some (
          { mainFixer with
            h264Stream :=
              { signalUnit with sps := mainFixer.fixSps ⟨true, true, true⟩ signalUnit.sps } },
          ⟨mainRewritten, 18⟩) := by
  decide +kernel

theorem gsSpsFix_readBack_signalData
    : mainRewritten.take 4 = signalData.take 4
      ∧ (∀ last < 0x03, ¬[0, 0, last] <:+: mainRewritten.drop 4)
      ∧ ∀ before,
          readNalUnit .none before (mainRewritten.drop 4)
            = some (
                { signalUnit with sps := mainFixer.rewritten ⟨true, true, true⟩ signalUnit.sps },
                some 14) :=
  gsSpsFix_readBack (by decide) (by decide +kernel : _ = some (signalUnit, some 12)) (by decide)
    gsSpsFix_signalData (by decide)

end VitaMoonlight
