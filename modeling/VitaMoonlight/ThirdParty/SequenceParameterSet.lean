import VitaMoonlight.ThirdParty.BitStream

/-! The sequence parameter set of the vendored H.264 library: the records of `sps_t` and the
functions of `third_party/h264bitstream/h264_stream.c` that read and write them. A record is
cleared before it is read, so that a field that the stream leaves out is zero.
-/

namespace VitaMoonlight.H264

-----------------------------------------------------------------------------------------
-- Optional and repeated parts
-----------------------------------------------------------------------------------------

/-- A part that is read only where a flag is set. -/
def readIf {Value : Type} (flag : Bool) (absent : Value) (read : Coder Value) : Coder Value :=
  if flag then read else pure absent

/-- A part that is written only where a flag is set. -/
def writeIf (flag : Bool) (write : Coder Unit) : Coder Unit := if flag then write else pure ()

/-- The elements of an array, one after another. -/
def readMany {Value : Type} (read : Coder Value) : Nat → Coder (List Value)
  | 0 => pure []
  | count + 1 => do
      let value ← read
      let values ← readMany read count
      pure (value :: values)

def writeMany {Value : Type} (write : Value → Coder Unit) : List Value → Coder Unit
  | [] => pure ()
  | value :: values => do
      write value
      writeMany write values

-----------------------------------------------------------------------------------------
-- The records
-----------------------------------------------------------------------------------------

/-- `sar_width` and `sar_height`. -/
structure SampleAspect where
  sarWidth : BitVec 16 := 0
  sarHeight : BitVec 16 := 0
deriving DecidableEq

structure AspectRatio where
  aspectRatioIdc : BitVec 8 := 0
  sar : SampleAspect := {}
deriving DecidableEq

structure ColourDescription where
  colourPrimaries : BitVec 8 := 0
  transferCharacteristics : BitVec 8 := 0
  matrixCoefficients : BitVec 8 := 0
deriving DecidableEq

structure VideoSignalType where
  videoFormat : BitVec 3 := 0
  videoFullRangeFlag : Bool := false
  colourDescriptionPresentFlag : Bool := false
  colour : ColourDescription := {}
deriving DecidableEq

/-- `chroma_sample_loc_type_top_field` and `chroma_sample_loc_type_bottom_field`. -/
structure ChromaLocation where
  topField : Ue := 0
  bottomField : Ue := 0
deriving DecidableEq

structure TimingInfo where
  numUnitsInTick : BitVec 32 := 0
  timeScale : BitVec 32 := 0
  fixedFrameRateFlag : Bool := false
deriving DecidableEq

/-- An entry of the three arrays that `cpb_cnt_minus1` counts. -/
structure CodedBuffer where
  bitRateValueMinus1 : Ue := 0
  cpbSizeValueMinus1 : Ue := 0
  cbrFlag : Bool := false
deriving DecidableEq

theorem single_buffer_fits
    : 1 ≤ [({} : CodedBuffer)].length ∧ [({} : CodedBuffer)].length ≤ 32 := by decide

/-- The struct `hrd` of `sps_t`. Its arrays hold the entries that are counted, one more than
`cpb_cnt_minus1`.
-/
structure Hrd where
  bitRateScale : BitVec 4 := 0
  cpbSizeScale : BitVec 4 := 0
  buffers : List CodedBuffer := [{}]
  fits : 1 ≤ buffers.length ∧ buffers.length ≤ 32 := by exact single_buffer_fits
  initialCpbRemovalDelayLengthMinus1 : BitVec 5 := 0
  cpbRemovalDelayLengthMinus1 : BitVec 5 := 0
  dpbOutputDelayLengthMinus1 : BitVec 5 := 0
  timeOffsetLength : BitVec 5 := 0
deriving DecidableEq

structure BitstreamRestriction where
  motionVectorsOverPicBoundariesFlag : Bool := false
  maxBytesPerPicDenom : Ue := 0
  maxBitsPerMbDenom : Ue := 0
  log2MaxMvLengthHorizontal : Ue := 0
  log2MaxMvLengthVertical : Ue := 0
  numReorderFrames : Ue := 0
  maxDecFrameBuffering : Ue := 0
deriving DecidableEq

/-- The struct `vui` of `sps_t`, with the struct `hrd` that both its flags share. -/
structure Vui where
  aspectRatioInfoPresentFlag : Bool := false
  aspectRatio : AspectRatio := {}
  overscanInfoPresentFlag : Bool := false
  overscanAppropriateFlag : Bool := false
  videoSignalTypePresentFlag : Bool := false
  videoSignalType : VideoSignalType := {}
  chromaLocInfoPresentFlag : Bool := false
  chromaLocation : ChromaLocation := {}
  timingInfoPresentFlag : Bool := false
  timingInfo : TimingInfo := {}
  nalHrdParametersPresentFlag : Bool := false
  vclHrdParametersPresentFlag : Bool := false
  hrd : Hrd := {}
  lowDelayHrdFlag : Bool := false
  picStructPresentFlag : Bool := false
  bitstreamRestrictionFlag : Bool := false
  bitstreamRestriction : BitstreamRestriction := {}
deriving DecidableEq

/-- The fields of the high profiles. The lists of a scaling matrix have no memory, so that no
record has one that is present.
-/
structure ChromaFormat where
  chromaFormatIdc : Ue := 1
  residualColourTransformFlag : Bool := false
  bitDepthLumaMinus8 : Ue := 0
  bitDepthChromaMinus8 : Ue := 0
  qpprimeYZeroTransformBypassFlag : Bool := false
  seqScalingMatrixPresentFlag : Bool := false
deriving DecidableEq

theorem no_offset_fits : ([] : List Se).length ≤ 256 := by decide

/-- The fields of `pic_order_cnt_type` 1, with the offsets that
`num_ref_frames_in_pic_order_cnt_cycle` counts.
-/
structure OrderCountCycle where
  deltaPicOrderAlwaysZeroFlag : Bool := false
  offsetForNonRefPic : Se := Se.zero
  offsetForTopToBottomField : Se := Se.zero
  offsetForRefFrame : List Se := []
  fits : offsetForRefFrame.length ≤ 256 := by exact no_offset_fits
deriving DecidableEq

structure FrameCropping where
  frameCropLeftOffset : Ue := 0
  frameCropRightOffset : Ue := 0
  frameCropTopOffset : Ue := 0
  frameCropBottomOffset : Ue := 0
deriving DecidableEq

/-- `sps_t`. -/
structure Sps where
  profileIdc : BitVec 8 := 0
  constraintSet0Flag : Bool := false
  constraintSet1Flag : Bool := false
  constraintSet2Flag : Bool := false
  constraintSet3Flag : Bool := false
  constraintSet4Flag : Bool := false
  constraintSet5Flag : Bool := false
  levelIdc : BitVec 8 := 0
  seqParameterSetId : Ue := 0
  chromaFormat : ChromaFormat := {}
  log2MaxFrameNumMinus4 : Ue := 0
  picOrderCntType : Ue := 0
  log2MaxPicOrderCntLsbMinus4 : Ue := 0
  orderCountCycle : OrderCountCycle := {}
  numRefFrames : Ue := 0
  gapsInFrameNumValueAllowedFlag : Bool := false
  picWidthInMbsMinus1 : Ue := 0
  picHeightInMapUnitsMinus1 : Ue := 0
  frameMbsOnlyFlag : Bool := false
  mbAdaptiveFrameFieldFlag : Bool := false
  direct8x8InferenceFlag : Bool := false
  frameCroppingFlag : Bool := false
  frameCropping : FrameCropping := {}
  vuiParametersPresentFlag : Bool := false
  vui : Vui := {}
deriving DecidableEq

/-- The profiles whose streams have a chroma format. -/
def highProfile (profileIdc : BitVec 8) : Bool :=
  profileIdc == 100 || profileIdc == 110 || profileIdc == 122 || profileIdc == 144

/-- `SAR_Extended`. -/
def sarExtended : BitVec 8 := 255

-----------------------------------------------------------------------------------------
-- Reading
-----------------------------------------------------------------------------------------

def SampleAspect.read : Coder SampleAspect := do
  let sarWidth ← readU 16
  let sarHeight ← readU 16
  pure { sarWidth, sarHeight }

def AspectRatio.read : Coder AspectRatio := do
  let aspectRatioIdc ← readU8
  let sar ← readIf (aspectRatioIdc == sarExtended) {} SampleAspect.read
  pure { aspectRatioIdc, sar }

def ColourDescription.read : Coder ColourDescription := do
  let colourPrimaries ← readU8
  let transferCharacteristics ← readU8
  let matrixCoefficients ← readU8
  pure { colourPrimaries, transferCharacteristics, matrixCoefficients }

def VideoSignalType.read : Coder VideoSignalType := do
  let videoFormat ← readU 3
  let videoFullRangeFlag ← readU1
  let colourDescriptionPresentFlag ← readU1
  let colour ← readIf colourDescriptionPresentFlag {} ColourDescription.read
  pure { videoFormat, videoFullRangeFlag, colourDescriptionPresentFlag, colour }

def ChromaLocation.read : Coder ChromaLocation := do
  let topField ← readUe
  let bottomField ← readUe
  pure { topField, bottomField }

def TimingInfo.read : Coder TimingInfo := do
  let numUnitsInTick ← readU 32
  let timeScale ← readU 32
  let fixedFrameRateFlag ← readU1
  pure { numUnitsInTick, timeScale, fixedFrameRateFlag }

def CodedBuffer.read : Coder CodedBuffer := do
  let bitRateValueMinus1 ← readUe
  let cpbSizeValueMinus1 ← readUe
  let cbrFlag ← readU1
  pure { bitRateValueMinus1, cpbSizeValueMinus1, cbrFlag }

/-- `read_hrd_parameters`: its arrays have 32 entries, and more are stored behind them. -/
def Hrd.read : Coder Hrd := do
  let cpbCntMinus1 ← readUe
  let bitRateScale ← readU 4
  let cpbSizeScale ← readU 4
  let buffers ← readMany CodedBuffer.read (cpbCntMinus1.val + 1)
  if fits : 1 ≤ buffers.length ∧ buffers.length ≤ 32 then do
    let initialCpbRemovalDelayLengthMinus1 ← readU 5
    let cpbRemovalDelayLengthMinus1 ← readU 5
    let dpbOutputDelayLengthMinus1 ← readU 5
    let timeOffsetLength ← readU 5
    pure {
      bitRateScale, cpbSizeScale, buffers, fits, initialCpbRemovalDelayLengthMinus1,
      cpbRemovalDelayLengthMinus1, dpbOutputDelayLengthMinus1, timeOffsetLength
    }
  else undefined

def BitstreamRestriction.read : Coder BitstreamRestriction := do
  let motionVectorsOverPicBoundariesFlag ← readU1
  let maxBytesPerPicDenom ← readUe
  let maxBitsPerMbDenom ← readUe
  let log2MaxMvLengthHorizontal ← readUe
  let log2MaxMvLengthVertical ← readUe
  let numReorderFrames ← readUe
  let maxDecFrameBuffering ← readUe
  pure {
    motionVectorsOverPicBoundariesFlag, maxBytesPerPicDenom, maxBitsPerMbDenom,
    log2MaxMvLengthHorizontal, log2MaxMvLengthVertical, numReorderFrames, maxDecFrameBuffering
  }

/-- `read_vui_parameters`: the second HRD is read over the first. -/
def Vui.read : Coder Vui := do
  let aspectRatioInfoPresentFlag ← readU1
  let aspectRatio ← readIf aspectRatioInfoPresentFlag {} AspectRatio.read
  let overscanInfoPresentFlag ← readU1
  let overscanAppropriateFlag ← readIf overscanInfoPresentFlag false readU1
  let videoSignalTypePresentFlag ← readU1
  let videoSignalType ← readIf videoSignalTypePresentFlag {} VideoSignalType.read
  let chromaLocInfoPresentFlag ← readU1
  let chromaLocation ← readIf chromaLocInfoPresentFlag {} ChromaLocation.read
  let timingInfoPresentFlag ← readU1
  let timingInfo ← readIf timingInfoPresentFlag {} TimingInfo.read
  let nalHrdParametersPresentFlag ← readU1
  let nalHrd ← readIf nalHrdParametersPresentFlag {} Hrd.read
  let vclHrdParametersPresentFlag ← readU1
  let hrd ← readIf vclHrdParametersPresentFlag nalHrd Hrd.read
  let lowDelayHrdFlag ←
    readIf (nalHrdParametersPresentFlag || vclHrdParametersPresentFlag) false readU1
  let picStructPresentFlag ← readU1
  let bitstreamRestrictionFlag ← readU1
  let bitstreamRestriction ← readIf bitstreamRestrictionFlag {} BitstreamRestriction.read
  pure {
    aspectRatioInfoPresentFlag, aspectRatio, overscanInfoPresentFlag, overscanAppropriateFlag,
    videoSignalTypePresentFlag, videoSignalType, chromaLocInfoPresentFlag, chromaLocation,
    timingInfoPresentFlag, timingInfo, nalHrdParametersPresentFlag, vclHrdParametersPresentFlag,
    hrd, lowDelayHrdFlag, picStructPresentFlag, bitstreamRestrictionFlag, bitstreamRestriction
  }

/-- The flags of the eight scaling lists: a list that is present is read through a pointer that
was cleared with the record.
-/
def readScalingLists : Nat → Coder Unit
  | 0 => pure ()
  | left + 1 => do
      let present ← readU1
      if present then undefined else readScalingLists left

def ChromaFormat.read : Coder ChromaFormat := do
  let chromaFormatIdc ← readUe
  let residualColourTransformFlag ← readIf (chromaFormatIdc == 3) false readU1
  let bitDepthLumaMinus8 ← readUe
  let bitDepthChromaMinus8 ← readUe
  let qpprimeYZeroTransformBypassFlag ← readU1
  let seqScalingMatrixPresentFlag ← readU1
  readIf seqScalingMatrixPresentFlag () (readScalingLists 8)
  pure {
    chromaFormatIdc, residualColourTransformFlag, bitDepthLumaMinus8, bitDepthChromaMinus8,
    qpprimeYZeroTransformBypassFlag, seqScalingMatrixPresentFlag
  }

/-- The offsets have an array of 256, and more are stored behind it. -/
def OrderCountCycle.read : Coder OrderCountCycle := do
  let deltaPicOrderAlwaysZeroFlag ← readU1
  let offsetForNonRefPic ← readSe
  let offsetForTopToBottomField ← readSe
  let numRefFramesInPicOrderCntCycle ← readUe
  let offsetForRefFrame ← readMany readSe numRefFramesInPicOrderCntCycle.val
  if fits : offsetForRefFrame.length ≤ 256 then
    pure {
      deltaPicOrderAlwaysZeroFlag, offsetForNonRefPic, offsetForTopToBottomField,
      offsetForRefFrame, fits
    }
  else undefined

def FrameCropping.read : Coder FrameCropping := do
  let frameCropLeftOffset ← readUe
  let frameCropRightOffset ← readUe
  let frameCropTopOffset ← readUe
  let frameCropBottomOffset ← readUe
  pure { frameCropLeftOffset, frameCropRightOffset, frameCropTopOffset, frameCropBottomOffset }

/-- The syntax of `read_seq_parameter_set_rbsp` in front of the trailing bits. -/
def Sps.read : Coder Sps := do
  let profileIdc ← readU8
  let constraintSet0Flag ← readU1
  let constraintSet1Flag ← readU1
  let constraintSet2Flag ← readU1
  let constraintSet3Flag ← readU1
  let constraintSet4Flag ← readU1
  let constraintSet5Flag ← readU1
  skipU 2
  let levelIdc ← readU8
  let seqParameterSetId ← readUe
  let chromaFormat ← readIf (highProfile profileIdc) {} ChromaFormat.read
  let log2MaxFrameNumMinus4 ← readUe
  let picOrderCntType ← readUe
  let log2MaxPicOrderCntLsbMinus4 ← readIf (picOrderCntType == 0) 0 readUe
  let orderCountCycle ← readIf (picOrderCntType == 1) {} OrderCountCycle.read
  let numRefFrames ← readUe
  let gapsInFrameNumValueAllowedFlag ← readU1
  let picWidthInMbsMinus1 ← readUe
  let picHeightInMapUnitsMinus1 ← readUe
  let frameMbsOnlyFlag ← readU1
  let mbAdaptiveFrameFieldFlag ← readIf (!frameMbsOnlyFlag) false readU1
  let direct8x8InferenceFlag ← readU1
  let frameCroppingFlag ← readU1
  let frameCropping ← readIf frameCroppingFlag {} FrameCropping.read
  let vuiParametersPresentFlag ← readU1
  let vui ← readIf vuiParametersPresentFlag {} Vui.read
  pure {
    profileIdc, constraintSet0Flag, constraintSet1Flag, constraintSet2Flag, constraintSet3Flag,
    constraintSet4Flag, constraintSet5Flag, levelIdc, seqParameterSetId, chromaFormat,
    log2MaxFrameNumMinus4, picOrderCntType, log2MaxPicOrderCntLsbMinus4, orderCountCycle,
    numRefFrames, gapsInFrameNumValueAllowedFlag, picWidthInMbsMinus1, picHeightInMapUnitsMinus1,
    frameMbsOnlyFlag, mbAdaptiveFrameFieldFlag, direct8x8InferenceFlag, frameCroppingFlag,
    frameCropping, vuiParametersPresentFlag, vui
  }

-----------------------------------------------------------------------------------------
-- Writing
-----------------------------------------------------------------------------------------

def SampleAspect.write (sar : SampleAspect) : Coder Unit := do
  writeU 16 sar.sarWidth.toNat
  writeU 16 sar.sarHeight.toNat

def AspectRatio.write (aspect : AspectRatio) : Coder Unit := do
  writeU8 aspect.aspectRatioIdc
  writeIf (aspect.aspectRatioIdc == sarExtended) aspect.sar.write

def ColourDescription.write (colour : ColourDescription) : Coder Unit := do
  writeU8 colour.colourPrimaries
  writeU8 colour.transferCharacteristics
  writeU8 colour.matrixCoefficients

def VideoSignalType.write (signal : VideoSignalType) : Coder Unit := do
  writeU 3 signal.videoFormat.toNat
  writeU1 signal.videoFullRangeFlag
  writeU1 signal.colourDescriptionPresentFlag
  writeIf signal.colourDescriptionPresentFlag signal.colour.write

def ChromaLocation.write (location : ChromaLocation) : Coder Unit := do
  writeUe location.topField
  writeUe location.bottomField

def TimingInfo.write (timing : TimingInfo) : Coder Unit := do
  writeU 32 timing.numUnitsInTick.toNat
  writeU 32 timing.timeScale.toNat
  writeU1 timing.fixedFrameRateFlag

def CodedBuffer.write (buffer : CodedBuffer) : Coder Unit := do
  writeUe buffer.bitRateValueMinus1
  writeUe buffer.cpbSizeValueMinus1
  writeU1 buffer.cbrFlag

/-- `cpb_cnt_minus1`. -/
def Hrd.cpbCntMinus1 (hrd : Hrd) : Ue :=
  ⟨hrd.buffers.length - 1, by have := hrd.fits; omega⟩

/-- `write_hrd_parameters`. -/
def Hrd.write (hrd : Hrd) : Coder Unit := do
  writeUe hrd.cpbCntMinus1
  writeU 4 hrd.bitRateScale.toNat
  writeU 4 hrd.cpbSizeScale.toNat
  writeMany CodedBuffer.write hrd.buffers
  writeU 5 hrd.initialCpbRemovalDelayLengthMinus1.toNat
  writeU 5 hrd.cpbRemovalDelayLengthMinus1.toNat
  writeU 5 hrd.dpbOutputDelayLengthMinus1.toNat
  writeU 5 hrd.timeOffsetLength.toNat

def BitstreamRestriction.write (restriction : BitstreamRestriction) : Coder Unit := do
  writeU1 restriction.motionVectorsOverPicBoundariesFlag
  writeUe restriction.maxBytesPerPicDenom
  writeUe restriction.maxBitsPerMbDenom
  writeUe restriction.log2MaxMvLengthHorizontal
  writeUe restriction.log2MaxMvLengthVertical
  writeUe restriction.numReorderFrames
  writeUe restriction.maxDecFrameBuffering

/-- `write_vui_parameters`. -/
def Vui.write (vui : Vui) : Coder Unit := do
  writeU1 vui.aspectRatioInfoPresentFlag
  writeIf vui.aspectRatioInfoPresentFlag vui.aspectRatio.write
  writeU1 vui.overscanInfoPresentFlag
  writeIf vui.overscanInfoPresentFlag (writeU1 vui.overscanAppropriateFlag)
  writeU1 vui.videoSignalTypePresentFlag
  writeIf vui.videoSignalTypePresentFlag vui.videoSignalType.write
  writeU1 vui.chromaLocInfoPresentFlag
  writeIf vui.chromaLocInfoPresentFlag vui.chromaLocation.write
  writeU1 vui.timingInfoPresentFlag
  writeIf vui.timingInfoPresentFlag vui.timingInfo.write
  writeU1 vui.nalHrdParametersPresentFlag
  writeIf vui.nalHrdParametersPresentFlag vui.hrd.write
  writeU1 vui.vclHrdParametersPresentFlag
  writeIf vui.vclHrdParametersPresentFlag vui.hrd.write
  writeIf (vui.nalHrdParametersPresentFlag || vui.vclHrdParametersPresentFlag)
    (writeU1 vui.lowDelayHrdFlag)
  writeU1 vui.picStructPresentFlag
  writeU1 vui.bitstreamRestrictionFlag
  writeIf vui.bitstreamRestrictionFlag vui.bitstreamRestriction.write

/-- The flags of eight scaling lists, none of which is present. -/
def writeScalingLists : Nat → Coder Unit
  | 0 => pure ()
  | left + 1 => do
      writeU1 false
      writeScalingLists left

def ChromaFormat.write (chroma : ChromaFormat) : Coder Unit := do
  writeUe chroma.chromaFormatIdc
  writeIf (chroma.chromaFormatIdc == 3) (writeU1 chroma.residualColourTransformFlag)
  writeUe chroma.bitDepthLumaMinus8
  writeUe chroma.bitDepthChromaMinus8
  writeU1 chroma.qpprimeYZeroTransformBypassFlag
  writeU1 chroma.seqScalingMatrixPresentFlag
  writeIf chroma.seqScalingMatrixPresentFlag (writeScalingLists 8)

/-- `num_ref_frames_in_pic_order_cnt_cycle`. -/
def OrderCountCycle.numRefFrames (cycle : OrderCountCycle) : Ue :=
  ⟨cycle.offsetForRefFrame.length, by have := cycle.fits; omega⟩

def OrderCountCycle.write (cycle : OrderCountCycle) : Coder Unit := do
  writeU1 cycle.deltaPicOrderAlwaysZeroFlag
  writeSe cycle.offsetForNonRefPic
  writeSe cycle.offsetForTopToBottomField
  writeUe cycle.numRefFrames
  writeMany writeSe cycle.offsetForRefFrame

def FrameCropping.write (cropping : FrameCropping) : Coder Unit := do
  writeUe cropping.frameCropLeftOffset
  writeUe cropping.frameCropRightOffset
  writeUe cropping.frameCropTopOffset
  writeUe cropping.frameCropBottomOffset

/-- The syntax of `write_seq_parameter_set_rbsp` in front of the trailing bits. -/
def Sps.write (sps : Sps) : Coder Unit := do
  writeU8 sps.profileIdc
  writeU1 sps.constraintSet0Flag
  writeU1 sps.constraintSet1Flag
  writeU1 sps.constraintSet2Flag
  writeU1 sps.constraintSet3Flag
  writeU1 sps.constraintSet4Flag
  writeU1 sps.constraintSet5Flag
  writeU 2 0
  writeU8 sps.levelIdc
  writeUe sps.seqParameterSetId
  writeIf (highProfile sps.profileIdc) sps.chromaFormat.write
  writeUe sps.log2MaxFrameNumMinus4
  writeUe sps.picOrderCntType
  writeIf (sps.picOrderCntType == 0) (writeUe sps.log2MaxPicOrderCntLsbMinus4)
  writeIf (sps.picOrderCntType == 1) sps.orderCountCycle.write
  writeUe sps.numRefFrames
  writeU1 sps.gapsInFrameNumValueAllowedFlag
  writeUe sps.picWidthInMbsMinus1
  writeUe sps.picHeightInMapUnitsMinus1
  writeU1 sps.frameMbsOnlyFlag
  writeIf (!sps.frameMbsOnlyFlag) (writeU1 sps.mbAdaptiveFrameFieldFlag)
  writeU1 sps.direct8x8InferenceFlag
  writeU1 sps.frameCroppingFlag
  writeIf sps.frameCroppingFlag sps.frameCropping.write
  writeU1 sps.vuiParametersPresentFlag
  writeIf sps.vuiParametersPresentFlag sps.vui.write

end VitaMoonlight.H264
