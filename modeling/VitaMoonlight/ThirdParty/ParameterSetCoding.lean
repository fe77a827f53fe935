import VitaMoonlight.ThirdParty.BitCoding
import VitaMoonlight.ThirdParty.SequenceParameterSet

/-! The bits that a sequence parameter set is coded with, and what a reader sees of a record that
was written: the fields behind a clear flag are at their defaults.
-/

namespace VitaMoonlight.H264

open Library

variable {Value : Type}

-----------------------------------------------------------------------------------------
-- Optional and repeated parts
-----------------------------------------------------------------------------------------

/-- The bits of a part that only stands behind a set flag. -/
def bitsIf (flag : Bool) (bits : List Bool) : List Bool := if flag then bits else []

theorem Reads.readIf {reader : Coder Value} {bits : List Bool} {value : Value}
    (reads : Reads reader bits value) (flag : Bool) (absent : Value)
    : Reads (readIf flag absent reader) (bitsIf flag bits) (if flag then value else absent) := by
  cases flag with
  | false => exact Reads.pure absent
  | true => exact reads

theorem Writes.writeIf {writer : Coder Unit} {bits : List Bool} (writes : Writes writer bits)
    (flag : Bool)
    : Writes (writeIf flag writer) (bitsIf flag bits) := writes.ite

theorem Reads.readMany {reader : Coder Value} {bits : Value → List Bool}
    (reads : ∀ value, Reads reader (bits value) value) (values : List Value)
    : Reads (readMany reader values.length) (values.flatMap bits) values := by
  induction values with
  | nil => exact Reads.pure []
  | cons value values ih => exact (reads value).bind (ih.map (value :: ·))

theorem Writes.writeMany {writer : Value → Coder Unit} {bits : Value → List Bool}
    (writes : ∀ value, Writes (writer value) (bits value)) (values : List Value)
    : Writes (writeMany writer values) (values.flatMap bits) := by
  induction values with
  | nil => exact Writes.pure
  | cons value values ih => exact (writes value).seq ih

theorem Writes.last {writer : Coder Unit} {bits : List Bool} (writes : Writes writer bits)
    : Writes writer [bits].flatten := by
  rwa [List.flatten_cons, List.flatten_nil, List.append_nil]

/-- Skipped bits may be any. -/
theorem reads_skipU (bits : List Bool)
    : Reads (skipU bits.length) bits () := by
  induction bits with
  | nil => exact Reads.pure ()
  | cons bit bits ih =>
      have one : Reads skipU1 [bit] () := by
        intro bytes offset _
        rw [skipU1, skipU1_seek]
        rfl
      exact one.bind ih

-----------------------------------------------------------------------------------------
-- The usability information
-----------------------------------------------------------------------------------------

def SampleAspect.bits (sar : SampleAspect) : List Bool :=
  [bitsOf 16 sar.sarWidth.toNat, bitsOf 16 sar.sarHeight.toNat].flatten

theorem SampleAspect.reads (sar : SampleAspect)
    : Reads SampleAspect.read sar.bits sar :=
  (reads_u sar.sarWidth).bind <| (reads_u sar.sarHeight).bind <| Reads.pure sar

theorem SampleAspect.writes (sar : SampleAspect)
    : Writes sar.write sar.bits :=
  (writes_u 16 _).seq <| (writes_u 16 _).last

def AspectRatio.bits (aspect : AspectRatio) : List Bool :=
  [
    bitsOf 8 aspect.aspectRatioIdc.toNat,
    bitsIf (aspect.aspectRatioIdc == sarExtended) aspect.sar.bits
  ].flatten

def AspectRatio.seen (aspect : AspectRatio) : AspectRatio where
  aspectRatioIdc := aspect.aspectRatioIdc
  sar := if aspect.aspectRatioIdc == sarExtended then aspect.sar else {}

theorem AspectRatio.reads (aspect : AspectRatio)
    : Reads AspectRatio.read aspect.bits aspect.seen :=
  (reads_u8 aspect.aspectRatioIdc).bind <|
    (aspect.sar.reads.readIf _ {}).bind <| Reads.pure aspect.seen

theorem AspectRatio.writes (aspect : AspectRatio)
    : Writes aspect.write aspect.bits :=
  (writes_u8 _).seq <| (aspect.sar.writes.writeIf _).last

def ColourDescription.bits (colour : ColourDescription) : List Bool :=
  [
    bitsOf 8 colour.colourPrimaries.toNat, bitsOf 8 colour.transferCharacteristics.toNat,
    bitsOf 8 colour.matrixCoefficients.toNat
  ].flatten

theorem ColourDescription.reads (colour : ColourDescription)
    : Reads ColourDescription.read colour.bits colour :=
  (reads_u8 colour.colourPrimaries).bind <| (reads_u8 colour.transferCharacteristics).bind <|
    (reads_u8 colour.matrixCoefficients).bind <| Reads.pure colour

theorem ColourDescription.writes (colour : ColourDescription)
    : Writes colour.write colour.bits :=
  (writes_u8 _).seq <| (writes_u8 _).seq <| (writes_u8 _).last

def VideoSignalType.bits (signal : VideoSignalType) : List Bool :=
  [
    bitsOf 3 signal.videoFormat.toNat, [signal.videoFullRangeFlag],
    [signal.colourDescriptionPresentFlag],
    bitsIf signal.colourDescriptionPresentFlag signal.colour.bits
  ].flatten

def VideoSignalType.seen (signal : VideoSignalType) : VideoSignalType where
  videoFormat := signal.videoFormat
  videoFullRangeFlag := signal.videoFullRangeFlag
  colourDescriptionPresentFlag := signal.colourDescriptionPresentFlag
  colour := if signal.colourDescriptionPresentFlag then signal.colour else {}

theorem VideoSignalType.reads (signal : VideoSignalType)
    : Reads VideoSignalType.read signal.bits signal.seen :=
  (reads_u signal.videoFormat).bind <| (reads_u1 signal.videoFullRangeFlag).bind <|
    (reads_u1 signal.colourDescriptionPresentFlag).bind <|
    (signal.colour.reads.readIf _ {}).bind <| Reads.pure signal.seen

theorem VideoSignalType.writes (signal : VideoSignalType)
    : Writes signal.write signal.bits :=
  (writes_u 3 _).seq <| (writes_u1 _).seq <| (writes_u1 _).seq <|
    (signal.colour.writes.writeIf _).last

def ChromaLocation.bits (location : ChromaLocation) : List Bool :=
  [expGolomb location.topField.val, expGolomb location.bottomField.val].flatten

theorem ChromaLocation.reads (location : ChromaLocation)
    : Reads ChromaLocation.read location.bits location :=
  (reads_ue location.topField).bind <| (reads_ue location.bottomField).bind <| Reads.pure location

theorem ChromaLocation.writes (location : ChromaLocation)
    : Writes location.write location.bits :=
  (writes_ue _).seq <| (writes_ue _).last

def TimingInfo.bits (timing : TimingInfo) : List Bool :=
  [
    bitsOf 32 timing.numUnitsInTick.toNat, bitsOf 32 timing.timeScale.toNat,
    [timing.fixedFrameRateFlag]
  ].flatten

theorem TimingInfo.reads (timing : TimingInfo)
    : Reads TimingInfo.read timing.bits timing :=
  (reads_u timing.numUnitsInTick).bind <| (reads_u timing.timeScale).bind <|
    (reads_u1 timing.fixedFrameRateFlag).bind <| Reads.pure timing

theorem TimingInfo.writes (timing : TimingInfo)
    : Writes timing.write timing.bits :=
  (writes_u 32 _).seq <| (writes_u 32 _).seq <| (writes_u1 _).last

def CodedBuffer.bits (buffer : CodedBuffer) : List Bool :=
  [
    expGolomb buffer.bitRateValueMinus1.val, expGolomb buffer.cpbSizeValueMinus1.val,
    [buffer.cbrFlag]
  ].flatten

theorem CodedBuffer.reads (buffer : CodedBuffer)
    : Reads CodedBuffer.read buffer.bits buffer :=
  (reads_ue buffer.bitRateValueMinus1).bind <| (reads_ue buffer.cpbSizeValueMinus1).bind <|
    (reads_u1 buffer.cbrFlag).bind <| Reads.pure buffer

theorem CodedBuffer.writes (buffer : CodedBuffer)
    : Writes buffer.write buffer.bits :=
  (writes_ue _).seq <| (writes_ue _).seq <| (writes_u1 _).last

def Hrd.bits (hrd : Hrd) : List Bool :=
  [
    expGolomb hrd.cpbCntMinus1.val, bitsOf 4 hrd.bitRateScale.toNat,
    bitsOf 4 hrd.cpbSizeScale.toNat, hrd.buffers.flatMap CodedBuffer.bits,
    bitsOf 5 hrd.initialCpbRemovalDelayLengthMinus1.toNat,
    bitsOf 5 hrd.cpbRemovalDelayLengthMinus1.toNat, bitsOf 5 hrd.dpbOutputDelayLengthMinus1.toNat,
    bitsOf 5 hrd.timeOffsetLength.toNat
  ].flatten

theorem Hrd.reads (hrd : Hrd)
    : Reads Hrd.read hrd.bits hrd := by
  have count : hrd.cpbCntMinus1.val + 1 = hrd.buffers.length := Nat.sub_add_cancel hrd.fits.1
  refine (reads_ue hrd.cpbCntMinus1).bind <| (reads_u hrd.bitRateScale).bind <|
    (reads_u hrd.cpbSizeScale).bind ?_
  rw [count]
  refine (Reads.readMany CodedBuffer.reads hrd.buffers).bind ?_
  rw [dif_pos hrd.fits]
  exact (reads_u hrd.initialCpbRemovalDelayLengthMinus1).bind <|
    (reads_u hrd.cpbRemovalDelayLengthMinus1).bind <|
    (reads_u hrd.dpbOutputDelayLengthMinus1).bind <| (reads_u hrd.timeOffsetLength).bind <|
    Reads.pure hrd

theorem Hrd.writes (hrd : Hrd)
    : Writes hrd.write hrd.bits :=
  (writes_ue _).seq <| (writes_u 4 _).seq <| (writes_u 4 _).seq <|
    (Writes.writeMany CodedBuffer.writes hrd.buffers).seq <| (writes_u 5 _).seq <|
    (writes_u 5 _).seq <| (writes_u 5 _).seq <| (writes_u 5 _).last

def BitstreamRestriction.bits (restriction : BitstreamRestriction) : List Bool :=
  [
    [restriction.motionVectorsOverPicBoundariesFlag],
    expGolomb restriction.maxBytesPerPicDenom.val, expGolomb restriction.maxBitsPerMbDenom.val,
    expGolomb restriction.log2MaxMvLengthHorizontal.val,
    expGolomb restriction.log2MaxMvLengthVertical.val,
    expGolomb restriction.numReorderFrames.val, expGolomb restriction.maxDecFrameBuffering.val
  ].flatten

theorem BitstreamRestriction.reads (restriction : BitstreamRestriction)
    : Reads BitstreamRestriction.read restriction.bits restriction :=
  (reads_u1 restriction.motionVectorsOverPicBoundariesFlag).bind <|
    (reads_ue restriction.maxBytesPerPicDenom).bind <|
    (reads_ue restriction.maxBitsPerMbDenom).bind <|
    (reads_ue restriction.log2MaxMvLengthHorizontal).bind <|
    (reads_ue restriction.log2MaxMvLengthVertical).bind <|
    (reads_ue restriction.numReorderFrames).bind <|
    (reads_ue restriction.maxDecFrameBuffering).bind <| Reads.pure restriction

theorem BitstreamRestriction.writes (restriction : BitstreamRestriction)
    : Writes restriction.write restriction.bits :=
  (writes_u1 _).seq <| (writes_ue _).seq <| (writes_ue _).seq <| (writes_ue _).seq <|
    (writes_ue _).seq <| (writes_ue _).seq <| (writes_ue _).last

/-- Both flags write the one HRD. -/
def Vui.bits (vui : Vui) : List Bool :=
  [
    [vui.aspectRatioInfoPresentFlag], bitsIf vui.aspectRatioInfoPresentFlag vui.aspectRatio.bits,
    [vui.overscanInfoPresentFlag], bitsIf vui.overscanInfoPresentFlag [vui.overscanAppropriateFlag],
    [vui.videoSignalTypePresentFlag],
    bitsIf vui.videoSignalTypePresentFlag vui.videoSignalType.bits,
    [vui.chromaLocInfoPresentFlag], bitsIf vui.chromaLocInfoPresentFlag vui.chromaLocation.bits,
    [vui.timingInfoPresentFlag], bitsIf vui.timingInfoPresentFlag vui.timingInfo.bits,
    [vui.nalHrdParametersPresentFlag], bitsIf vui.nalHrdParametersPresentFlag vui.hrd.bits,
    [vui.vclHrdParametersPresentFlag], bitsIf vui.vclHrdParametersPresentFlag vui.hrd.bits,
    bitsIf (vui.nalHrdParametersPresentFlag || vui.vclHrdParametersPresentFlag)
      [vui.lowDelayHrdFlag],
    [vui.picStructPresentFlag], [vui.bitstreamRestrictionFlag],
    bitsIf vui.bitstreamRestrictionFlag vui.bitstreamRestriction.bits
  ].flatten

def Vui.seen (vui : Vui) : Vui where
  aspectRatioInfoPresentFlag := vui.aspectRatioInfoPresentFlag
  aspectRatio := if vui.aspectRatioInfoPresentFlag then vui.aspectRatio.seen else {}
  overscanInfoPresentFlag := vui.overscanInfoPresentFlag
  overscanAppropriateFlag := if vui.overscanInfoPresentFlag then vui.overscanAppropriateFlag else false
  videoSignalTypePresentFlag := vui.videoSignalTypePresentFlag
  videoSignalType := if vui.videoSignalTypePresentFlag then vui.videoSignalType.seen else {}
  chromaLocInfoPresentFlag := vui.chromaLocInfoPresentFlag
  chromaLocation := if vui.chromaLocInfoPresentFlag then vui.chromaLocation else {}
  timingInfoPresentFlag := vui.timingInfoPresentFlag
  timingInfo := if vui.timingInfoPresentFlag then vui.timingInfo else {}
  nalHrdParametersPresentFlag := vui.nalHrdParametersPresentFlag
  vclHrdParametersPresentFlag := vui.vclHrdParametersPresentFlag
  hrd :=
    if vui.vclHrdParametersPresentFlag then vui.hrd
    else if vui.nalHrdParametersPresentFlag then vui.hrd
    else {}
  lowDelayHrdFlag :=
    if vui.nalHrdParametersPresentFlag || vui.vclHrdParametersPresentFlag then vui.lowDelayHrdFlag
    else false
  picStructPresentFlag := vui.picStructPresentFlag
  bitstreamRestrictionFlag := vui.bitstreamRestrictionFlag
  bitstreamRestriction := if vui.bitstreamRestrictionFlag then vui.bitstreamRestriction else {}

theorem Vui.reads (vui : Vui)
    : Reads Vui.read vui.bits vui.seen :=
  (reads_u1 vui.aspectRatioInfoPresentFlag).bind <|
    (vui.aspectRatio.reads.readIf _ {}).bind <|
    (reads_u1 vui.overscanInfoPresentFlag).bind <|
    ((reads_u1 vui.overscanAppropriateFlag).readIf _ false).bind <|
    (reads_u1 vui.videoSignalTypePresentFlag).bind <|
    (vui.videoSignalType.reads.readIf _ {}).bind <|
    (reads_u1 vui.chromaLocInfoPresentFlag).bind <|
    (vui.chromaLocation.reads.readIf _ {}).bind <|
    (reads_u1 vui.timingInfoPresentFlag).bind <|
    (vui.timingInfo.reads.readIf _ {}).bind <|
    (reads_u1 vui.nalHrdParametersPresentFlag).bind <|
    (vui.hrd.reads.readIf _ {}).bind <|
    (reads_u1 vui.vclHrdParametersPresentFlag).bind <|
    (vui.hrd.reads.readIf _ _).bind <|
    ((reads_u1 vui.lowDelayHrdFlag).readIf _ false).bind <|
    (reads_u1 vui.picStructPresentFlag).bind <|
    (reads_u1 vui.bitstreamRestrictionFlag).bind <|
    (vui.bitstreamRestriction.reads.readIf _ {}).bind <| Reads.pure vui.seen

theorem Vui.writes (vui : Vui)
    : Writes vui.write vui.bits :=
  (writes_u1 _).seq <| (vui.aspectRatio.writes.writeIf _).seq <|
    (writes_u1 _).seq <| ((writes_u1 _).writeIf _).seq <|
    (writes_u1 _).seq <| (vui.videoSignalType.writes.writeIf _).seq <|
    (writes_u1 _).seq <| (vui.chromaLocation.writes.writeIf _).seq <|
    (writes_u1 _).seq <| (vui.timingInfo.writes.writeIf _).seq <|
    (writes_u1 _).seq <| (vui.hrd.writes.writeIf _).seq <|
    (writes_u1 _).seq <| (vui.hrd.writes.writeIf _).seq <| ((writes_u1 _).writeIf _).seq <|
    (writes_u1 _).seq <| (writes_u1 _).seq <| (vui.bitstreamRestriction.writes.writeIf _).last

-----------------------------------------------------------------------------------------
-- The parameter set
-----------------------------------------------------------------------------------------

theorem reads_scalingLists (left : Nat)
    : Reads (readScalingLists left) (List.replicate left false) () := by
  induction left with
  | zero => exact Reads.pure ()
  | succ left ih => exact (reads_u1 false).bind ih

theorem writes_scalingLists (left : Nat)
    : Writes (writeScalingLists left) (List.replicate left false) := by
  induction left with
  | zero => exact Writes.pure
  | succ left ih => exact (writes_u1 false).seq ih

def ChromaFormat.bits (chroma : ChromaFormat) : List Bool :=
  [
    expGolomb chroma.chromaFormatIdc.val,
    bitsIf (chroma.chromaFormatIdc == 3) [chroma.residualColourTransformFlag],
    expGolomb chroma.bitDepthLumaMinus8.val, expGolomb chroma.bitDepthChromaMinus8.val,
    [chroma.qpprimeYZeroTransformBypassFlag], [chroma.seqScalingMatrixPresentFlag],
    bitsIf chroma.seqScalingMatrixPresentFlag (List.replicate 8 false)
  ].flatten

def ChromaFormat.seen (chroma : ChromaFormat) : ChromaFormat where
  chromaFormatIdc := chroma.chromaFormatIdc
  residualColourTransformFlag :=
    if chroma.chromaFormatIdc == 3 then chroma.residualColourTransformFlag else false
  bitDepthLumaMinus8 := chroma.bitDepthLumaMinus8
  bitDepthChromaMinus8 := chroma.bitDepthChromaMinus8
  qpprimeYZeroTransformBypassFlag := chroma.qpprimeYZeroTransformBypassFlag
  seqScalingMatrixPresentFlag := chroma.seqScalingMatrixPresentFlag

theorem ChromaFormat.reads (chroma : ChromaFormat)
    : Reads ChromaFormat.read chroma.bits chroma.seen :=
  (reads_ue chroma.chromaFormatIdc).bind <|
    ((reads_u1 chroma.residualColourTransformFlag).readIf _ false).bind <|
    (reads_ue chroma.bitDepthLumaMinus8).bind <| (reads_ue chroma.bitDepthChromaMinus8).bind <|
    (reads_u1 chroma.qpprimeYZeroTransformBypassFlag).bind <|
    (reads_u1 chroma.seqScalingMatrixPresentFlag).bind <|
    ((reads_scalingLists 8).readIf _ ()).bind <| Reads.pure chroma.seen

theorem ChromaFormat.writes (chroma : ChromaFormat)
    : Writes chroma.write chroma.bits :=
  (writes_ue _).seq <| ((writes_u1 _).writeIf _).seq <| (writes_ue _).seq <|
    (writes_ue _).seq <| (writes_u1 _).seq <| (writes_u1 _).seq <|
    ((writes_scalingLists 8).writeIf _).last

def OrderCountCycle.bits (cycle : OrderCountCycle) : List Bool :=
  [
    [cycle.deltaPicOrderAlwaysZeroFlag], expGolomb (ofSe cycle.offsetForNonRefPic).val,
    expGolomb (ofSe cycle.offsetForTopToBottomField).val, expGolomb cycle.numRefFrames.val,
    cycle.offsetForRefFrame.flatMap fun offset => expGolomb (ofSe offset).val
  ].flatten

theorem OrderCountCycle.reads (cycle : OrderCountCycle)
    : Reads OrderCountCycle.read cycle.bits cycle := by
  refine (reads_u1 cycle.deltaPicOrderAlwaysZeroFlag).bind <|
    (reads_se cycle.offsetForNonRefPic).bind <| (reads_se cycle.offsetForTopToBottomField).bind <|
    (reads_ue cycle.numRefFrames).bind <|
    (Reads.readMany reads_se cycle.offsetForRefFrame).bind ?_
  rw [dif_pos cycle.fits]
  exact Reads.pure cycle

theorem OrderCountCycle.writes (cycle : OrderCountCycle)
    : Writes cycle.write cycle.bits :=
  (writes_u1 _).seq <| (writes_se _).seq <| (writes_se _).seq <| (writes_ue _).seq <|
    (Writes.writeMany writes_se cycle.offsetForRefFrame).last

def FrameCropping.bits (cropping : FrameCropping) : List Bool :=
  [
    expGolomb cropping.frameCropLeftOffset.val, expGolomb cropping.frameCropRightOffset.val,
    expGolomb cropping.frameCropTopOffset.val, expGolomb cropping.frameCropBottomOffset.val
  ].flatten

theorem FrameCropping.reads (cropping : FrameCropping)
    : Reads FrameCropping.read cropping.bits cropping :=
  (reads_ue cropping.frameCropLeftOffset).bind <| (reads_ue cropping.frameCropRightOffset).bind <|
    (reads_ue cropping.frameCropTopOffset).bind <|
    (reads_ue cropping.frameCropBottomOffset).bind <| Reads.pure cropping

theorem FrameCropping.writes (cropping : FrameCropping)
    : Writes cropping.write cropping.bits :=
  (writes_ue _).seq <| (writes_ue _).seq <| (writes_ue _).seq <| (writes_ue _).last

def Sps.bits (sps : Sps) : List Bool :=
  [
    bitsOf 8 sps.profileIdc.toNat, [sps.constraintSet0Flag], [sps.constraintSet1Flag],
    [sps.constraintSet2Flag], [sps.constraintSet3Flag], [sps.constraintSet4Flag],
    [sps.constraintSet5Flag], [false, false], bitsOf 8 sps.levelIdc.toNat,
    expGolomb sps.seqParameterSetId.val, bitsIf (highProfile sps.profileIdc) sps.chromaFormat.bits,
    expGolomb sps.log2MaxFrameNumMinus4.val, expGolomb sps.picOrderCntType.val,
    bitsIf (sps.picOrderCntType == 0) (expGolomb sps.log2MaxPicOrderCntLsbMinus4.val),
    bitsIf (sps.picOrderCntType == 1) sps.orderCountCycle.bits, expGolomb sps.numRefFrames.val,
    [sps.gapsInFrameNumValueAllowedFlag], expGolomb sps.picWidthInMbsMinus1.val,
    expGolomb sps.picHeightInMapUnitsMinus1.val, [sps.frameMbsOnlyFlag],
    bitsIf (!sps.frameMbsOnlyFlag) [sps.mbAdaptiveFrameFieldFlag], [sps.direct8x8InferenceFlag],
    [sps.frameCroppingFlag], bitsIf sps.frameCroppingFlag sps.frameCropping.bits,
    [sps.vuiParametersPresentFlag], bitsIf sps.vuiParametersPresentFlag sps.vui.bits
  ].flatten

/-- What a reader sees of a parameter set that was written. -/
def Sps.seen (sps : Sps) : Sps :=
  { sps with
    chromaFormat := if highProfile sps.profileIdc then sps.chromaFormat.seen else {}
    log2MaxPicOrderCntLsbMinus4 :=
      if sps.picOrderCntType == 0 then sps.log2MaxPicOrderCntLsbMinus4 else 0
    orderCountCycle := if sps.picOrderCntType == 1 then sps.orderCountCycle else {}
    mbAdaptiveFrameFieldFlag := if !sps.frameMbsOnlyFlag then sps.mbAdaptiveFrameFieldFlag else false
    frameCropping := if sps.frameCroppingFlag then sps.frameCropping else {}
    vui := if sps.vuiParametersPresentFlag then sps.vui.seen else {} }

theorem Sps.reads (sps : Sps)
    : Reads Sps.read sps.bits sps.seen :=
  (reads_u8 sps.profileIdc).bind <| (reads_u1 sps.constraintSet0Flag).bind <|
    (reads_u1 sps.constraintSet1Flag).bind <| (reads_u1 sps.constraintSet2Flag).bind <|
    (reads_u1 sps.constraintSet3Flag).bind <| (reads_u1 sps.constraintSet4Flag).bind <|
    (reads_u1 sps.constraintSet5Flag).bind <| (reads_skipU [false, false]).bind <|
    (reads_u8 sps.levelIdc).bind <| (reads_ue sps.seqParameterSetId).bind <|
    (sps.chromaFormat.reads.readIf _ {}).bind <|
    (reads_ue sps.log2MaxFrameNumMinus4).bind <| (reads_ue sps.picOrderCntType).bind <|
    ((reads_ue sps.log2MaxPicOrderCntLsbMinus4).readIf _ 0).bind <|
    (sps.orderCountCycle.reads.readIf _ {}).bind <| (reads_ue sps.numRefFrames).bind <|
    (reads_u1 sps.gapsInFrameNumValueAllowedFlag).bind <|
    (reads_ue sps.picWidthInMbsMinus1).bind <| (reads_ue sps.picHeightInMapUnitsMinus1).bind <|
    (reads_u1 sps.frameMbsOnlyFlag).bind <|
    ((reads_u1 sps.mbAdaptiveFrameFieldFlag).readIf _ false).bind <|
    (reads_u1 sps.direct8x8InferenceFlag).bind <| (reads_u1 sps.frameCroppingFlag).bind <|
    (sps.frameCropping.reads.readIf _ {}).bind <|
    (reads_u1 sps.vuiParametersPresentFlag).bind <|
    (sps.vui.reads.readIf _ {}).bind <| Reads.pure sps.seen

theorem Sps.writes (sps : Sps)
    : Writes sps.write sps.bits :=
  (writes_u8 _).seq <| (writes_u1 _).seq <| (writes_u1 _).seq <| (writes_u1 _).seq <|
    (writes_u1 _).seq <| (writes_u1 _).seq <| (writes_u1 _).seq <| (writes_u 2 0).seq <|
    (writes_u8 _).seq <| (writes_ue _).seq <| (sps.chromaFormat.writes.writeIf _).seq <|
    (writes_ue _).seq <| (writes_ue _).seq <| ((writes_ue _).writeIf _).seq <|
    (sps.orderCountCycle.writes.writeIf _).seq <| (writes_ue _).seq <| (writes_u1 _).seq <|
    (writes_ue _).seq <| (writes_ue _).seq <| (writes_u1 _).seq <|
    ((writes_u1 _).writeIf _).seq <| (writes_u1 _).seq <| (writes_u1 _).seq <|
    (sps.frameCropping.writes.writeIf _).seq <| (writes_u1 _).seq <|
    (sps.vui.writes.writeIf _).last

/-- A set of the main profile with usability information for 1280 columns and 720 rows. -/
def mainSps : Sps where
  profileIdc := 77
  levelIdc := 50
  picOrderCntType := 2
  numRefFrames := 4
  picWidthInMbsMinus1 := 79
  picHeightInMapUnitsMinus1 := 44
  frameMbsOnlyFlag := true
  direct8x8InferenceFlag := true
  vuiParametersPresentFlag := true

end VitaMoonlight.H264
