import VitaMoonlight.ThirdParty.ParameterSetUnit

/-! How many bits a parameter set takes: a reader moves on by the bits of the record that it
returns, and the record is one that a reader sees. The one exception is a record with both HRDs,
where the bits of the first are lost.
-/

namespace VitaMoonlight.H264

open Library

variable {Value Other : Type}

-----------------------------------------------------------------------------------------
-- Optional and repeated parts
-----------------------------------------------------------------------------------------

/-- The reader moves on by the bits of its value and returns only values that a reader sees. -/
def Spells (reader : Coder Value) (bits : Value → List Bool) (seen : Value → Value) : Prop :=
  Consumes reader fun value count => count = (bits value).length ∧ seen value = value

theorem Consumes.spells {reader : Coder Value} {bits : Value → List Bool}
    (consumes : Consumes reader fun value count => count = (bits value).length)
    : Spells reader bits id :=
  consumes.mono fun _ _ spelled => ⟨spelled, rfl⟩

theorem Spells.bind {reader : Coder Value} {bits : Value → List Bool} {seen : Value → Value}
    {next : Value → Coder Other} {post : Other → Nat → Prop} (first : Spells reader bits seen)
    (second : ∀ value, seen value = value →
      Consumes (next value) fun other more => post other ((bits value).length + more))
    : Consumes (reader >>= next) post := by
  refine Consumes.bind first fun value count spelled => ?_
  rw [spelled.1]
  exact second value spelled.2

theorem Spells.readIf {reader : Coder Value} {bits : Value → List Bool} {seen : Value → Value}
    (spells : Spells reader bits seen) (flag : Bool) (absent : Value)
    : Spells (readIf flag absent reader) (fun value => bitsIf flag (bits value))
        fun value => if flag then seen value else absent := by
  cases flag with
  | false => exact Consumes.pure ⟨rfl, rfl⟩
  | true => exact spells

theorem Spells.readMany {reader : Coder Value} {bits : Value → List Bool}
    (spells : Spells reader bits id) (count : Nat)
    : Consumes (readMany reader count) fun values length =>
        length = (values.flatMap bits).length ∧ values.length = count := by
  induction count with
  | zero => exact Consumes.pure ⟨rfl, rfl⟩
  | succ count ih =>
      refine spells.bind fun value _ => ih.bind fun values rest behind => ?_
      refine Consumes.pure ⟨?_, congrArg (· + 1) behind.2⟩
      rw [List.flatMap_cons, List.length_append, behind.1, Nat.add_zero]

theorem spells_u1
    : Spells readU1 (fun bit => [bit]) id := consumes_u1.spells

theorem spells_u (n : Nat)
    : Spells (readU n) (fun v => bitsOf n v.toNat) id :=
  ((consumes_u n).mono fun v _ all => by rw [length_bitsOf, all]).spells

theorem spells_u8
    : Spells readU8 (fun v => bitsOf 8 v.toNat) id :=
  (consumes_u8.mono fun v _ all => by rw [length_bitsOf, all]).spells

theorem spells_ue
    : Spells readUe (fun v => expGolomb v.val) id := consumes_ue.spells

theorem spells_se
    : Spells readSe (fun v => expGolomb (ofSe v).val) id := consumes_se.spells

-----------------------------------------------------------------------------------------
-- The usability information
-----------------------------------------------------------------------------------------

theorem SampleAspect.spells
    : Spells SampleAspect.read SampleAspect.bits id :=
  (spells_u 16).bind fun width _ => (spells_u 16).bind fun height _ =>
    Consumes.pure ⟨by simp [SampleAspect.bits], rfl⟩

theorem AspectRatio.spells
    : Spells AspectRatio.read AspectRatio.bits AspectRatio.seen :=
  spells_u8.bind fun idc _ => (SampleAspect.spells.readIf _ _).bind fun sar sarSeen =>
    Consumes.pure ⟨by simp [AspectRatio.bits], congrArg (AspectRatio.mk idc) sarSeen⟩

theorem ColourDescription.spells
    : Spells ColourDescription.read ColourDescription.bits id :=
  spells_u8.bind fun primaries _ => spells_u8.bind fun transfer _ => spells_u8.bind fun matrix _ =>
    Consumes.pure ⟨by simp [ColourDescription.bits], rfl⟩

theorem VideoSignalType.spells
    : Spells VideoSignalType.read VideoSignalType.bits VideoSignalType.seen :=
  (spells_u 3).bind fun format _ => spells_u1.bind fun full _ => spells_u1.bind fun present _ =>
    (ColourDescription.spells.readIf _ _).bind fun colour colourSeen =>
    Consumes.pure
      ⟨by simp +arith [VideoSignalType.bits],
        congrArg (VideoSignalType.mk format full present) colourSeen⟩

theorem ChromaLocation.spells
    : Spells ChromaLocation.read ChromaLocation.bits id :=
  spells_ue.bind fun top _ => spells_ue.bind fun bottom _ =>
    Consumes.pure ⟨by simp [ChromaLocation.bits], rfl⟩

theorem TimingInfo.spells
    : Spells TimingInfo.read TimingInfo.bits id :=
  (spells_u 32).bind fun units _ => (spells_u 32).bind fun scale _ => spells_u1.bind fun fixed _ =>
    Consumes.pure ⟨by simp [TimingInfo.bits], rfl⟩

theorem CodedBuffer.spells
    : Spells CodedBuffer.read CodedBuffer.bits id :=
  spells_ue.bind fun rate _ => spells_ue.bind fun size _ => spells_u1.bind fun constant _ =>
    Consumes.pure ⟨by simp [CodedBuffer.bits], rfl⟩

theorem Hrd.spells
    : Spells Hrd.read Hrd.bits id := by
  refine spells_ue.bind fun last _ => (spells_u 4).bind fun rate _ => (spells_u 4).bind fun size _ =>
    Consumes.bind (CodedBuffer.spells.readMany (last.val + 1)) fun buffers count counted => ?_
  by_cases fits : 1 ≤ buffers.length ∧ buffers.length ≤ 32
  · simp only [fits, and_self, dif_pos]
    refine (spells_u 5).bind fun initial _ => (spells_u 5).bind fun removal _ =>
      (spells_u 5).bind fun delay _ => (spells_u 5).bind fun offset _ => Consumes.pure ⟨?_, rfl⟩
    have lastEq : Hrd.cpbCntMinus1 {
        bitRateScale := rate, cpbSizeScale := size, buffers, fits,
        initialCpbRemovalDelayLengthMinus1 := initial, cpbRemovalDelayLengthMinus1 := removal,
        dpbOutputDelayLengthMinus1 := delay, timeOffsetLength := offset } = last := by
      apply Fin.ext
      simp only [Hrd.cpbCntMinus1, counted.2]
      omega
    simp +arith [Hrd.bits, lastEq, counted.1]
  · simp only [fits, dif_neg, not_false_eq_true]
    exact consumes_undefined _

theorem BitstreamRestriction.spells
    : Spells BitstreamRestriction.read BitstreamRestriction.bits id :=
  spells_u1.bind fun motion _ => spells_ue.bind fun bytes _ => spells_ue.bind fun bits _ =>
    spells_ue.bind fun horizontal _ => spells_ue.bind fun vertical _ =>
    spells_ue.bind fun reorder _ => spells_ue.bind fun buffering _ =>
    Consumes.pure ⟨by simp +arith [BitstreamRestriction.bits], rfl⟩

/-- Both HRDs are present, and the second was read over the first. -/
def Vui.BothHrds (vui : Vui) : Prop :=
  vui.nalHrdParametersPresentFlag = true ∧ vui.vclHrdParametersPresentFlag = true

instance (vui : Vui) : Decidable vui.BothHrds := inferInstanceAs (Decidable (_ ∧ _))

/-- The bits of the HRD that is kept are those of the one that is present. -/
theorem length_hrd_bits {nal vcl : Bool} {nalHrd hrd : Hrd} (single : ¬(nal = true ∧ vcl = true))
    (kept : (if vcl then hrd else nalHrd) = hrd)
    : (bitsIf nal nalHrd.bits).length = (bitsIf nal hrd.bits).length := by
  cases vcl with
  | false => rw [if_neg (by simp)] at kept; rw [kept]
  | true =>
      have absent : nal = false := by simpa using single
      rw [absent]
      rfl

theorem Vui.spells
    : Consumes Vui.read fun vui count =>
        (¬vui.BothHrds → count = vui.bits.length) ∧ vui.seen = vui := by
  refine spells_u1.bind fun aspectPresent _ =>
    (AspectRatio.spells.readIf _ _).bind fun aspect aspectSeen =>
    spells_u1.bind fun overscanPresent _ =>
    (spells_u1.readIf _ _).bind fun overscan overscanSeen =>
    spells_u1.bind fun signalPresent _ =>
    (VideoSignalType.spells.readIf _ _).bind fun signal signalSeen =>
    spells_u1.bind fun locationPresent _ =>
    (ChromaLocation.spells.readIf _ _).bind fun location locationSeen =>
    spells_u1.bind fun timingPresent _ =>
    (TimingInfo.spells.readIf _ _).bind fun timing timingSeen =>
    spells_u1.bind fun nal _ =>
    (Hrd.spells.readIf _ _).bind fun nalHrd nalSeen =>
    spells_u1.bind fun vcl _ =>
    (Hrd.spells.readIf _ _).bind fun hrd hrdSeen =>
    (spells_u1.readIf _ _).bind fun delay delaySeen =>
    spells_u1.bind fun picStruct _ =>
    spells_u1.bind fun restricted _ =>
    (BitstreamRestriction.spells.readIf _ _).bind fun restriction restrictionSeen =>
    Consumes.pure ⟨fun single => ?_, ?_⟩
  · have last : (if vcl then hrd else nalHrd) = hrd := hrdSeen
    have kept := length_hrd_bits single last
    simp only [Vui.bits, List.flatten_cons, List.flatten_nil, List.length_append, List.length_nil,
      kept]
  · have hrdKept : (if vcl then hrd else if nal then hrd else {}) = hrd := by
      cases vcl with
      | true => rfl
      | false =>
          have same : nalHrd = hrd := hrdSeen
          rw [same] at nalSeen
          exact nalSeen
    simp only [id] at overscanSeen locationSeen timingSeen delaySeen restrictionSeen
    simp only [Vui.seen, aspectSeen, overscanSeen, signalSeen, locationSeen, timingSeen, hrdKept,
      delaySeen, restrictionSeen]

theorem Vui.spellsIf (present : Bool)
    : Consumes (readIf present {} Vui.read) fun vui count =>
        (¬vui.BothHrds → count = (bitsIf present vui.bits).length)
        ∧ (if present then vui.seen else {}) = vui := by
  cases present with
  | false => exact Consumes.pure ⟨fun _ => rfl, rfl⟩
  | true => exact Vui.spells

-----------------------------------------------------------------------------------------
-- The parameter set
-----------------------------------------------------------------------------------------

theorem spells_scalingLists (left : Nat)
    : Spells (readScalingLists left) (fun _ => List.replicate left false) id := by
  induction left with
  | zero => exact Consumes.pure ⟨rfl, rfl⟩
  | succ left ih =>
      refine spells_u1.bind fun present _ => ?_
      cases present with
      | true => exact consumes_undefined _
      | false =>
          refine Consumes.mono ih fun _ count spelled => ⟨?_, rfl⟩
          rw [spelled.1, List.replicate_succ, List.length_cons, List.length_cons, List.length_nil,
            Nat.add_comm]

theorem ChromaFormat.spells
    : Spells ChromaFormat.read ChromaFormat.bits ChromaFormat.seen := by
  refine spells_ue.bind fun format _ => (spells_u1.readIf _ _).bind fun residual residualSeen =>
    spells_ue.bind fun luma _ => spells_ue.bind fun chroma _ => spells_u1.bind fun bypass _ =>
    spells_u1.bind fun matrix _ => ((spells_scalingLists 8).readIf _ _).bind fun _ _ =>
    Consumes.pure ⟨?_, ?_⟩
  · simp only [ChromaFormat.bits, List.flatten_cons, List.flatten_nil, List.length_append,
      List.length_nil]
  · simp only [id] at residualSeen
    simp only [ChromaFormat.seen, residualSeen]

theorem OrderCountCycle.spells
    : Spells OrderCountCycle.read OrderCountCycle.bits id := by
  refine spells_u1.bind fun always _ => spells_se.bind fun nonRef _ => spells_se.bind fun field _ =>
    spells_ue.bind fun frames _ =>
    Consumes.bind (spells_se.readMany frames.val) fun offsets count counted => ?_
  by_cases fits : offsets.length ≤ 256
  · simp only [fits, dif_pos]
    refine Consumes.pure ⟨?_, rfl⟩
    have framesEq : OrderCountCycle.numRefFrames {
        deltaPicOrderAlwaysZeroFlag := always, offsetForNonRefPic := nonRef,
        offsetForTopToBottomField := field, offsetForRefFrame := offsets, fits } = frames :=
      Fin.ext counted.2
    simp only [OrderCountCycle.bits, framesEq, counted.1, List.flatten_cons, List.flatten_nil,
      List.length_append, List.length_nil]
  · simp only [fits, dif_neg, not_false_eq_true]
    exact consumes_undefined _

theorem FrameCropping.spells
    : Spells FrameCropping.read FrameCropping.bits id :=
  spells_ue.bind fun left _ => spells_ue.bind fun right _ => spells_ue.bind fun top _ =>
    spells_ue.bind fun bottom _ => Consumes.pure ⟨by simp [FrameCropping.bits], rfl⟩

theorem Sps.spells
    : Consumes Sps.read fun sps count =>
        (¬sps.vui.BothHrds → count = sps.bits.length) ∧ sps.seen = sps := by
  refine spells_u8.bind fun profile _ => spells_u1.bind fun set0 _ => spells_u1.bind fun set1 _ =>
    spells_u1.bind fun set2 _ => spells_u1.bind fun set3 _ => spells_u1.bind fun set4 _ =>
    spells_u1.bind fun set5 _ => (consumes_skipU 2).bind fun _ reserved skipped =>
    spells_u8.bind fun level _ => spells_ue.bind fun setId _ =>
    (ChromaFormat.spells.readIf _ _).bind fun chroma chromaSeen =>
    spells_ue.bind fun frameNum _ => spells_ue.bind fun orderType _ =>
    (spells_ue.readIf _ _).bind fun orderLsb orderLsbSeen =>
    (OrderCountCycle.spells.readIf _ _).bind fun cycle cycleSeen =>
    spells_ue.bind fun refFrames _ => spells_u1.bind fun gaps _ => spells_ue.bind fun width _ =>
    spells_ue.bind fun height _ => spells_u1.bind fun mbsOnly _ =>
    (spells_u1.readIf _ _).bind fun adaptive adaptiveSeen => spells_u1.bind fun inference _ =>
    spells_u1.bind fun cropped _ => (FrameCropping.spells.readIf _ _).bind fun cropping croppingSeen =>
    spells_u1.bind fun present _ => ?_
  refine (Vui.spellsIf present).bind fun vui count spelled => Consumes.pure ⟨fun single => ?_, ?_⟩
  · simp only [Sps.bits, skipped, spelled.1 single, List.flatten_cons, List.flatten_nil,
      List.length_append, List.length_nil]
    rfl
  · simp only [id] at orderLsbSeen cycleSeen adaptiveSeen croppingSeen
    simp only [Sps.seen, chromaSeen, orderLsbSeen, cycleSeen, adaptiveSeen, croppingSeen,
      spelled.2]

-----------------------------------------------------------------------------------------
-- A unit that was read
-----------------------------------------------------------------------------------------

/-- What `read_nal_unit` has read where it reports a parameter set. -/
structure ParameterSetRead (h : H264Stream) (nal : List UInt8) : Prop where
  seen : h.sps.seen = h.sps
  tabled : h.sps.seqParameterSetId.val < 32
  within : ¬h.sps.vui.BothHrds → h.rbspSize ≤ nal.length

theorem consumes_header
    : Consumes readNalHeader fun _ count => count = 8 := by
  refine (consumes_skipU 1).bind fun _ skipped first => (consumes_u 2).bind fun idc _ second =>
    (consumes_u 5).bind fun unitType _ third => Consumes.pure ?_
  omega

/-- A parameter set ends with the byte behind its last bit. -/
theorem readSeqParameterSet_eq_some {rbsp : List UInt8} {sps : Sps} {b : BitStream}
    (run : readSeqParameterSet (seek rbsp 8) = some (sps, b))
    : sps.seen = sps
      ∧ sps.seqParameterSetId.val < 32
      ∧ (¬sps.vui.BothHrds → b = seek rbsp (8 * ((8 + sps.bits.length) / 8 + 1))) := by
  obtain ⟨record, between, syntaxRun, rest⟩ := bind_eq_some.mp run
  obtain ⟨count, rfl, length, seen⟩ := Sps.spells rbsp 8 record between syntaxRun
  obtain ⟨⟨⟩, last, trailing, tabled⟩ := bind_eq_some.mp rest
  rw [readTrailingBits_seek, Option.some.injEq, Prod.mk.injEq] at trailing
  obtain ⟨-, rfl⟩ := trailing
  split at tabled
  case isFalse => cases tabled
  case isTrue small =>
    cases tabled
    exact ⟨seen, small, fun single => by rw [length single]⟩

/-- The steps of a reading that reports a parameter set. They leave nothing of the stream before. -/
theorem readNalUnit_parameterSet {others : OtherUnits} {before h : H264Stream} {nal : List UInt8}
    {used : Nat} (read : readNalUnit others before nal = some (h, some used))
    (parameterSet : h.nalUnitType = spsUnit)
    : ∃ rbsp b,
        nalToRbsp nal.length 0 nal = some (rbsp, used)
        ∧ readNalHeader (seek rbsp 0) = some ((h.nalRefIdc, spsUnit), seek rbsp 8)
        ∧ readSeqParameterSet (seek rbsp 8) = some (h.sps, b)
        ∧ b.overrun = false := by
  rw [readNalUnit] at read
  cases unstuffed : nalToRbsp nal.length 0 nal with
  | none => simp [unstuffed] at read
  | some result =>
      obtain ⟨rbsp, nalSize⟩ := result
      simp only [unstuffed] at read
      obtain ⟨⟨⟨idc, unitType⟩, b⟩, header, rest⟩ := Option.bind_eq_some_iff.mp read
      obtain ⟨count, rfl, rfl⟩ := consumes_header rbsp 0 _ b header
      obtain ⟨⟨after, left⟩, payload, answer⟩ := Option.bind_eq_some_iff.mp rest
      simp only [Option.some.injEq, Prod.mk.injEq] at answer
      obtain ⟨rfl, answer⟩ := answer
      rw [readNalPayload] at payload
      split at payload
      case isFalse other =>
        obtain ⟨_, _, same⟩ := Option.map_eq_some_iff.mp payload
        cases same
        exact absurd parameterSet other
      case isTrue sps =>
        obtain ⟨⟨record, last⟩, run, same⟩ := Option.map_eq_some_iff.mp payload
        cases same
        cases sps
        cases inside : last.overrun with
        | true => simp [readAnswer, inside] at answer
        | false =>
            simp only [readAnswer, inside, Bool.false_eq_true, if_false, Option.some.injEq] at answer
            exact ⟨rbsp, last, by rw [answer], header, run, inside⟩

/-- A parameter set that was read without an overrun lies inside its unit. -/
theorem parameterSetRead {others : OtherUnits} {before h : H264Stream} {nal : List UInt8}
    {used : Nat} (read : readNalUnit others before nal = some (h, some used))
    (parameterSet : h.nalUnitType = spsUnit)
    : ParameterSetRead h nal := by
  obtain ⟨rbsp, b, unstuffed, -, payload, inside⟩ := readNalUnit_parameterSet read parameterSet
  obtain ⟨seen, tabled, ended⟩ := readSeqParameterSet_eq_some payload
  refine ⟨seen, tabled, fun single => ?_⟩
  rw [ended single, BitStream.overrun, decide_eq_false_iff_not] at inside
  simp only [seek, Nat.mul_div_cancel_left _ (by decide : 0 < 8)] at inside
  exact Nat.le_trans (Nat.not_lt.mp inside) (length_le_of_nalToRbsp unstuffed)

end VitaMoonlight.H264
