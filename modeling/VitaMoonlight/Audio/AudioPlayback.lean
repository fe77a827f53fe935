import VitaMoonlight.Audio.AudioRenderer
import VitaMoonlight.Library.KeptCalls

/-! What the audio renderer plays and holds over whole runs, read off its calls: each buffer that is
played is four whole frames in the order of their decoding, every store stays inside the buffer, and
a port is only opened over another one that could not be released.
-/

namespace VitaMoonlight

open Library

/-- What the calls before tell: the decoder and the ports that are there, the ports whose release
has failed, and the whole frames that were decoded since the last playing or restart.
-/
structure AudioHistory where
  decoder : Option OpusDecoder := none
  ports : List Nat := []
  failed : List Nat := []
  frames : List (List Int16) := []

namespace AudioHistory

def observe (past : AudioHistory) : AudioLabel → AudioHistory
  | .decoderCreated decoder => { past with decoder := some decoder }
  | .decoderDestroyed _ => { past with decoder := none }
  | .portOpened port => { past with ports := port :: past.ports }
  | .portDrained _ => past
  | .portReleased port true =>
      { past with ports := past.ports.filter (· ≠ port), failed := past.failed.filter (· ≠ port) }
  | .portReleased port false => { past with failed := port :: past.failed }
  | .restarted => { past with frames := [] }
  | .decoded _ _ answer =>
      if answer.decoded = frameSamples then { past with frames := past.frames ++ [answer.samples] }
      else past
  | .output _ _ => { past with frames := [] }
  | .statsDecode _ _ => past
  | .statsOutput _ _ => past

/-- The renderer
* has one decoder at a time, and a second port only where the first could not be released;
* drains and releases only ports that are open;
* decodes behind the frames that wait, inside the buffer, before four of them wait;
* plays four whole frames at once, in their order.
-/
def Permits (past : AudioHistory) : AudioLabel → Prop
  | .decoderCreated _ => past.decoder = none
  | .decoderDestroyed decoder => past.decoder = some decoder
  | .portOpened _ => ∀ port ∈ past.ports, port ∈ past.failed
  | .portDrained port => port ∈ past.ports
  | .portReleased port _ => port ∈ past.ports
  | .restarted => True
  | .decoded decoder place answer =>
      past.decoder = some decoder
      ∧ past.frames.length < 4
      ∧ place = past.frames.flatten.length
      ∧ place + answer.samples.length ≤ audioBufferSize
  | .output port samples =>
      port ∈ past.ports ∧ past.frames.length = 4 ∧ samples = past.frames.flatten
  | .statsDecode generation _ => generation ≠ 0
  | .statsOutput generation _ => generation ≠ 0

end AudioHistory

/-- What the renderer holds: its decoder and its port are there, any other port is one that could
not be released, the decoder is one of stereo, and the buffer begins with the frames that wait.
-/
structure AudioHeld (past : AudioHistory) (audio : AudioRenderer) : Prop where
  decoder : past.decoder = audio.decoder
  stereo : ∀ decoder ∈ audio.decoder, decoder.config.channelCount = 2
  port : ∀ port, audio.port = some port → port ∈ past.ports
  lost : ∀ port ∈ past.ports, audio.port = some port ∨ port ∈ past.failed
  whole : ∀ frame ∈ past.frames, frame.length = 2 * frameSamples
  offset : audio.decodeOffset = frameSamples * past.frames.length
  size : audio.buffer.length = audioBufferSize
  waiting : audio.buffer.take (2 * audio.decodeOffset) = past.frames.flatten

/-- What the renderer keeps from call to call: there is room for another frame. -/
structure AudioKept (past : AudioHistory) (audio : AudioRenderer) : Prop
    extends AudioHeld past audio where
  few : past.frames.length < 4

/-- A call that keeps the renderer. -/
abbrev AudioCallKept (past : AudioHistory) (outcome : AudioRenderer × List AudioLabel) : Prop :=
  CallKept AudioHistory.observe AudioHistory.Permits AudioKept past outcome

namespace AudioKept

variable {past : AudioHistory} {audio : AudioRenderer}

/-- Frames of one size are as long as there are frames. -/
theorem length_flatten (kept : AudioKept past audio)
    : past.frames.flatten.length = 2 * audio.decodeOffset := by
  have lengths {frames : List (List Int16)}
      (whole : ∀ frame ∈ frames, frame.length = 2 * frameSamples)
      : frames.flatten.length = 2 * (frameSamples * frames.length) := by
    induction frames with
    | nil => rfl
    | cons frame frames ih =>
        rw [List.forall_mem_cons] at whole
        rw [List.flatten_cons, List.length_append, whole.1, ih whole.2, List.length_cons,
          Nat.mul_add]
        omega
  rw [lengths kept.whole, kept.offset]

/-- Dropping the frames that wait. -/
theorem restarted (kept : AudioKept past audio) (active : Bool) (generation : Nat)
    : AudioKept (past.observe .restarted)
        { audio with active, decodeOffset := 0, statsGeneration := generation } where
  decoder := kept.decoder
  stereo := kept.stereo
  port := kept.port
  lost := kept.lost
  whole := fun _ member => by cases member
  few := Nat.zero_lt_succ 3
  offset := rfl
  size := kept.size
  waiting := rfl

theorem destroyDecoder (kept : AudioKept past audio)
    : AudioCallKept past audio.destroyDecoder := by
  rw [AudioRenderer.destroyDecoder]
  cases held : audio.decoder with
  | none => exact ⟨trivial, kept⟩
  | some decoder =>
      refine ⟨⟨kept.decoder.trans held, trivial⟩, ?_⟩
      exact { kept with decoder := rfl, stereo := fun _ none => (by cases none) }

theorem releasePort (kept : AudioKept past audio) (released : Bool)
    : AudioCallKept past (audio.releasePort released) := by
  rw [AudioRenderer.releasePort]
  cases held : audio.port with
  | none => exact ⟨trivial, kept⟩
  | some port =>
      have isOpen := kept.port port held
      refine ⟨⟨isOpen, isOpen, trivial⟩, ?_⟩
      cases released with
      | false =>
          refine { kept with lost := fun other member => ?_ }
          exact (kept.lost other member).imp id (List.mem_cons_of_mem port)
      | true =>
          refine { kept with port := fun _ none => (by cases none), lost := fun other member => ?_ }
          obtain ⟨isOpen, apart⟩ := List.mem_filter.mp member
          obtain same | failed := kept.lost other isOpen
          · rw [held, Option.some.injEq] at same
            exact absurd same.symm (by simpa using apart)
          · exact .inr (List.mem_filter.mpr ⟨failed, apart⟩)

theorem cleanup (kept : AudioKept past audio) (released : Bool)
    : AudioCallKept past (audio.cleanup released) := by
  have first := (kept.restarted false 0).destroyDecoder
  exact .precede trivial (first.append (first.kept.releasePort released))

/-- Giving back the port leaves none but those that could not be released. -/
theorem releasePort_ports (kept : AudioKept past audio) (released : Bool)
    : let past := (audio.releasePort released).2.foldl AudioHistory.observe past
      ∀ port ∈ past.ports, port ∈ past.failed := by
  intro after port member
  obtain held | failed := (kept.releasePort released).kept.lost port member
  · revert after
    rw [AudioRenderer.releasePort] at held ⊢
    cases had : audio.port with
    | none => simp [had] at held
    | some port =>
        -- The port that is kept is the one whose release has just failed.
        cases released <;> simp_all [AudioHistory.observe]
  · exact failed

end AudioKept

-----------------------------------------------------------------------------------------
-- Starting a session
-----------------------------------------------------------------------------------------

/-- Nothing is there that a new session has to keep: no decoder, and no port but those that could
not be released.
-/
structure AudioSettled (past : AudioHistory) (audio : AudioRenderer) : Prop where
  kept : AudioKept past audio
  decoder : audio.decoder = none
  ports : ∀ port ∈ past.ports, port ∈ past.failed

namespace AudioKept

variable {past : AudioHistory} {audio : AudioRenderer}

/-- A cleanup settles the renderer. -/
theorem cleanup_settled (kept : AudioKept past audio) (released : Bool)
    : AudioSettled ((audio.cleanup released).2.foldl AudioHistory.observe past)
        (audio.cleanup released).1 where
  kept := (kept.cleanup released).kept
  decoder := by
    rw [AudioRenderer.cleanup, AudioRenderer.destroyDecoder]
    cases audio.decoder <;> cases audio.port <;> cases released <;>
      simp [AudioRenderer.releasePort]
  ports := by
    have first := (kept.restarted false 0).destroyDecoder
    have ports := first.kept.releasePort_ports released
    rw [← List.foldl_append] at ports
    exact ports

/-- Opening the port behind the decoder. -/
theorem openPort (kept : AudioKept past audio) (ports : ∀ port ∈ past.ports, port ∈ past.failed)
    (answers : AudioRenderer.InitAnswers)
    : AudioCallKept past ((audio.openPort answers).1, (audio.openPort answers).2.2) := by
  rw [AudioRenderer.openPort]
  cases answers.port with
  | none =>
      have portless : AudioKept past { audio with port := none } :=
        {
          kept with
          port := fun _ none => (by cases none)
          lost := fun port member => .inr (ports port member)
        }
      exact portless.cleanup answers.released
  | some port =>
      refine ⟨⟨ports, trivial⟩, ?_⟩
      exact
        {
          kept with
          port := fun other same => by
            cases same
            exact List.mem_cons_self
          lost := fun other member =>
            (List.mem_cons.mp member).imp (fun same => congrArg some same.symm) (ports other)
        }

/-- Creating the decoder over a settled renderer. -/
theorem createDecoder (settled : AudioSettled past audio) {config : OpusConfiguration}
    (stereo : config.channelCount = 2) (answers : AudioRenderer.InitAnswers)
    : AudioCallKept past
        ((audio.createDecoder config answers).1, (audio.createDecoder config answers).2.2) := by
  rw [AudioRenderer.createDecoder]
  have absent := settled.kept.decoder.trans settled.decoder
  cases answers.decoder with
  | none =>
      exact
        ⟨trivial,
          { settled.kept with decoder := absent, stereo := fun _ none => (by cases none) }⟩
  | some handle =>
      have created
          : AudioKept (past.observe (.decoderCreated { handle, config }))
              { audio with decoder := some { handle, config } } :=
        {
          settled.kept with
          decoder := rfl
          stereo := fun decoder held => by
            cases held
            exact stereo
        }
      exact .precede absent (created.openPort settled.ports answers)

theorem init (kept : AudioKept past audio) {config : Option OpusConfiguration}
    (stereo : ∀ given ∈ config, given.channelCount = 2) (answers : AudioRenderer.InitAnswers)
    : AudioCallKept past ((audio.init config answers).1, (audio.init config answers).2.2) := by
  cases config with
  | none => exact ⟨trivial, kept⟩
  | some config =>
      rw [AudioRenderer.init]
      have stereo := stereo config rfl
      have fresh := kept.restarted false audio.statsGeneration
      dsimp only
      split
      · have first := fresh.cleanup answers.released
        exact .precede trivial (first.append (createDecoder (fresh.cleanup_settled _) stereo answers))
      · rename_i absent
        rw [Bool.or_eq_true, Option.isSome_iff_ne_none, Option.isSome_iff_ne_none, not_or, not_not,
          not_not] at absent
        have settled
            : AudioSettled (past.observe .restarted)
                { audio with active := false, decodeOffset := 0 } :=
          ⟨fresh, absent.1, fun port member =>
            (fresh.lost port member).resolve_left fun same => by cases absent.2.symm.trans same⟩
        exact .precede trivial (createDecoder settled stereo answers)

-----------------------------------------------------------------------------------------
-- Playing
-----------------------------------------------------------------------------------------

end AudioKept

/-- A call of the statistics changes nothing here. -/
theorem AudioKept.counted {past : AudioHistory} {audio after : AudioRenderer}
    {label : AudioLabel} {labels : List AudioLabel}
    (permitted : audio.statsGeneration ≠ 0 → past.Permits label) (same : past.observe label = past)
    (rest : AudioCallKept past (after, labels))
    : AudioCallKept past (after, audio.counted label ++ labels) := by
  rw [AudioRenderer.counted]
  split
  · exact rest
  · rename_i present
    exact .precede (permitted present) (same.symm ▸ rest)

/-- Playing the frames if four of them wait. -/
theorem AudioHeld.play {past : AudioHistory} {audio : AudioRenderer} (held : AudioHeld past audio)
    (few : past.frames.length ≤ 4) {port : Nat} (opened : audio.port = some port) (failed : Bool)
    : AudioCallKept past (audio.play port failed) := by
  rw [AudioRenderer.play]
  split
  · rename_i full
    have four : past.frames.length = 4 := by
      have offset := held.offset
      rw [full, frameSamples, vitaSamples] at offset
      omega
    have played : audio.buffer = past.frames.flatten := by
      rw [← held.waiting, full, ← audioBufferSize, ← held.size, List.take_length]
    have emptied
        : AudioKept (past.observe (.output port audio.buffer)) { audio with decodeOffset := 0 } :=
      {
        held with
        whole := fun _ member => by cases member
        offset := rfl
        waiting := rfl
        few := Nat.zero_lt_succ 3
      }
    rw [← List.append_nil (audio.counted _)]
    exact .precede ⟨held.port port opened, four, played⟩ (AudioKept.counted id rfl ⟨trivial, emptied⟩)
  · rename_i partly
    have notFour : past.frames.length ≠ 4 := by
      intro four
      rw [held.offset, four] at partly
      exact partly rfl
    exact ⟨trivial, { held with few := Nat.lt_of_le_of_ne few notFour }⟩

namespace AudioKept

variable {past : AudioHistory} {audio : AudioRenderer}

/-- A frame that is stored behind those that wait fits, and leaves them as they are. -/
theorem store (kept : AudioKept past audio) {answer : OpusAnswer}
    (bounded : answer.samples.length ≤ 2 * frameSamples)
    : 2 * audio.decodeOffset + answer.samples.length ≤ audioBufferSize
      ∧ AudioKept past (audio.store answer.samples)
      ∧ (audio.store answer.samples).buffer.take (2 * audio.decodeOffset + answer.samples.length)
        = past.frames.flatten ++ answer.samples := by
  have fits : 2 * audio.decodeOffset + answer.samples.length ≤ audioBufferSize := by
    have few := kept.few
    simp only [kept.offset, audioBufferSize, vitaSamples, frameSamples] at bounded ⊢
    omega
  have front : (audio.buffer.take (2 * audio.decodeOffset)).length = 2 * audio.decodeOffset := by
    rw [List.length_take, kept.size]
    omega
  have back
      : (audio.buffer.take (2 * audio.decodeOffset) ++ answer.samples).length
        = 2 * audio.decodeOffset + answer.samples.length := by
    rw [List.length_append, front]
  refine ⟨fits, { kept with size := ?_, waiting := ?_ }, ?_⟩
  · rw [AudioRenderer.store, List.length_append, back, List.length_drop, kept.size]
    omega
  · rw [← kept.waiting, AudioRenderer.store, List.append_assoc, List.take_left' front]
  · rw [AudioRenderer.store, List.take_left' back, kept.waiting]

theorem decodeAndPlay (kept : AudioKept past audio) {decoder : OpusDecoder} {port : Nat}
    (created : audio.decoder = some decoder) (opened : audio.port = some port)
    {answer : OpusAnswer} (answers : decoder.Answers answer) (failed : Bool)
    : AudioCallKept past (audio.decodeAndPlay decoder port answer failed) := by
  obtain ⟨bounded, wholly⟩ := answers
  rw [kept.stereo decoder created] at bounded wholly
  obtain ⟨fits, stored, longer⟩ := kept.store bounded
  have permitted : past.Permits (.decoded decoder (2 * audio.decodeOffset) answer) :=
    ⟨kept.decoder.trans created, kept.few, kept.length_flatten.symm, fits⟩
  rw [AudioRenderer.decodeAndPlay]
  by_cases whole : answer.decoded = frameSamples
  · have observed
        : past.observe (.decoded decoder (2 * audio.decodeOffset) answer)
          = { past with frames := past.frames ++ [answer.samples] } :=
      if_pos whole
    rw [if_pos whole]
    have held
        : AudioHeld (past.observe (.decoded decoder (2 * audio.decodeOffset) answer))
            { audio.store answer.samples with
              decodeOffset := audio.decodeOffset + frameSamples } := by
      rw [observed]
      refine { stored.toAudioHeld with whole := ?_, offset := ?_, waiting := ?_ }
      · intro frame member
        obtain member | member := List.mem_append.mp member
        · exact kept.whole frame member
        · exact List.mem_singleton.mp member ▸ wholly whole
      · rw [List.length_append, List.length_singleton, Nat.mul_add, ← kept.offset, Nat.mul_one]
      · rw [List.flatten_append, List.flatten_singleton, ← longer, wholly whole, Nat.mul_add]
    have few : (past.observe (.decoded decoder (2 * audio.decodeOffset) answer)).frames.length ≤ 4 := by
      rw [observed, List.length_append, List.length_singleton]
      exact kept.few
    exact .precede permitted (AudioKept.counted id rfl (held.play few opened failed))
  · have observed : past.observe (.decoded decoder (2 * audio.decodeOffset) answer) = past :=
      if_neg whole
    rw [if_neg whole]
    refine .precede permitted ?_
    rw [observed]
    rw [← List.append_nil (audio.counted _)]
    exact AudioKept.counted id rfl ⟨trivial, stored⟩

theorem sample (kept : AudioKept past audio) (given : Bool) {answer : OpusAnswer}
    (answers : ∀ decoder ∈ audio.decoder, decoder.Answers answer) (failed : Bool)
    : AudioCallKept past (audio.sample given answer failed) := by
  rw [AudioRenderer.sample]
  split
  · rename_i created opened
    exact kept.decodeAndPlay created opened (answers _ created) failed
  · exact ⟨trivial, kept⟩

theorem call (kept : AudioKept past audio) {callback : AudioCallback}
    (stereo : audio.InStereo callback)
    : AudioCallKept past (audio.call callback) := by
  cases callback with
  | init config answers => exact kept.init stereo answers
  | start => exact .precede trivial ⟨trivial, kept.restarted true audio.statsGeneration⟩
  | stop => exact ⟨trivial, { kept with }⟩
  | cleanup released => exact kept.cleanup released
  | sample given answer failed => exact kept.sample given stereo failed

end AudioKept

-----------------------------------------------------------------------------------------
-- Runs
-----------------------------------------------------------------------------------------

/-- The history of a trace. -/
def audioHistory (trace : List AudioLabel) : AudioHistory :=
  trace.foldl AudioHistory.observe {}

/-- What holds of the renderer over a run: every call was permitted by the calls before it, and the
renderer keeps what its history tells.
-/
structure AudioInOrder (trace : List AudioLabel) (audio : AudioRenderer) : Prop where
  permitted : Guarded (fun before label => (audioHistory before).Permits label) trace
  kept : AudioKept (audioHistory trace) audio

/-- Nothing has been called yet. -/
theorem audioKept_initial : AudioKept {} {} where
  decoder := rfl
  stereo := fun _ none => by cases none
  port := fun _ opened => by cases opened
  lost := fun _ member => by cases member
  whole := fun _ member => by cases member
  offset := rfl
  size := List.length_replicate
  waiting := rfl
  few := Nat.zero_lt_succ 3

/-- Over every run of the callbacks in stereo, in whatever order they come and whatever is answered to
them, the renderer plays whole frames in fours, stores inside its buffer, and opens nothing over
what it could have given back.
-/
theorem audio_in_order {trace : List AudioLabel} {audio : AudioRenderer}
    (reached : audioMachine.ReachesWhen (fun _ audio callback => audio.InStereo callback) trace audio)
    : AudioInOrder trace audio := by
  obtain ⟨permitted, kept⟩ :=
    reached.keeps
      (fun audio initial => initial.symm ▸ audioKept_initial)
      (fun _ past audio callback outcome kept stereo taken =>
        Option.some.inj taken ▸ kept.call stereo)
  exact ⟨permitted, kept⟩

/-- A whole frame of one sample. -/
def steadyFrame (sample : Int16) : OpusAnswer where
  samples := List.replicate (2 * frameSamples) sample
  decoded := frameSamples

/-- The configuration of a stream in stereo. -/
def stereoConfiguration : OpusConfiguration where
  sampleRate := 48000
  channelCount := 2
  streams := 1
  coupledStreams := 1
  mapping := [0, 1]

/-- A decoder of such a stream. -/
def stereoDecoder : OpusDecoder where
  handle := 1
  config := stereoConfiguration

theorem stereoDecoder_steadyFrame (sample : Int16) : stereoDecoder.Answers (steadyFrame sample) where
  bounded := Nat.le_of_eq List.length_replicate
  whole _ := List.length_replicate

theorem stereoDecoder_failed : stereoDecoder.Answers { samples := [], decoded := -4 } where
  bounded := Nat.zero_le _
  whole same := absurd same (by decide)

set_option maxRecDepth 40000 in
/-- A session that plays three frames at one go with a fourth one behind a decoding that fails, and
whose port cannot be released.
-/
theorem audio_in_order_session
    : ∃ audio,
        AudioInOrder
          [.restarted, .decoderCreated stereoDecoder, .portOpened 3, .restarted,
            .decoded stereoDecoder 0 (steadyFrame 5), .statsDecode 7 false,
            .decoded stereoDecoder 480 (steadyFrame 6), .statsDecode 7 false,
            .decoded stereoDecoder 960 (steadyFrame 7), .statsDecode 7 false,
            .decoded stereoDecoder 1440 ⟨[], -4⟩, .statsDecode 7 true,
            .decoded stereoDecoder 1440 (steadyFrame 8), .statsDecode 7 false,
            .output 3 ([5, 6, 7, 8].flatMap (List.replicate 480)), .statsOutput 7 false,
            .restarted, .decoderDestroyed stereoDecoder, .portDrained 3, .portReleased 3 false]
          audio :=
  let frame sample : AudioCallback := .sample true (steadyFrame sample) false
  have steady sample : ∀ decoder ∈ some stereoDecoder, decoder.Answers (steadyFrame sample) := by
    rintro _ ⟨⟩
    exact stereoDecoder_steadyFrame sample
  have broken : ∀ decoder ∈ some stereoDecoder, decoder.Answers { samples := [], decoded := -4 } := by
    rintro _ ⟨⟩
    exact stereoDecoder_failed
  have asked : ∀ given ∈ some stereoConfiguration, given.channelCount = 2 := by
    rintro _ ⟨⟩
    rfl
  ⟨_,
    audio_in_order
      (audioMachine.reachesWhen_run _ rfl
        [.init (some stereoConfiguration) ⟨true, some 1, some 3, 7⟩, .start, frame 5, frame 6,
          frame 7, .sample true ⟨[], -4⟩ false, frame 8, .cleanup false]
        ⟨asked, trivial, steady 5, steady 6, steady 7, broken, steady 8, trivial, trivial⟩
        rfl)⟩

end VitaMoonlight
