import VitaMoonlight.Library.Machine
import Mathlib.Data.List.Basic

/-! The audio renderer (`vita_audio_renderer.c`): Opus frames are decoded one behind the other into
a buffer that is played when it is full, over one decoder and one audio port.
-/

namespace VitaMoonlight

open Library

/-- `FRAME_SIZE`. -/
def frameSamples : Nat := 240

/-- `VITA_SAMPLES`. -/
def vitaSamples : Nat := 960

/-- `BUFFER_SIZE`. -/
def audioBufferSize : Nat := 2 * vitaSamples

/-- `OPUS_MULTISTREAM_CONFIGURATION`, as far as the decoder is created for it. -/
structure OpusConfiguration where
  sampleRate : Int
  channelCount : Nat
  streams : Int
  coupledStreams : Int
  mapping : List UInt8

/-- A decoder, with what it was created for. -/
structure OpusDecoder where
  handle : Nat
  config : OpusConfiguration

/-- What `opus_multistream_decode` stores, as far as it touches the buffer, and what it answers. -/
structure OpusAnswer where
  samples : List Int16
  decoded : Int

/-- What is documented of `opus_multistream_decode`: it stores no more than the samples of one frame
for each channel of the decoder, and all of them when it answers a whole frame.
-/
structure OpusDecoder.Answers (decoder : OpusDecoder) (answer : OpusAnswer) : Prop where
  bounded : answer.samples.length ≤ decoder.config.channelCount * frameSamples
  whole
    : answer.decoded = frameSamples
      → answer.samples.length = decoder.config.channelCount * frameSamples

/-- The static variables of the renderer. A port that is negative is none. -/
structure AudioRenderer where
  decodeOffset : Nat := 0
  port : Option Nat := none
  active : Bool := false
  decoder : Option OpusDecoder := none
  buffer : List Int16 := List.replicate audioBufferSize 0
  statsGeneration : Nat := 0

/-- The calls of the renderer, and where it drops the frames that it has not played. -/
inductive AudioLabel
  | decoderCreated (decoder : OpusDecoder)
  | decoderDestroyed (decoder : OpusDecoder)
  | portOpened (port : Nat)
  | portDrained (port : Nat)
  | portReleased (port : Nat) (released : Bool)
  | restarted
  | decoded (decoder : OpusDecoder) (place : Nat) (answer : OpusAnswer)
  | output (port : Nat) (samples : List Int16)
  | statsDecode (generation : Nat) (failed : Bool)
  | statsOutput (generation : Nat) (failed : Bool)

namespace AudioRenderer

variable (audio : AudioRenderer)

/-- The port part of `vita_audio_cleanup`: a port that could not be released is kept. -/
def releasePort (released : Bool) : AudioRenderer × List AudioLabel :=
  match audio.port with
  | none => (audio, [])
  | some port =>
      (if released then { audio with port := none } else audio,
        [.portDrained port, .portReleased port released])

/-- The decoder part of `vita_audio_cleanup`. -/
def destroyDecoder : AudioRenderer × List AudioLabel :=
  match audio.decoder with
  | none => (audio, [])
  | some decoder => ({ audio with decoder := none }, [.decoderDestroyed decoder])

/-- `vita_audio_cleanup`. -/
def cleanup (released : Bool) : AudioRenderer × List AudioLabel :=
  let audio := { audio with active := false, decodeOffset := 0, statsGeneration := 0 }
  let (audio, first) := audio.destroyDecoder
  let (audio, second) := audio.releasePort released
  (audio, .restarted :: first ++ second)

/-- What the calls of `vita_audio_init` answer. -/
structure InitAnswers where
  released : Bool
  decoder : Option Nat
  port : Option Nat
  statsGeneration : Nat

/-- The answers of `vita_audio_init`. -/
inductive InitResult
  | ok
  | badOpus
  | noPort

/-- `vita_audio_init` behind the creation of the decoder. -/
def openPort (answers : InitAnswers) : AudioRenderer × InitResult × List AudioLabel :=
  match answers.port with
  | none =>
      let (audio, labels) := { audio with port := none }.cleanup answers.released
      (audio, .noPort, labels)
  | some port =>
      ({ audio with port := some port, statsGeneration := answers.statsGeneration }, .ok,
        [.portOpened port])

/-- `vita_audio_init` behind the removal of what an earlier session has left. -/
def createDecoder (config : OpusConfiguration) (answers : InitAnswers)
    : AudioRenderer × InitResult × List AudioLabel :=
  match answers.decoder with
  | none => ({ audio with decoder := none }, .badOpus, [])
  | some handle =>
      let decoder : OpusDecoder := { handle, config }
      let (audio, result, labels) := { audio with decoder := some decoder }.openPort answers
      (audio, result, .decoderCreated decoder :: labels)

/-- `vita_audio_init`, which takes the channels of the configuration as they come. -/
def init (config : Option OpusConfiguration) (answers : InitAnswers)
    : AudioRenderer × InitResult × List AudioLabel :=
  match config with
  | none => (audio, .badOpus, [])
  | some config =>
      let audio := { audio with decodeOffset := 0, active := false }
      let (audio, first) :=
        if audio.decoder.isSome || audio.port.isSome then audio.cleanup answers.released
        else (audio, [])
      let (audio, result, second) := audio.createDecoder config answers
      (audio, result, .restarted :: first ++ second)

/-- `vita_audio_start`. -/
def start : AudioRenderer × List AudioLabel :=
  ({ audio with active := true, decodeOffset := 0 }, [.restarted])

/-- `vita_audio_stop`. -/
def stop : AudioRenderer := { audio with active := false }

/-- A call of the statistics, which is only made for a session that has them. -/
def counted (label : AudioLabel) : List AudioLabel :=
  if audio.statsGeneration = 0 then [] else [label]

/-- The end of `vita_audio_decode_and_play_sample`: a full buffer is played. -/
def play (port : Nat) (failed : Bool) : AudioRenderer × List AudioLabel :=
  if audio.decodeOffset = vitaSamples then
    ({ audio with decodeOffset := 0 },
      .output port audio.buffer :: audio.counted (.statsOutput audio.statsGeneration failed))
  else (audio, [])

/-- The store of `opus_multistream_decode` behind the frames that wait. -/
def store (samples : List Int16) : AudioRenderer :=
  let place := 2 * audio.decodeOffset
  { audio with
    buffer :=
      audio.buffer.take place ++ samples ++ audio.buffer.drop (place + samples.length) }

/-- `vita_audio_decode_and_play_sample` for data that is there. A frame of another size is left in
the buffer for the next one to overwrite.
-/
def decodeAndPlay (decoder : OpusDecoder) (port : Nat) (answer : OpusAnswer) (failed : Bool)
    : AudioRenderer × List AudioLabel :=
  let first :=
    .decoded decoder (2 * audio.decodeOffset) answer
      :: audio.counted (.statsDecode audio.statsGeneration (answer.decoded != frameSamples))
  let audio := audio.store answer.samples
  if answer.decoded = frameSamples then
    let (audio, second) :=
      { audio with decodeOffset := audio.decodeOffset + frameSamples }.play port failed
    (audio, first ++ second)
  else (audio, first)

/-- `vita_audio_decode_and_play_sample`. -/
def sample (given : Bool) (answer : OpusAnswer) (failed : Bool) : AudioRenderer × List AudioLabel :=
  match given && audio.active, audio.decoder, audio.port with
  | true, some decoder, some port => audio.decodeAndPlay decoder port answer failed
  | _, _, _ => (audio, [])

end AudioRenderer

/-- The callbacks, with what the calls under them answer. -/
inductive AudioCallback
  | init (config : Option OpusConfiguration) (answers : AudioRenderer.InitAnswers)
  | start
  | stop
  | cleanup (released : Bool)
  | sample (given : Bool) (answer : OpusAnswer) (failed : Bool)

def AudioRenderer.call (audio : AudioRenderer) : AudioCallback → AudioRenderer × List AudioLabel
  | .init config answers =>
      let (audio, _, labels) := audio.init config answers
      (audio, labels)
  | .start => audio.start
  | .stop => (audio.stop, [])
  | .cleanup released => audio.cleanup released
  | .sample given answer failed => audio.sample given answer failed

/-- What is taken of those who call and are called. Every session asks for stereo
(`AUDIO_CONFIGURATION_STEREO`), so that its streams have two channels, which `vita_audio_init` does
not check; and the decoder answers as documented.
-/
def AudioRenderer.InStereo (audio : AudioRenderer) : AudioCallback → Prop
  | .init config _ => ∀ given ∈ config, given.channelCount = 2
  | .sample _ answer _ => ∀ decoder ∈ audio.decoder, decoder.Answers answer
  | .start | .stop | .cleanup _ => True

/-- The renderer under any order of callbacks. -/
def audioMachine : Machine AudioRenderer AudioCallback AudioLabel where
  initial audio := audio = {}
  step audio callback := some (audio.call callback)

end VitaMoonlight
