import Mathlib.Data.Rat.Defs
import Mathlib.Logic.Function.Basic
import VitaMoonlight.Library.Generation
import VitaMoonlight.Library.Machine

/-! The stream statistics (`src/moonlight/stream_stats.c`): counters of the running second and of
the second before it, updated under one lock by callbacks that carry a session's generation.
Floating-point results are read as exact rationals.
-/

namespace VitaMoonlight.Stream

open Library

-----------------------------------------------------------------------------------------
-- Records
-----------------------------------------------------------------------------------------

/-- The settings that `moonlight_stats_begin` reads. -/
structure MoonlightSettings where
  width : Int := 0
  height : Int := 0
  fps : Int := 0
  bitrate : Int := 0
  enableFramePacer : Int := 0
  centerRegionOnly : Int := 0
  showFps : Int := 0
  enableVitaVblankWait : Int := 0
deriving DecidableEq

/-- `enum TimingIndex`. -/
inductive TimingIndex
  | reassembly
  | decode
  | prequeue
  | vblank
  | pafQueue
  | pafCpu
  | audioDecode
  | audioOutput
deriving DecidableEq

structure Timing where
  samples : UInt64 := 0
  totalUs : UInt64 := 0
  maximumUs : UInt64 := 0
deriving DecidableEq

structure Bucket where
  received : UInt64 := 0
  decoded : UInt64 := 0
  presented : UInt64 := 0
  queued : UInt64 := 0
  bytes : UInt64 := 0
  missing : UInt64 := 0
  pacerDrops : UInt64 := 0
  replacements : UInt64 := 0
  hostSamples : UInt64 := 0
  hostTotal : UInt64 := 0
  hostMin : UInt32 := 0
  hostMax : UInt32 := 0
  timing : TimingIndex → Timing := fun _ => {}

/-- The fields of `MoonlightStreamStats` that `s_session` keeps; the others are filled in by a
snapshot.
-/
structure MoonlightStreamStats where
  generation : UInt32 := 0
  enabled : Bool := false
  active : Bool := false
  connectionPoor : Int := 0
  width : Int := 0
  height : Int := 0
  videoFormat : Int := 0
  targetFps : Int := 0
  bitrateKbps : Int := 0
  framePacer : Int := 0
  vblankWait : Int := 0
  centerRegion : Int := 0
  outputWidth : UInt32 := 0
  outputHeight : UInt32 := 0
  outputPitch : UInt32 := 0
  hasVideo : Bool := false
  receivedFrames : UInt64 := 0
  missingFrames : UInt64 := 0
  pacerDrops : UInt64 := 0
  pendingReplacements : UInt64 := 0
  decodeErrors : UInt64 := 0
  idrReturns : UInt64 := 0
  idrFrames : UInt64 := 0
  noOutput : UInt64 := 0
  rttValid : Int := 0
  rttMs : UInt32 := 0
  rttVariationMs : UInt32 := 0
  audioSampleRate : Int := 0
  audioChannels : Int := 0
  audioDecodeErrors : UInt64 := 0
  audioOutputErrors : UInt64 := 0

/-- The static variables of the file. -/
structure StreamStats where
  session : MoonlightStreamStats := {}
  current : Bucket := {}
  previous : Bucket := {}
  startUs : UInt64 := 0
  bucketStartUs : UInt64 := 0
  lastVideoUs : UInt64 := 0
  lastFrame : UInt32 := 0
  hasLastFrame : Bool := false

/-- `STATS_BUCKET_US`. -/
def statsBucketUs : UInt64 := 1000000

/-- `advance_window`. -/
def advanceWindow (stats : StreamStats) (now : UInt64) : StreamStats :=
  let steps := (now - stats.bucketStartUs) / statsBucketUs
  if steps = 0 then stats
  else
    { stats with
      previous := if steps = 1 then stats.current else {}
      current := {}
      bucketStartUs := stats.bucketStartUs + steps * statsBucketUs }

/-- `begin_update`; `none` is its refusal. -/
def beginUpdate (stats : StreamStats) (generation : UInt32) (now : UInt64)
    : Option StreamStats :=
  if generation = 0 ∨ generation ≠ stats.session.generation ∨ stats.session.active = false then
    none
  else
    some (advanceWindow stats now)

/-- The frame of every tagged update: what it records, between `begin_update` and the unlock. -/
def taggedUpdate (stats : StreamStats) (generation : UInt32) (now : UInt64)
    (record : StreamStats → StreamStats) : StreamStats :=
  match beginUpdate stats generation now with
  | none => stats
  | some stats => record stats

def Timing.note (timing : Timing) (us : UInt64) : Timing where
  samples := timing.samples + 1
  totalUs := timing.totalUs + us
  maximumUs := if timing.maximumUs < us then us else timing.maximumUs

/-- `note_timing`. -/
def noteTiming (stats : StreamStats) (index : TimingIndex) (us : UInt64) : StreamStats :=
  { stats with
    current :=
      { stats.current with
        timing :=
          Function.update stats.current.timing index ((stats.current.timing index).note us) } }

/-- `moonlight_stats_begin`, with the clock it read before it took the lock. -/
def moonlightStatsBegin (stats : StreamStats) (settings : MoonlightSettings) (now : UInt64)
    : StreamStats × UInt32 :=
  let generation := nextGeneration stats.session.generation
  ({ session :=
      { generation := generation
        enabled := settings.showFps ≠ 0
        active := true
        width := settings.width
        height := settings.height
        targetFps := settings.fps
        bitrateKbps := settings.bitrate
        framePacer := settings.enableFramePacer
        vblankWait := settings.enableVitaVblankWait
        centerRegion := settings.centerRegionOnly }
     startUs := now
     bucketStartUs := now },
    generation)

/-- `moonlight_stats_end`. -/
def moonlightStatsEnd (stats : StreamStats) (generation : UInt32) : StreamStats :=
  if generation ≠ 0 ∧ generation = stats.session.generation then
    { stats with session := { stats.session with active := false, rttValid := 0 } }
  else stats

/-- `moonlight_stats_configure_video`: the receive token first, then the one it returns. -/
def moonlightStatsConfigureVideo (stats : StreamStats) (format width height fps : Int)
    : StreamStats × UInt32 × UInt32 :=
  ({ stats with
      session :=
        { stats.session with
          videoFormat := format, width := width, height := height, targetFps := fps } },
    if stats.session.active then stats.session.generation else 0,
    if stats.session.active ∧ stats.session.enabled then stats.session.generation else 0)

/-- `moonlight_stats_configure_audio`. -/
def moonlightStatsConfigureAudio (stats : StreamStats) (sampleRate channels : Int)
    : StreamStats × UInt32 :=
  ({ stats with
      session := { stats.session with audioSampleRate := sampleRate, audioChannels := channels } },
    if stats.session.active ∧ stats.session.enabled then stats.session.generation else 0)

-----------------------------------------------------------------------------------------
-- Tagged updates
-----------------------------------------------------------------------------------------

/-- `moonlight_stats_connection_status`. -/
def moonlightStatsConnectionStatus (stats : StreamStats) (generation : UInt32) (now : UInt64)
    (poor : Int) : StreamStats :=
  taggedUpdate stats generation now fun stats =>
    { stats with session := { stats.session with connectionPoor := poor } }

/-- A frame number follows another one, the numbers read as unsigned and with wrap. -/
def newerFrame (frameNumber lastFrame : UInt32) : Bool :=
  frameNumber - lastFrame ≠ 0 ∧ frameNumber - lastFrame < 0x80000000

/-- The frame and its bytes, before its number is looked at; `later` is the second reading of
the clock.
-/
def countReceived (stats : StreamStats) (bytes : UInt32) (later : UInt64) : StreamStats :=
  { stats with
    current :=
      { stats.current with
        received := stats.current.received + 1
        bytes := stats.current.bytes + bytes.toUInt64 }
    session :=
      { stats.session with
        receivedFrames := stats.session.receivedFrames + 1
        hasVideo := true }
    lastVideoUs := later }

/-- The frames missing in front of a frame, and the base for the next one. -/
def noteFrameNumber (stats : StreamStats) (frameNumber : UInt32) : StreamStats :=
  if stats.hasLastFrame then
    if newerFrame frameNumber stats.lastFrame then
      let missing := (frameNumber - stats.lastFrame - 1).toUInt64
      { stats with
        current := { stats.current with missing := stats.current.missing + missing }
        session := { stats.session with missingFrames := stats.session.missingFrames + missing }
        lastFrame := frameNumber }
    else stats
  else { stats with lastFrame := frameNumber, hasLastFrame := true }

def Bucket.noteHostLatency (bucket : Bucket) (hostLatency : UInt32) : Bucket :=
  { bucket with
    hostMin :=
      if bucket.hostSamples = 0 ∨ hostLatency < bucket.hostMin then hostLatency
      else bucket.hostMin
    hostMax := if bucket.hostMax < hostLatency then hostLatency else bucket.hostMax
    hostSamples := bucket.hostSamples + 1
    hostTotal := bucket.hostTotal + hostLatency.toUInt64 }

/-- What only an enabled session records of a received frame. -/
def noteReceiveDetail (stats : StreamStats) (idr : Bool) (hostLatency : UInt32)
    (receiveUs enqueueUs : UInt64) : StreamStats :=
  let stats :=
    if idr then
      { stats with session := { stats.session with idrFrames := stats.session.idrFrames + 1 } }
    else stats
  let stats :=
    if hostLatency ≠ 0 then { stats with current := stats.current.noteHostLatency hostLatency }
    else stats
  if receiveUs ≤ enqueueUs then noteTiming stats .reassembly (enqueueUs - receiveUs) else stats

/-- `moonlight_stats_received`. -/
def moonlightStatsReceived (stats : StreamStats) (generation : UInt32) (now : UInt64)
    (frameNumber bytes : UInt32) (idr : Bool) (hostLatency : UInt32)
    (receiveUs enqueueUs later : UInt64) : StreamStats :=
  taggedUpdate stats generation now fun stats =>
    let stats := noteFrameNumber (countReceived stats bytes later) frameNumber
    if stats.session.enabled then noteReceiveDetail stats idr hostLatency receiveUs enqueueUs
    else stats

/-- `moonlight_stats_decode`. -/
def moonlightStatsDecode (stats : StreamStats) (generation : UInt32) (now : UInt64)
    (callUs : UInt64) (outputs : UInt32) (failed pacerDrop : Bool) : StreamStats :=
  taggedUpdate stats generation now fun stats =>
    let stats := noteTiming stats .decode callUs
    if failed then
      { stats with
        session := { stats.session with decodeErrors := stats.session.decodeErrors + 1 } }
    else
      let stats :=
        { stats with
          current := { stats.current with decoded := stats.current.decoded + outputs.toUInt64 } }
      let stats :=
        if pacerDrop then
          { stats with
            current :=
              { stats.current with pacerDrops := stats.current.pacerDrops + outputs.toUInt64 }
            session :=
              { stats.session with pacerDrops := stats.session.pacerDrops + outputs.toUInt64 } }
        else stats
      if outputs = 0 then
        { stats with session := { stats.session with noOutput := stats.session.noOutput + 1 } }
      else stats

/-- `moonlight_stats_idr_return`. -/
def moonlightStatsIdrReturn (stats : StreamStats) (generation : UInt32) (now : UInt64)
    : StreamStats :=
  taggedUpdate stats generation now fun stats =>
    { stats with session := { stats.session with idrReturns := stats.session.idrReturns + 1 } }

/-- `moonlight_stats_prepared`. -/
def moonlightStatsPrepared (stats : StreamStats) (generation : UInt32) (now : UInt64)
    (prepareUs vblankUs : UInt64) (width height pitch : UInt32) : StreamStats :=
  taggedUpdate stats generation now fun stats =>
    let stats := noteTiming stats .prequeue prepareUs
    let stats := if stats.session.vblankWait ≠ 0 then noteTiming stats .vblank vblankUs else stats
    { stats with
      session :=
        { stats.session with
          outputWidth := width, outputHeight := height, outputPitch := pitch } }

/-- `moonlight_stats_queued`. -/
def moonlightStatsQueued (stats : StreamStats) (generation : UInt32) (now : UInt64)
    (replaced : Bool) : StreamStats :=
  taggedUpdate stats generation now fun stats =>
    let stats :=
      { stats with current := { stats.current with queued := stats.current.queued + 1 } }
    if replaced then
      { stats with
        current := { stats.current with replacements := stats.current.replacements + 1 }
        session :=
          { stats.session with pendingReplacements := stats.session.pendingReplacements + 1 } }
    else stats

/-- `moonlight_stats_presented`. -/
def moonlightStatsPresented (stats : StreamStats) (generation : UInt32) (now : UInt64)
    (queueUs cpuUs : UInt64) : StreamStats :=
  taggedUpdate stats generation now fun stats =>
    let stats :=
      { stats with current := { stats.current with presented := stats.current.presented + 1 } }
    noteTiming (noteTiming stats .pafQueue queueUs) .pafCpu cpuUs

/-- `moonlight_stats_network`. -/
def moonlightStatsNetwork (stats : StreamStats) (generation : UInt32) (now : UInt64)
    (valid : Int) (rtt variation : UInt32) : StreamStats :=
  taggedUpdate stats generation now fun stats =>
    { stats with
      session :=
        { stats.session with rttValid := valid, rttMs := rtt, rttVariationMs := variation } }

/-- `moonlight_stats_audio_decode`. -/
def moonlightStatsAudioDecode (stats : StreamStats) (generation : UInt32) (now : UInt64)
    (callUs : UInt64) (failed : Bool) : StreamStats :=
  taggedUpdate stats generation now fun stats =>
    let stats := noteTiming stats .audioDecode callUs
    if failed then
      { stats with
        session :=
          { stats.session with audioDecodeErrors := stats.session.audioDecodeErrors + 1 } }
    else stats

/-- `moonlight_stats_audio_output`. -/
def moonlightStatsAudioOutput (stats : StreamStats) (generation : UInt32) (now : UInt64)
    (callUs : UInt64) (failed : Bool) : StreamStats :=
  taggedUpdate stats generation now fun stats =>
    let stats := noteTiming stats .audioOutput callUs
    if failed then
      { stats with
        session :=
          { stats.session with audioOutputErrors := stats.session.audioOutputErrors + 1 } }
    else stats

-----------------------------------------------------------------------------------------
-- Snapshots
-----------------------------------------------------------------------------------------

structure MoonlightTimingStats where
  samples : UInt64
  averageMs : Rat
  maximumMs : Rat

/-- `MOONLIGHT_STREAM_WARNING_*`. -/
inductive MoonlightStreamWarning
  | none
  | connection
  | lowBitrate
  | stalled
deriving DecidableEq

/-- `MoonlightStreamStats` as a snapshot hands it out. -/
structure StatsSnapshot extends MoonlightStreamStats where
  warning : MoonlightStreamWarning
  videoAgeUs : UInt64
  incomingFps : Rat
  decodedFps : Rat
  pafSubmitFps : Rat
  payloadMbps : Rat
  missingPercent : Rat
  pacerDropPercent : Rat
  replacedPercent : Rat
  hostLatencySamples : UInt64
  hostLatencyMinMs : Rat
  hostLatencyMaxMs : Rat
  hostLatencyAverageMs : Rat
  reassembly : MoonlightTimingStats
  decoderCall : MoonlightTimingStats
  prequeue : MoonlightTimingStats
  vblank : MoonlightTimingStats
  pafQueue : MoonlightTimingStats
  pafCpu : MoonlightTimingStats
  audioDecode : MoonlightTimingStats
  audioOutput : MoonlightTimingStats

def ratio (numerator denominator : UInt64) (scale : Rat) : Rat :=
  if denominator = 0 then 0 else numerator.toNat * scale / denominator.toNat

/-- `stream_warning`, given the fields of the snapshot that it reads. -/
def streamWarning (session : MoonlightStreamStats) (videoAgeUs : UInt64)
    (missingPercent payloadMbps : Rat) (elapsedUs : UInt64) : MoonlightStreamWarning :=
  if session.active = false ∨ elapsedUs < 3000000 then .none
  else if session.hasVideo = false ∨ 1000000 ≤ videoAgeUs then .stalled
  else if session.connectionPoor ≠ 0 ∨ 5 ≤ missingPercent then
    if 0 < session.bitrateKbps ∧ payloadMbps * 1000 < session.bitrateKbps * (1 / 2) then
      .lowBitrate
    else .connection
  else .none

/-- `timing_snapshot`. -/
def timingSnapshot (stats : StreamStats) (index : TimingIndex) : MoonlightTimingStats :=
  let a := stats.current.timing index
  let b := stats.previous.timing index
  { samples := a.samples + b.samples
    averageMs := ratio (a.totalUs + b.totalUs) (a.samples + b.samples) (1 / 1000)
    maximumMs :=
      ((if b.maximumUs < a.maximumUs then a.maximumUs else b.maximumUs).toNat : Rat) / 1000 }

/-- The `duration` that the rates of a snapshot are over. -/
def rateDuration (stats : StreamStats) (now : UInt64) : UInt64 :=
  now - if stats.bucketStartUs = stats.startUs then stats.startUs
    else stats.bucketStartUs - statsBucketUs

/-- The least host latency of the two buckets, `host_min`. -/
def hostMinimum (current previous : Bucket) : UInt32 :=
  let hostMin := if current.hostSamples ≠ 0 then current.hostMin else previous.hostMin
  if previous.hostSamples ≠ 0 ∧ previous.hostMin < hostMin then previous.hostMin else hostMin

/-- `moonlight_stats_snapshot`, once the lock is taken and the clock read. -/
def moonlightStatsSnapshot (stats : StreamStats) (now : UInt64) : StreamStats × StatsSnapshot :=
  let stats := advanceWindow stats now
  let current := stats.current
  let previous := stats.previous
  let duration := rateDuration stats now
  let received := current.received + previous.received
  let decoded := current.decoded + previous.decoded
  let missing := current.missing + previous.missing
  let videoAgeUs := if stats.session.hasVideo then now - stats.lastVideoUs else 0
  let payloadMbps := ratio (current.bytes + previous.bytes) duration 8
  let missingPercent := ratio missing (received + missing) 100
  let hostSamples := current.hostSamples + previous.hostSamples
  (stats,
    { toMoonlightStreamStats := stats.session
      videoAgeUs := videoAgeUs
      incomingFps := ratio received duration 1000000
      decodedFps := ratio decoded duration 1000000
      pafSubmitFps := ratio (current.presented + previous.presented) duration 1000000
      payloadMbps := payloadMbps
      missingPercent := missingPercent
      warning :=
        streamWarning stats.session videoAgeUs missingPercent payloadMbps (now - stats.startUs)
      pacerDropPercent := ratio (current.pacerDrops + previous.pacerDrops) decoded 100
      replacedPercent :=
        ratio (current.replacements + previous.replacements) (current.queued + previous.queued) 100
      hostLatencySamples := hostSamples
      hostLatencyMinMs :=
        if hostSamples = 0 then 0 else ((hostMinimum current previous).toNat : Rat) / 10
      hostLatencyMaxMs :=
        if hostSamples = 0 then 0
        else
          ((if previous.hostMax < current.hostMax then current.hostMax
            else previous.hostMax).toNat : Rat) / 10
      hostLatencyAverageMs :=
        if hostSamples = 0 then 0
        else ratio (current.hostTotal + previous.hostTotal) hostSamples (1 / 10)
      reassembly := timingSnapshot stats .reassembly
      decoderCall := timingSnapshot stats .decode
      prequeue := timingSnapshot stats .prequeue
      vblank := timingSnapshot stats .vblank
      pafQueue := timingSnapshot stats .pafQueue
      pafCpu := timingSnapshot stats .pafCpu
      audioDecode := timingSnapshot stats .audioDecode
      audioOutput := timingSnapshot stats .audioOutput })

-----------------------------------------------------------------------------------------
-- The statistics as a machine
-----------------------------------------------------------------------------------------

/-- A tagged update and its arguments, the generation and the clock apart. -/
inductive StatsUpdate
  | connectionStatus (poor : Int)
  | received (frameNumber bytes : UInt32) (idr : Bool) (hostLatency : UInt32)
      (receiveUs enqueueUs later : UInt64)
  | decode (callUs : UInt64) (outputs : UInt32) (failed pacerDrop : Bool)
  | idrReturn
  | prepared (prepareUs vblankUs : UInt64) (width height pitch : UInt32)
  | queued (replaced : Bool)
  | presented (queueUs cpuUs : UInt64)
  | network (valid : Int) (rtt variation : UInt32)
  | audioDecode (callUs : UInt64) (failed : Bool)
  | audioOutput (callUs : UInt64) (failed : Bool)

/-- The function an update calls. -/
def StatsUpdate.apply (stats : StreamStats) (generation : UInt32) (now : UInt64)
    : StatsUpdate → StreamStats
  | .connectionStatus poor => moonlightStatsConnectionStatus stats generation now poor
  | .received frameNumber bytes idr hostLatency receiveUs enqueueUs later =>
      moonlightStatsReceived stats generation now frameNumber bytes idr hostLatency receiveUs
        enqueueUs later
  | .decode callUs outputs failed pacerDrop =>
      moonlightStatsDecode stats generation now callUs outputs failed pacerDrop
  | .idrReturn => moonlightStatsIdrReturn stats generation now
  | .prepared prepareUs vblankUs width height pitch =>
      moonlightStatsPrepared stats generation now prepareUs vblankUs width height pitch
  | .queued replaced => moonlightStatsQueued stats generation now replaced
  | .presented queueUs cpuUs => moonlightStatsPresented stats generation now queueUs cpuUs
  | .network valid rtt variation =>
      moonlightStatsNetwork stats generation now valid rtt variation
  | .audioDecode callUs failed => moonlightStatsAudioDecode stats generation now callUs failed
  | .audioOutput callUs failed => moonlightStatsAudioOutput stats generation now callUs failed

/-- The last time an update reads the clock. -/
def StatsUpdate.readsLast (now : UInt64) : StatsUpdate → UInt64
  | .received _ _ _ _ _ _ later => later
  | _ => now

/-- A call from some thread; calls that take the lock are one step each. -/
inductive StatsCall
  | begin (settings : MoonlightSettings) (now : UInt64)
  | finish (generation : UInt32)
  | configureVideo (format width height fps : Int)
  | configureAudio (sampleRate channels : Int)
  | update (generation : UInt32) (update : StatsUpdate) (now : UInt64)
  | snapshot (now : UInt64)

/-- A call as its thread saw it: its arguments, the clock it read and what it returned. -/
inductive StatsEvent
  | began (generation : UInt32) (settings : MoonlightSettings) (startUs : UInt64)
  | ended (generation : UInt32)
  | videoConfigured (receive detail : UInt32)
  | audioConfigured (detail : UInt32)
  | updated (generation : UInt32) (update : StatsUpdate) (now : UInt64)
  | snapshotTaken (now : UInt64)

structure StatsState where
  stats : StreamStats := {}
  clock : UInt64 := 0

/-- The clock that is read under the lock never runs backwards. `moonlight_stats_begin` reads it
before it takes the lock, so its reading may be older than the clock.
-/
def statsMachine : Machine StatsState StatsCall StatsEvent where
  initial state := state = {}
  step state
    | .begin settings now =>
        let (stats, generation) := moonlightStatsBegin state.stats settings now
        some ({ stats, clock := max state.clock now }, [.began generation settings now])
    | .finish generation =>
        some ({ state with stats := moonlightStatsEnd state.stats generation }, [.ended generation])
    | .configureVideo format width height fps =>
        let (stats, receive, detail) :=
          moonlightStatsConfigureVideo state.stats format width height fps
        some ({ state with stats }, [.videoConfigured receive detail])
    | .configureAudio sampleRate channels =>
        let (stats, detail) := moonlightStatsConfigureAudio state.stats sampleRate channels
        some ({ state with stats }, [.audioConfigured detail])
    | .update generation update now =>
        if state.clock ≤ now ∧ now ≤ update.readsLast now then
          some ({ stats := update.apply state.stats generation now
                  clock := update.readsLast now },
            [.updated generation update now])
        else none
    | .snapshot now =>
        if state.clock ≤ now then
          some ({ stats := (moonlightStatsSnapshot state.stats now).1, clock := now },
            [.snapshotTaken now])
        else none

end VitaMoonlight.Stream
