import VitaMoonlight.Video.FramePool
import VitaMoonlight.Video.OutputSize

/-! Decoded pictures on their way to the screen: `vita_video_submit` of the video renderer on the
thread of the streaming library, and the pending frame and the surfaces of the stream page on the
main thread. What a thread does between two points at which the other can see it is one step.
-/

namespace VitaMoonlight

open Library

/-- `Stream::Frame`, as far as it is presented. -/
structure Frame where
  buffer : Nat
  width : UInt32
  height : UInt32
  pitch : UInt32
  statsGeneration : UInt32
deriving DecidableEq

/-- A `graph::Surface` over the memory of a buffer. -/
structure Surface where
  buffer : Nat
  width : UInt32
  height : UInt32
  pitch : UInt32
deriving DecidableEq

def Frame.surface (frame : Frame) : Surface where
  buffer := frame.buffer
  width := frame.width
  height := frame.height
  pitch := frame.pitch

/-- `SurfaceSlot`: what the slot is for, and the surface if there is one. -/
structure SurfaceSlot where
  shape : Option Surface := none
  surface : Option Surface := none
deriving DecidableEq

/-- The buffer of a slot, NULL when it is free. -/
def SurfaceSlot.buffer (slot : SurfaceSlot) : Option Nat := slot.shape.map Surface.buffer

/-- The use of a slot in `Stream::PresentFrame`. A slot of another shape is taken over, and a
surface is only made where there is none.
-/
def SurfaceSlot.use (slot : SurfaceSlot) (frame : Frame) (made : Bool) : SurfaceSlot :=
  let slot :=
    if slot.shape = some frame.surface then slot
    else { shape := some frame.surface, surface := none }
  if slot.surface.isNone && made then { slot with surface := some frame.surface } else slot

/-- `kSurfaceSlotCount`. -/
def surfaceSlotCount : Nat := 3

/-- How far `vita_video_submit` has come; `centred` is `s_center_region` where it was read. -/
inductive SubmitPhase where
  | idle
  | decoding
  | presenting
  | prepared (centred : Bool)
  | queued
deriving DecidableEq

/-- The variables of the renderer and of the page; `taken` is the frame that `PresentTask` holds. -/
structure PresentationState where
  pool : FramePoolState := {}
  frameIndex : Nat := 0
  active : Bool := false
  targetFps : Nat := 60
  framePacer : Bool := true
  centerRegion : Bool := false
  lastPresentTime : Nat := 0
  statsGeneration : UInt32 := 0
  frameSize : FrameSize := { width := 0, height := 0 }
  phase : SubmitPhase := .idle
  pending : Option Frame := none
  taken : Option Frame := none
  slots : List SurfaceSlot := List.replicate surfaceSlotCount {}
  clock : Nat := 0

inductive PresentationLabel where
  | options (targetFps : Nat) (framePacer : Bool)
  | started
  | needIdr
  | written (buffer : Nat)
  | paced (now : Nat)
  | passed (now : Nat)
  | presented (now : Nat)
  | queued (frame : Frame) (replaced : Bool)
  | unseen (frame : Frame)
  | invalidated
  | pageOpened
  | pageClosed
  | taken (frame : Frame)
  | shown (frame : Frame) (surface : Surface)
  | empty (frame : Frame)
  | slotless (frame : Frame)
  | surfaceless (frame : Frame)

namespace PresentationState

variable (state : PresentationState)

-----------------------------------------------------------------------------------------
-- The renderer
-----------------------------------------------------------------------------------------

/-- `moonlight_video_set_stream_options`. -/
def setStreamOptions (fps : Int) (framePacer centerRegion : Bool)
    : PresentationState × List PresentationLabel :=
  let targetFps := if fps < 1 then 60 else fps.toNat
  ({ state with targetFps, framePacer, centerRegion }, [.options targetFps framePacer])

/-- `vita_video_setup`. -/
def setup (build : VideoBuild) (outcome : SetupOutcome) (width height statsGeneration : UInt32)
    : PresentationState × List PresentationLabel :=
  if (build = .systemApp ∧ state.pool.decoder = true) ∨ width = 0 ∨ height = 0 then (state, [])
  else
    let frameSize := calculateOutputSize state.centerRegion width height
    let pool := (state.pool.setup build outcome).1
    if state.pool.StartsPool build outcome then
      if pool.decoder then
        ({ state with
            pool, frameSize, statsGeneration, frameIndex := 0, active := true, lastPresentTime := 0 },
          [.started])
      else ({ state with pool, frameSize, frameIndex := 0 }, [])
    else ({ state with pool, frameSize }, [])

/-- `vita_video_cleanup`. -/
def cleanup (build : VideoBuild) (destroyed : Bool) : PresentationState × List PresentationLabel :=
  ({ state with active := false, pending := none, pool := state.pool.cleanup build destroyed },
    [.invalidated])

/-- `s_frame_buffers[s_frame_index]`. -/
def target : Option Nat := state.pool.frames[state.frameIndex]?.bind FrameSlot.buffer

/-- `vita_video_submit` as far as `sceAvcdecDecode`, which writes to the target. -/
def submit (given assembled : Bool) : PresentationState × List PresentationLabel :=
  match given && assembled && state.pool.decoder, state.target with
  | true, some buffer => ({ state with phase := .decoding }, [.written buffer])
  | _, _ => (state, [.needIdr])

/-- `vita_video_pacer_should_drop`. -/
def pacerShouldDrop (now : Nat) : Bool :=
  if !state.framePacer || state.targetFps == 0 then false
  else
    state.lastPresentTime != 0 && now - state.lastPresentTime < 1000000 / state.targetFps

/-- `vita_video_submit` behind `sceAvcdecDecode`. -/
def decoded (result : Int) (numOfOutput : UInt32) (now : Nat)
    : PresentationState × List PresentationLabel :=
  if result < 0 then ({ state with phase := .idle }, [.needIdr])
  else if numOfOutput > 0 ∧ state.active = true then
    if state.pacerShouldDrop now then ({ state with phase := .idle }, [.paced now])
    else ({ state with phase := .presenting }, [.passed now])
  else ({ state with phase := .idle }, [])

/-- The crop moves the picture inside the target. -/
def crops : Bool :=
  state.centerRegion
    && (state.frameSize.width != screenWidth || state.frameSize.height != screenHeight)

/-- `vita_video_submit` behind the wait for the display: the time is kept and the picture cropped. -/
def prepare (now : Nat) : PresentationState × List PresentationLabel :=
  ({ state with lastPresentTime := now, phase := .prepared state.centerRegion },
    .presented now :: if state.crops then state.target.toList.map .written else [])

/-- What `vita_video_submit` passes to `moonlight_video_present`. -/
def frameAt (centred : Bool) (buffer : Nat) : Frame :=
  let size :=
    if centred then { width := screenWidth, height := screenHeight }
    else state.frameSize
  {
    buffer
    width := size.width
    height := size.height
    pitch := size.width
    statsGeneration := state.statsGeneration
  }

/-- `Stream::QueueFrame`. -/
def queueFrame (frame : Frame) : PresentationState × List PresentationLabel :=
  if state.pool.page then
    let replaced := state.pending.any (·.statsGeneration == frame.statsGeneration)
    ({ state with pending := some frame }, [.queued frame replaced])
  else (state, [.unseen frame])

/-- `moonlight_video_present` in `vita_video_submit`. -/
def present (centred : Bool) : PresentationState × List PresentationLabel :=
  let (state, labels) :=
    match state.target with
    | none => (state, [])
    | some buffer => state.queueFrame (state.frameAt centred buffer)
  ({ state with phase := .queued }, labels)

/-- The end of `vita_video_submit`. -/
def rotate : PresentationState :=
  { state with frameIndex := (state.frameIndex + 1) % vitaVideoFrameCount, phase := .idle }

-----------------------------------------------------------------------------------------
-- The page
-----------------------------------------------------------------------------------------

/-- The constructor of `Stream`. -/
def createPage (valid : Bool) : PresentationState × List PresentationLabel :=
  if !state.pool.page && valid then
    ({ state with
        pool := { state.pool with page := true }
        pending := none
        slots := List.replicate surfaceSlotCount {} },
      [.pageOpened])
  else (state, [])

/-- The destructor of `Stream`. -/
def destroyPage : PresentationState × List PresentationLabel :=
  ({ state with
      pool := { state.pool with page := false }
      pending := none
      slots := List.replicate surfaceSlotCount {} },
    [.pageClosed])

/-- `Stream::FindSurfaceSlot`: the slot of the buffer, else the first free one. -/
def findSurfaceSlot (buffer : Nat) : Option Nat :=
  (state.slots.findIdx? (·.buffer == some buffer)).or (state.slots.findIdx? (·.buffer.isNone))

/-- `Stream::PresentFrame`. -/
def presentFrame (frame : Frame) (made : Bool) : PresentationState × List PresentationLabel :=
  if frame.width = 0 ∨ frame.height = 0 ∨ frame.pitch = 0 then (state, [.empty frame])
  else
    match state.findSurfaceSlot frame.buffer with
    | none => (state, [.slotless frame])
    | some place =>
        let slots := state.slots.modify place (SurfaceSlot.use · frame made)
        let label :=
          match slots[place]?.bind SurfaceSlot.surface with
          | none => .surfaceless frame
          | some surface => .shown frame surface
        ({ state with slots }, [label])

end PresentationState

-----------------------------------------------------------------------------------------
-- The two threads
-----------------------------------------------------------------------------------------

/-- A step of either thread. The streaming library sets up, submits and cleans up one at a time; on
the main thread `PresentTask` takes a frame and shows it, and other tasks run before or after it.
The options may change at any time.
-/
inductive PresentationChoice where
  | options (fps : Int) (framePacer centerRegion : Bool)
  | setup (outcome : SetupOutcome) (width height statsGeneration : UInt32)
  | cleanup (destroyed : Bool)
  | submit (given assembled : Bool)
  | decoded (result : Int) (numOfOutput : UInt32) (now : Nat)
  | prepare (now : Nat)
  | present
  | rotate
  | schedule
  | tick (generation : UInt32)
  | createPage (valid : Bool)
  | destroyPage
  | take
  | show (made : Bool)

/-- A call of the streaming library, behind the one before. -/
def PresentationState.idly (state : PresentationState) (phase : SubmitPhase)
    (outcome : PresentationState × List PresentationLabel)
    : Option (PresentationState × List PresentationLabel) :=
  if state.phase = phase then some outcome else none

def presentationStep (build : VideoBuild) (state : PresentationState)
    : PresentationChoice → Option (PresentationState × List PresentationLabel)
  | .options fps framePacer centerRegion =>
      some (state.setStreamOptions fps framePacer centerRegion)
  | .setup outcome width height statsGeneration =>
      state.idly .idle (state.setup build outcome width height statsGeneration)
  | .cleanup destroyed => state.idly .idle (state.cleanup build destroyed)
  | .submit given assembled => state.idly .idle (state.submit given assembled)
  | .decoded result numOfOutput now =>
      if state.clock ≤ now then
        state.idly .decoding ({ state with clock := now }.decoded result numOfOutput now)
      else none
  | .prepare now =>
      if state.clock ≤ now then
        state.idly .presenting ({ state with clock := now }.prepare now)
      else none
  | .present =>
      match state.phase with
      | .prepared centred => some (state.present centred)
      | _ => none
  | .rotate => state.idly .queued (state.rotate, [])
  | .schedule =>
      if state.taken.isNone then some ({ state with pool := state.pool.scheduleRelease }, [])
      else none
  | .tick generation =>
      if generation ∈ state.pool.tasks ∧ state.taken = none then
        some ({ state with pool := (state.pool.releaseTask generation).1 }, [])
      else none
  | .createPage valid => if state.taken.isNone then some (state.createPage valid) else none
  | .destroyPage =>
      if state.pool.page && state.taken.isNone then some state.destroyPage else none
  | .take =>
      match state.pool.page && state.taken.isNone, state.pending with
      | true, some frame =>
          some ({ state with pending := none, taken := some frame }, [.taken frame])
      | _, _ => none
  | .show made =>
      match state.taken with
      | none => none
      | some frame => some ({ state with taken := none }.presentFrame frame made)

/-- The renderer and the page, from the start of the process. -/
def presentationMachine (build : VideoBuild)
    : Machine PresentationState PresentationChoice PresentationLabel where
  initial state := state = {}
  step := presentationStep build

end VitaMoonlight
