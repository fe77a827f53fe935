import VitaMoonlight.Library.Generation
import VitaMoonlight.Library.Machine

/-! The framebuffer pool of the video renderer (`moonlight/vita_video_renderer.c`) and the deferred
release that the stream page schedules on the main thread (`pages/page_stream.cpp`). Kernel blocks
are numbered in the order in which they are allocated.
-/

namespace VitaMoonlight

open Library

-----------------------------------------------------------------------------------------
-- Frames
-----------------------------------------------------------------------------------------

/-- The build: `MOONLIGHT_SYSTEM_APP` is defined in the second. -/
inductive VideoBuild where
  | standard
  | systemApp
deriving DecidableEq

/-- `VITA_VIDEO_FRAME_COUNT`. -/
def vitaVideoFrameCount : Nat := 3

/-- One index of `s_frame_memblocks`, `s_frame_buffers` and `s_frame_gpu_mapped`. A negative handle
is `none`, and a buffer is named by the block it lies in.
-/
structure FrameSlot where
  memblock : Option Nat := none
  buffer : Option Nat := none
  gpuMapped : Bool := false
deriving DecidableEq

/-- The step of one frame's setup that fails. -/
inductive FrameFault where
  | allocMemBlock
  | getMemBlockBase
  | mapMemory
deriving DecidableEq

namespace FrameSlot

/-- One round of the setup loop, which would allocate `block` next. -/
def allocate (slot : FrameSlot) (block : Nat) : Option FrameFault → FrameSlot
  | some .allocMemBlock => { slot with memblock := none }
  | some .getMemBlockBase => { slot with memblock := some block }
  | some .mapMemory => { slot with memblock := some block, buffer := some block }
  | none => { memblock := some block, buffer := some block, gpuMapped := true }

/-- One round of the loop that frees the frames. -/
def free (slot : FrameSlot) : FrameSlot where
  memblock := none
  buffer := none
  gpuMapped := slot.gpuMapped && slot.buffer.isNone

end FrameSlot

/-- The recorded handles. -/
def recordedBlocks (frames : List FrameSlot) : List Nat := frames.filterMap FrameSlot.memblock

/-- What the setup loop leaves: the frames, the blocks it allocated, and whether it got through. -/
structure FrameLoop where
  frames : List FrameSlot
  allocated : List Nat
  ready : Bool

/-- The loop of `vita_video_setup` from `index` on, where `block` is allocated next. -/
def allocateFrames (fault : Nat → Option FrameFault) : Nat → Nat → List FrameSlot → FrameLoop
  | _, _, [] => { frames := [], allocated := [], ready := true }
  | index, block, slot :: rest =>
      let tried := slot.allocate block (fault index)
      match fault index with
      | some .allocMemBlock => { frames := tried :: rest, allocated := [], ready := false }
      | some _ => { frames := tried :: rest, allocated := [block], ready := false }
      | none =>
          let later := allocateFrames fault (index + 1) (block + 1) rest
          { frames := tried :: later.frames
            allocated := block :: later.allocated
            ready := later.ready }

-----------------------------------------------------------------------------------------
-- The renderer and its release task
-----------------------------------------------------------------------------------------

/-- The renderer's variables, the release task's, and whether `Stream::s_instance` is set. -/
structure FramePoolState where
  decoder : Bool := false
  frames : List FrameSlot := List.replicate vitaVideoFrameCount {}
  pendingRelease : Bool := false
  generation : UInt32 := 0
  nextBlock : Nat := 0
  page : Bool := false
  releaseDelay : Nat := 0
  tasks : List UInt32 := []
deriving DecidableEq

/-- Which step of `vita_video_setup` before the frame pool fails: one that leaves `s_decoder` as it
was, or one that leaves it NULL.
-/
inductive DecoderFault where
  | beforeDecoder
  | atDecoder
deriving DecidableEq

/-- The outcomes of the external calls of one setup. -/
structure SetupOutcome where
  decoder : Option DecoderFault := none
  frame : Nat → Option FrameFault := fun _ => none

inductive FramePoolLabel where
  | pool
  | allocated (block : Nat)
  | freed (block : Nat)
  | released (generation : UInt32) (block : Nat)
  | scheduled (generation : UInt32)
  | pageCreated
  | pageDestroyed
deriving DecidableEq

namespace FramePoolState

/-- `vita_video_setup` gets as far as its frame pool. -/
def StartsPool (state : FramePoolState) (build : VideoBuild) (outcome : SetupOutcome) : Prop :=
  (build = .systemApp → state.decoder = false) ∧ outcome.decoder = none

instance (state : FramePoolState) (build : VideoBuild) (outcome : SetupOutcome)
    : Decidable (state.StartsPool build outcome) :=
  inferInstanceAs (Decidable (_ ∧ _))

/-- The frame pool of `vita_video_setup`, unwinding included. -/
def startPool (state : FramePoolState) (fault : Nat → Option FrameFault)
    : FramePoolState × List FramePoolLabel :=
  let loop := allocateFrames fault 0 state.nextBlock state.frames
  let started :=
    { state with
      decoder := true
      pendingRelease := false
      generation := nextGeneration state.generation
      nextBlock := state.nextBlock + loop.allocated.length }
  let labels := .pool :: loop.allocated.map .allocated
  if loop.ready then ({ started with frames := loop.frames }, labels)
  else
    -- `fail_frame_pool`
    ({ started with decoder := false, frames := loop.frames.map FrameSlot.free },
      labels ++ (recordedBlocks loop.frames).map .freed)

/-- `vita_video_setup`. -/
def setup (state : FramePoolState) (build : VideoBuild) (outcome : SetupOutcome)
    : FramePoolState × List FramePoolLabel :=
  if state.StartsPool build outcome then state.startPool outcome.frame
  else if build = .systemApp ∧ state.decoder = true then (state, [])
  else if outcome.decoder = some .atDecoder then ({ state with decoder := false }, [])
  else (state, [])

/-- `vita_video_cleanup`; the system app keeps everything when its decoder is not destroyed. -/
def cleanup (state : FramePoolState) (build : VideoBuild) (destroyed : Bool) : FramePoolState :=
  if state.decoder && build == .systemApp && !destroyed then state
  else { state with decoder := false, pendingRelease := true }

/-- `moonlight_video_release_frame_buffers`, with the blocks it frees. -/
def releaseFrameBuffers (state : FramePoolState) : FramePoolState × List Nat :=
  if state.pendingRelease then
    ({ state with frames := state.frames.map FrameSlot.free, pendingRelease := false },
      recordedBlocks state.frames)
  else (state, [])

/-- `Stream::ReleaseFrameBuffersTask`. -/
def releaseTask (state : FramePoolState) (generation : UInt32)
    : FramePoolState × List FramePoolLabel :=
  let unregistered := { state with tasks := state.tasks.filter (· ≠ generation) }
  if generation ≠ state.generation || state.page then (unregistered, [])
  else if state.releaseDelay ≠ 0 then ({ state with releaseDelay := state.releaseDelay - 1 }, [])
  else
    let (released, blocks) := unregistered.releaseFrameBuffers
    (released, blocks.map (.released generation))

/-- `Stream::ScheduleFrameBufferRelease`. -/
def scheduleRelease (state : FramePoolState) : FramePoolState :=
  { state with
    releaseDelay := 3
    tasks := state.tasks.filter (· ≠ state.generation) ++ [state.generation] }

end FramePoolState

/-- One step: a callback of the streaming library, a tick of a registered task, or a step of
`Apps::OnMoonlightEvent`. A page that is created may turn out to be invalid.
-/
inductive FramePoolChoice where
  | setup (outcome : SetupOutcome)
  | cleanup (destroyed : Bool)
  | schedule
  | tick (generation : UInt32)
  | createPage (valid : Bool)
  | destroyPage

def framePoolStep (build : VideoBuild) (state : FramePoolState)
    : FramePoolChoice → Option (FramePoolState × List FramePoolLabel)
  | .setup outcome => some (state.setup build outcome)
  | .cleanup destroyed => some (state.cleanup build destroyed, [])
  | .schedule => some (state.scheduleRelease, [.scheduled state.generation])
  | .tick generation =>
      if generation ∈ state.tasks then some (state.releaseTask generation) else none
  | .createPage valid =>
      -- an open page is kept, and an invalid one is deleted at once
      if !state.page && valid then some ({ state with page := true }, [.pageCreated])
      else some (state, [])
  | .destroyPage =>
      if state.page then some ({ state with page := false }, [.pageDestroyed]) else none

/-- The renderer, its release tasks and the stream page, from the start of the process. -/
def framePoolMachine (build : VideoBuild)
    : Machine FramePoolState FramePoolChoice FramePoolLabel where
  initial := fun state => state = {}
  step := framePoolStep build

end VitaMoonlight
