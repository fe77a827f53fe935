import VitaMoonlight.Library.Machine

/-! The codec of the system-application build (`moonlight/vita_system_video.c`): the arena that is
requested for it, and the six resources that are acquired one after another and given back in the
opposite order. What the firmware answers is passed in.
-/

namespace VitaMoonlight

open Library

-----------------------------------------------------------------------------------------
-- Sizes
-----------------------------------------------------------------------------------------

/-- `VITA_SYSTEM_VIDEO_MEM_ALIGNMENT`. -/
def systemVideoMemAlignment : UInt32 := 0x100000

/-- The most that `vita_system_video_create` requests. -/
def systemVideoMemLimit : UInt32 := 64 * 1024 * 1024

/-- `round_allocation`: 0 stands for a size that it refuses. -/
def roundAllocation (size alignment : UInt32) : UInt32 :=
  if size = 0 ∨ size > systemVideoMemLimit - (alignment - 1) then 0
  else (size + alignment - 1) &&& ~~~(alignment - 1)

/-- The sizes that `vita_system_video_create` computes. -/
structure CodecSizes where
  contextSize : UInt32
  frameStoreSize : UInt32
  arenaSize : UInt32
deriving DecidableEq

/-- The sizes for what the two queries report. -/
def codecSizes (librarySize frameMemSize : UInt32) : CodecSizes :=
  let contextSize := roundAllocation librarySize 0x40000
  let frameStoreSize := roundAllocation frameMemSize systemVideoMemAlignment
  { contextSize, frameStoreSize
    arenaSize :=
      roundAllocation contextSize systemVideoMemAlignment + frameStoreSize
        + systemVideoMemAlignment }

/-- `vita_system_video_create` goes on to allocate. -/
def CodecSizes.accepted (sizes : CodecSizes) : Bool :=
  !(sizes.contextSize == 0 || sizes.frameStoreSize == 0
    || decide (sizes.arenaSize > systemVideoMemLimit))

-----------------------------------------------------------------------------------------
-- Resources
-----------------------------------------------------------------------------------------

inductive CodecResource
  | arena
  | pool
  | libraryContext
  | decoderContext
  | library
  | decoder
deriving DecidableEq

/-- `SceAvcdecCtrl`, the frame buffer that the code fills in. -/
structure AvcdecControl where
  buffer : UInt32 := 0
  size : UInt32 := 0
deriving DecidableEq

/-- The static variables of the file. -/
structure SystemVideo where
  arena : Int := -1
  pool : Int := -1
  libraryContext : UInt32 := 0
  decoderContext : UInt32 := 0
  libraryInitialized : Bool := false
  decoderCreated : Bool := false
  decoder : AvcdecControl := {}
deriving DecidableEq

/-- What the firmware answers to the calls of `vita_system_video_destroy`. -/
structure DestroyAnswers where
  deleteDecoder : Int := 0
  termLibrary : Int := 0
  freeDecoderContext : Int := 0
  freeLibraryContext : Int := 0
  closePool : Int := 0
  freeArena : Int := 0

/-- What the firmware answers to the calls of `vita_system_video_create`. -/
structure CreateAnswers where
  queryLibrary : Int := 0
  librarySize : UInt32
  queryDecoder : Int := 0
  frameMemSize : UInt32
  allocArena : Int
  arenaBase : Int := 0
  openPool : Int
  allocLibraryContext : UInt32
  allocDecoderContext : UInt32
  initLibrary : Int := 0
  createDecoder : Int := 0
  destroy : DestroyAnswers := {}

/-- The result of `vita_system_video_create`. -/
inductive CreateResult
  | created
  /-- `SCE_VIDEODEC_ERROR_INVALID_STATE`. -/
  | invalidState
  /-- `SCE_VIDEODEC_ERROR_OUT_OF_MEMORY`. -/
  | outOfMemory
  | failed (code : Int)
deriving DecidableEq

/-- What a run shows: what the firmware hands out and takes back, with the handle that is passed
to it, and what the calls return.
-/
inductive CodecLabel
  | acquired (resource : CodecResource) (handle : Int)
  | release (resource : CodecResource) (handle : Int) (succeeds : Bool)
  | created (result : CreateResult)
  | destroyed (result : Int)
deriving DecidableEq

namespace SystemVideo

-----------------------------------------------------------------------------------------
-- Giving back
-----------------------------------------------------------------------------------------

/-- A stage of `vita_system_video_destroy`: a resource that is held is released, and whatever is
left stays as it is when that fails.
-/
def release (resource : CodecResource) (held : SystemVideo → Bool) (handle : SystemVideo → Int)
    (answer : Int) (clear : SystemVideo → SystemVideo)
    (next : SystemVideo → SystemVideo × Int × List CodecLabel) (video : SystemVideo)
    : SystemVideo × Int × List CodecLabel :=
  if held video then
    if answer < 0 then (video, answer, [.release resource (handle video) false])
    else
      let (after, result, labels) := next (clear video)
      (after, result, .release resource (handle video) true :: labels)
  else next video

/-- The end of `vita_system_video_destroy`. -/
def destroyed (video : SystemVideo) : SystemVideo × Int × List CodecLabel :=
  ({ video with decoder := {} }, 0, [])

def releaseArena (answers : DestroyAnswers) : SystemVideo → SystemVideo × Int × List CodecLabel :=
  release .arena (fun video => decide (video.arena ≥ 0)) (fun video => video.arena)
    answers.freeArena (fun video => { video with arena := -1 }) destroyed

def releasePool (answers : DestroyAnswers) : SystemVideo → SystemVideo × Int × List CodecLabel :=
  release .pool (fun video => decide (video.pool ≥ 0)) (fun video => video.pool)
    answers.closePool (fun video => { video with pool := -1 }) (releaseArena answers)

def releaseLibraryContext (answers : DestroyAnswers)
    : SystemVideo → SystemVideo × Int × List CodecLabel :=
  release .libraryContext (fun video => video.libraryContext != 0)
    (fun video => video.libraryContext.toNat) answers.freeLibraryContext
    (fun video => { video with libraryContext := 0 }) (releasePool answers)

def releaseDecoderContext (answers : DestroyAnswers)
    : SystemVideo → SystemVideo × Int × List CodecLabel :=
  release .decoderContext (fun video => video.decoderContext != 0)
    (fun video => video.decoderContext.toNat) answers.freeDecoderContext
    (fun video => { video with decoderContext := 0 }) (releaseLibraryContext answers)

def releaseLibrary (answers : DestroyAnswers) : SystemVideo → SystemVideo × Int × List CodecLabel :=
  release .library (fun video => video.libraryInitialized) (fun _ => 0) answers.termLibrary
    (fun video => { video with libraryInitialized := false }) (releaseDecoderContext answers)

def releaseDecoder (answers : DestroyAnswers) : SystemVideo → SystemVideo × Int × List CodecLabel :=
  release .decoder (fun video => video.decoderCreated) (fun _ => 0) answers.deleteDecoder
    (fun video => { video with decoderCreated := false }) (releaseLibrary answers)

/-- `vita_system_video_destroy`. -/
def destroy (video : SystemVideo) (answers : DestroyAnswers)
    : SystemVideo × Int × List CodecLabel :=
  releaseDecoder answers video

-----------------------------------------------------------------------------------------
-- Acquiring
-----------------------------------------------------------------------------------------

/-- The exit `fail` of `vita_system_video_create`. -/
def fail (video : SystemVideo) (answers : CreateAnswers) (result : CreateResult)
    : SystemVideo × CreateResult × List CodecLabel :=
  let (after, _, labels) := video.destroy answers.destroy
  (after, result, labels)

/-- `vita_system_video_create` once the library is initialised. -/
def createDecoder (video : SystemVideo) (answers : CreateAnswers) (sizes : CodecSizes)
    : SystemVideo × CreateResult × List CodecLabel :=
  let prepared :=
    { video with
      decoder := { buffer := video.decoderContext, size := sizes.frameStoreSize } }
  if answers.createDecoder < 0 then prepared.fail answers (.failed answers.createDecoder)
  else ({ prepared with decoderCreated := true }, .created, [.acquired .decoder 0])

/-- `vita_system_video_create` once it has both contexts. -/
def initLibrary (video : SystemVideo) (answers : CreateAnswers) (sizes : CodecSizes)
    : SystemVideo × CreateResult × List CodecLabel :=
  if answers.initLibrary < 0 then video.fail answers (.failed answers.initLibrary)
  else
    let (after, result, labels) :=
      { video with libraryInitialized := true }.createDecoder answers sizes
    (after, result, .acquired .library 0 :: labels)

/-- `vita_system_video_create` once its pool is open: both contexts are asked for before either
answer is looked at.
-/
def allocContexts (video : SystemVideo) (answers : CreateAnswers) (sizes : CodecSizes)
    : SystemVideo × CreateResult × List CodecLabel :=
  let library := answers.allocLibraryContext
  let decoder := answers.allocDecoderContext
  let video := { video with libraryContext := library, decoderContext := decoder }
  let (after, result, labels) :=
    if library = 0 ∨ decoder = 0 then video.fail answers .outOfMemory
    else video.initLibrary answers sizes
  (after, result,
    (if library = 0 then [] else [.acquired .libraryContext library.toNat])
      ++ (if decoder = 0 then [] else [.acquired .decoderContext decoder.toNat]) ++ labels)

/-- `vita_system_video_create` once it has its arena. -/
def openPool (video : SystemVideo) (answers : CreateAnswers) (sizes : CodecSizes)
    : SystemVideo × CreateResult × List CodecLabel :=
  if answers.arenaBase < 0 then video.fail answers (.failed answers.arenaBase)
  else
    let video := { video with pool := answers.openPool }
    if answers.openPool < 0 then video.fail answers (.failed answers.openPool)
    else
      let (after, result, labels) := video.allocContexts answers sizes
      (after, result, .acquired .pool answers.openPool :: labels)

/-- `vita_system_video_create` once the sizes are accepted. -/
def allocArena (video : SystemVideo) (answers : CreateAnswers) (sizes : CodecSizes)
    : SystemVideo × CreateResult × List CodecLabel :=
  let video := { video with arena := answers.allocArena }
  if answers.allocArena < 0 then video.fail answers (.failed answers.allocArena)
  else
    let (after, result, labels) := video.openPool answers sizes
    (after, result, .acquired .arena answers.allocArena :: labels)

/-- `vita_system_video_create`. -/
def create (video : SystemVideo) (answers : CreateAnswers)
    : SystemVideo × CreateResult × List CodecLabel :=
  if video.arena ≥ 0 then (video, .invalidState, [])
  else if answers.queryLibrary < 0 then (video, .failed answers.queryLibrary, [])
  else if answers.queryDecoder < 0 then (video, .failed answers.queryDecoder, [])
  else
    let sizes := codecSizes answers.librarySize answers.frameMemSize
    if sizes.accepted then video.allocArena answers sizes else (video, .outOfMemory, [])

end SystemVideo

/-- A call of the renderer. -/
inductive CodecChoice
  | create (answers : CreateAnswers)
  | destroy (answers : DestroyAnswers)

/-- One call. -/
def codecStep (video : SystemVideo) : CodecChoice → Option (SystemVideo × List CodecLabel)
  | .create answers =>
      let (after, result, labels) := video.create answers
      some (after, labels ++ [.created result])
  | .destroy answers =>
      let (after, result, labels) := video.destroy answers
      some (after, labels ++ [.destroyed result])

/-- The codec of a process that has just started. -/
def codecMachine : Machine SystemVideo CodecChoice CodecLabel where
  initial video := video = {}
  step := codecStep

end VitaMoonlight
