import VitaMoonlight.Library.KeptCalls
import VitaMoonlight.Library.RoundRobin
import VitaMoonlight.Video.Presentation

/-! What the display can rely on, over every interleaving of the renderer and the page: the decoder
writes to neither of the last two pictures, so that a picture is intact when the page takes it and
while fewer than two newer ones have been put out.
-/

namespace VitaMoonlight

open Library

-----------------------------------------------------------------------------------------
-- Histories
-----------------------------------------------------------------------------------------

/-- A frame that was queued: how often its buffer had been written then, and the number of pictures
put out with it.
-/
structure Picture where
  frame : Frame
  writes : Nat
  place : Nat

/-- What the labels before tell. A picture that has `passed` the pacer is to be presented, the buffers
put out are listed newest first, and `seen` are those the page has used a slot for.
-/
structure PresentationHistory where
  targetFps : Nat := 60
  framePacer : Bool := true
  lastPresent : Nat := 0
  passed : Option Nat := none
  writes : Nat → Nat := fun _ => 0
  outputs : List Nat := []
  pending : Option Picture := none
  taken : Option Picture := none
  seen : List Nat := []

namespace PresentationHistory

def putOut (past : PresentationHistory) (frame : Frame) : PresentationHistory :=
  { past with outputs := frame.buffer :: past.outputs }

def see (past : PresentationHistory) (frame : Frame) : PresentationHistory :=
  { past with
    taken := none
    seen := if frame.buffer ∈ past.seen then past.seen else frame.buffer :: past.seen }

def observe (past : PresentationHistory) : PresentationLabel → PresentationHistory
  | .options targetFps framePacer => { past with targetFps, framePacer }
  | .started => { past with lastPresent := 0 }
  | .needIdr => past
  | .written buffer =>
      { past with writes := Function.update past.writes buffer (past.writes buffer + 1) }
  | .paced _ => past
  | .passed now => { past with passed := some now }
  | .presented now => { past with lastPresent := now, passed := none }
  | .queued frame _ =>
      { past.putOut frame with
        pending :=
          some { frame, writes := past.writes frame.buffer, place := past.outputs.length + 1 } }
  | .unseen frame => past.putOut frame
  | .invalidated => { past with pending := none }
  | .pageOpened => { past with pending := none, seen := [] }
  | .pageClosed => { past with pending := none, seen := [] }
  | .taken _ => { past with pending := none, taken := past.pending }
  | .shown frame _ => past.see frame
  | .surfaceless frame => past.see frame
  | .empty _ => { past with taken := none }
  | .slotless _ => { past with taken := none }

/-- The time from which the pacer lets the next picture through. -/
def due (past : PresentationHistory) : Nat := past.lastPresent + 1000000 / past.targetFps

/-- The renderer and the page
* never write to one of the last two pictures put out;
* drop a picture only before it is due, let one pass only from then on, and present it after that;
* count a frame as replaced just where one of the same session is still waiting;
* take the frame that was queued last, with the picture it was queued with;
* show the frame that was taken, over its own buffer and in its own size, with the picture it was
  queued with as long as fewer than two newer ones have been put out;
* leave a frame out only for having no size, or for a fourth buffer.
-/
def Permits (past : PresentationHistory) : PresentationLabel → Prop
  | .written buffer => buffer ∉ past.outputs.take 2
  | .paced now => past.framePacer = true ∧ past.lastPresent ≠ 0 ∧ now < past.due
  | .passed now => past.framePacer = true → past.lastPresent ≠ 0 → past.due ≤ now
  | .presented now => ∃ time ≤ now, past.passed = some time
  | .queued frame replaced =>
      frame.buffer ∉ past.outputs.take 2
      ∧ (replaced = true
        ↔ ∃ picture,
            past.pending = some picture
            ∧ picture.frame.statsGeneration = frame.statsGeneration)
  | .unseen frame => frame.buffer ∉ past.outputs.take 2
  | .taken frame =>
      ∃ picture,
        past.pending = some picture
        ∧ picture.frame = frame
        ∧ past.writes frame.buffer = picture.writes
  | .shown frame surface =>
      surface = frame.surface
      ∧ ∃ picture,
          past.taken = some picture
          ∧ picture.frame = frame
          ∧ (past.outputs.length < picture.place + 2 → past.writes frame.buffer = picture.writes)
  | .slotless frame => past.seen.length = surfaceSlotCount ∧ frame.buffer ∉ past.seen
  | .empty frame => frame.width = 0 ∨ frame.height = 0 ∨ frame.pitch = 0
  | _ => True

end PresentationHistory

-----------------------------------------------------------------------------------------
-- The relation
-----------------------------------------------------------------------------------------

/-- A slot of the pool that is set up. -/
def readyFrame (block : Nat) : FrameSlot where
  memblock := some block
  buffer := some block
  gpuMapped := true

/-- The three buffers of a pool. -/
def poolBuffers (block : Nat) : List Nat := List.range' block vitaVideoFrameCount

/-- A picture that is where it was put out, and as it was queued unless two newer ones have been put
out.
-/
structure Intact (outputs : List Nat) (writes : Nat → Nat) (picture : Picture) : Prop where
  place : picture.place ≤ outputs.length
  output : outputs[outputs.length - picture.place]? = some picture.frame.buffer
  kept : outputs.length < picture.place + 2 → writes picture.frame.buffer = picture.writes

/-- The frame whose turn it is. -/
def PresentationState.turn (state : PresentationState) : Nat :=
  if state.phase = .queued then (state.frameIndex + 1) % vitaVideoFrameCount else state.frameIndex

/-- The pool of a decoder: its buffers are in turn. -/
structure PoolInTurn (outputs : List Nat) (pool : FramePoolState) (turn block count : Nat)
    : Prop where
  unreleased : pool.pendingRelease = false
  frames : pool.frames = (poolBuffers block).map readyFrame
  numbered : block + vitaVideoFrameCount ≤ pool.nextBlock
  robin : RoundRobin (poolBuffers block) count outputs
  turn : turn = count % vitaVideoFrameCount

/-- The slots of the page, for the buffers it has used them for. -/
structure SlotsKept (seen : List Nat) (slots : List SurfaceSlot) : Prop where
  count : slots.length = surfaceSlotCount
  used : (slots.filterMap SurfaceSlot.buffer).Perm seen
  distinct : seen.Nodup
  surfaces : ∀ slot ∈ slots, ∀ surface, slot.surface = some surface → slot.shape = some surface

/-- What the renderer and the page keep. -/
structure PresentationKept (past : PresentationHistory) (state : PresentationState) : Prop where
  targetFps : past.targetFps = state.targetFps
  framePacer : past.framePacer = state.framePacer
  positive : 0 < state.targetFps
  lastPresent : past.lastPresent = state.lastPresentTime
  early : state.lastPresentTime ≤ state.clock
  frameCount : state.pool.frames.length = vitaVideoFrameCount
  numbered : ∀ buffer ∈ past.outputs, buffer < state.pool.nextBlock
  pool : state.pool.decoder = true → ∃ block count, PoolInTurn past.outputs state.pool state.turn block count
  phase : state.phase ≠ .idle → state.pool.decoder = true
  passed : state.phase = .presenting → ∃ time ≤ state.clock, past.passed = some time
  pending : past.pending.map Picture.frame = state.pending
  closed : state.pool.page = false → state.pending = none
  taken : past.taken.map Picture.frame = state.taken
  latest : ∀ picture, past.pending = some picture → picture.place = past.outputs.length
  intact
    : ∀ picture,
        past.pending = some picture ∨ past.taken = some picture
        → Intact past.outputs past.writes picture
  slots : SlotsKept past.seen state.slots

/-- A call that keeps the renderer and the page. -/
abbrev PresentationCallKept (past : PresentationHistory)
    (outcome : PresentationState × List PresentationLabel) : Prop :=
  CallKept PresentationHistory.observe PresentationHistory.Permits PresentationKept past outcome

-----------------------------------------------------------------------------------------
-- Pictures and pools
-----------------------------------------------------------------------------------------

namespace Intact

variable {outputs : List Nat} {writes : Nat → Nat} {picture : Picture} {buffer : Nat}

/-- Writing to a buffer that is not one of the last two put out. -/
theorem written (intact : Intact outputs writes picture) (other : buffer ∉ outputs.take 2)
    : Intact outputs (Function.update writes buffer (writes buffer + 1)) picture where
  place := intact.place
  output := intact.output
  kept recent := by
    have place := intact.place
    have member : picture.frame.buffer ∈ outputs.take 2 := by
      have output := intact.output
      rw [← List.getElem?_take_of_lt (by omega : outputs.length - picture.place < 2)] at output
      exact List.mem_of_getElem? output
    have apart : picture.frame.buffer ≠ buffer := by
      rintro rfl
      exact other member
    rw [Function.update_of_ne apart]
    exact intact.kept recent

/-- Putting out another picture. -/
theorem putOut (intact : Intact outputs writes picture) (buffer : Nat)
    : Intact (buffer :: outputs) writes picture where
  place := intact.place.trans (Nat.le_succ _)
  output := by
    rw [List.length_cons, Nat.succ_sub intact.place, List.getElem?_cons_succ]
    exact intact.output
  kept recent := intact.kept (Nat.lt_of_succ_lt recent)

/-- The picture that has just been put out. -/
theorem latest (frame : Frame)
    : Intact (frame.buffer :: outputs) writes
        { frame, writes := writes frame.buffer, place := outputs.length + 1 } where
  place := Nat.le_refl _
  output := by rw [List.length_cons, Nat.sub_self, List.getElem?_cons_zero]
  kept _ := rfl

end Intact

/-- A setup loop that got through leaves each frame ready, by induction on the frames. -/
theorem allocateFrames_ready (fault : Nat → Option FrameFault) (index block : Nat)
    {frames : List FrameSlot} (ready : (allocateFrames fault index block frames).ready = true)
    : (allocateFrames fault index block frames).frames
          = (List.range' block frames.length).map readyFrame
        ∧ (allocateFrames fault index block frames).allocated.length = frames.length := by
  induction frames generalizing index block with
  | nil => exact ⟨rfl, rfl⟩
  | cons slot rest ih =>
      cases fails : fault index with
      | none =>
          simp only [allocateFrames, fails] at ready ⊢
          obtain ⟨later, many⟩ := ih (index + 1) (block + 1) ready
          rw [later, List.length_cons, List.length_cons, many, List.range'_succ, List.map_cons]
          exact ⟨rfl, rfl⟩
      | some step => cases step <;> simp [allocateFrames, fails] at ready

/-- The setup loop goes over all frames, by induction on them. -/
theorem length_allocateFrames (fault : Nat → Option FrameFault) (index block : Nat)
    (frames : List FrameSlot)
    : (allocateFrames fault index block frames).frames.length = frames.length := by
  induction frames generalizing index block with
  | nil => rfl
  | cons slot rest ih =>
      cases fails : fault index with
      | none => simp only [allocateFrames, fails, List.length_cons, ih]
      | some step => cases step <;> simp [allocateFrames, fails]

theorem length_poolBuffers (block : Nat) : (poolBuffers block).length = vitaVideoFrameCount :=
  List.length_range'

namespace PoolInTurn

variable {outputs : List Nat} {state : PresentationState} {block count : Nat}

/-- The target is the buffer whose turn it is. -/
theorem target (inTurn : PoolInTurn outputs state.pool state.turn block count)
    (here : state.phase ≠ .queued)
    : ∃ buffer,
        state.target = some buffer
        ∧ (poolBuffers block)[count % (poolBuffers block).length]? = some buffer := by
  have index := inTurn.turn
  rw [PresentationState.turn, if_neg here] at index
  have inside : count % (poolBuffers block).length < (poolBuffers block).length :=
    Nat.mod_lt _ (by rw [length_poolBuffers]; decide)
  refine ⟨_, ?_, List.getElem?_eq_getElem inside⟩
  rw [PresentationState.target, inTurn.frames, List.getElem?_map, index,
    ← length_poolBuffers block, List.getElem?_eq_getElem inside]
  rfl

/-- The target is none of the last two buffers that were put out. -/
theorem target_apart (inTurn : PoolInTurn outputs state.pool state.turn block count)
    (here : state.phase ≠ .queued) {buffer : Nat} (aimed : state.target = some buffer)
    : buffer ∉ outputs.take 2 := by
  obtain ⟨other, same, turn⟩ := inTurn.target here
  obtain rfl := Option.some.inj (same.symm.trans aimed)
  exact inTurn.robin.not_recent List.nodup_range' turn

end PoolInTurn

-----------------------------------------------------------------------------------------
-- The pool and the options
-----------------------------------------------------------------------------------------

namespace PresentationKept

variable {past : PresentationHistory} {state : PresentationState}

/-- Another state of the pool that has no decoder, or the same one as before. -/
theorem setPool (kept : PresentationKept past state) {pool : FramePoolState}
    (frameCount : pool.frames.length = vitaVideoFrameCount)
    (nextBlock : state.pool.nextBlock ≤ pool.nextBlock) (page : pool.page = state.pool.page)
    (decoder : state.phase ≠ .idle → pool.decoder = true)
    (same
      : pool.decoder = true
        → state.pool.decoder = true
          ∧ pool.pendingRelease = state.pool.pendingRelease
          ∧ pool.frames = state.pool.frames)
    : PresentationKept past { state with pool } :=
  {
    kept with
    frameCount
    numbered := fun buffer member => (kept.numbered buffer member).trans_le nextBlock
    pool := fun present => by
      obtain ⟨had, pendingRelease, frames⟩ := same present
      obtain ⟨block, count, inTurn⟩ := kept.pool had
      exact
        ⟨block, count,
          {
            inTurn with
            unreleased := pendingRelease.trans inTurn.unreleased
            frames := frames.trans inTurn.frames
            numbered := inTurn.numbered.trans nextBlock
          }⟩
    phase := decoder
    closed := page ▸ kept.closed
  }

theorem setStreamOptions (kept : PresentationKept past state) (fps : Int)
    (framePacer centerRegion : Bool)
    : PresentationCallKept past (state.setStreamOptions fps framePacer centerRegion) := by
  refine .single trivial ?_
  exact
    {
      kept with
      targetFps := rfl
      framePacer := rfl
      positive := by
        dsimp only
        split <;> omega
    }

/-- A pool that has been set up. -/
theorem startPool (kept : PresentationKept past state) (idle : state.phase = .idle)
    (fault : Nat → Option FrameFault) (frameSize : FrameSize) (statsGeneration : UInt32)
    (ready : (state.pool.startPool fault).1.decoder = true)
    : PresentationKept (past.observe .started)
        { state with
          pool := (state.pool.startPool fault).1
          frameSize, statsGeneration, frameIndex := 0, active := true, lastPresentTime := 0 } := by
  have through : (allocateFrames fault 0 state.pool.nextBlock state.pool.frames).ready = true := by
    by_contra stopped
    rw [FramePoolState.startPool] at ready
    simp only [stopped, Bool.false_eq_true, if_false] at ready
  obtain ⟨frames, many⟩ := allocateFrames_ready fault 0 state.pool.nextBlock through
  rw [kept.frameCount] at frames many
  have pool
      : (state.pool.startPool fault).1
        = { state.pool with
            decoder := true
            frames := (poolBuffers state.pool.nextBlock).map readyFrame
            pendingRelease := false
            generation := nextGeneration state.pool.generation
            nextBlock := state.pool.nextBlock + vitaVideoFrameCount } := by
    rw [FramePoolState.startPool]
    simp only [through, if_true, frames, many, poolBuffers]
  rw [pool]
  have fresh (buffer : Nat) (member : buffer ∈ past.outputs)
      : buffer ∉ poolBuffers state.pool.nextBlock := by
    intro inside
    have first := (List.mem_range'_1.mp inside).1
    exact absurd (kept.numbered buffer member) (Nat.not_lt.mpr first)
  exact
    {
      kept with
      lastPresent := rfl
      early := Nat.zero_le _
      frameCount := by rw [List.length_map, length_poolBuffers]
      numbered := fun buffer member => Nat.lt_add_right _ (kept.numbered buffer member)
      pool := fun _ =>
        ⟨state.pool.nextBlock, 0,
          {
            unreleased := rfl
            frames := rfl
            numbered := Nat.le_refl _
            robin := .start fresh
            turn := by simp [PresentationState.turn, idle]
          }⟩
      phase := fun _ => rfl
      passed := fun presenting => by cases idle.symm.trans presenting
    }

/-- A setup of the pool that leaves the renderer without a new decoder. -/
theorem setupPool (kept : PresentationKept past state) (idle : state.phase = .idle)
    {build : VideoBuild} {outcome : SetupOutcome}
    (failed : state.pool.StartsPool build outcome → (state.pool.setup build outcome).1.decoder = false)
    : PresentationKept past { state with pool := (state.pool.setup build outcome).1 } := by
  have resting : state.phase ≠ .idle → (state.pool.setup build outcome).1.decoder = true :=
    fun busy => absurd idle busy
  by_cases starts : state.pool.StartsPool build outcome
  · have empty := failed starts
    refine kept.setPool ?_ ?_ ?_ resting (fun present => absurd present (by simp [empty]))
    · rw [FramePoolState.setup, if_pos starts, FramePoolState.startPool]
      dsimp only
      split <;> simp [length_allocateFrames, kept.frameCount]
    · rw [FramePoolState.setup, if_pos starts, FramePoolState.startPool]
      dsimp only
      split <;> exact Nat.le_add_right _ _
    · rw [FramePoolState.setup, if_pos starts, FramePoolState.startPool]
      dsimp only
      split <;> rfl
  · rw [FramePoolState.setup, if_neg starts] at resting ⊢
    split
    · exact { kept with }
    · split
      · exact kept.setPool kept.frameCount (Nat.le_refl _) rfl (fun busy => absurd idle busy) nofun
      · exact { kept with }

theorem setup (kept : PresentationKept past state) (idle : state.phase = .idle) (build : VideoBuild)
    (outcome : SetupOutcome) (width height statsGeneration : UInt32)
    : PresentationCallKept past (state.setup build outcome width height statsGeneration) := by
  rw [PresentationState.setup]
  split
  · exact .silent kept
  · dsimp only
    split
    · rename_i starts
      split
      · rename_i ready
        refine .single trivial ?_
        rw [FramePoolState.setup, if_pos starts] at ready ⊢
        exact kept.startPool idle outcome.frame _ statsGeneration ready
      · rename_i failed
        have left := kept.setupPool idle fun _ => Bool.eq_false_iff.mpr failed
        exact .silent { left with pool := fun present => absurd present failed }
    · rename_i starts
      exact .silent { kept.setupPool idle fun started => absurd started starts with }

theorem cleanup (kept : PresentationKept past state) (idle : state.phase = .idle)
    (build : VideoBuild) (destroyed : Bool)
    : PresentationCallKept past (state.cleanup build destroyed) := by
  refine .single trivial ?_
  have left : PresentationKept past { state with pool := state.pool.cleanup build destroyed } := by
    rw [FramePoolState.cleanup]
    split
    · exact { kept with }
    · exact kept.setPool kept.frameCount (Nat.le_refl _) rfl (fun busy => absurd idle busy) nofun
  exact
    {
      left with
      pending := rfl
      closed := fun _ => rfl
      latest := fun picture waiting => by cases waiting
      intact := fun picture alive => kept.intact picture (alive.imp nofun id)
    }

/-- A step of a release task. -/
theorem releaseTask (kept : PresentationKept past state) (generation : UInt32)
    : PresentationKept past { state with pool := (state.pool.releaseTask generation).1 } := by
  have retained (pool : FramePoolState) (frames : pool.frames = state.pool.frames)
      (nextBlock : pool.nextBlock = state.pool.nextBlock)
      (decoder : pool.decoder = state.pool.decoder)
      (pendingRelease : pool.pendingRelease = state.pool.pendingRelease)
      (page : pool.page = state.pool.page)
      : PresentationKept past { state with pool } :=
    kept.setPool (frames ▸ kept.frameCount) (Nat.le_of_eq nextBlock.symm) page
      (fun busy => decoder.trans (kept.phase busy))
      (fun present => ⟨decoder.symm.trans present, pendingRelease, frames⟩)
  rw [FramePoolState.releaseTask]
  dsimp only
  split
  · exact retained _ rfl rfl rfl rfl rfl
  · split
    · exact retained _ rfl rfl rfl rfl rfl
    · rw [FramePoolState.releaseFrameBuffers]
      split
      · rename_i waiting
        -- Buffers wait for their release only when there is no decoder.
        have absent : state.pool.decoder ≠ true := fun present => by
          obtain ⟨_, _, inTurn⟩ := kept.pool present
          exact absurd (inTurn.unreleased.symm.trans waiting) Bool.false_ne_true
        refine kept.setPool ?_ (Nat.le_refl _) rfl kept.phase (fun present => absurd present absent)
        rw [List.length_map]
        exact kept.frameCount
      · exact retained _ rfl rfl rfl rfl rfl

-----------------------------------------------------------------------------------------
-- The submission
-----------------------------------------------------------------------------------------

/-- Going on to a phase that is not behind the queueing of a frame. -/
theorem enter (kept : PresentationKept past state) (here : state.phase ≠ .queued)
    {phase : SubmitPhase} (there : phase ≠ .queued)
    (decoder : phase ≠ .idle → state.pool.decoder = true)
    (passed : phase = .presenting → ∃ time ≤ state.clock, past.passed = some time)
    : PresentationKept past { state with phase } :=
  {
    kept with
    pool := fun present => by
      obtain ⟨block, count, inTurn⟩ := kept.pool present
      refine ⟨block, count, { inTurn with turn := ?_ }⟩
      rw [← inTurn.turn, PresentationState.turn, PresentationState.turn, if_neg here, if_neg there]
    phase := decoder
    passed
  }

/-- The clock goes on. -/
theorem wait (kept : PresentationKept past state) {now : Nat} (later : state.clock ≤ now)
    : PresentationKept past { state with clock := now } :=
  {
    kept with
    early := kept.early.trans later
    passed := fun presenting => by
      obtain ⟨time, before, same⟩ := kept.passed presenting
      exact ⟨time, before.trans later, same⟩
  }

/-- Writing to the target. -/
theorem written (kept : PresentationKept past state) {buffer : Nat}
    (apart : buffer ∉ past.outputs.take 2)
    : PresentationKept (past.observe (.written buffer)) state :=
  { kept with intact := fun picture alive => (kept.intact picture alive).written apart }

/-- The target is none of the last two buffers that were put out. -/
theorem target_apart (kept : PresentationKept past state) (decoder : state.pool.decoder = true)
    (here : state.phase ≠ .queued) {buffer : Nat} (aimed : state.target = some buffer)
    : buffer ∉ past.outputs.take 2 := by
  obtain ⟨block, count, inTurn⟩ := kept.pool decoder
  exact inTurn.target_apart here aimed

theorem submit (kept : PresentationKept past state) (idle : state.phase = .idle)
    (given assembled : Bool)
    : PresentationCallKept past (state.submit given assembled) := by
  have here : state.phase ≠ .queued := by simp [idle]
  rw [PresentationState.submit]
  split
  · rename_i buffer ready aimed
    rw [Bool.and_eq_true] at ready
    have apart := kept.target_apart ready.2 here aimed
    exact .single apart ((kept.written apart).enter here (by simp) (fun _ => ready.2) nofun)
  · exact .single trivial kept

/-- The pacer drops a picture just before it is due. -/
theorem pacerShouldDrop_iff (kept : PresentationKept past state)
    : state.pacerShouldDrop state.clock = true
      ↔ past.framePacer = true ∧ past.lastPresent ≠ 0 ∧ state.clock < past.due := by
  have positive := kept.positive
  have early := kept.early
  rw [PresentationState.pacerShouldDrop, PresentationHistory.due, kept.framePacer, kept.lastPresent,
    kept.targetFps]
  cases state.framePacer with
  | false => simp
  | true =>
      have fps : (state.targetFps == 0) = false := by
        rw [beq_eq_false_iff_ne]
        omega
      simp only [fps, Bool.not_true, Bool.or_self, Bool.false_eq_true, if_false, Bool.and_eq_true,
        bne_iff_ne, decide_eq_true_eq, true_and]
      omega

theorem decoded (kept : PresentationKept past state) (decoding : state.phase = .decoding)
    (result : Int) (numOfOutput : UInt32)
    : PresentationCallKept past (state.decoded result numOfOutput state.clock) := by
  have here : state.phase ≠ .queued := by simp [decoding]
  have decoder := kept.phase (by simp [decoding])
  have resting : PresentationKept past { state with phase := .idle } :=
    kept.enter here (by simp) (absurd rfl) nofun
  rw [PresentationState.decoded]
  split
  · exact .single trivial resting
  · split
    · split
      · rename_i drops
        exact .single (kept.pacerShouldDrop_iff.mp drops) resting
      · rename_i keeps
        have due : past.Permits (.passed state.clock) := fun paced before => by
          by_contra early
          exact keeps (kept.pacerShouldDrop_iff.mpr ⟨paced, before, Nat.lt_of_not_le early⟩)
        have passed : PresentationKept (past.observe (.passed state.clock)) state :=
          {
            kept with
            passed := fun _ => ⟨state.clock, Nat.le_refl _, rfl⟩
          }
        exact .single due
          (passed.enter here (by simp) (fun _ => decoder) fun _ => ⟨state.clock, Nat.le_refl _, rfl⟩)
    · exact .silent resting

theorem prepare (kept : PresentationKept past state) (presenting : state.phase = .presenting)
    : PresentationCallKept past (state.prepare state.clock) := by
  have here : state.phase ≠ .queued := by simp [presenting]
  have decoder := kept.phase (by simp [presenting])
  have permitted : past.Permits (.presented state.clock) := kept.passed presenting
  have prepared
      : PresentationKept (past.observe (.presented state.clock))
          { state with lastPresentTime := state.clock, phase := .prepared state.centerRegion } :=
    {
      kept.enter here (by simp : SubmitPhase.prepared state.centerRegion ≠ .queued)
        (fun _ => decoder) nofun with
      lastPresent := rfl
      early := Nat.le_refl _
      passed := nofun
    }
  rw [PresentationState.prepare]
  refine .precede permitted ?_
  split
  · cases aimed : state.target with
    | none => exact .silent prepared
    | some buffer =>
        have apart := kept.target_apart decoder here aimed
        exact .single apart (prepared.written apart)
  · exact .silent prepared

/-- Putting out the picture of the target, which waits for the page or not. -/
theorem putOut (kept : PresentationKept past state) {centred : Bool}
    (prepared : state.phase = .prepared centred) {frame : Frame} (aimed : state.target = some frame.buffer) {picture : Option Picture}
    (closed : state.pool.page = false → picture = none)
    (latest
      : ∀ waiting,
          picture = some waiting
          → waiting
            = { frame, writes := past.writes frame.buffer, place := past.outputs.length + 1 })
    : PresentationKept { past.putOut frame with pending := picture }
        { state with pending := picture.map Picture.frame, phase := .queued } := by
  have here : state.phase ≠ .queued := by simp [prepared]
  have decoder := kept.phase (by simp [prepared])
  obtain ⟨block, count, inTurn⟩ := kept.pool decoder
  obtain ⟨buffer, same, turn⟩ := inTurn.target here
  obtain rfl := Option.some.inj (aimed.symm.trans same)
  have own : frame.buffer < state.pool.nextBlock := by
    have member := (List.mem_range'_1.mp (List.mem_of_getElem? turn)).2
    exact Nat.lt_of_lt_of_le member inTurn.numbered
  have next : (state.frameIndex + 1) % vitaVideoFrameCount = (count + 1) % vitaVideoFrameCount := by
    have place := inTurn.turn
    rw [PresentationState.turn, if_neg here] at place
    rw [place, Nat.mod_add_mod]
  exact
    {
      kept with
      numbered := fun output member => by
        obtain rfl | earlier := List.mem_cons.mp member
        · exact own
        · exact kept.numbered output earlier
      pool := fun _ => ⟨block, count + 1, { inTurn with robin := inTurn.robin.next turn, turn := next }⟩
      phase := fun _ => decoder
      passed := nofun
      pending := rfl
      closed := fun absent => by rw [closed absent, Option.map_none]
      latest := fun waiting held => by rw [latest waiting held]; rfl
      intact := fun alive held => by
        obtain waiting | taken := held
        · rw [latest alive waiting]
          exact Intact.latest frame
        · exact (kept.intact alive (.inr taken)).putOut frame.buffer
    }

theorem present (kept : PresentationKept past state) {centred : Bool}
    (prepared : state.phase = .prepared centred)
    : PresentationCallKept past (state.present centred) := by
  have here : state.phase ≠ .queued := by simp [prepared]
  have decoder := kept.phase (by simp [prepared])
  obtain ⟨block, count, inTurn⟩ := kept.pool decoder
  obtain ⟨buffer, aimed, -⟩ := inTurn.target here
  have apart := inTurn.target_apart here aimed
  rw [PresentationState.present, aimed]
  dsimp only
  rw [PresentationState.queueFrame]
  split
  · rename_i opened
    refine .single ⟨apart, ?_⟩ (kept.putOut prepared aimed (fun absent => ?_) fun _ same => ?_)
    · rw [← kept.pending]
      cases past.pending <;> simp
    · exact absurd (absent.symm.trans opened) Bool.false_ne_true
    · exact (Option.some.inj same).symm
  · rename_i absent
    have none : past.pending = none := by
      rw [← Option.map_eq_none_iff, kept.pending]
      exact kept.closed (Bool.eq_false_iff.mpr absent)
    have framed : state.target = some (state.frameAt centred buffer).buffer := aimed
    have out := kept.putOut prepared framed (fun _ => none) (by simp [none])
    rw [kept.pending] at out
    exact .single apart out

theorem rotate (kept : PresentationKept past state) (queued : state.phase = .queued)
    : PresentationCallKept past (state.rotate, []) :=
  .silent
    {
      kept with
      pool := fun present => by
        obtain ⟨block, count, inTurn⟩ := kept.pool present
        refine ⟨block, count, { inTurn with turn := ?_ }⟩
        rw [← inTurn.turn, PresentationState.turn, PresentationState.turn, if_pos queued]
        rfl
      phase := absurd rfl
      passed := nofun
    }

end PresentationKept

-----------------------------------------------------------------------------------------
-- The page
-----------------------------------------------------------------------------------------

/-- A slot that is used has the frame's shape, and no surface but one over the frame. -/
theorem SurfaceSlot.use_shape {slot : SurfaceSlot} (frame : Frame) (made : Bool)
    (own : ∀ surface, slot.surface = some surface → slot.shape = some surface)
    : (slot.use frame made).shape = some frame.surface
      ∧ ∀ surface, (slot.use frame made).surface = some surface → surface = frame.surface := by
  unfold use
  by_cases same : slot.shape = some frame.surface
  · rw [if_pos same]
    cases held : slot.surface with
    | none => cases made <;> simp [same, held, eq_comm]
    | some surface =>
        have equal := Option.some.inj ((own surface held).symm.trans same)
        simp [same, held, equal]
  · rw [if_neg same]
    cases made <;> simp [eq_comm]

/-- What the search for a slot finds. -/
theorem PresentationState.findSurfaceSlot_spec {state : PresentationState} {buffer place : Nat}
    (found : state.findSurfaceSlot buffer = some place)
    : ∃ inside : place < state.slots.length,
        state.slots[place].buffer = some buffer
        ∨ state.slots[place].buffer = none
          ∧ ∀ slot ∈ state.slots, slot.buffer ≠ some buffer := by
  rw [findSurfaceSlot, Option.or_eq_some_iff] at found
  obtain own | ⟨none, free⟩ := found
  · obtain ⟨inside, same, -⟩ := List.findIdx?_eq_some_iff_getElem.mp own
    exact ⟨inside, .inl (eq_of_beq same)⟩
  · obtain ⟨inside, same, -⟩ := List.findIdx?_eq_some_iff_getElem.mp free
    refine ⟨inside, .inr ⟨Option.isNone_iff_eq_none.mp same, fun slot member own => ?_⟩⟩
    have other := List.findIdx?_eq_none_iff.mp none slot member
    exact absurd own (ne_of_beq_false other)

/-- A search without success: each slot is for another buffer. -/
theorem PresentationState.findSurfaceSlot_none {state : PresentationState} {buffer : Nat}
    (missing : state.findSurfaceSlot buffer = none)
    : ∀ slot ∈ state.slots, slot.buffer ≠ none ∧ slot.buffer ≠ some buffer := by
  rw [findSurfaceSlot, Option.or_eq_none_iff, List.findIdx?_eq_none_iff,
    List.findIdx?_eq_none_iff] at missing
  intro slot member
  refine ⟨fun free => ?_, ne_of_beq_false (missing.1 slot member)⟩
  have used := missing.2 slot member
  rw [free] at used
  cases used

namespace SlotsKept

variable {seen : List Nat} {slots : List SurfaceSlot}

theorem initial : SlotsKept [] (List.replicate surfaceSlotCount {}) where
  count := List.length_replicate
  used := by decide
  distinct := List.nodup_nil
  surfaces slot member surface held := by
    rw [List.eq_of_mem_replicate member] at held
    cases held

/-- Using a slot for a frame. -/
theorem use (kept : SlotsKept seen slots) (frame : Frame) (made : Bool) {place : Nat}
    (inside : place < slots.length)
    (found
      : slots[place].buffer = some frame.buffer
        ∨ slots[place].buffer = none ∧ ∀ slot ∈ slots, slot.buffer ≠ some frame.buffer)
    : SlotsKept (if frame.buffer ∈ seen then seen else frame.buffer :: seen)
        (slots.modify place (SurfaceSlot.use · frame made)) := by
  obtain ⟨shape, own⟩ := SurfaceSlot.use_shape frame made (kept.surfaces _ (List.getElem_mem inside))
  have before : slots = slots.take place ++ slots[place] :: slots.drop (place + 1) := by
    rw [List.cons_getElem_drop_succ, List.take_append_drop]
  have after : slots.modify place (SurfaceSlot.use · frame made)
      = slots.take place ++ slots[place].use frame made :: slots.drop (place + 1) :=
    List.modify_eq_take_cons_drop inside
  have buffer : (slots[place].use frame made).buffer = some frame.buffer := by
    rw [SurfaceSlot.buffer, shape]
    rfl
  refine ⟨by rw [List.length_modify, kept.count], ?_, ?_, ?_⟩
  · have used := kept.used
    rw [before, List.filterMap_append] at used
    rw [after, List.filterMap_append, List.filterMap_cons_some buffer]
    obtain same | ⟨free, absent⟩ := found
    · rw [List.filterMap_cons_some same] at used
      rw [if_pos (used.subset (List.mem_append_right _ List.mem_cons_self))]
      exact used
    · have fresh : frame.buffer ∉ seen := fun member => by
        obtain ⟨slot, present, same⟩ := List.mem_filterMap.mp (kept.used.symm.subset member)
        exact absent slot present same
      rw [List.filterMap_cons_none free] at used
      rw [if_neg fresh]
      exact List.perm_middle.trans (used.cons _)
  · split
    · exact kept.distinct
    · rename_i fresh
      exact List.nodup_cons.mpr ⟨fresh, kept.distinct⟩
  · intro slot member surface held
    rw [after] at member
    obtain member | member := List.mem_append.mp member
    · exact kept.surfaces slot (List.mem_of_mem_take member) surface held
    · obtain rfl | member := List.mem_cons.mp member
      · rw [shape, own surface held]
      · exact kept.surfaces slot (List.mem_of_mem_drop member) surface held

/-- Without a slot for a buffer, all of them are for others. -/
theorem full (kept : SlotsKept seen slots) {buffer : Nat}
    (taken : ∀ slot ∈ slots, slot.buffer ≠ none ∧ slot.buffer ≠ some buffer)
    : seen.length = surfaceSlotCount ∧ buffer ∉ seen := by
  constructor
  · rw [← kept.used.length_eq, ← kept.count, List.length_filterMap_eq_countP,
      List.countP_eq_length]
    exact fun slot member => Option.isSome_iff_ne_none.mpr (taken slot member).1
  · intro member
    obtain ⟨slot, present, same⟩ := List.mem_filterMap.mp (kept.used.symm.subset member)
    exact (taken slot present).2 same

end SlotsKept

namespace PresentationKept

variable {past : PresentationHistory} {state : PresentationState}

/-- A page that opens or closes, with nothing waiting for it. -/
theorem setPage (kept : PresentationKept past state) (page : Bool)
    : PresentationKept { past with pending := none, seen := [] }
        { state with
          pool := { state.pool with page }
          pending := none
          slots := List.replicate surfaceSlotCount {} } :=
  {
    kept with
    pool := fun present => by
      obtain ⟨block, count, inTurn⟩ := kept.pool present
      exact ⟨block, count, { inTurn with }⟩
    pending := rfl
    closed := fun _ => rfl
    latest := nofun
    intact := fun picture alive => kept.intact picture (alive.imp nofun id)
    slots := .initial
  }

theorem createPage (kept : PresentationKept past state) (valid : Bool)
    : PresentationCallKept past (state.createPage valid) := by
  rw [PresentationState.createPage]
  split
  · exact .single trivial (kept.setPage true)
  · exact .silent kept

/-- `PresentTask` takes the frame that waits. -/
theorem take (kept : PresentationKept past state) {frame : Frame}
    (waits : state.pending = some frame)
    : PresentationCallKept past
        ({ state with pending := none, taken := some frame }, [.taken frame]) := by
  obtain ⟨picture, waiting, rfl⟩ := Option.map_eq_some_iff.mp (kept.pending.trans waits)
  have recent : past.outputs.length < picture.place + 2 := by
    rw [kept.latest picture waiting]
    exact Nat.lt_add_of_pos_right (by decide)
  refine .single ⟨picture, waiting, rfl, (kept.intact picture (.inl waiting)).kept recent⟩ ?_
  exact
    {
      kept with
      pending := rfl
      taken := congrArg (Option.map Picture.frame) waiting
      closed := fun _ => rfl
      latest := nofun
      intact := fun other alive => kept.intact other (.inl (alive.resolve_left nofun))
    }

/-- The frame that was taken is done with. -/
theorem done (kept : PresentationKept past state) {seen : List Nat} {slots : List SurfaceSlot}
    (used : SlotsKept seen slots)
    : PresentationKept { past with taken := none, seen } { state with taken := none, slots } :=
  {
    kept with
    taken := rfl
    intact := fun picture alive => kept.intact picture (.inl (alive.resolve_right nofun))
    slots := used
  }

theorem presentFrame (kept : PresentationKept past state) {frame : Frame}
    (taken : state.taken = some frame) (made : Bool)
    : PresentationCallKept past ({ state with taken := none }.presentFrame frame made) := by
  obtain ⟨picture, held, rfl⟩ := Option.map_eq_some_iff.mp (kept.taken.trans taken)
  have intact := kept.intact picture (.inr held)
  rw [PresentationState.presentFrame]
  split
  · rename_i empty
    exact .single empty (kept.done kept.slots)
  · split
    · rename_i missing
      exact
        .single (kept.slots.full (PresentationState.findSurfaceSlot_none missing))
          (kept.done kept.slots)
    · rename_i place found
      obtain ⟨inside, free⟩ := PresentationState.findSurfaceSlot_spec found
      have after := kept.done (kept.slots.use picture.frame made inside free)
      have own :=
        (SurfaceSlot.use_shape picture.frame made
          (kept.slots.surfaces _ (List.getElem_mem inside))).2
      have used
          : (state.slots.modify place (SurfaceSlot.use · picture.frame made))[place]?
            = some (state.slots[place].use picture.frame made) := by
        rw [List.getElem?_modify_eq, List.getElem?_eq_getElem inside]
        rfl
      dsimp only
      rw [used, Option.bind_some]
      cases shown : (state.slots[place].use picture.frame made).surface with
      | none => exact .single trivial after
      | some surface => exact .single ⟨own surface shown, picture, held, rfl, intact.kept⟩ after

-----------------------------------------------------------------------------------------
-- Runs
-----------------------------------------------------------------------------------------

/-- A call of the streaming library is made in its phase. -/
theorem of_idly {phase : SubmitPhase} {outcome after : PresentationState × List PresentationLabel}
    (taken : state.idly phase outcome = some after)
    : state.phase = phase ∧ outcome = after := by
  rw [PresentationState.idly] at taken
  split at taken
  · rename_i here
    exact ⟨here, Option.some.inj taken⟩
  · cases taken

/-- One step, case by case over the choices. -/
theorem step (kept : PresentationKept past state) {build : VideoBuild} {choice : PresentationChoice}
    {outcome : PresentationState × List PresentationLabel}
    (taken : presentationStep build state choice = some outcome)
    : PresentationCallKept past outcome := by
  cases choice with
  | options fps framePacer centerRegion =>
      obtain rfl := Option.some.inj taken
      exact kept.setStreamOptions fps framePacer centerRegion
  | setup answers width height statsGeneration =>
      obtain ⟨idle, rfl⟩ := of_idly taken
      exact kept.setup idle build answers width height statsGeneration
  | cleanup destroyed =>
      obtain ⟨idle, rfl⟩ := of_idly taken
      exact kept.cleanup idle build destroyed
  | submit given assembled =>
      obtain ⟨idle, rfl⟩ := of_idly taken
      exact kept.submit idle given assembled
  | decoded result numOfOutput now =>
      simp only [presentationStep] at taken
      split at taken
      · rename_i later
        obtain ⟨decoding, rfl⟩ := of_idly taken
        exact (kept.wait later).decoded decoding result numOfOutput
      · cases taken
  | prepare now =>
      simp only [presentationStep] at taken
      split at taken
      · rename_i later
        obtain ⟨presenting, rfl⟩ := of_idly taken
        exact (kept.wait later).prepare presenting
      · cases taken
  | present =>
      simp only [presentationStep] at taken
      split at taken
      · rename_i prepared
        obtain rfl := Option.some.inj taken
        exact kept.present prepared
      · cases taken
  | rotate =>
      obtain ⟨queued, rfl⟩ := of_idly taken
      exact kept.rotate queued
  | schedule =>
      simp only [presentationStep] at taken
      split at taken
      · obtain rfl := Option.some.inj taken
        exact
          .silent
            (kept.setPool kept.frameCount (Nat.le_refl _) rfl kept.phase fun present =>
              ⟨present, rfl, rfl⟩)
      · cases taken
  | tick generation =>
      simp only [presentationStep] at taken
      split at taken
      · obtain rfl := Option.some.inj taken
        exact .silent (kept.releaseTask generation)
      · cases taken
  | createPage valid =>
      simp only [presentationStep] at taken
      split at taken
      · obtain rfl := Option.some.inj taken
        exact kept.createPage valid
      · cases taken
  | destroyPage =>
      simp only [presentationStep] at taken
      split at taken
      · obtain rfl := Option.some.inj taken
        exact .single trivial (kept.setPage false)
      · cases taken
  | take =>
      simp only [presentationStep] at taken
      split at taken
      · rename_i waits
        obtain rfl := Option.some.inj taken
        exact kept.take waits
      · cases taken
  | «show» made =>
      simp only [presentationStep] at taken
      split at taken
      · cases taken
      · rename_i held
        obtain rfl := Option.some.inj taken
        exact kept.presentFrame held made

theorem initial : PresentationKept {} {} where
  targetFps := rfl
  framePacer := rfl
  positive := by decide
  lastPresent := rfl
  early := Nat.le_refl _
  frameCount := rfl
  numbered := nofun
  pool := nofun
  phase := absurd rfl
  passed := nofun
  pending := rfl
  closed := fun _ => rfl
  taken := rfl
  latest := nofun
  intact := fun _ alive => alive.elim nofun nofun
  slots := .initial

end PresentationKept

/-- The history of a trace. -/
def presentationHistory (trace : List PresentationLabel) : PresentationHistory :=
  trace.foldl PresentationHistory.observe {}

/-- Over every interleaving of the renderer and the page, each of their steps is one that the history
before it permits.
-/
theorem presentation_in_order {build : VideoBuild} {trace : List PresentationLabel}
    {state : PresentationState} (reached : (presentationMachine build).Reaches trace state)
    : Guarded (fun before label => (presentationHistory before).Permits label) trace :=
  (reached.keeps
    (fun _ initial => initial.symm ▸ PresentationKept.initial)
    (fun _ _ _ _ kept taken => kept.step taken)).1

/-- A session whose first picture comes before the page, and whose third one is decoded between the
taking and the showing of the second.
-/
theorem presentation_in_order_session
    : let size (buffer : Nat) : Frame := ⟨buffer, 960, 544, 960, 7⟩
      Guarded (fun before label => (presentationHistory before).Permits label)
        [.options 60 true, .started, .written 0, .passed 1000, .presented 1000, .unseen (size 0),
          .pageOpened, .written 1, .paced 17000, .written 1, .passed 17666, .presented 17666,
          .queued (size 1) false, .taken (size 1), .written 2, .passed 40000,
          .shown (size 1) (size 1).surface, .presented 40100, .queued (size 2) false,
          .invalidated] :=
  let submission (now : Nat) : List PresentationChoice :=
    [.submit true true, .decoded 0 1 now, .prepare now, .present, .rotate]
  presentation_in_order
    ((presentationMachine .standard).reaches_run rfl
      ([.options 60 true false, .setup {} 1280 720 7] ++ submission 1000
        ++ [.createPage true, .submit true true, .decoded 0 1 17000] ++ submission 17666
        ++ [.take, .submit true true, .decoded 0 1 40000, .show true, .prepare 40100, .present,
          .rotate, .cleanup true])
      rfl)

end VitaMoonlight
