import Mathlib.Data.List.Nodup
import VitaMoonlight.Video.FramePool

/-! Who owns the framebuffer blocks: every allocated block is recorded in the renderer's table or
was freed once, never under the stream page of its session and never by a release that was scheduled
before it was allocated. A setup over a pool that is still recorded loses blocks.
-/

namespace VitaMoonlight

open Library

-----------------------------------------------------------------------------------------
-- Histories
-----------------------------------------------------------------------------------------

/-- What the labels show: how many frame pools were started, the blocks allocated with the number of
their pool, the blocks freed, the pool for which the stream page was created, and the pool at which a
release was last scheduled for a generation.
-/
structure FramePoolHistory where
  pools : Nat := 0
  allocated : List (Nat × Nat) := []
  freed : List Nat := []
  page : Option Nat := none
  scheduled : UInt32 → Nat := fun _ => 0

namespace FramePoolHistory

/-- The history after one more label. -/
def observe (past : FramePoolHistory) : FramePoolLabel → FramePoolHistory
  | .pool => { past with pools := past.pools + 1 }
  | .allocated block => { past with allocated := past.allocated ++ [(block, past.pools)] }
  | .freed block | .released _ block => { past with freed := past.freed ++ [block] }
  | .scheduled generation =>
      { past with scheduled := Function.update past.scheduled generation past.pools }
  | .pageCreated => { past with page := some past.pools }
  | .pageDestroyed => { past with page := none }

/-- The allocated blocks. -/
def blocks (past : FramePoolHistory) : List Nat := past.allocated.map Prod.fst

/-- The block may be freed now: it is allocated, was not freed, and no page was created for its
pool.
-/
structure MayFree (past : FramePoolHistory) (block : Nat) : Prop where
  allocated : block ∈ past.blocks
  unfreed : block ∉ past.freed
  unseen : ∀ pool, (block, pool) ∈ past.allocated → past.page ≠ some pool

/-- The label may follow this history. -/
def Permits (past : FramePoolHistory) : FramePoolLabel → Prop
  | .freed block => past.MayFree block
  | .released generation block =>
      past.MayFree block
      ∧ ∀ pool, (block, pool) ∈ past.allocated → pool ≤ past.scheduled generation
  | _ => True

end FramePoolHistory

/-- The history of a trace. -/
def framePoolHistory (trace : List FramePoolLabel) : FramePoolHistory :=
  trace.foldl FramePoolHistory.observe {}

/-- The blocks of a run are neither lost nor freed wrongly: each is recorded or was freed once, and
each was freed when it might be.
-/
structure FrameBlocksKept (trace : List FramePoolLabel) (state : FramePoolState) : Prop where
  owned
    : ∀ block ∈ (framePoolHistory trace).blocks,
        block ∈ recordedBlocks state.frames ∧ (framePoolHistory trace).freed.count block = 0
        ∨ block ∉ recordedBlocks state.frames ∧ (framePoolHistory trace).freed.count block = 1
  freed : Guarded (fun before label => (framePoolHistory before).Permits label) trace

/-- A setup that starts its frame pool finds no block recorded, and no release task ticks a nonzero
multiple of 4294967295 pools after it was scheduled.
-/
def KeepsFramePool (build : VideoBuild) (trace : List FramePoolLabel) (state : FramePoolState)
    : FramePoolChoice → Prop
  | .setup outcome => state.StartsPool build outcome → recordedBlocks state.frames = []
  | .tick generation =>
      let past := framePoolHistory trace
      (past.pools - past.scheduled generation) % (2 ^ 32 - 1) = 0
      → past.scheduled generation = past.pools
  | _ => True

-----------------------------------------------------------------------------------------
-- The loops over the frames
-----------------------------------------------------------------------------------------

@[simp] theorem recordedBlocks_free (frames : List FrameSlot)
    : recordedBlocks (frames.map FrameSlot.free) = [] := by
  simp [recordedBlocks, FrameSlot.free]

section

variable (fault : Nat → Option FrameFault) (index block : Nat)

/-- The setup loop numbers its blocks from the next one on, by induction on the frames. -/
theorem allocateFrames_numbered (frames : List FrameSlot)
    : let allocated := (allocateFrames fault index block frames).allocated
      allocated = List.range' block allocated.length := by
  induction frames generalizing index block with
  | nil => rfl
  | cons slot rest ih =>
      cases fails : fault index with
      | none =>
          simp only [allocateFrames, fails, List.length_cons, List.range'_succ]
          rw [← ih (index + 1) (block + 1)]
      | some step => cases step <;> simp [allocateFrames, fails]

/-- Over frames without blocks the setup loop records just what it allocates, by induction on the
frames.
-/
theorem allocateFrames_records {frames : List FrameSlot} (clear : recordedBlocks frames = [])
    : let loop := allocateFrames fault index block frames
      recordedBlocks loop.frames = loop.allocated := by
  induction frames generalizing index block with
  | nil => rfl
  | cons slot rest ih =>
      have others : recordedBlocks rest = [] := by
        rw [recordedBlocks, List.filterMap_eq_nil_iff] at clear ⊢
        exact fun other member => clear other (List.mem_cons_of_mem _ member)
      cases fails : fault index with
      | none =>
          simp only [allocateFrames, fails, FrameSlot.allocate]
          rw [← ih (index + 1) (block + 1) others]
          rfl
      | some step =>
          cases step <;>
            simpa [allocateFrames, fails, FrameSlot.allocate, recordedBlocks] using others

/-- The setup loop records no blocks but its own and those recorded behind the first frame, by
induction on the frames.
-/
theorem allocateFrames_overwrites (frames : List FrameSlot)
    : let loop := allocateFrames fault index block frames
      recordedBlocks loop.frames ⊆ loop.allocated ++ recordedBlocks frames.tail := by
  induction frames generalizing index block with
  | nil => simp [allocateFrames]
  | cons slot rest ih =>
      have grows : recordedBlocks rest.tail ⊆ recordedBlocks rest := by
        unfold recordedBlocks
        exact List.filterMap_subset _ (List.tail_sublist rest).subset
      cases fails : fault index with
      | none =>
          have later := ih (index + 1) (block + 1)
          simp only [allocateFrames, fails, FrameSlot.allocate]
          intro recorded member
          rcases List.mem_cons.1 member with rfl | member
          · exact List.mem_cons_self
          · refine List.mem_cons_of_mem _ ?_
            rcases List.mem_append.1 (later member) with own | before
            · exact List.mem_append_left _ own
            · exact List.mem_append_right _ (grows before)
      | some step =>
          cases step <;> simp [allocateFrames, fails, FrameSlot.allocate, recordedBlocks]

/-- A setup loop that got through has filled the first frame. -/
theorem allocateFrames_filled {frames : List FrameSlot}
    (ready : (allocateFrames fault index block frames).ready = true)
    (empty
      : (allocateFrames fault index block frames).frames.head?.bind FrameSlot.memblock = none)
    : recordedBlocks (allocateFrames fault index block frames).frames = [] := by
  cases frames with
  | nil => rfl
  | cons slot rest =>
      cases fails : fault index with
      | none => simp [allocateFrames, fails, FrameSlot.allocate] at empty
      | some step => cases step <;> simp [allocateFrames, fails] at ready

end

-----------------------------------------------------------------------------------------
-- Histories of lists of labels
-----------------------------------------------------------------------------------------

section

variable {past : FramePoolHistory} {blocks : List Nat}

/-- Allocating some blocks, by induction on them. -/
theorem observe_allocated (past : FramePoolHistory) (blocks : List Nat)
    : (blocks.map .allocated).foldl FramePoolHistory.observe past
      = { past with allocated := past.allocated ++ blocks.map (·, past.pools) } := by
  induction blocks generalizing past with
  | nil => simp
  | cons block rest ih =>
      rw [List.map_cons, List.foldl_cons, ih]
      simp [FramePoolHistory.observe]

/-- Freeing some blocks, by induction on them. -/
theorem observe_freed (past : FramePoolHistory) (blocks : List Nat) (label : Nat → FramePoolLabel)
    (frees : ∀ past block, FramePoolHistory.observe past (label block)
      = { past with freed := past.freed ++ [block] })
    : (blocks.map label).foldl FramePoolHistory.observe past
      = { past with freed := past.freed ++ blocks } := by
  induction blocks generalizing past with
  | nil => simp
  | cons block rest ih =>
      rw [List.map_cons, List.foldl_cons, ih, frees]
      simp

/-- Freeing one block leaves another one free to go. -/
theorem FramePoolHistory.MayFree.other {block other : Nat} (may : past.MayFree block)
    (differ : block ≠ other)
    : FramePoolHistory.MayFree { past with freed := past.freed ++ [other] } block where
  allocated := may.allocated
  unfreed := by
    intro freed
    rw [List.mem_append, List.mem_singleton] at freed
    exact freed.elim may.unfreed differ
  unseen := may.unseen

/-- Distinct blocks that may be freed may be freed one after the other, by induction on them. -/
theorem permitted_freed (distinct : blocks.Nodup) (may : ∀ block ∈ blocks, past.MayFree block)
    : AllPermitted FramePoolHistory.observe FramePoolHistory.Permits past
        (blocks.map .freed) := by
  induction blocks generalizing past with
  | nil => trivial
  | cons block rest ih =>
      rw [List.nodup_cons] at distinct
      rw [List.forall_mem_cons] at may
      refine ⟨may.1, ih distinct.2 fun later member => ?_⟩
      exact (may.2 later member).other fun same => distinct.1 (same ▸ member)

/-- The same for a release, whose blocks are not from a later pool. -/
theorem permitted_released {generation : UInt32} (distinct : blocks.Nodup)
    (may : ∀ block ∈ blocks, past.MayFree block)
    (earlier : ∀ block ∈ blocks, ∀ pool,
      (block, pool) ∈ past.allocated → pool ≤ past.scheduled generation)
    : AllPermitted FramePoolHistory.observe FramePoolHistory.Permits past
        (blocks.map (.released generation)) := by
  induction blocks generalizing past with
  | nil => trivial
  | cons block rest ih =>
      rw [List.nodup_cons] at distinct
      rw [List.forall_mem_cons] at may earlier
      refine ⟨⟨may.1, earlier.1⟩, ih distinct.2 (fun later member => ?_) earlier.2⟩
      exact (may.2 later member).other fun same => distinct.1 (same ▸ member)

end

-----------------------------------------------------------------------------------------
-- The invariant
-----------------------------------------------------------------------------------------

/-- The table and the freed blocks make up the allocated ones, and the page, the generation and the
tasks are those the history shows.
-/
structure FramePoolInvariant (past : FramePoolHistory) (state : FramePoolState) : Prop where
  ledger : (recordedBlocks state.frames ++ past.freed).Perm past.blocks
  filled : state.frames.head?.bind FrameSlot.memblock = none → recordedBlocks state.frames = []
  distinct : past.blocks.Nodup
  numbered : ∀ block ∈ past.blocks, block < state.nextBlock
  recent : ∀ entry ∈ past.allocated, entry.2 ≤ past.pools
  page : state.page = past.page.isSome
  opened : ∀ pool, past.page = some pool → pool ≤ past.pools
  generation : state.generation = nextGeneration^[past.pools] 0
  tasks
    : ∀ generation ∈ state.tasks,
        past.scheduled generation ≤ past.pools
        ∧ generation = nextGeneration^[past.scheduled generation] 0

/-- One step keeps the invariant and emits only what the history permits. -/
structure FramePoolKeeps (past : FramePoolHistory) (after : FramePoolState)
    (emitted : List FramePoolLabel) : Prop where
  invariant : FramePoolInvariant (emitted.foldl FramePoolHistory.observe past) after
  permitted : AllPermitted FramePoolHistory.observe FramePoolHistory.Permits past emitted

namespace FramePoolInvariant

variable {past : FramePoolHistory} {state : FramePoolState}

/-- A recorded block is allocated and not freed. -/
theorem recorded (holds : FramePoolInvariant past state) {block : Nat}
    (member : block ∈ recordedBlocks state.frames)
    : block ∈ past.blocks ∧ block ∉ past.freed := by
  have distinct := holds.ledger.nodup_iff.2 holds.distinct
  refine ⟨holds.ledger.subset (List.mem_append_left _ member), fun freed => ?_⟩
  exact List.disjoint_of_nodup_append distinct member freed

/-- Each allocated block is recorded, or was freed once. -/
theorem owned (holds : FramePoolInvariant past state) {block : Nat} (member : block ∈ past.blocks)
    : block ∈ recordedBlocks state.frames ∧ past.freed.count block = 0
      ∨ block ∉ recordedBlocks state.frames ∧ past.freed.count block = 1 := by
  have once : (recordedBlocks state.frames).count block + past.freed.count block = 1 := by
    rw [← List.count_append, holds.ledger.count_eq]
    exact List.count_eq_one_of_mem holds.distinct member
  rcases Nat.eq_zero_or_pos ((recordedBlocks state.frames).count block) with none | some
  · exact .inr ⟨List.count_eq_zero.1 none, by omega⟩
  · exact .inl ⟨List.count_pos_iff.1 some, by omega⟩

/-- A step that changes neither the table nor what the history tells of. -/
theorem unchanged (holds : FramePoolInvariant past state) {after : FramePoolState}
    (frames : after.frames = state.frames) (nextBlock : after.nextBlock = state.nextBlock)
    (page : after.page = state.page) (generation : after.generation = state.generation)
    (tasks : after.tasks ⊆ state.tasks)
    : FramePoolKeeps past after [] where
  invariant :=
    { holds with
      ledger := by
        rw [frames]
        exact holds.ledger
      filled := by
        rw [frames]
        exact holds.filled
      numbered := by
        rw [nextBlock]
        exact holds.numbered
      page := page.trans holds.page
      generation := generation.trans holds.generation
      tasks := fun number member => holds.tasks number (tasks member) }
  permitted := trivial

/-- The release task frees the recorded blocks when its generation was scheduled under the current
pool.
-/
theorem releaseTask (holds : FramePoolInvariant past state) {generation : UInt32}
    (registered : generation ∈ state.tasks)
    (turns
      : (past.pools - past.scheduled generation) % (2 ^ 32 - 1) = 0
        → past.scheduled generation = past.pools)
    : FramePoolKeeps past (state.releaseTask generation).1 (state.releaseTask generation).2 := by
  have fewer : state.tasks.filter (· ≠ generation) ⊆ state.tasks := List.filter_subset_self _
  unfold FramePoolState.releaseTask
  by_cases current : (generation ≠ state.generation || state.page) = true
  · rw [if_pos (by simpa using current)]
    exact holds.unchanged rfl rfl rfl rfl fewer
  · rw [if_neg (by simpa using current)]
    simp only [ne_eq, Bool.or_eq_true, decide_eq_true_eq, not_or, Bool.not_eq_true,
      Decidable.not_not] at current
    obtain ⟨current, closed⟩ := current
    by_cases waits : state.releaseDelay ≠ 0
    · rw [if_pos waits]
      exact holds.unchanged rfl rfl rfl rfl (List.Subset.refl _)
    · rw [if_neg waits]
      unfold FramePoolState.releaseFrameBuffers
      by_cases pending : state.pendingRelease = true
      · rw [if_pos pending]
        -- the number is the current one, so it was scheduled under the current pool
        have scheduled := holds.tasks generation registered
        have same : past.scheduled generation = past.pools := by
          refine turns (generation_returns scheduled.1 ?_)
          rw [← holds.generation, ← scheduled.2, current]
        have unseen : past.page = none := by
          rw [holds.page] at closed
          exact Option.isSome_eq_false_iff.1 closed |> Option.isNone_iff_eq_none.1
        have distinct := holds.ledger.nodup_iff.2 holds.distinct
        constructor
        · rw [observe_freed _ _ _ fun _ _ => rfl]
          exact
            { holds with
              ledger := by
                simp only [recordedBlocks_free, List.nil_append]
                exact List.perm_append_comm.trans holds.ledger
              filled := fun _ => recordedBlocks_free _
              tasks := fun number member => holds.tasks number (fewer member) }
        · refine permitted_released (List.Nodup.of_append_left distinct) (fun block member => ?_)
            fun block _ pool allocated => ?_
          · obtain ⟨allocated, unfreed⟩ := holds.recorded member
            exact ⟨allocated, unfreed, fun pool _ opened => by simp [unseen] at opened⟩
          · rw [same]
            exact holds.recent _ allocated
      · rw [if_neg pending]
        exact holds.unchanged rfl rfl rfl rfl fewer

/-- The blocks that a setup loop allocates are new, and belong to the pool that it starts. -/
theorem allocates (holds : FramePoolInvariant past state) {fresh : List Nat}
    (numbered : fresh = List.range' state.nextBlock fresh.length)
    : (past.blocks ++ fresh).Nodup
      ∧ (∀ block ∈ past.blocks ++ fresh, block < state.nextBlock + fresh.length)
      ∧ ∀ block ∈ fresh, ∀ pool,
          (block, pool) ∈ past.allocated ++ fresh.map (·, past.pools + 1) → pool = past.pools + 1 := by
  have bounds : ∀ block ∈ fresh, state.nextBlock ≤ block ∧ block < state.nextBlock + fresh.length := by
    intro block member
    rw [numbered, List.mem_range'_1] at member
    exact member
  refine ⟨?_, ?_, ?_⟩
  · refine List.Nodup.append holds.distinct (numbered ▸ List.nodup_range') fun block old new => ?_
    exact Nat.lt_irrefl block (Nat.lt_of_lt_of_le (holds.numbered block old) (bounds block new).1)
  · intro block member
    rcases List.mem_append.1 member with old | new
    · exact Nat.lt_of_lt_of_le (holds.numbered block old) (Nat.le_add_right _ _)
    · exact (bounds block new).2
  · intro block new pool entry
    rcases List.mem_append.1 entry with old | entry
    · have below := holds.numbered block (List.mem_map_of_mem old)
      exact absurd below (Nat.not_lt.2 (bounds block new).1)
    · simp only [List.mem_map, Prod.mk.injEq] at entry
      obtain ⟨-, -, -, same⟩ := entry
      exact same.symm

/-- A setup over an empty table records what it allocates, or frees it again. -/
theorem startPool (holds : FramePoolInvariant past state) (fault : Nat → Option FrameFault)
    (clear : recordedBlocks state.frames = [])
    : FramePoolKeeps past (state.startPool fault).1 (state.startPool fault).2 := by
  have records := allocateFrames_records fault 0 state.nextBlock clear
  have numbered := allocateFrames_numbered fault 0 state.nextBlock state.frames
  have filled := @allocateFrames_filled fault 0 state.nextBlock state.frames
  obtain ⟨distinct, below, ownPool⟩ := holds.allocates numbered
  have ledger := holds.ledger
  rw [clear, List.nil_append] at ledger
  unfold FramePoolState.startPool
  generalize allocateFrames fault 0 state.nextBlock state.frames = loop at *
  have after
      : (FramePoolLabel.pool :: loop.allocated.map .allocated).foldl FramePoolHistory.observe past
        = { past with
            pools := past.pools + 1
            allocated := past.allocated ++ loop.allocated.map (·, past.pools + 1) } := by
    rw [List.foldl_cons, observe_allocated]
    rfl
  have quiet
      : AllPermitted FramePoolHistory.observe FramePoolHistory.Permits past
          (FramePoolLabel.pool :: loop.allocated.map .allocated) := by
    refine .of_forall fun label member now => ?_
    rcases List.mem_cons.1 member with rfl | member
    · trivial
    · obtain ⟨block, -, rfl⟩ := List.mem_map.1 member
      trivial
  have blocks
      : FramePoolHistory.blocks
          { past with
            pools := past.pools + 1
            allocated := past.allocated ++ loop.allocated.map (·, past.pools + 1) }
        = past.blocks ++ loop.allocated := by
    simp [FramePoolHistory.blocks, Function.comp_def]
  have recent
      : ∀ entry ∈ past.allocated ++ loop.allocated.map (·, past.pools + 1),
          entry.2 ≤ past.pools + 1 := by
    intro entry member
    rcases List.mem_append.1 member with old | new
    · exact Nat.le_succ_of_le (holds.recent entry old)
    · obtain ⟨block, -, rfl⟩ := List.mem_map.1 new
      exact Nat.le_refl _
  have generation : nextGeneration state.generation = nextGeneration^[past.pools + 1] 0 := by
    rw [Function.iterate_succ_apply', holds.generation]
  have tasks
      : ∀ number ∈ state.tasks,
          past.scheduled number ≤ past.pools + 1
          ∧ number = nextGeneration^[past.scheduled number] 0 := by
    intro number member
    exact ⟨Nat.le_succ_of_le (holds.tasks number member).1, (holds.tasks number member).2⟩
  by_cases ready : loop.ready = true
  · rw [if_pos ready]
    refine ⟨?_, quiet⟩
    rw [after]
    refine
      { ledger := ?_
        filled := filled ready
        distinct := blocks ▸ distinct
        numbered := blocks ▸ below
        recent
        page := holds.page
        opened := fun pool opened => Nat.le_succ_of_le (holds.opened pool opened)
        generation
        tasks }
    rw [blocks]
    exact (List.Perm.append (.of_eq records) ledger).trans List.perm_append_comm
  · rw [if_neg ready]
    refine ⟨?_, quiet.append ?_⟩
    · rw [List.foldl_append, after, observe_freed _ _ _ fun _ _ => rfl]
      refine
        { ledger := ?_
          filled := fun _ => recordedBlocks_free _
          distinct := blocks ▸ distinct
          numbered := blocks ▸ below
          recent
          page := holds.page
          opened := fun pool opened => Nat.le_succ_of_le (holds.opened pool opened)
          generation
          tasks }
      change (recordedBlocks (loop.frames.map FrameSlot.free)
        ++ (past.freed ++ recordedBlocks loop.frames)).Perm (FramePoolHistory.blocks _)
      rw [recordedBlocks_free, List.nil_append]
      exact (ledger.append (.of_eq records)).trans (.of_eq blocks.symm)
    · rw [after, records]
      refine permitted_freed (List.Nodup.of_append_right distinct) fun block member => ?_
      refine ⟨blocks ▸ List.mem_append_right _ member, fun freed => ?_, fun pool entry opened => ?_⟩
      · exact List.disjoint_of_nodup_append distinct (ledger.subset freed) member
      · -- a page that is open was created for an earlier pool
        have earlier := holds.opened pool opened
        rw [ownPool block member pool entry] at earlier
        exact absurd earlier (Nat.not_succ_le_self _)

/-- A step that meets the condition, case by case over the choices. -/
theorem step (holds : FramePoolInvariant past state) {build : VideoBuild}
    {choice : FramePoolChoice} {after : FramePoolState} {emitted : List FramePoolLabel}
    (clear
      : ∀ outcome,
          choice = .setup outcome → state.StartsPool build outcome
          → recordedBlocks state.frames = [])
    (turns
      : ∀ generation,
          choice = .tick generation
          → (past.pools - past.scheduled generation) % (2 ^ 32 - 1) = 0
          → past.scheduled generation = past.pools)
    (taken : framePoolStep build state choice = some (after, emitted))
    : FramePoolKeeps past after emitted := by
  cases choice with
  | setup outcome =>
      obtain ⟨rfl, rfl⟩ := Prod.ext_iff.1 (Option.some.inj taken)
      unfold FramePoolState.setup
      split
      · rename_i starts
        exact holds.startPool outcome.frame (clear outcome rfl starts)
      · split
        · exact holds.unchanged rfl rfl rfl rfl (List.Subset.refl _)
        · split <;> exact holds.unchanged rfl rfl rfl rfl (List.Subset.refl _)
  | cleanup destroyed =>
      obtain ⟨rfl, rfl⟩ := Prod.ext_iff.1 (Option.some.inj taken)
      unfold FramePoolState.cleanup
      split <;> exact holds.unchanged rfl rfl rfl rfl (List.Subset.refl _)
  | schedule =>
      obtain ⟨rfl, rfl⟩ := Prod.ext_iff.1 (Option.some.inj taken)
      refine ⟨{ holds with tasks := fun number member => ?_ }, trivial, trivial⟩
      change number ∈ state.tasks.filter (· ≠ state.generation) ++ [state.generation] at member
      change Function.update past.scheduled state.generation past.pools number ≤ past.pools
        ∧ number = nextGeneration^[Function.update past.scheduled state.generation past.pools number] 0
      by_cases same : number = state.generation
      · rw [same, Function.update_self]
        exact ⟨Nat.le_refl _, holds.generation⟩
      · rw [Function.update_of_ne same]
        refine holds.tasks number ?_
        rw [List.mem_append, List.mem_singleton] at member
        exact List.mem_of_mem_filter (member.resolve_right same)
  | tick generation =>
      simp only [framePoolStep] at taken
      split at taken
      · rename_i registered
        obtain ⟨rfl, rfl⟩ := Prod.ext_iff.1 (Option.some.inj taken)
        exact holds.releaseTask registered (turns generation rfl)
      · cases taken
  | createPage valid =>
      simp only [framePoolStep] at taken
      split at taken
      · obtain ⟨rfl, rfl⟩ := Prod.ext_iff.1 (Option.some.inj taken)
        refine ⟨{ holds with page := rfl, opened := fun pool opened => ?_ }, trivial, trivial⟩
        exact Nat.le_of_eq (Option.some.inj opened).symm
      · obtain ⟨rfl, rfl⟩ := Prod.ext_iff.1 (Option.some.inj taken)
        exact holds.unchanged rfl rfl rfl rfl (List.Subset.refl _)
  | destroyPage =>
      simp only [framePoolStep] at taken
      split at taken
      · obtain ⟨rfl, rfl⟩ := Prod.ext_iff.1 (Option.some.inj taken)
        exact ⟨{ holds with page := rfl, opened := fun _ opened => by cases opened }, trivial,
          trivial⟩
      · cases taken

end FramePoolInvariant

/-- The invariant and the permissions of every run whose steps meet the condition, by induction on
the run.
-/
theorem framePoolInvariant_of_reaches {build : VideoBuild} {trace : List FramePoolLabel}
    {state : FramePoolState}
    (reached : (framePoolMachine build).ReachesWhen (KeepsFramePool build) trace state)
    : FramePoolInvariant (framePoolHistory trace) state
      ∧ Guarded (fun before label => (framePoolHistory before).Permits label) trace := by
  refine reached.invariant
    (fun trace state =>
      FramePoolInvariant (framePoolHistory trace) state
      ∧ Guarded (fun before label => (framePoolHistory before).Permits label) trace) ?_ ?_
  · rintro state rfl
    refine ⟨?_, .nil _⟩
    exact
      { ledger := .refl _
        filled := fun _ => rfl
        distinct := List.nodup_nil
        numbered := fun _ member => by cases member
        recent := fun _ member => by cases member
        page := rfl
        opened := fun _ opened => by cases opened
        generation := rfl
        tasks := fun _ member => by cases member }
  · rintro trace state choice after emitted ⟨holds, guarded⟩ admitted taken
    have kept
        := holds.step (fun outcome same => by subst same; exact admitted)
          (fun generation same => by subst same; exact admitted) taken
    refine ⟨?_, guarded.append kept.permitted.allowedAfter⟩
    rw [framePoolHistory, List.foldl_append]
    exact kept.invariant

/-- In a run whose setups find no recorded block and whose release tasks are not overtaken by a
whole round of pool generations, no framebuffer block is lost, freed twice, freed under the page of
its session, or freed by a release scheduled before its setup.
-/
theorem frame_blocks_kept {build : VideoBuild} {trace : List FramePoolLabel}
    {state : FramePoolState}
    (reached : (framePoolMachine build).ReachesWhen (KeepsFramePool build) trace state)
    : FrameBlocksKept trace state := by
  obtain ⟨holds, guarded⟩ := framePoolInvariant_of_reaches reached
  exact ⟨fun _ => holds.owned, guarded⟩

/-- A setup whose second frame is not mapped, then a session with its page, whose release runs four
ticks after it was scheduled.
-/
theorem session_keeps_blocks
    : ∃ trace state,
        (framePoolHistory trace).blocks = [0, 1, 2, 3, 4]
        ∧ recordedBlocks state.frames = []
        ∧ FrameBlocksKept trace state := by
  have reached
      := (framePoolMachine .standard).reachesWhen_run (KeepsFramePool .standard) rfl
        [.setup { frame := fun index => if index = 1 then some .mapMemory else none }, .setup {},
          .createPage true, .cleanup true, .destroyPage, .schedule, .tick 2, .tick 2, .tick 2,
          .tick 2]
        (And.intro (fun _ => rfl) <| And.intro (fun _ => rfl) <| And.intro trivial <|
          And.intro trivial <| And.intro trivial <| And.intro trivial <|
          And.intro (fun _ => rfl) <| And.intro (fun _ => rfl) <| And.intro (fun _ => rfl) <|
          And.intro (fun _ => rfl) trivial)
        rfl
  exact ⟨_, _, rfl, rfl, frame_blocks_kept reached⟩

/-- The condition on setups leaves out no harmless one: a setup that starts its pool over a recorded
block loses the block of the first frame.
-/
theorem setup_over_pool_loses {build : VideoBuild} {trace : List FramePoolLabel}
    {state : FramePoolState} {outcome : SetupOutcome}
    (reached : (framePoolMachine build).ReachesWhen (KeepsFramePool build) trace state)
    (starts : state.StartsPool build outcome) (held : recordedBlocks state.frames ≠ [])
    : ¬ FrameBlocksKept (trace ++ (state.setup build outcome).2)
          (state.setup build outcome).1 := by
  obtain ⟨holds, -⟩ := framePoolInvariant_of_reaches reached
  obtain ⟨block, first⟩ := Option.ne_none_iff_exists'.1 (mt holds.filled held)
  obtain ⟨slot, rest, frames, handle⟩
      : ∃ slot rest, state.frames = slot :: rest ∧ slot.memblock = some block := by
    cases frames : state.frames with
    | nil => simp [frames] at first
    | cons slot rest => exact ⟨slot, rest, rfl, by simpa [frames] using first⟩
  have recorded : recordedBlocks state.frames = block :: recordedBlocks rest := by
    simp [recordedBlocks, frames, handle]
  obtain ⟨allocated, unfreed⟩ := holds.recorded (recorded ▸ List.mem_cons_self)
  have alone : block ∉ recordedBlocks rest := by
    have distinct := List.Nodup.of_append_left (holds.ledger.nodup_iff.2 holds.distinct)
    rw [recorded, List.nodup_cons] at distinct
    exact distinct.1
  have numbered := allocateFrames_numbered outcome.frame 0 state.nextBlock state.frames
  have overwritten := allocateFrames_overwrites outcome.frame 0 state.nextBlock state.frames
  rw [FramePoolState.setup, if_pos starts]
  unfold FramePoolState.startPool
  generalize allocateFrames outcome.frame 0 state.nextBlock state.frames = loop at *
  -- the loop has left its handle nowhere in the table
  have lost : block ∉ recordedBlocks loop.frames := by
    intro member
    rcases List.mem_append.1 (overwritten member) with own | before
    · rw [numbered, List.mem_range'_1] at own
      exact Nat.lt_irrefl _ (Nat.lt_of_lt_of_le (holds.numbered block allocated) own.1)
    · rw [frames, List.tail_cons] at before
      exact alone before
  by_cases ready : loop.ready = true
  · rw [if_pos ready]
    intro kept
    have owned := kept.owned block
    rw [framePoolHistory, List.foldl_append, List.foldl_cons, observe_allocated] at owned
    simp only [FramePoolHistory.blocks, FramePoolHistory.observe, List.map_append] at owned
    rcases owned (List.mem_append_left _ allocated) with ⟨member, -⟩ | ⟨-, once⟩
    · exact lost member
    · exact unfreed (List.count_pos_iff.1 (Nat.lt_of_lt_of_eq Nat.zero_lt_one once.symm))
  · rw [if_neg ready]
    intro kept
    have owned := kept.owned block
    rw [framePoolHistory, List.foldl_append, List.foldl_append, List.foldl_cons, observe_allocated,
      observe_freed _ _ _ fun _ _ => rfl] at owned
    simp only [FramePoolHistory.blocks, FramePoolHistory.observe, List.map_append] at owned
    rcases owned (List.mem_append_left _ allocated) with ⟨member, -⟩ | ⟨-, once⟩
    · rw [recordedBlocks_free] at member
      cases member
    · have freed := List.count_pos_iff.1 (Nat.lt_of_lt_of_eq Nat.zero_lt_one once.symm)
      exact (List.mem_append.1 freed).elim unfreed lost

/-- A session that begins before the release of the one before has run loses its blocks. -/
theorem second_setup_loses_blocks
    : ¬ ∀ build trace state,
          (framePoolMachine build).Reaches trace state → FrameBlocksKept trace state := by
  intro kept
  have reached := (framePoolMachine .standard).reaches_run rfl
    [.setup {}, .cleanup true, .setup {}] rfl
  have owned := (kept .standard _ _ reached).owned 0 (by decide)
  revert owned
  decide

end VitaMoonlight
