import Mathlib.Data.List.Induction
import Mathlib.Logic.Function.Basic
import Mathlib.Order.Nat
import VitaMoonlight.Video.SystemVideo

/-! The resources of the codec over whole runs. The firmware's calls are read as a history of what
is held and where the last destruction got stuck, and each call must be permitted by it.
-/

namespace VitaMoonlight

open Library

-----------------------------------------------------------------------------------------
-- What the firmware is asked
-----------------------------------------------------------------------------------------

namespace CodecResource

/-- The resources that a resource is made from. -/
def needs : CodecResource → List CodecResource
  | .arena => []
  | .pool => [.arena]
  | .libraryContext => [.pool]
  | .decoderContext => [.pool]
  | .library => [.libraryContext, .decoderContext]
  | .decoder => [.library]

/-- The place of a resource in the order of `vita_system_video_destroy`, counted from its end. -/
def rank : CodecResource → Nat
  | .arena => 0
  | .pool => 1
  | .libraryContext => 2
  | .decoderContext => 3
  | .library => 4
  | .decoder => 5

theorem rank_lt_of_needs {base user : CodecResource} (needed : base ∈ user.needs)
    : base.rank < user.rank := by
  cases user <;> simp only [needs, List.mem_cons, List.not_mem_nil, or_false] at needed
  case library => obtain rfl | rfl := needed <;> decide
  all_goals subst needed; decide

theorem rank_inj {first second : CodecResource} (same : first.rank = second.rank)
    : first = second := by
  cases first <;> cases second <;> first | rfl | exact absurd same (by decide)

end CodecResource

/-- Everything that a held resource is made from is held. -/
def Grounded (held : CodecResource → Option Int) : Prop :=
  ∀ user, held user ≠ none → ∀ base ∈ user.needs, held base ≠ none

/-- Without an arena nothing is held at all. -/
theorem Grounded.empty {held : CodecResource → Option Int} (grounded : Grounded held)
    (absent : held .arena = none)
    : ∀ resource, held resource = none := by
  have lower {base : CodecResource} (user : CodecResource) (needed : base ∈ user.needs)
      (gone : held base = none)
      : held user = none :=
    of_not_not fun present => grounded user present base needed gone
  have pool := lower .pool (by decide) absent
  have libraryContext := lower .libraryContext (by decide) pool
  have library := lower .library (by decide) libraryContext
  intro resource
  cases resource with
  | arena => exact absent
  | pool => exact pool
  | libraryContext => exact libraryContext
  | decoderContext => exact lower .decoderContext (by decide) pool
  | library => exact library
  | decoder => exact lower .decoder (by decide) library

/-- What the labels before tell: the resources that the firmware has handed out and not taken back,
with their handles, and the one whose release failed in the last call.
-/
structure CodecHistory where
  held : CodecResource → Option Int := fun _ => none
  stuck : Option CodecResource := none

namespace CodecHistory

def observe (past : CodecHistory) : CodecLabel → CodecHistory
  | .acquired resource handle =>
      { past with held := Function.update past.held resource (some handle) }
  | .release resource _ true => { held := Function.update past.held resource none }
  | .release resource _ false => { past with stuck := some resource }
  | .created _ => past
  | .destroyed _ => past

@[simp] theorem observe_acquired_held (past : CodecHistory) (resource : CodecResource) (handle : Int)
    : (past.observe (.acquired resource handle)).held
      = Function.update past.held resource (some handle) :=
  rfl

@[simp] theorem observe_released_held (past : CodecHistory) (resource : CodecResource) (handle : Int)
    : (past.observe (.release resource handle true)).held
      = Function.update past.held resource none :=
  rfl

/-- What is held is as it was, apart from what the label itself is about, and
* a resource is acquired once, over what it is made from, and while no release is outstanding;
* a resource is released with its handle while nothing is held that is made from it, and a release
  that failed is tried again before anything else;
* a creation succeeds with everything held, is refused over an arena that is held, and else leaves
  nothing but what could not be released;
* a destruction answers 0 with nothing held, and else stops at a release that failed.
-/
def Permits (past : CodecHistory) : CodecLabel → Prop
  | .acquired resource _ =>
      past.held resource = none
      ∧ (∀ base ∈ resource.needs, past.held base ≠ none)
      ∧ past.stuck = none
  | .release resource handle _ =>
      past.held resource = some handle
      ∧ (∀ user, resource ∈ user.needs → past.held user = none)
      ∧ ∀ stuck, past.stuck = some stuck → resource = stuck
  | .created .created => ∀ resource, past.held resource ≠ none
  | .created .invalidState => past.held .arena ≠ none
  | .created _ => (∀ resource, past.held resource = none) ∨ past.stuck ≠ none
  | .destroyed result =>
      (result = 0 → ∀ resource, past.held resource = none) ∧ (result ≠ 0 → past.stuck ≠ none)

/-- What a permitted label leaves held is grounded if it was before. -/
theorem Permits.grounded {past : CodecHistory} {label : CodecLabel} (permitted : past.Permits label)
    (grounded : Grounded past.held)
    : Grounded (past.observe label).held := by
  match label, permitted with
  | .acquired resource handle, ⟨absent, bases, _⟩ =>
      intro user held base needed
      rw [observe_acquired_held] at held ⊢
      by_cases same : base = resource
      · simp [same]
      · rw [Function.update_of_ne same]
        by_cases new : user = resource
        · exact bases base (new ▸ needed)
        · rw [Function.update_of_ne new] at held
          exact grounded user held base needed
  | .release resource handle true, ⟨_, unused, _⟩ =>
      intro user held base needed
      rw [observe_released_held] at held ⊢
      by_cases gone : user = resource
      · simp [gone] at held
      · rw [Function.update_of_ne gone] at held
        by_cases same : base = resource
        · exact absurd (unused user (same ▸ needed)) held
        · rw [Function.update_of_ne same]
          exact grounded user held base needed
  | .release _ _ false, _ => exact grounded
  | .created _, _ => exact grounded
  | .destroyed _, _ => exact grounded

end CodecHistory

/-- The history of a trace. -/
def codecHistory (trace : List CodecLabel) : CodecHistory := trace.foldl CodecHistory.observe {}

/-- What is held at any point of a permitted trace is grounded, by induction on the trace. -/
theorem grounded_of_guarded {trace : List CodecLabel}
    (guarded : Guarded (fun before label => (codecHistory before).Permits label) trace)
    : Grounded (codecHistory trace).held := by
  induction trace using List.reverseRecOn with
  | nil => exact fun _ held => absurd rfl held
  | append_singleton before label ih =>
      have permitted := guarded before label [] rfl
      rw [codecHistory, List.foldl_append]
      exact permitted.grounded (ih guarded.left)

-----------------------------------------------------------------------------------------
-- The variables beside the history
-----------------------------------------------------------------------------------------

namespace SystemVideo

/-- The handles that the static variables keep. -/
def held (video : SystemVideo) : CodecResource → Option Int
  | .arena => if video.arena ≥ 0 then some video.arena else none
  | .pool => if video.pool ≥ 0 then some video.pool else none
  | .libraryContext =>
      if video.libraryContext = 0 then none else some video.libraryContext.toNat
  | .decoderContext =>
      if video.decoderContext = 0 then none else some video.decoderContext.toNat
  | .library => if video.libraryInitialized then some 0 else none
  | .decoder => if video.decoderCreated then some 0 else none

variable (video : SystemVideo)

@[simp] theorem held_arena (arena : Int)
    : held { video with arena }
      = Function.update video.held .arena (if arena ≥ 0 then some arena else none) := by
  funext resource
  cases resource <;> rfl

@[simp] theorem held_pool (pool : Int)
    : held { video with pool }
      = Function.update video.held .pool (if pool ≥ 0 then some pool else none) := by
  funext resource
  cases resource <;> rfl

@[simp] theorem held_libraryContext (libraryContext : UInt32)
    : held { video with libraryContext }
      = Function.update video.held .libraryContext
          (if libraryContext = 0 then none else some libraryContext.toNat) := by
  funext resource
  cases resource <;> rfl

@[simp] theorem held_decoderContext (decoderContext : UInt32)
    : held { video with decoderContext }
      = Function.update video.held .decoderContext
          (if decoderContext = 0 then none else some decoderContext.toNat) := by
  funext resource
  cases resource <;> rfl

@[simp] theorem held_library (libraryInitialized : Bool)
    : held { video with libraryInitialized }
      = Function.update video.held .library (if libraryInitialized then some 0 else none) := by
  funext resource
  cases resource <;> rfl

@[simp] theorem held_decoder (decoderCreated : Bool)
    : held { video with decoderCreated }
      = Function.update video.held .decoder (if decoderCreated then some 0 else none) := by
  funext resource
  cases resource <;> rfl

end SystemVideo

/-- The variables agree with the history, what is held is grounded, and a release that failed was
the first that is still to be made.
-/
structure CodecKept (past : CodecHistory) (video : SystemVideo) : Prop where
  holds : past.held = video.held
  grounded : Grounded past.held
  stuck
    : ∀ stuck,
        past.stuck = some stuck
        → past.held stuck ≠ none ∧ ∀ later, stuck.rank < later.rank → past.held later = none

namespace CodecKept

variable {past : CodecHistory} {video after : SystemVideo}

theorem of_held_eq (kept : CodecKept past video) (same : after.held = video.held)
    : CodecKept past after :=
  { kept with holds := kept.holds.trans same.symm }

/-- A release that succeeds takes the last resource in use. -/
theorem released (kept : CodecKept past video) {resource : CodecResource} {handle : Int}
    (permitted : past.Permits (.release resource handle true))
    (clears : after.held = Function.update video.held resource none)
    : CodecKept (past.observe (.release resource handle true)) after where
  holds := by rw [clears, ← kept.holds]; rfl
  grounded := permitted.grounded kept.grounded
  stuck := fun _ outstanding => absurd outstanding.symm (Option.some_ne_none _)

theorem refused (kept : CodecKept past video) {resource : CodecResource} (handle : Int)
    (held : past.held resource ≠ none)
    (last : ∀ later, resource.rank < later.rank → past.held later = none)
    : CodecKept (past.observe (.release resource handle false)) video where
  holds := kept.holds
  grounded := kept.grounded
  stuck := fun _ same => Option.some.inj same ▸ ⟨held, last⟩

theorem acquired (kept : CodecKept past video) {resource : CodecResource} {handle : Int}
    (permitted : past.Permits (.acquired resource handle))
    (takes : after.held = Function.update video.held resource (some handle))
    : CodecKept (past.observe (.acquired resource handle)) after where
  holds := by rw [takes, ← kept.holds]; rfl
  grounded := permitted.grounded kept.grounded
  stuck := fun _ same => absurd (same.symm.trans permitted.2.2) (Option.some_ne_none _)

end CodecKept

/-- A call of `vita_system_video_destroy`, or the rest of one, kept to what is permitted: it took
everything back, or stopped at a release that failed.
-/
structure CodecGivenBack (past : CodecHistory) (outcome : SystemVideo × Int × List CodecLabel)
    : Prop where
  permitted : AllPermitted CodecHistory.observe CodecHistory.Permits past outcome.2.2
  kept : CodecKept (outcome.2.2.foldl CodecHistory.observe past) outcome.1
  done
    : outcome.2.1 = 0
      → ∀ resource, (outcome.2.2.foldl CodecHistory.observe past).held resource = none
  stopped : outcome.2.1 ≠ 0 → (outcome.2.2.foldl CodecHistory.observe past).stuck ≠ none

namespace SystemVideo

/-- One stage of the destruction: if the stages below it give back what is left once this resource
is gone, then so does this stage.
-/
theorem release_givesBack {resource : CodecResource} {holds : SystemVideo → Bool}
    {handle : SystemVideo → Int} {answer : Int} {clear : SystemVideo → SystemVideo}
    {next : SystemVideo → SystemVideo × Int × List CodecLabel}
    (shows : ∀ video, video.held resource = if holds video then some (handle video) else none)
    (clears : ∀ video, (clear video).held = Function.update video.held resource none)
    (below
      : ∀ past video,
          CodecKept past video
          → (∀ later, resource.rank ≤ later.rank → past.held later = none)
          → CodecGivenBack past (next video))
    {past : CodecHistory} {video : SystemVideo} (kept : CodecKept past video)
    (last : ∀ later, resource.rank < later.rank → past.held later = none)
    : CodecGivenBack past (release resource holds handle answer clear next video) := by
  have shown := shows video
  rw [← kept.holds] at shown
  have above (absent : past.held resource = none) (later : CodecResource)
      (order : resource.rank ≤ later.rank)
      : past.held later = none := by
    obtain lower | same := Nat.lt_or_eq_of_le order
    · exact last later lower
    · exact CodecResource.rank_inj same ▸ absent
  unfold release
  split
  · rename_i holding
    rw [if_pos holding] at shown
    have present : past.held resource ≠ none := shown ▸ Option.some_ne_none _
    have permitted (succeeds : Bool)
        : past.Permits (.release resource (handle video) succeeds) := by
      refine ⟨shown, fun user needed => last user (CodecResource.rank_lt_of_needs needed), ?_⟩
      intro stuck outstanding
      obtain ⟨kept, free⟩ := kept.stuck stuck outstanding
      -- What got stuck is held, so it is not above this stage, and nothing above it is held.
      refine CodecResource.rank_inj (Nat.le_antisymm (not_lt.1 fun lower => ?_) (not_lt.1 fun upper => ?_))
      · exact absurd (free resource lower) present
      · exact kept (last stuck upper)
    split
    · rename_i failed
      exact
        {
          permitted := ⟨permitted false, trivial⟩
          kept := kept.refused (handle video) present last
          done := fun zero => absurd zero (Int.ne_of_lt failed)
          stopped := fun _ => Option.some_ne_none _
        }
    · have later := kept.released (permitted true) (clears video)
      have rest := below _ _ later fun user order => by
        by_cases same : user = resource
        · simp [same]
        · rw [CodecHistory.observe_released_held, Function.update_of_ne same]
          exact last user (order.lt_of_ne fun equal => same (CodecResource.rank_inj equal.symm))
      exact
        {
          permitted := ⟨permitted true, rest.permitted⟩
          kept := rest.kept
          done := rest.done
          stopped := rest.stopped
        }
  · rename_i absent
    rw [if_neg absent] at shown
    exact below past video kept (above shown)

/-- `vita_system_video_destroy` keeps to what is permitted, stage by stage from its end. -/
theorem destroy_givesBack {past : CodecHistory} {video : SystemVideo} (kept : CodecKept past video)
    (answers : DestroyAnswers)
    : CodecGivenBack past (video.destroy answers) := by
  have ended (past : CodecHistory) (video : SystemVideo) (kept : CodecKept past video)
      (last : ∀ later, CodecResource.arena.rank ≤ later.rank → past.held later = none)
      : CodecGivenBack past (destroyed video) :=
    {
      permitted := trivial
      kept := kept.of_held_eq rfl
      done := fun _ resource => last resource (Nat.zero_le _)
      stopped := fun zero => absurd rfl zero
    }
  have arena (past : CodecHistory) (video : SystemVideo) (kept : CodecKept past video)
      (last : ∀ later, CodecResource.pool.rank ≤ later.rank → past.held later = none)
      : CodecGivenBack past (releaseArena answers video) :=
    release_givesBack (fun _ => by simp [held]) (fun _ => by simp) ended kept last
  have pool (past : CodecHistory) (video : SystemVideo) (kept : CodecKept past video)
      (last : ∀ later, CodecResource.libraryContext.rank ≤ later.rank → past.held later = none)
      : CodecGivenBack past (releasePool answers video) :=
    release_givesBack (fun _ => by simp [held]) (fun _ => by simp) arena kept last
  have libraryContext (past : CodecHistory) (video : SystemVideo) (kept : CodecKept past video)
      (last : ∀ later, CodecResource.decoderContext.rank ≤ later.rank → past.held later = none)
      : CodecGivenBack past (releaseLibraryContext answers video) :=
    release_givesBack (fun _ => by simp [held]) (fun _ => by simp) pool kept last
  have decoderContext (past : CodecHistory) (video : SystemVideo) (kept : CodecKept past video)
      (last : ∀ later, CodecResource.library.rank ≤ later.rank → past.held later = none)
      : CodecGivenBack past (releaseDecoderContext answers video) :=
    release_givesBack (fun _ => by simp [held]) (fun _ => by simp) libraryContext kept last
  have library (past : CodecHistory) (video : SystemVideo) (kept : CodecKept past video)
      (last : ∀ later, CodecResource.decoder.rank ≤ later.rank → past.held later = none)
      : CodecGivenBack past (releaseLibrary answers video) :=
    release_givesBack (fun _ => by simp [held]) (fun _ => by simp) decoderContext kept last
  change CodecGivenBack past (releaseDecoder answers video)
  refine release_givesBack (fun _ => by simp [held]) (fun _ => by simp) library kept
    fun later upper => ?_
  cases later <;> exact absurd upper (by decide)

end SystemVideo

-----------------------------------------------------------------------------------------
-- Acquiring
-----------------------------------------------------------------------------------------

/-- A call of `vita_system_video_create`, or the rest of one, kept to what is permitted, its answer
included.
-/
structure CodecBuilt (past : CodecHistory) (outcome : SystemVideo × CreateResult × List CodecLabel)
    : Prop where
  permitted : AllPermitted CodecHistory.observe CodecHistory.Permits past outcome.2.2
  kept : CodecKept (outcome.2.2.foldl CodecHistory.observe past) outcome.1
  answered
    : (outcome.2.2.foldl CodecHistory.observe past).Permits (.created outcome.2.1)

/-- A label in front of the rest of a call. -/
theorem CodecBuilt.after {past : CodecHistory} {label : CodecLabel}
    {outcome : SystemVideo × CreateResult × List CodecLabel} (permitted : past.Permits label)
    (rest : CodecBuilt (past.observe label) outcome)
    : CodecBuilt past (outcome.1, outcome.2.1, label :: outcome.2.2) where
  permitted := ⟨permitted, rest.permitted⟩
  kept := rest.kept
  answered := rest.answered

/-- The first resources in the order of acquiring are held, no other one is, and no release is
outstanding.
-/
structure CodecStacked (past : CodecHistory) (count : Nat) : Prop where
  below : ∀ resource, resource.rank < count → past.held resource ≠ none
  above : ∀ resource, count ≤ resource.rank → past.held resource = none
  idle : past.stuck = none

namespace CodecStacked

variable {past : CodecHistory} {resource : CodecResource}

theorem permits (stacked : CodecStacked past resource.rank) (handle : Int)
    : past.Permits (.acquired resource handle) :=
  ⟨stacked.above resource le_rfl,
    fun base needed => stacked.below base (CodecResource.rank_lt_of_needs needed), stacked.idle⟩

theorem next (stacked : CodecStacked past resource.rank) (handle : Int)
    : CodecStacked (past.observe (.acquired resource handle)) (resource.rank + 1) where
  below other order := by
    rw [CodecHistory.observe_acquired_held]
    by_cases same : other = resource
    · simp [same]
    · rw [Function.update_of_ne same]
      exact stacked.below other
        ((Nat.lt_succ_iff.1 order).lt_of_ne fun equal => same (CodecResource.rank_inj equal))
  above other order := by
    have same : other ≠ resource := fun same => absurd order (by simp [same])
    rw [CodecHistory.observe_acquired_held, Function.update_of_ne same]
    exact stacked.above other (Nat.le_of_succ_le order)
  idle := stacked.idle

theorem of_no_arena {video : SystemVideo} (kept : CodecKept past video) (absent : video.arena < 0)
    : CodecStacked past 0 := by
  have empty := kept.grounded.empty (by rw [kept.holds]; simp [SystemVideo.held, absent])
  exact
    {
      below := fun _ order => absurd order (Nat.not_lt_zero _)
      above := fun resource _ => empty resource
      idle :=
        Option.eq_none_iff_forall_ne_some.2 fun stuck outstanding =>
          (kept.stuck stuck outstanding).1 (empty stuck)
    }

end CodecStacked

namespace SystemVideo

/-- The exit `fail` leaves nothing held, or stops at a release that failed. -/
theorem fail_built {past : CodecHistory} {video : SystemVideo} (kept : CodecKept past video)
    (answers : CreateAnswers) {result : CreateResult}
    (failing : result ≠ .created ∧ result ≠ .invalidState)
    : CodecBuilt past (video.fail answers result) := by
  have back := destroy_givesBack kept answers.destroy
  refine ⟨back.permitted, back.kept, ?_⟩
  have leaves
      : (∀ resource,
          ((video.destroy answers.destroy).2.2.foldl CodecHistory.observe past).held resource = none)
        ∨ ((video.destroy answers.destroy).2.2.foldl CodecHistory.observe past).stuck ≠ none :=
    (Decidable.em ((video.destroy answers.destroy).2.1 = 0)).imp back.done back.stopped
  match result, failing with
  | .outOfMemory, _ => exact leaves
  | .failed _, _ => exact leaves
  | .created, ⟨created, _⟩ => exact absurd rfl created
  | .invalidState, ⟨_, refused⟩ => exact absurd rfl refused

variable {past : CodecHistory} {video : SystemVideo}

theorem createDecoder_built (kept : CodecKept past video) (answers : CreateAnswers)
    (sizes : CodecSizes) (stacked : CodecStacked past CodecResource.decoder.rank)
    : CodecBuilt past (video.createDecoder answers sizes) := by
  have prepared
      : CodecKept past
          { video with
            decoder := { buffer := video.decoderContext, size := sizes.frameStoreSize } } :=
    { kept with holds := kept.holds }
  unfold createDecoder
  dsimp only
  split
  · exact fail_built prepared answers ⟨by simp, by simp⟩
  · refine ⟨⟨stacked.permits 0, trivial⟩, prepared.acquired (stacked.permits 0) ?_, fun resource => ?_⟩
    · funext resource
      cases resource <;> rfl
    · exact (stacked.next 0).below resource (by cases resource <;> decide)

theorem initLibrary_built (kept : CodecKept past video) (answers : CreateAnswers)
    (sizes : CodecSizes) (stacked : CodecStacked past CodecResource.library.rank)
    : CodecBuilt past (video.initLibrary answers sizes) := by
  unfold initLibrary
  split
  · exact fail_built kept answers ⟨by simp, by simp⟩
  · refine .after (stacked.permits 0)
      (createDecoder_built (kept.acquired (stacked.permits 0) ?_) answers sizes (stacked.next 0))
    funext resource
    cases resource <;> rfl

/-- Both contexts are asked for before either answer is looked at, so one that was handed out alone
is given back alone.
-/
theorem allocContexts_built (kept : CodecKept past video) (answers : CreateAnswers)
    (sizes : CodecSizes) (stacked : CodecStacked past CodecResource.libraryContext.rank)
    : CodecBuilt past (video.allocContexts answers sizes) := by
  have absent : video.held .decoderContext = none := by
    rw [← kept.holds]
    exact stacked.above .decoderContext (by decide)
  have without : video.held .libraryContext = none := by
    rw [← kept.holds]
    exact stacked.above .libraryContext (by decide)
  unfold allocContexts
  dsimp only
  by_cases library : answers.allocLibraryContext = 0 <;>
    by_cases decoder : answers.allocDecoderContext = 0 <;>
    simp only [library, decoder, if_true, if_false, true_or, or_true, or_self, List.nil_append,
      List.cons_append]
  · have same
        : held { video with libraryContext := 0, decoderContext := 0 } = video.held := by
      funext resource
      cases resource <;> simp_all [held]
    exact fail_built (kept.of_held_eq same) answers
      (by decide : CreateResult.outOfMemory ≠ .created ∧ CreateResult.outOfMemory ≠ .invalidState)
  · have permitted
        : past.Permits (.acquired .decoderContext answers.allocDecoderContext.toNat) :=
      ⟨stacked.above .decoderContext (by decide),
        fun base needed => stacked.below base (by simp_all [CodecResource.needs, CodecResource.rank]),
        stacked.idle⟩
    refine .after permitted (fail_built (kept.acquired permitted ?_) answers (by decide))
    funext resource
    cases resource <;> simp_all [held]
  · refine .after (stacked.permits _)
      (fail_built (kept.acquired (stacked.permits _) ?_) answers (by decide))
    funext resource
    cases resource <;> simp_all [held]
  · let taken := CodecLabel.acquired .libraryContext answers.allocLibraryContext.toNat
    have first
        : CodecKept (past.observe taken)
            { video with libraryContext := answers.allocLibraryContext } :=
      kept.acquired (stacked.permits _) (by simp [library])
    have second : CodecStacked (past.observe taken) CodecResource.decoderContext.rank :=
      stacked.next _
    refine .after (stacked.permits _)
      (.after (second.permits _)
        (initLibrary_built (first.acquired (second.permits _) ?_) answers sizes (second.next _)))
    exact (held_decoderContext { video with libraryContext := answers.allocLibraryContext } _).trans
      (by rw [if_neg decoder])

theorem openPool_built (kept : CodecKept past video) (answers : CreateAnswers)
    (sizes : CodecSizes) (stacked : CodecStacked past CodecResource.pool.rank)
    : CodecBuilt past (video.openPool answers sizes) := by
  unfold openPool
  split
  · exact fail_built kept answers ⟨by simp, by simp⟩
  · dsimp only
    split
    · rename_i failed
      refine fail_built (kept.of_held_eq ?_) answers ⟨by simp, by simp⟩
      rw [held_pool, if_neg (Int.not_le.2 failed), Function.update_eq_self_iff, ← kept.holds]
      exact (stacked.above .pool le_rfl).symm
    · rename_i opened
      refine .after (stacked.permits answers.openPool)
        (allocContexts_built (kept.acquired (stacked.permits _) ?_) answers sizes (stacked.next _))
      rw [held_pool, if_pos (Int.not_lt.1 opened)]

theorem allocArena_built (kept : CodecKept past video) (answers : CreateAnswers)
    (sizes : CodecSizes) (stacked : CodecStacked past CodecResource.arena.rank)
    : CodecBuilt past (video.allocArena answers sizes) := by
  unfold allocArena
  dsimp only
  split
  · rename_i failed
    refine fail_built (kept.of_held_eq ?_) answers ⟨by simp, by simp⟩
    rw [held_arena, if_neg (Int.not_le.2 failed), Function.update_eq_self_iff, ← kept.holds]
    exact (stacked.above .arena le_rfl).symm
  · rename_i allocated
    refine .after (stacked.permits answers.allocArena)
      (openPool_built (kept.acquired (stacked.permits _) ?_) answers sizes (stacked.next _))
    rw [held_arena, if_pos (Int.not_lt.1 allocated)]

/-- `vita_system_video_create` keeps to what is permitted. -/
theorem create_built (kept : CodecKept past video) (answers : CreateAnswers)
    : CodecBuilt past (video.create answers) := by
  unfold create
  split
  · rename_i retained
    refine ⟨trivial, kept, ?_⟩
    change past.held .arena ≠ none
    rw [kept.holds]
    simp [held, retained]
  · rename_i free
    have stacked := CodecStacked.of_no_arena kept (Int.not_le.1 free)
    have empty : ∀ resource, past.held resource = none :=
      fun resource => stacked.above resource (Nat.zero_le _)
    split
    · exact ⟨trivial, kept, .inl empty⟩
    · split
      · exact ⟨trivial, kept, .inl empty⟩
      · dsimp only
        split
        · exact allocArena_built kept answers _ stacked
        · exact ⟨trivial, kept, .inl empty⟩

end SystemVideo

-----------------------------------------------------------------------------------------
-- Runs
-----------------------------------------------------------------------------------------

/-- What holds of the codec's resources over a run: at every point of the trace what is held is
grounded, every call is permitted by the calls before it, the variables keep exactly what is held,
and a creation over a retained arena changes nothing.
-/
structure CodecInOrder (trace : List CodecLabel) (video : SystemVideo) : Prop where
  grounded : ∀ before after, trace = before ++ after → Grounded (codecHistory before).held
  permitted : Guarded (fun before label => (codecHistory before).Permits label) trace
  holds : (codecHistory trace).held = video.held
  refuses : video.arena ≥ 0 → ∀ answers, video.create answers = (video, .invalidState, [])

/-- One call keeps the history and the variables together. -/
theorem codecStep_kept {past : CodecHistory} {video after : SystemVideo} {choice : CodecChoice}
    {emitted : List CodecLabel} (kept : CodecKept past video)
    (taken : codecStep video choice = some (after, emitted))
    : AllPermitted CodecHistory.observe CodecHistory.Permits past emitted
      ∧ CodecKept (emitted.foldl CodecHistory.observe past) after := by
  cases choice with
  | create answers =>
      obtain ⟨rfl, rfl⟩ := Prod.mk.inj (Option.some.inj taken)
      have built := SystemVideo.create_built kept answers
      rw [List.foldl_append]
      exact ⟨built.permitted.append ⟨built.answered, trivial⟩, built.kept⟩
  | destroy answers =>
      obtain ⟨rfl, rfl⟩ := Prod.mk.inj (Option.some.inj taken)
      have back := SystemVideo.destroy_givesBack kept answers
      rw [List.foldl_append]
      exact ⟨back.permitted.append ⟨⟨back.done, back.stopped⟩, trivial⟩, back.kept⟩

/-- The codec's resources are in order over every run of creations and destructions, whatever the
firmware answers.
-/
theorem codec_in_order {trace : List CodecLabel} {video : SystemVideo}
    (reached : codecMachine.Reaches trace video)
    : CodecInOrder trace video := by
  obtain ⟨permitted, kept⟩ :=
    reached.invariant
      (fun trace video =>
        Guarded (fun before label => (codecHistory before).Permits label) trace
        ∧ CodecKept (codecHistory trace) video)
      (fun video initial => by
        subst initial
        refine ⟨Guarded.nil _, ?_, ?_, ?_⟩
        · funext resource
          cases resource <;> rfl
        · exact fun _ held => absurd rfl held
        · exact fun _ outstanding => absurd outstanding.symm (Option.some_ne_none _))
      (fun trace video choice after emitted ⟨permitted, kept⟩ taken => by
        obtain ⟨allowed, next⟩ := codecStep_kept kept taken
        refine ⟨permitted.append allowed.allowedAfter, ?_⟩
        rw [codecHistory, List.foldl_append]
        exact next)
  exact
    {
      grounded := fun before after split => grounded_of_guarded (split ▸ permitted).left
      permitted
      holds := kept.holds
      refuses := fun retained answers => if_pos retained
    }

/-- A destruction that gets stuck at the pool, a creation that is refused over it, and the
destruction that goes on from there.
-/
theorem codec_in_order_resumed
    : CodecInOrder
        [.acquired .arena 4, .acquired .pool 5, .acquired .libraryContext 0x81000000,
          .acquired .decoderContext 0x81200000, .acquired .library 0, .acquired .decoder 0,
          .created .created, .release .decoder 0 true, .release .library 0 true,
          .release .decoderContext 0x81200000 true, .release .libraryContext 0x81000000 true,
          .release .pool 5 false, .destroyed (-7), .created .invalidState,
          .release .pool 5 true, .release .arena 4 true, .destroyed 0]
        {} :=
  let answers : CreateAnswers :=
    {
      librarySize := 0x180000
      frameMemSize := 0x280000
      allocArena := 4
      openPool := 5
      allocLibraryContext := 0x81000000
      allocDecoderContext := 0x81200000
    }
  codec_in_order
    (codecMachine.reaches_run rfl
      [.create answers, .destroy { closePool := -7 }, .create answers, .destroy {}]
      (by decide))

end VitaMoonlight
