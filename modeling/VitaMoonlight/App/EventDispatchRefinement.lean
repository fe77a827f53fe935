import VitaMoonlight.App.EventDispatch
import VitaMoonlight.App.EventQueueRefinement

/-! The dispatch over the application's queue refines the dispatch over a coalescing queue: both
take the same steps and show the same, as long as the queue's counter does not wrap.
-/

namespace VitaMoonlight

open Library
open Library.CoalescingQueue (orderedOf)

-----------------------------------------------------------------------------------------
-- The two channels
-----------------------------------------------------------------------------------------

/-- The abstract queue as a channel; it is offered each event as the queue keeps it. -/
def waitingChannel : EventChannel (CoalescingQueue (MoonlightEvent CString)) where
  fresh image := image = {}
  push image event :=
    match image.push eventKind eventQueueCapacity (keptEvent event) with
    | some after => (after, some after.accepted.length)
    | none => (image, none)
  peek := CoalescingQueue.peek
  acknowledge := CoalescingQueue.acknowledge

namespace MoonlightEventQueue

variable {queue : MoonlightEventQueue} {image : CoalescingQueue (MoonlightEvent CString)}

theorem read_caller (queue : MoonlightEventQueue) (event : MoonlightEvent CString)
    : queue.read (event.mapAddress .caller) = event := by
  cases event with
  | mk type result hostId applicationId address => cases address <;> rfl

/-- A push that the abstract queue refuses meets a full ring. -/
theorem Refines.push_none (refines : queue.Refines image) {event : MoonlightEvent AddressPointer}
    (refused : image.push eventKind eventQueueCapacity (keptEvent (queue.read event)) = none)
    : queue.push event = (queue, -1) := by
  obtain ⟨kind, full⟩ := CoalescingQueue.push_eq_none_iff.1 refused
  rw [refines.count] at full
  have ordered : snapshotIndex event.type = none := kind
  simp only [MoonlightEventQueue.push, ordered, full, if_true]

/-- A push that the abstract queue takes finds room in the ring. -/
theorem Refines.push_accepts (refines : queue.Refines image)
    {event : MoonlightEvent AddressPointer}
    (accepted : image.push eventKind eventQueueCapacity (keptEvent (queue.read event)) ≠ none)
    : (queue.push event).2 = 0 := by
  by_contra refused
  obtain ⟨kind, full⟩ := (push_refused event).1.1 refused
  refine accepted (CoalescingQueue.push_eq_none_iff.2 ⟨kind, ?_⟩)
  rw [refines.count, full]

/-- Both channels accept the same events under the same numbers. -/
theorem Refines.channel_push (refines : queue.Refines image) (event : MoonlightEvent CString)
    (bounded : (channel.push queue event).2 ≠ none → image.accepted.length + 1 < 2 ^ 64)
    : (channel.push queue event).2 = (waitingChannel.push image event).2
      ∧ (channel.push queue event).1.Refines (waitingChannel.push image event).1 := by
  have offered := read_caller queue event
  simp only [waitingChannel]
  cases pushed : image.push eventKind eventQueueCapacity (keptEvent event) with
  | none =>
      rw [← offered] at pushed
      simp only [channel, refines.push_none pushed]
      exact ⟨trivial, refines⟩
  | some after =>
      have accepted := pushed
      rw [← offered] at accepted
      have ok := refines.push_accepts (accepted ▸ Option.some_ne_none after)
      simp only [channel] at bounded ⊢
      split at bounded
      · rename_i later same
        have matched := refines.push (bounded (by simp)) (event.mapAddress .caller)
        simp only [offered, pushed, same] at matched
        exact ⟨congrArg some matched.2.sequence, matched.2⟩
      · rename_i later result refused same
        rw [same] at ok
        exact absurd ok refused

/-- Both channels show the same head. -/
theorem Refines.channel_peek (refines : queue.Refines image) (lawful : image.Lawful eventKind)
    : (channel.peek queue).2 = (waitingChannel.peek image).2
      ∧ (channel.peek queue).1.Refines (waitingChannel.peek image).1 := by
  obtain ⟨next, same⟩ := refines.peek lawful
  have shown : (image.peek.2).isSome → image.peek.1.pinned = image.peek.2 := by
    unfold CoalescingQueue.peek
    cases pinned : image.pinned with
    | some entry => simp [pinned]
    | none => cases image.waiting <;> simp
  simp only [channel, waitingChannel]
  split
  · rename_i after event peeked
    rw [peeked] at next same
    obtain ⟨valid, stored⟩ := pending_of_peek peeked
    have pinned := next.pinned
    rw [valid, if_pos rfl] at pinned
    have present : image.peek.2.isSome := by
      rw [← Option.isSome_map (f := Stamped.event), ← same]
      rfl
    rw [shown present] at pinned
    have viewed : after.read event = after.pending.view := by
      rw [← stored]
      exact (next.pendingOwned valid).read rfl
    refine ⟨?_, next⟩
    rw [pinned, viewed]
    show some (⟨after.pending.sequence, keptEvent after.pending.view⟩ : Stamped _) = _
    rw [keptEvent_view]
    rfl
  · rename_i after peeked
    rw [peeked] at next same
    exact ⟨(Option.map_eq_none_iff.1 same.symm).symm, next⟩

end MoonlightEventQueue

-----------------------------------------------------------------------------------------
-- The simulation
-----------------------------------------------------------------------------------------

/-- The labels of accepted events, with the worker that emitted each. -/
def DispatchLabel.queued? : DispatchLabel → Option (Stamped (MoonlightEvent CString) × Option Nat)
  | .queued entry worker => some (entry, worker)
  | _ => none

/-- The accepted events of a run and their workers. -/
def queuedOf (trace : List DispatchLabel)
    : List (Stamped (MoonlightEvent CString) × Option Nat) :=
  trace.filterMap DispatchLabel.queued?

namespace DispatchState

/-- The state over the application's queue represents the one over the abstract queue. -/
structure Images (state : DispatchState MoonlightEventQueue)
    (image : DispatchState (CoalescingQueue (MoonlightEvent CString)))
    : Prop where
  foreground : image.toForegroundState = state.toForegroundState
  refines : state.events.Refines image.events
  lawful : image.events.Lawful eventKind

variable {state after : DispatchState MoonlightEventQueue}
  {image : DispatchState (CoalescingQueue (MoonlightEvent CString))}
  {emitted : List DispatchLabel}

/-- The loop takes the same step over both queues. -/
theorem Images.dispatch (images : state.Images image) (listed : Bool)
    : (image.dispatch waitingChannel listed).2
        = (state.dispatch MoonlightEventQueue.channel listed).2
      ∧ (state.dispatch MoonlightEventQueue.channel listed).1.Images
          (image.dispatch waitingChannel listed).1 := by
  obtain ⟨foreground, queue⟩ := state
  obtain ⟨same, waiting⟩ := image
  obtain ⟨rfl, refines, lawful⟩ := images
  obtain ⟨service, connectAddress, thread, jobs, begun⟩ := same
  dsimp only at refines lawful
  cases thread with
  | idle => exact ⟨rfl, rfl, refines, lawful⟩
  | looping =>
      obtain ⟨shown, next⟩ := refines.channel_peek lawful
      have kept : (waitingChannel.peek waiting).1.Lawful eventKind := lawful.peek
      simp only [DispatchState.dispatch]
      cases concrete : MoonlightEventQueue.channel.peek queue with
      | mk after head =>
          cases abstract : waitingChannel.peek waiting with
          | mk later found =>
              rw [concrete, abstract] at shown next
              rw [abstract] at kept
              obtain rfl : head = found := shown
              cases head with
              | some entry => exact ⟨rfl, rfl, next, kept⟩
              | none =>
                  cases service.getCompletedJobEvent connectAddress.text with
                  | some event => exact ⟨rfl, rfl, next, kept⟩
                  | none => exact ⟨rfl, rfl, next, kept⟩
  | peeked event stamp =>
      simp only [DispatchState.dispatch]
      cases service.prepareCompletion event with
      | mk prepared accepted => cases accepted <;> exact ⟨rfl, rfl, refines, lawful⟩
  | prepared event stamp completed =>
      simp only [DispatchState.dispatch]
      cases stamp with
      | none => exact ⟨trivial, rfl, refines, lawful⟩
      | some stamp => exact ⟨trivial, rfl, refines.acknowledge, lawful.acknowledge⟩
  | acknowledged event stamp completed =>
      simp only [DispatchState.dispatch]
      split <;> exact ⟨rfl, rfl, refines, lawful⟩
  | calling => exact ⟨rfl, rfl, refines, lawful⟩

/-- An event is accepted under the same number, or refused, by both queues. -/
theorem Images.queueEvent (images : state.Images image) (event : MoonlightEvent CString)
    (worker : Option Nat)
    (bounded
      : queuedOf (state.queueEvent MoonlightEventQueue.channel event worker).2 ≠ []
        → image.events.accepted.length + 1 < 2 ^ 64)
    : (image.queueEvent waitingChannel event worker).2
        = (state.queueEvent MoonlightEventQueue.channel event worker).2
      ∧ (state.queueEvent MoonlightEventQueue.channel event worker).1.Images
          (image.queueEvent waitingChannel event worker).1 := by
  obtain ⟨foreground, queue⟩ := state
  obtain ⟨same, waiting⟩ := image
  obtain ⟨rfl, refines, lawful⟩ := images
  dsimp only at refines lawful
  have room
      : (MoonlightEventQueue.channel.push queue event).2 ≠ none
        → waiting.accepted.length + 1 < 2 ^ 64 := by
    intro accepted
    refine bounded ?_
    simp only [DispatchState.queueEvent]
    cases pushed : MoonlightEventQueue.channel.push queue event with
    | mk after stamp =>
        cases stamp with
        | none => simp [pushed] at accepted
        | some stamp => simp [queuedOf, DispatchLabel.queued?]
  obtain ⟨shown, next⟩ := refines.channel_push event room
  have kept : (waitingChannel.push waiting event).1.Lawful eventKind := by
    simp only [waitingChannel]
    cases pushed : waiting.push eventKind eventQueueCapacity (keptEvent event) with
    | none => exact lawful
    | some after => exact lawful.push pushed
  simp only [DispatchState.queueEvent]
  cases concrete : MoonlightEventQueue.channel.push queue event with
  | mk after stamp =>
      cases abstract : waitingChannel.push waiting event with
      | mk later found =>
          rw [concrete, abstract] at shown next
          rw [abstract] at kept
          obtain rfl : stamp = found := shown
          cases stamp <;> exact ⟨rfl, rfl, next, kept⟩

/-- Every step over the application's queue is one over the abstract queue that shows the same. -/
theorem Images.step (images : state.Images image) {choice : DispatchChoice}
    (bounded : queuedOf emitted ≠ [] → image.events.accepted.length + 1 < 2 ^ 64)
    (taken : dispatchStep MoonlightEventQueue.channel state choice = some (after, emitted))
    : ∃ next, dispatchStep waitingChannel image choice = some (next, emitted) ∧ after.Images next := by
  cases choice with
  | dispatch listed =>
      obtain ⟨shown, next⟩ := images.dispatch listed
      simp only [dispatchStep, Option.some.injEq] at taken
      rw [taken] at shown next
      exact ⟨_, congrArg some (Prod.ext rfl shown), next⟩
  | page action =>
      obtain ⟨foreground, refines, lawful⟩ := images
      simp only [dispatchStep] at taken ⊢
      rw [foreground]
      split at taken
      · rename_i free
        simp only [Option.some.injEq, Prod.mk.injEq] at taken
        obtain ⟨rfl, rfl⟩ := taken
        rw [if_pos free]
        exact ⟨_, rfl, rfl, refines, lawful⟩
      · contradiction
  | posted event =>
      simp only [dispatchStep] at taken ⊢
      split at taken
      · contradiction
      · rename_i ordinary
        simp only [Option.some.injEq] at taken
        rw [if_neg ordinary]
        obtain ⟨shown, next⟩ := images.queueEvent event none (taken ▸ bounded)
        rw [taken] at shown next
        exact ⟨_, congrArg some (Prod.ext rfl shown), next⟩
  | emit index event =>
      simp only [dispatchStep, DispatchState.emit] at taken ⊢
      rw [images.foreground]
      cases found : state.jobs[index]? with
      | none => simp [found] at taken
      | some job =>
          simp only [found] at taken ⊢
          split at taken
          · contradiction
          · rename_i due
            simp only [Option.some.injEq] at taken
            rw [if_neg due]
            have marked
                : Images
                    { state with jobs := state.jobs.set index { job with emitted := true } }
                    { image with
                      toForegroundState :=
                        { state.toForegroundState with
                          jobs := state.jobs.set index { job with emitted := true } } } :=
              ⟨rfl, images.refines, images.lawful⟩
            obtain ⟨shown, next⟩ := marked.queueEvent event (some job.number) (taken ▸ bounded)
            rw [taken] at shown next
            exact ⟨_, congrArg some (Prod.ext rfl shown), next⟩
  | record index result =>
      simp only [dispatchStep, DispatchState.record] at taken ⊢
      rw [images.foreground]
      cases found : state.jobs[index]? with
      | none => simp [found] at taken
      | some job =>
          simp only [found, Option.some.injEq, Prod.mk.injEq] at taken ⊢
          obtain ⟨rfl, rfl⟩ := taken
          exact ⟨_, ⟨rfl, rfl⟩, rfl, images.refines, images.lawful⟩

end DispatchState

end VitaMoonlight
