import VitaMoonlight.App.EventDispatchRefinement

/-! What becomes of the queued events: each is taken off the queue in order, once, or is still
underway, unless the queue replaced it by a later event of its kind.
-/

namespace VitaMoonlight

open Library
open Library.CoalescingQueue (Superseded)

/-- The dispatch over the abstract queue. -/
abbrev WaitingDispatch := DispatchState (CoalescingQueue (MoonlightEvent CString))

-----------------------------------------------------------------------------------------
-- The steps over the abstract queue
-----------------------------------------------------------------------------------------

/-- What one step does. -/
inductive DispatchMove (state : WaitingDispatch) : List DispatchLabel → WaitingDispatch → Prop
  | entered (thread : state.thread = .idle) : DispatchMove state [] { state with thread := .looping }
  | shown {events entry} (thread : state.thread = .looping)
    (peeked : state.events.peek = (events, some entry))
    : DispatchMove state []
        { state with events, thread := .peeked entry.event (some entry.stamp) }
  | synthesized {event} (thread : state.thread = .looping) (unpinned : state.events.pinned = none)
    (empty : state.events.waiting = [])
    (finished : state.service.getCompletedJobEvent state.connectAddress.text = some event)
    : DispatchMove state [] { state with thread := .peeked event none }
  | rested (thread : state.thread = .looping) (unpinned : state.events.pinned = none)
    (empty : state.events.waiting = [])
    (unfinished : state.service.getCompletedJobEvent state.connectAddress.text = none)
    : DispatchMove state [] { state with thread := .idle }
  | deferred {event stamp} (thread : state.thread = .peeked event stamp)
    (refused : (state.service.prepareCompletion event).2 = false)
    : DispatchMove state [] { state with thread := .idle }
  | prepared {event stamp} (thread : state.thread = .peeked event stamp)
    (accepted : (state.service.prepareCompletion event).2 = true)
    : DispatchMove state []
        { state with
          service := (state.service.prepareCompletion event).1
          thread :=
            .prepared event stamp
              (if completesOperation state.service.operation event.type then some state.begun
              else none) }
  | acknowledged {event stamp completed} (thread : state.thread = .prepared event stamp completed)
    : DispatchMove state []
        { state with
          events := if stamp.isSome then state.events.acknowledge else state.events
          thread := .acknowledged event stamp completed }
  | discarded {event stamp completed}
    (thread : state.thread = .acknowledged event stamp completed)
    (discovery : event.type = .discoveryChanged)
    : DispatchMove state [.discarded event stamp] { state with thread := .looping }
  | delivered {event stamp completed}
    (thread : state.thread = .acknowledged event stamp completed)
    : DispatchMove state [.delivered event stamp completed] { state with thread := .calling }
  | returned (thread : state.thread = .calling)
    : DispatchMove state [] { state with thread := .looping }
  | acted (action : PageAction) (free : state.thread = .idle ∨ state.thread = .calling)
    : DispatchMove state (state.act action).2
        { state with toForegroundState := (state.act action).1 }
  | posted {event events} (ordinary : isJobEvent event.type = false)
    (pushed : state.events.push eventKind eventQueueCapacity (keptEvent event) = some events)
    : DispatchMove state [.queued ⟨events.accepted.length, event⟩ none] { state with events }
  | refused {event} : DispatchMove state [.refused event none] state
  | emitted {index job event events} (found : state.jobs[index]? = some job)
    (due : job.emitted = false) (completes : completesOperation job.operation event.type = true)
    (pushed : state.events.push eventKind eventQueueCapacity (keptEvent event) = some events)
    : DispatchMove state [.queued ⟨events.accepted.length, event⟩ (some job.number)]
        { state with jobs := state.jobs.set index { job with emitted := true }, events }
  | lost {index job event} (found : state.jobs[index]? = some job) (due : job.emitted = false)
    : DispatchMove state [.refused event (some job.number)]
        { state with jobs := state.jobs.set index { job with emitted := true } }
  | recorded {index job} (result : Int) (found : state.jobs[index]? = some job)
    : DispatchMove state [.recorded job.number result]
        { state with
          service := state.service.recordWorkerResult result
          jobs := state.jobs.eraseIdx index }

namespace DispatchState

variable {state after : WaitingDispatch} {emitted : List DispatchLabel}

/-- A step of the loop is one of the moves. -/
theorem move_dispatch (state : WaitingDispatch) (listed : Bool)
    : DispatchMove state (state.dispatch waitingChannel listed).2
        (state.dispatch waitingChannel listed).1 := by
  unfold DispatchState.dispatch
  split
  · exact .entered ‹_›
  · rename_i thread
    obtain ⟨events, entry, peeked, -⟩ | ⟨peeked, unpinned, empty⟩ := state.events.peek_spec
    · have same : waitingChannel.peek state.events = (events, some entry) := peeked
      rw [same]
      exact .shown thread peeked
    · have same : waitingChannel.peek state.events = (state.events, none) := peeked
      rw [same]
      dsimp only
      split
      · exact .synthesized thread unpinned empty ‹_›
      · exact .rested thread unpinned empty ‹_›
  · rename_i event stamp thread
    split
    · rename_i refused
      exact .deferred thread (congrArg Prod.snd refused)
    · rename_i service accepted
      have move := DispatchMove.prepared thread (congrArg Prod.snd accepted)
      rw [accepted] at move
      exact move
  · rename_i event stamp completed thread
    exact .acknowledged thread
  · rename_i event stamp completed thread
    split
    · rename_i unlisted
      exact .discarded thread unlisted.1
    · exact .delivered thread
  · exact .returned ‹_›

/-- An event is queued under the next number, or the queue stays as it is. -/
theorem queueEvent_cases (state : WaitingDispatch) (event : MoonlightEvent CString)
    (worker : Option Nat)
    : (∃ events,
        state.events.push eventKind eventQueueCapacity (keptEvent event) = some events
        ∧ state.queueEvent waitingChannel event worker
          = ({ state with events }, [.queued ⟨events.accepted.length, event⟩ worker]))
      ∨ state.queueEvent waitingChannel event worker = (state, [.refused event worker]) := by
  unfold DispatchState.queueEvent waitingChannel
  dsimp only
  cases pushed : state.events.push eventKind eventQueueCapacity (keptEvent event) with
  | some events => exact .inl ⟨events, rfl, rfl⟩
  | none => exact .inr rfl

/-- Every step is one of the moves. -/
theorem move_step {choice : DispatchChoice}
    (taken : dispatchStep waitingChannel state choice = some (after, emitted))
    : DispatchMove state emitted after := by
  cases choice with
  | dispatch listed =>
      simp only [dispatchStep, Option.some.injEq] at taken
      have move := move_dispatch state listed
      rw [taken] at move
      exact move
  | page action =>
      simp only [dispatchStep] at taken
      split at taken
      · rename_i free
        simp only [Option.some.injEq, Prod.mk.injEq] at taken
        obtain ⟨rfl, rfl⟩ := taken
        exact .acted action free
      · contradiction
  | posted event =>
      simp only [dispatchStep] at taken
      split at taken
      · contradiction
      · rename_i ordinary
        simp only [Option.some.injEq] at taken
        obtain ⟨events, pushed, same⟩ | same := queueEvent_cases state event none
        all_goals rw [same, Prod.mk.injEq] at taken
        all_goals obtain ⟨rfl, rfl⟩ := taken
        · exact .posted (by simpa using ordinary) pushed
        · exact .refused
  | emit index event =>
      simp only [dispatchStep, DispatchState.emit] at taken
      cases found : state.jobs[index]? with
      | none => simp [found] at taken
      | some job =>
          simp only [found] at taken
          split at taken
          · contradiction
          · rename_i unspent
            simp only [Bool.or_eq_true, Bool.not_eq_true', not_or, Bool.not_eq_true,
              Bool.not_eq_false] at unspent
            simp only [Option.some.injEq] at taken
            obtain ⟨events, pushed, same⟩ | same :=
              queueEvent_cases
                { state with jobs := state.jobs.set index { job with emitted := true } } event
                (some job.number)
            all_goals rw [same, Prod.mk.injEq] at taken
            all_goals obtain ⟨rfl, rfl⟩ := taken
            · exact .emitted found unspent.1 unspent.2 pushed
            · exact .lost found unspent.1
  | record index result =>
      simp only [dispatchStep, DispatchState.record] at taken
      split at taken
      · contradiction
      · rename_i job found
        simp only [Option.some.injEq, Prod.mk.injEq] at taken
        obtain ⟨rfl, rfl⟩ := taken
        exact .recorded result found

end DispatchState

-----------------------------------------------------------------------------------------
-- Custody of the queued events
-----------------------------------------------------------------------------------------

/-- The queued event that a label hands to a page. -/
def DispatchLabel.handed? : DispatchLabel → Option (Stamped (MoonlightEvent CString))
  | .delivered event (some stamp) _ => some ⟨stamp, event⟩
  | _ => none

/-- The queued event that a label drops. -/
def DispatchLabel.dropped? : DispatchLabel → Option (Stamped (MoonlightEvent CString))
  | .discarded event (some stamp) => some ⟨stamp, event⟩
  | _ => none

/-- The event that a label takes off the queue. -/
def DispatchLabel.taken? : DispatchLabel → Option (Stamped (MoonlightEvent CString))
  | .delivered event (some stamp) _ => some ⟨stamp, event⟩
  | .discarded event (some stamp) => some ⟨stamp, event⟩
  | _ => none

/-- The queued events that were delivered. -/
def handedOf (trace : List DispatchLabel) : List (Stamped (MoonlightEvent CString)) :=
  trace.filterMap DispatchLabel.handed?

/-- The queued events that were discarded. -/
def droppedOf (trace : List DispatchLabel) : List (Stamped (MoonlightEvent CString)) :=
  trace.filterMap DispatchLabel.dropped?

/-- The queued events that were delivered or discarded. -/
def takenOf (trace : List DispatchLabel) : List (Stamped (MoonlightEvent CString)) :=
  trace.filterMap DispatchLabel.taken?

/-- What is taken off the queue is delivered or discarded. -/
theorem mem_takenOf {trace : List DispatchLabel} {entry : Stamped (MoonlightEvent CString)}
    : entry ∈ takenOf trace ↔ entry ∈ handedOf trace ∨ entry ∈ droppedOf trace := by
  have each (label : DispatchLabel)
      : label.taken? = some entry ↔ label.handed? = some entry ∨ label.dropped? = some entry := by
    rcases label with _ | _ | _ | _ | ⟨_, _ | _, _⟩ | ⟨_, _ | _⟩
    all_goals simp [DispatchLabel.taken?, DispatchLabel.handed?, DispatchLabel.dropped?]
  simp only [takenOf, handedOf, droppedOf, List.mem_filterMap, each, and_or_left, exists_or]

/-- The events that the queue has accepted, as it keeps them. -/
def acceptedOf (trace : List DispatchLabel) : List (Stamped (MoonlightEvent CString)) :=
  (queuedOf trace).map fun (entry, _) => ⟨entry.stamp, keptEvent entry.event⟩

namespace DispatchPoint

/-- The event that is off the queue and not delivered yet. -/
def inHand : DispatchPoint → List (Stamped (MoonlightEvent CString))
  | .acknowledged event (some stamp) _ => [⟨stamp, event⟩]
  | _ => []

/-- What the main thread knows of the pinned event. -/
def Pins (pinned : Option (Stamped (MoonlightEvent CString))) : DispatchPoint → Prop
  | .idle | .looping => True
  | .peeked event stamp | .prepared event stamp _ => pinned = stamp.map (⟨·, event⟩)
  | .acknowledged _ _ _ | .calling => pinned = none

end DispatchPoint

/-- The queue holds what was accepted and not taken; only discovery events are discarded. -/
structure QueueCustody (trace : List DispatchLabel) (state : WaitingDispatch) : Prop where
  lawful : state.events.Lawful eventKind
  accepted : state.events.accepted = acceptedOf trace
  delivered
    : state.events.delivered = takenOf trace ++ state.thread.inHand ++ state.events.pinned.toList
  pinned : state.thread.Pins state.events.pinned
  dropped : ∀ entry ∈ droppedOf trace, entry.event.type = .discoveryChanged

namespace QueueCustody

variable {trace : List DispatchLabel} {state after : WaitingDispatch}
  {emitted : List DispatchLabel}

@[simp] theorem takenOf_append (trace emitted : List DispatchLabel)
    : takenOf (trace ++ emitted) = takenOf trace ++ takenOf emitted :=
  List.filterMap_append

@[simp] theorem droppedOf_append (trace emitted : List DispatchLabel)
    : droppedOf (trace ++ emitted) = droppedOf trace ++ droppedOf emitted :=
  List.filterMap_append

@[simp] theorem acceptedOf_append (trace emitted : List DispatchLabel)
    : acceptedOf (trace ++ emitted) = acceptedOf trace ++ acceptedOf emitted := by
  simp [acceptedOf, queuedOf]

@[simp] theorem takenOf_singleton (label : DispatchLabel)
    : takenOf [label] = label.taken?.toList := by
  cases taken : label.taken? <;> simp [takenOf, taken]

@[simp] theorem droppedOf_singleton (label : DispatchLabel)
    : droppedOf [label] = label.dropped?.toList := by
  cases dropped : label.dropped? <;> simp [droppedOf, dropped]

@[simp] theorem acceptedOf_singleton (label : DispatchLabel)
    : acceptedOf [label]
      = (label.queued?.map fun (entry, _) =>
          (⟨entry.stamp, keptEvent entry.event⟩ : Stamped _)).toList := by
  cases queued : label.queued? <;> simp [acceptedOf, queuedOf, queued]

/-- A page keeps the main thread where it is and shows at most that an operation began. -/
theorem act_frame (state : ForegroundState) (action : PageAction)
    : (state.act action).1.thread = state.thread
      ∧ takenOf (state.act action).2 = []
      ∧ queuedOf (state.act action).2 = [] := by
  have launched (state : ForegroundState) (slot result : Int)
      : (state.startConfirmed slot result).1.1.thread = state.thread
        ∧ takenOf (state.startConfirmed slot result).1.2 = []
        ∧ queuedOf (state.startConfirmed slot result).1.2 = [] := by
    unfold ForegroundState.startConfirmed
    split
    · split <;> exact ⟨rfl, rfl, rfl⟩
    · exact ⟨rfl, rfl, rfl⟩
  cases action with
  | connect host slot enqueued =>
      simp only [ForegroundState.act]
      split
      · exact ⟨rfl, rfl, rfl⟩
      · split <;> exact ⟨rfl, rfl, rfl⟩
  | refresh slot enqueued =>
      simp only [ForegroundState.act]
      split
      · split <;> exact ⟨rfl, rfl, rfl⟩
      · exact ⟨rfl, rfl, rfl⟩
  | start slot result => exact launched state slot result
  | showError message result => exact ⟨rfl, rfl, rfl⟩
  | poll poll slot result =>
      simp only [ForegroundState.act]
      split
      · simp only [ForegroundState.dialogPollTask]
        split
        · split
          · exact ⟨rfl, rfl, rfl⟩
          · exact ⟨rfl, rfl, rfl⟩
          · rename_i closed _
            exact launched { state with service := closed } slot result
        · exact ⟨rfl, rfl, rfl⟩
      · exact ⟨rfl, rfl, rfl⟩

/-- A step that leaves the queue and shows nothing of it keeps custody. -/
theorem quiet (custody : QueueCustody trace state) (same : after.events = state.events)
    (taken : takenOf emitted = []) (queued : queuedOf emitted = [])
    (hand : after.thread.inHand = state.thread.inHand)
    (pins : after.thread.Pins state.events.pinned)
    : QueueCustody (trace ++ emitted) after where
  lawful := same ▸ custody.lawful
  accepted := by
    have unchanged : acceptedOf emitted = [] := by rw [acceptedOf, queued, List.map_nil]
    rw [same, custody.accepted, acceptedOf_append, unchanged, List.append_nil]
  delivered := by simp [same, custody.delivered, taken, hand]
  pinned := same ▸ pins
  dropped := by
    intro entry member
    obtain before | later := List.mem_append.1 (droppedOf_append trace emitted ▸ member)
    · exact custody.dropped entry before
    · have absent := mem_takenOf.2 (.inr later)
      simp [taken] at absent

/-- Accepting one more event. -/
theorem push (custody : QueueCustody trace state) {event : MoonlightEvent CString} {events}
    {worker : Option Nat} {jobs : List WorkerJob}
    (pushed : state.events.push eventKind eventQueueCapacity (keptEvent event) = some events)
    : QueueCustody (trace ++ [.queued ⟨events.accepted.length, event⟩ worker])
        { state with jobs, events } := by
  obtain ⟨accepted, delivered, pinned, -⟩ := CoalescingQueue.push_spec pushed
  exact {
    lawful := custody.lawful.push pushed
    accepted := by
      rw [acceptedOf_append, ← custody.accepted]
      simp [accepted, DispatchLabel.queued?, CoalescingQueue.entry]
    delivered := by simpa [delivered, pinned, DispatchLabel.taken?] using custody.delivered
    pinned := by simpa only [pinned] using custody.pinned
    dropped := by simpa [DispatchLabel.dropped?] using custody.dropped
  }

/-- The label that takes the event in hand lets go of it. -/
theorem release (custody : QueueCustody trace state) {event : MoonlightEvent CString}
    {stamp completed : Option Nat} {label : DispatchLabel} {point : DispatchPoint}
    (thread : state.thread = .acknowledged event stamp completed)
    (taken : label.taken? = stamp.map (⟨·, event⟩)) (queued : label.queued? = none)
    (hand : point.inHand = []) (pins : point.Pins none)
    (discovery : label.dropped?.isSome → event.type = .discoveryChanged)
    : QueueCustody (trace ++ [label]) { state with thread := point } := by
  have unpinned : state.events.pinned = none := by
    have known := custody.pinned
    rw [thread] at known
    exact known
  have held : state.thread.inHand = (stamp.map (⟨·, event⟩)).toList := by
    rw [thread]
    cases stamp <;> rfl
  exact {
    lawful := custody.lawful
    accepted := by simp [custody.accepted, queued]
    delivered := by simpa [unpinned, hand, taken, held] using custody.delivered
    pinned := by simpa only [unpinned] using pins
    dropped := by
      intro entry member
      rw [droppedOf_append, droppedOf_singleton, List.mem_append, Option.mem_toList] at member
      obtain before | now := member
      · exact custody.dropped entry before
      · have same : label.taken? = some entry := by
          rcases label with _ | _ | _ | _ | ⟨_, _ | _, _⟩ | ⟨_, _ | _⟩ <;>
            simp_all [DispatchLabel.taken?, DispatchLabel.dropped?]
        obtain ⟨found, -, rfl⟩ := Option.map_eq_some_iff.1 (taken ▸ same)
        exact discovery (Option.isSome_of_mem now)
  }

/-- Each step keeps custody, by what the step does. -/
theorem step (custody : QueueCustody trace state) (move : DispatchMove state emitted after)
    : QueueCustody (trace ++ emitted) after := by
  have known := custody.pinned
  cases move with
  | entered thread => exact custody.quiet rfl rfl rfl (by rw [thread]; rfl) trivial
  | @shown events entry thread peeked =>
      obtain ⟨later, head, same, accepted, pinned, -, delivered⟩ | ⟨same, -⟩ :=
        state.events.peek_spec
      · rw [peeked, Prod.mk.injEq, Option.some.injEq] at same
        obtain ⟨rfl, rfl⟩ := same
        have next := delivered (takenOf trace)
          (by simpa [thread, DispatchPoint.inHand] using custody.delivered)
        exact {
          lawful := by
            have kept := custody.lawful.peek
            rwa [peeked] at kept
          accepted := by simp [accepted, custody.accepted, acceptedOf, queuedOf]
          delivered := by simp [next, pinned, DispatchPoint.inHand, takenOf]
          pinned := pinned
          dropped := by simpa using custody.dropped
        }
      · rw [peeked] at same
        simp at same
  | synthesized thread unpinned empty finished =>
      exact custody.quiet rfl rfl rfl (by rw [thread]; rfl) unpinned
  | rested thread unpinned empty unfinished =>
      exact custody.quiet rfl rfl rfl (by rw [thread]; rfl) trivial
  | deferred thread refused => exact custody.quiet rfl rfl rfl (by rw [thread]; rfl) trivial
  | prepared thread accepted =>
      rw [thread] at known
      exact custody.quiet rfl rfl rfl (by rw [thread]; rfl) known
  | @acknowledged event stamp completed thread =>
      rw [thread] at known
      cases stamp with
      | none => exact custody.quiet rfl rfl rfl (by rw [thread]; rfl) known
      | some stamp =>
          have pinned : state.events.pinned = some ⟨stamp, event⟩ := known
          exact {
            lawful := custody.lawful.acknowledge
            accepted := by simpa [CoalescingQueue.acknowledge] using custody.accepted
            delivered := by
              simpa [CoalescingQueue.acknowledge, thread, pinned, DispatchPoint.inHand]
                using custody.delivered
            pinned := rfl
            dropped := by simpa using custody.dropped
          }
  | @discarded event stamp completed thread discovery =>
      exact custody.release thread (by cases stamp <;> rfl) rfl rfl trivial fun _ => discovery
  | @delivered event stamp completed thread =>
      exact custody.release thread (by cases stamp <;> rfl) rfl rfl rfl
        (by simp [DispatchLabel.dropped?])
  | returned thread =>
      exact custody.quiet rfl rfl rfl (by rw [thread]; rfl) trivial
  | acted action free =>
      obtain ⟨thread, taken, queued⟩ := act_frame state.toForegroundState action
      exact custody.quiet rfl taken queued (congrArg _ thread) (by rw [thread]; exact known)
  | posted ordinary pushed => exact custody.push pushed
  | refused => exact custody.quiet rfl rfl rfl rfl known
  | emitted found due completes pushed => exact custody.push pushed
  | lost found due => exact custody.quiet rfl rfl rfl rfl known
  | recorded result found => exact custody.quiet rfl rfl rfl rfl known

end QueueCustody

/-- The abstract queue has custody in every run. -/
theorem waiting_custody {trace : List DispatchLabel} {state : WaitingDispatch}
    (reached : (dispatchMachine waitingChannel).Reaches trace state)
    : QueueCustody trace state := by
  refine reached.invariant QueueCustody ?_ ?_
  · rintro state ⟨events, rfl, rfl⟩
    exact {
      lawful := CoalescingQueue.lawful_empty
      accepted := rfl
      delivered := rfl
      pinned := trivial
      dropped := by simp [droppedOf]
    }
  · intro trace state choice after emitted custody taken
    exact custody.step (DispatchState.move_step taken)

/-- Every run in which fewer than 2^64 events are accepted is one over the abstract queue that
shows the same.
-/
theorem dispatch_imaged {trace : List DispatchLabel} {state : DispatchState MoonlightEventQueue}
    (reached : (dispatchMachine MoonlightEventQueue.channel).Reaches trace state)
    (bounded : (queuedOf trace).length < 2 ^ 64)
    : ∃ image, (dispatchMachine waitingChannel).Reaches trace image ∧ state.Images image := by
  refine reached.simulated DispatchState.Images
    (fun trace => (queuedOf trace).length < 2 ^ 64) ?_ ?_ ?_ bounded
  · intro trace emitted fewer
    simp only [queuedOf, List.filterMap_append, List.length_append] at fewer ⊢
    omega
  · rintro state ⟨events, ⟨memory, rfl⟩, rfl⟩
    exact ⟨{ events := {} }, ⟨{}, rfl, rfl⟩, rfl, MoonlightEventQueue.refines_reset memory,
      CoalescingQueue.lawful_empty⟩
  · intro trace state image choice after emitted fewer ran images taken
    have accepted := (waiting_custody ran).accepted
    refine images.step ?_ taken
    intro queued
    have more := List.length_pos_iff.2 queued
    rw [accepted, acceptedOf, List.length_map]
    simp only [queuedOf, List.filterMap_append, List.length_append] at fewer more ⊢
    omega

-----------------------------------------------------------------------------------------
-- Order
-----------------------------------------------------------------------------------------

/-- What the memory of the queue still holds. -/
def MoonlightEventQueue.contents (queue : MoonlightEventQueue)
    : List (Stamped (MoonlightEvent CString)) :=
  (if queue.pendingValid then [queue.pending.stamped] else [])
    ++ (Ring.window queue.ordered queue.head queue.count).map MoonlightQueuedEvent.stamped
    ++ (List.finRange 4).flatMap fun index =>
        if queue.snapshotPending index then [(queue.snapshots index).stamped] else []

/-- The memory holds the abstract queue's pinned and waiting events. -/
theorem MoonlightEventQueue.Refines.mem_contents {queue : MoonlightEventQueue}
    {image : CoalescingQueue (MoonlightEvent CString)} (refines : queue.Refines image)
    {entry : Stamped (MoonlightEvent CString)}
    : entry ∈ queue.contents ↔ entry ∈ image.pinned.toList ++ image.waiting := by
  have pinned
      : image.pinned.toList = if queue.pendingValid then [queue.pending.stamped] else [] := by
    rw [refines.pinned]
    split <;> rfl
  have waiting
      : entry ∈ image.waiting
        ↔ entry ∈ CoalescingQueue.orderedOf eventKind image.waiting
          ∨ ∃ index, entry ∈ CoalescingQueue.kindOf eventKind index image.waiting := by
    simp only [CoalescingQueue.orderedOf, CoalescingQueue.kindOf, List.mem_filter,
      decide_eq_true_eq]
    cases eventKind entry.event <;> simp
  simp only [contents, List.mem_append, List.mem_flatMap, List.mem_finRange, true_and, waiting,
    pinned, refines.ordered, refines.snapshot, or_assoc]

/-- The queued events are delivered in the order of their acceptance, none of them twice. None is
lost: it is delivered, is a discovery event that was discarded, was replaced by a later one of its
kind, or is still underway.
-/
structure DeliversInOrder (trace : List DispatchLabel) (state : DispatchState MoonlightEventQueue)
    : Prop where
  numbered
    : (acceptedOf trace).map Stamped.stamp = List.range' 1 (acceptedOf trace).length
  genuine : ∀ entry ∈ takenOf trace, entry ∈ acceptedOf trace
  ordered : (takenOf trace).Pairwise fun earlier later => earlier.stamp < later.stamp
  kept
    : ∀ entry ∈ acceptedOf trace,
        entry ∈ handedOf trace
        ∨ entry ∈ droppedOf trace ∧ entry.event.type = .discoveryChanged
        ∨ Superseded eventKind (acceptedOf trace) entry
        ∨ entry ∈ state.thread.inHand ++ state.events.contents
  overtakenByNone
    : ∀ entry ∈ acceptedOf trace,
        ∀ later ∈ takenOf trace,
          entry.stamp < later.stamp
          → entry ∈ handedOf trace
            ∨ entry ∈ droppedOf trace ∧ entry.event.type = .discoveryChanged
            ∨ Superseded eventKind (acceptedOf trace) entry

/-- Every run delivers in order. Witness: the abstract queue's laws over the events it accepted
and delivered.
-/
theorem delivers_in_order {trace : List DispatchLabel} {state : DispatchState MoonlightEventQueue}
    (reached : (dispatchMachine MoonlightEventQueue.channel).Reaches trace state)
    (bounded : (queuedOf trace).length < 2 ^ 64)
    : DeliversInOrder trace state := by
  obtain ⟨image, ran, images⟩ := dispatch_imaged reached bounded
  obtain ⟨lawful, accepted, delivered, -, dropped⟩ := waiting_custody ran
  have thread : image.thread = state.thread := congrArg _ images.foreground
  let underway := state.thread.inHand ++ (image.events.pinned.toList ++ image.events.waiting)
  have split : image.events.delivered ++ image.events.waiting = takenOf trace ++ underway := by
    simp only [delivered, thread, underway, List.append_assoc]
  have sorted := lawful.inOrder
  rw [split] at sorted
  have accounted
      : ∀ entry ∈ acceptedOf trace,
          entry ∈ handedOf trace
          ∨ entry ∈ droppedOf trace ∧ entry.event.type = .discoveryChanged
          ∨ Superseded eventKind (acceptedOf trace) entry
          ∨ entry ∈ underway := by
    intro entry member
    rw [← accepted] at member ⊢
    have known := lawful.accounted member
    rw [split, List.mem_append, mem_takenOf] at known
    obtain (taken | rest) | superseded := known
    · exact taken.imp_right fun gone => .inl ⟨gone, dropped entry gone⟩
    · exact .inr (.inr (.inr rest))
    · exact .inr (.inr (.inl superseded))
  exact {
    numbered := accepted ▸ lawful.numbered
    genuine := by
      intro entry member
      rw [← accepted]
      refine lawful.known entry ?_
      rw [split]
      exact List.mem_append_left _ member
    ordered := (List.pairwise_append.1 sorted).1
    kept := by
      intro entry member
      obtain handed | gone | superseded | later := accounted entry member
      · exact .inl handed
      · exact .inr (.inl gone)
      · exact .inr (.inr (.inl superseded))
      · refine .inr (.inr (.inr ?_))
        rw [List.mem_append, images.refines.mem_contents]
        exact List.mem_append.1 later
    overtakenByNone := by
      intro entry member later taken earlier
      obtain handed | gone | superseded | rest := accounted entry member
      · exact .inl handed
      · exact .inr (.inl gone)
      · exact .inr (.inr superseded)
      · have after := (List.pairwise_append.1 sorted).2.2 later taken entry rest
        omega
  }

end VitaMoonlight
