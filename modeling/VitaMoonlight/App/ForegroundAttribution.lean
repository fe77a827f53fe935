import VitaMoonlight.App.ForegroundLedger

/-! Whose event completes an operation: the one that its own worker queued, or the one made from
the result that its own worker recorded.
-/

namespace VitaMoonlight

open Library

-----------------------------------------------------------------------------------------
-- The events of workers
-----------------------------------------------------------------------------------------

theorem isJobEvent_of_completes {operation : ForegroundOperation} {type : MoonlightEventType}
    (worker : operation.hasWorker = true) (completes : completesOperation operation type = true)
    : isJobEvent type = true := by
  cases operation <;> simp_all [ForegroundOperation.hasWorker, isJobEvent]

theorem hasWorker_of_completes {operation : ForegroundOperation} {type : MoonlightEventType}
    (completes : completesOperation operation type = true) (emitted : isJobEvent type = true)
    : operation.hasWorker = true := by
  cases operation with
  | connect | applications => rfl
  | none => simp [completesOperation] at completes
  | launch => cases type <;> simp_all [completesOperation, isJobEvent]

/-- What a worker emits is never coalesced. -/
theorem eventKind_of_isJobEvent {event : MoonlightEvent CString}
    (emitted : isJobEvent event.type = true)
    : eventKind event = none := by
  unfold eventKind
  cases type : event.type <;>
    first | rfl | simp [type, isJobEvent, completesOperation] at emitted

/-- The event made from a recorded result. -/
def synthesizedEvent (operation : ForegroundOperation) (result : Int) (address : CString)
    : Option (MoonlightEvent CString) :=
  ({ operation, workerDone := true, workerResult := result } : ConnectionService)
    |>.getCompletedJobEvent address

/-- An event is made only once the worker is done, and completes the operation. -/
theorem getCompletedJobEvent_spec {service : ConnectionService} {address : CString}
    {event : MoonlightEvent CString}
    (made : service.getCompletedJobEvent address = some event)
    : service.operation.hasWorker = true
      ∧ service.workerDone = true
      ∧ completesOperation service.operation event.type = true
      ∧ synthesizedEvent service.operation service.workerResult address = some event := by
  unfold synthesizedEvent
  unfold ConnectionService.getCompletedJobEvent at made ⊢
  cases done : service.workerDone with
  | false => simp [done] at made
  | true =>
      simp only [done, Bool.not_true, Bool.false_eq_true, if_false] at made ⊢
      refine ⟨?_, trivial, ?_, made⟩
      · cases sort : service.operation <;> simp_all [ForegroundOperation.hasWorker]
      · cases sort : service.operation with
        | none | launch => simp [sort] at made
        | connect =>
            simp only [sort, Option.some.injEq] at made
            rw [← made]
            dsimp only
            split <;> rfl
        | applications =>
            simp only [sort, Option.some.injEq] at made
            rw [← made]
            dsimp only
            split <;> rfl

-----------------------------------------------------------------------------------------
-- Attribution
-----------------------------------------------------------------------------------------

/-- The event whose completion is decided and that is on its way to the pages. -/
def DispatchPoint.decided
    : DispatchPoint → Option (MoonlightEvent CString × Option Nat × Option Nat)
  | .prepared event stamp completed | .acknowledged event stamp completed =>
      some (event, stamp, completed)
  | _ => none

theorem DispatchPoint.completing_of_decided {point : DispatchPoint}
    {event : MoonlightEvent CString} {stamp : Option Nat} {number : Nat}
    (decided : point.decided = some (event, stamp, some number))
    : point.completing = some (event, stamp, number) := by
  cases point with
  | prepared found mark completed | acknowledged found mark completed =>
      simp only [DispatchPoint.decided, Option.some.injEq, Prod.mk.injEq] at decided
      obtain ⟨rfl, rfl, rfl⟩ := decided
      rfl
  | idle | looping | peeked | calling => simp [DispatchPoint.decided] at decided

/-- The queued events whose completion is not decided. -/
def DispatchState.undecided (state : WaitingDispatch) : List (Stamped (MoonlightEvent CString)) :=
  match state.thread with
  | .prepared _ _ _ => state.events.waiting
  | _ => state.events.pinned.toList ++ state.events.waiting

/-- The undecided events of workers. -/
def DispatchState.undecidedJobs (state : WaitingDispatch)
    : List (Stamped (MoonlightEvent CString)) :=
  state.undecided.filter fun entry => isJobEvent entry.event.type

/-- An event with this stamp completes the operation of the worker that queued it; one without a
stamp is made from the result of the operation that it completes.
-/
def Attributed (trace : List DispatchLabel) (event : MoonlightEvent CString)
    : Option Nat → Option Nat → Prop
  | some stamp, completed =>
      ∀ offered worker,
        (⟨stamp, offered⟩, some worker) ∈ queuedOf trace → completed = some worker
  | none, completed =>
      ∃ number operation result address,
        completed = some number
        ∧ (number, operation) ∈ beganOf trace
        ∧ .recorded number result ∈ trace
        ∧ synthesizedEvent operation result address = some event

/-- The running operation's worker is the only one whose event can be underway. -/
structure ForegroundAttribution (trace : List DispatchLabel) (state : WaitingDispatch) : Prop where
  owned
    : ∀ entry worker,
        (entry, worker) ∈ queuedOf trace → isJobEvent entry.event.type = worker.isSome
  underway
    : state.undecidedJobs = []
      ∨ ∃ entry offered,
          state.undecidedJobs = [entry]
          ∧ completesOperation state.service.operation entry.event.type = true
          ∧ (⟨entry.stamp, offered⟩, some state.begun) ∈ queuedOf trace
          ∧ ∀ job ∈ state.jobs, job.emitted = true
  synthesized
    : ∀ event,
        state.thread = .peeked event none
        → state.undecidedJobs = []
          ∧ state.service.getCompletedJobEvent state.connectAddress.text = some event
  decided
    : ∀ event stamp completed,
        state.thread.decided = some (event, stamp, completed)
        → Attributed trace event stamp completed

@[simp] theorem queuedOf_append (trace emitted : List DispatchLabel)
    : queuedOf (trace ++ emitted) = queuedOf trace ++ queuedOf emitted :=
  List.filterMap_append

/-- An attribution outlives a step that queues nothing. -/
theorem Attributed.append {trace : List DispatchLabel} {event : MoonlightEvent CString}
    {stamp completed : Option Nat} (attributed : Attributed trace event stamp completed)
    {emitted : List DispatchLabel}
    (fresh
      : ∀ mark offered worker,
          stamp = some mark → (⟨mark, offered⟩, some worker) ∉ queuedOf emitted)
    : Attributed (trace ++ emitted) event stamp completed := by
  cases stamp with
  | some mark =>
      intro offered worker member
      rw [queuedOf_append, List.mem_append] at member
      obtain old | new := member
      · exact attributed offered worker old
      · exact absurd new (fresh mark offered worker rfl)
  | none =>
      obtain ⟨number, operation, result, address, same, began, recorded, made⟩ := attributed
      refine ⟨number, operation, result, address, same, ?_, List.mem_append_left _ recorded, made⟩
      rw [ForegroundLedger.beganOf_append]
      exact List.mem_append_left _ began

namespace QueueCustody

variable {trace : List DispatchLabel} {state : WaitingDispatch}

/-- A stamp stands for one accepted event. -/
theorem queued_unique (custody : QueueCustody trace state)
    {first second : Stamped (MoonlightEvent CString) × Option Nat} (left : first ∈ queuedOf trace)
    (right : second ∈ queuedOf trace) (same : first.1.stamp = second.1.stamp)
    : first = second := by
  have stamps
      : ((queuedOf trace).map fun queued => queued.1.stamp)
        = List.range' 1 state.events.accepted.length := by
    rw [← custody.lawful.numbered, custody.accepted, acceptedOf, List.map_map]
    rfl
  have distinct : ((queuedOf trace).map fun queued => queued.1.stamp).Nodup := by
    rw [stamps]
    exact List.nodup_range'
  exact List.inj_on_of_nodup_map distinct left right same

/-- A decided event came off the queue. -/
theorem decided_known (custody : QueueCustody trace state) {event : MoonlightEvent CString}
    {stamp : Nat} {completed : Option Nat}
    (decided : state.thread.decided = some (event, some stamp, completed))
    : ⟨stamp, event⟩ ∈ state.events.delivered ++ state.events.waiting := by
  have known := custody.pinned
  refine List.mem_append_left _ ?_
  rw [custody.delivered]
  cases thread : state.thread with
  | idle | looping | peeked | calling => simp [thread, DispatchPoint.decided] at decided
  | prepared found mark verdict =>
      simp only [thread, DispatchPoint.decided, Option.some.injEq, Prod.mk.injEq] at decided
      obtain ⟨rfl, rfl, rfl⟩ := decided
      rw [thread] at known
      have pinned : state.events.pinned = some ⟨stamp, found⟩ := known
      simp [pinned]
  | acknowledged found mark verdict =>
      simp only [thread, DispatchPoint.decided, Option.some.injEq, Prod.mk.injEq] at decided
      obtain ⟨rfl, rfl, rfl⟩ := decided
      simp [DispatchPoint.inHand]

/-- What came off the queue or is in it was queued. -/
theorem queued_of_known (custody : QueueCustody trace state) {event : MoonlightEvent CString}
    {stamp : Nat} (known : ⟨stamp, event⟩ ∈ state.events.delivered ++ state.events.waiting)
    : ∃ offered worker, (⟨stamp, offered⟩, worker) ∈ queuedOf trace ∧ event = keptEvent offered := by
  have accepted := custody.lawful.known _ known
  rw [custody.accepted, acceptedOf, List.mem_map] at accepted
  obtain ⟨⟨entry, worker⟩, member, same⟩ := accepted
  simp only [Stamped.mk.injEq] at same
  obtain ⟨rfl, rfl⟩ := same
  exact ⟨entry.event, worker, member, rfl⟩

/-- A peeked event came off the queue. -/
theorem peeked_known (custody : QueueCustody trace state) {event : MoonlightEvent CString}
    {stamp : Nat} (thread : state.thread = .peeked event (some stamp))
    : ⟨stamp, event⟩ ∈ state.events.delivered ++ state.events.waiting := by
  have known := custody.pinned
  rw [thread] at known
  have pinned : state.events.pinned = some ⟨stamp, event⟩ := known
  rw [custody.delivered, pinned]
  simp

end QueueCustody

namespace ForegroundAttribution

variable {trace emitted : List DispatchLabel} {state after : WaitingDispatch}

/-- A step that queues nothing and decides nothing keeps the attribution, as long as the running
operation only changes while no worker's event is underway.
-/
theorem quiet (attribution : ForegroundAttribution trace state) (queued : queuedOf emitted = [])
    (undecided : after.undecidedJobs = state.undecidedJobs)
    (running
      : state.undecidedJobs = []
        ∨ after.service.operation = state.service.operation
          ∧ after.begun = state.begun
          ∧ after.jobs.Sublist state.jobs)
    (synthesized
      : ∀ event,
          after.thread = .peeked event none
          → after.undecidedJobs = []
            ∧ after.service.getCompletedJobEvent after.connectAddress.text = some event)
    (decided
      : ∀ event stamp completed,
          after.thread.decided = some (event, stamp, completed)
          → state.thread.decided = some (event, stamp, completed))
    : ForegroundAttribution (trace ++ emitted) after where
  owned := by
    rw [queuedOf_append, queued, List.append_nil]
    exact attribution.owned
  underway := by
    rw [undecided, queuedOf_append, queued, List.append_nil]
    obtain unclaimed | ⟨operation, begun, jobs⟩ := running
    · exact .inl unclaimed
    · obtain unclaimed | ⟨entry, offered, alone, completes, member, spent⟩ := attribution.underway
      · exact .inl unclaimed
      · exact .inr ⟨entry, offered, alone, operation ▸ completes, begun ▸ member,
          fun job kept => spent job (jobs.subset kept)⟩
  synthesized := synthesized
  decided := by
    intro event stamp completed found
    refine (attribution.decided event stamp completed (decided _ _ _ found)).append ?_
    simp [queued]

/-- No worker's event is underway while no operation runs. -/
theorem undecidedJobs_of_idle (attribution : ForegroundAttribution trace state)
    (idle : state.service.operation = .none)
    : state.undecidedJobs = [] := by
  obtain unclaimed | ⟨entry, offered, alone, completes, -⟩ := attribution.underway
  · exact unclaimed
  · simp [idle, completesOperation] at completes

/-- No worker's event is underway before the running operation's worker emits one. -/
theorem undecidedJobs_of_due (attribution : ForegroundAttribution trace state) {index : Nat}
    {job : WorkerJob} (found : state.jobs[index]? = some job) (due : job.emitted = false)
    : state.undecidedJobs = [] := by
  obtain unclaimed | ⟨entry, offered, alone, -, -, spent⟩ := attribution.underway
  · exact unclaimed
  · simp [spent job (List.mem_of_getElem? found)] at due

/-- Before an event is prepared, the pinned event is undecided as well. -/
theorem undecided_of_unprepared
    (unprepared : ∀ event stamp completed, state.thread ≠ .prepared event stamp completed)
    : state.undecided = state.events.pinned.toList ++ state.events.waiting := by
  unfold DispatchState.undecided
  split
  · rename_i thread
    exact absurd thread (unprepared _ _ _)
  · rfl

/-- A move between points at which nothing is decided changes nothing of what is undecided. -/
theorem undecidedJobs_moved {point : DispatchPoint} (undecided : point.decided = none)
    (unprepared : ∀ event stamp completed, state.thread ≠ .prepared event stamp completed)
    : DispatchState.undecidedJobs { state with thread := point } = state.undecidedJobs := by
  have moved (event : MoonlightEvent CString) (stamp completed : Option Nat)
      : point ≠ .prepared event stamp completed := by
    rintro rfl
    simp [DispatchPoint.decided] at undecided
  rw [DispatchState.undecidedJobs, DispatchState.undecidedJobs, undecided_of_unprepared moved,
    undecided_of_unprepared unprepared]

/-- An accepted event is undecided; only a worker's counts as such. -/
theorem undecidedJobs_push {events : CoalescingQueue (MoonlightEvent CString)}
    {event : MoonlightEvent CString} (jobs : List WorkerJob)
    (pushed : state.events.push eventKind eventQueueCapacity (keptEvent event) = some events)
    : DispatchState.undecidedJobs { state with jobs, events }
      = state.undecidedJobs
        ++ if isJobEvent event.type then [state.events.entry (keptEvent event)] else [] := by
  obtain ⟨-, -, pinned, waiting⟩ := CoalescingQueue.push_spec pushed
  have kept := waiting (fun entry => isJobEvent entry.event.type)
    fun entry => eventKind_of_isJobEvent
  have added
      : [state.events.entry (keptEvent event)].filter (fun entry => isJobEvent entry.event.type)
        = if isJobEvent event.type then [state.events.entry (keptEvent event)] else [] :=
    List.filter_cons
  rw [added] at kept
  simp only [DispatchState.undecidedJobs, DispatchState.undecided]
  split
  · exact kept
  · rw [List.filter_append, List.filter_append, kept, pinned, List.append_assoc]

/-- Queueing an event keeps the attribution if the event of a worker is its first. -/
theorem push (attribution : ForegroundAttribution trace state)
    (custody : QueueCustody trace state) {events : CoalescingQueue (MoonlightEvent CString)}
    {event : MoonlightEvent CString} {worker : Option Nat} {jobs : List WorkerJob}
    (pushed : state.events.push eventKind eventQueueCapacity (keptEvent event) = some events)
    (owner : isJobEvent event.type = worker.isSome)
    (permitted
      : worker = none ∧ jobs = state.jobs
      ∨ state.undecidedJobs = []
        ∧ worker = some state.begun
        ∧ completesOperation state.service.operation event.type = true
        ∧ state.service.workerDone = false
        ∧ ∀ job ∈ jobs, job.emitted = true)
    : ForegroundAttribution (trace ++ [.queued ⟨events.accepted.length, event⟩ worker])
        { state with jobs, events } := by
  obtain ⟨accepted, -, -, -⟩ := CoalescingQueue.push_spec pushed
  have stamp : events.accepted.length = (state.events.entry (keptEvent event)).stamp := by
    rw [accepted, List.length_append]
    rfl
  have queued
      : queuedOf (trace ++ [.queued ⟨events.accepted.length, event⟩ worker])
        = queuedOf trace ++ [(⟨events.accepted.length, event⟩, worker)] :=
    queuedOf_append _ _
  have after := undecidedJobs_push jobs pushed
  exact {
    owned := by
      intro entry sender member
      rw [queued, List.mem_append] at member
      obtain old | new := member
      · exact attribution.owned entry sender old
      · obtain ⟨rfl, rfl⟩ := Prod.mk.inj (List.mem_singleton.1 new)
        exact owner
    underway := by
      rw [after, queued]
      obtain ⟨rfl, rfl⟩ | ⟨unclaimed, rfl, completes, -, spent⟩ := permitted
      · rw [owner]
        simp only [Option.isSome_none, Bool.false_eq_true, if_false, List.append_nil]
        obtain unclaimed | ⟨entry, offered, alone, completes, member, spent⟩ := attribution.underway
        · exact .inl unclaimed
        · exact .inr ⟨entry, offered, alone, completes, List.mem_append_left _ member, spent⟩
      · rw [owner, unclaimed]
        simp only [Option.isSome_some, if_true, List.nil_append]
        refine .inr ⟨_, event, rfl, completes, ?_, spent⟩
        rw [stamp]
        exact List.mem_append_right _ (List.mem_singleton_self _)
    synthesized := by
      intro found thread
      obtain ⟨unclaimed, made⟩ := attribution.synthesized found thread
      refine ⟨?_, made⟩
      obtain ⟨rfl, rfl⟩ | ⟨-, -, -, unfinished, -⟩ := permitted
      · rw [after, unclaimed, owner]
        rfl
      · have done := (getCompletedJobEvent_spec made).2.1
        simp [unfinished] at done
    decided := by
      intro found mark completed there
      refine (attribution.decided found mark completed there).append ?_
      rintro mark offered sender rfl member
      have older := custody.lawful.stamp_lt (keptEvent event) (custody.decided_known there)
      have same := List.mem_singleton.1 member
      simp only [Prod.mk.injEq, Stamped.mk.injEq] at same
      rw [← stamp, ← same.1.1] at older
      exact absurd older (Nat.lt_irrefl _)
  }

/-- The event that the next decision is about stands before what waits. -/
theorem undecidedJobs_of_peeked (custody : QueueCustody trace state)
    {event : MoonlightEvent CString} {stamp : Option Nat}
    (thread : state.thread = .peeked event stamp)
    : state.undecidedJobs
      = (stamp.map (⟨·, event⟩)).toList.filter (fun entry => isJobEvent entry.event.type)
        ++ state.events.waiting.filter fun entry => isJobEvent entry.event.type := by
  have pinned : state.events.pinned = stamp.map (⟨·, event⟩) := by
    have known := custody.pinned
    rwa [thread] at known
  simp only [DispatchState.undecidedJobs, DispatchState.undecided, thread, pinned,
    List.filter_append]

/-- A decision with the right attribution keeps what holds of the other events. -/
theorem decide (attribution : ForegroundAttribution trace state) {service : ConnectionService}
    {event : MoonlightEvent CString} {stamp completed : Option Nat}
    (underway
      : (state.events.waiting.filter fun entry => isJobEvent entry.event.type) = []
        ∨ service = state.service
          ∧ state.undecidedJobs
            = state.events.waiting.filter fun entry => isJobEvent entry.event.type)
    (attributed : Attributed trace event stamp completed)
    : ForegroundAttribution trace
        { state with service, thread := .prepared event stamp completed } where
  owned := attribution.owned
  underway := by
    obtain unclaimed | ⟨rfl, same⟩ := underway
    · exact .inl unclaimed
    · have before := attribution.underway
      rw [same] at before
      exact before
  synthesized := by simp
  decided := by
    intro found mark verdict same
    simp only [DispatchPoint.decided, Option.some.injEq, Prod.mk.injEq] at same
    obtain ⟨rfl, rfl, rfl⟩ := same
    exact attributed

/-- An event made from a recorded result completes the operation whose worker recorded it. -/
theorem prepare_synthesized (attribution : ForegroundAttribution trace state)
    (custody : QueueCustody trace state) (ledger : ForegroundLedger trace state.toForegroundState)
    {event : MoonlightEvent CString} (thread : state.thread = .peeked event none)
    (service : ConnectionService)
    : ForegroundAttribution trace
        { state with service, thread := .prepared event none (some state.begun) } := by
  obtain ⟨unclaimed, made⟩ := attribution.synthesized event thread
  obtain ⟨worker, done, -, same⟩ := getCompletedJobEvent_spec made
  rw [undecidedJobs_of_peeked custody thread, List.append_eq_nil_iff] at unclaimed
  have running : state.service.operation ≠ .none := by
    intro idle
    simp [idle, ForegroundOperation.hasWorker] at worker
  exact attribution.decide (.inl unclaimed.2)
    ⟨state.begun, state.service.operation, state.service.workerResult, _, rfl,
      ledger.running running, ledger.recorded worker done, same⟩

/-- A worker's event at the head is the only one, and the running operation's. -/
theorem job_at_head (attribution : ForegroundAttribution trace state)
    (custody : QueueCustody trace state) {event offered : MoonlightEvent CString} {stamp : Nat}
    {worker : Option Nat} (thread : state.thread = .peeked event (some stamp))
    (queued : (⟨stamp, offered⟩, worker) ∈ queuedOf trace)
    (job : isJobEvent event.type = true)
    : completesOperation state.service.operation event.type = true
      ∧ worker = some state.begun
      ∧ (state.events.waiting.filter fun entry => isJobEvent entry.event.type) = [] := by
  have underway := attribution.underway
  rw [undecidedJobs_of_peeked custody thread] at underway
  obtain unclaimed | ⟨entry, sent, alone, completes, member, -⟩ := underway
  · simp [job] at unclaimed
  · simp only [Option.map_some, Option.toList_some, List.filter_cons, job, if_true,
      List.filter_nil, List.cons_append, List.nil_append, List.cons.injEq] at alone
    obtain ⟨rfl, rest⟩ := alone
    have same := congrArg Prod.snd (custody.queued_unique queued member rfl)
    exact ⟨completes, same, rest⟩

/-- An event that completes nothing is no worker's. -/
theorem prepare_foreign (attribution : ForegroundAttribution trace state)
    (custody : QueueCustody trace state) {event offered : MoonlightEvent CString} {stamp : Nat}
    {worker : Option Nat} (thread : state.thread = .peeked event (some stamp))
    (queued : (⟨stamp, offered⟩, worker) ∈ queuedOf trace)
    (owned : isJobEvent event.type = worker.isSome)
    (other : completesOperation state.service.operation event.type = false)
    : ForegroundAttribution trace
        { state with thread := .prepared event (some stamp) none } := by
  have foreign : isJobEvent event.type = false := by
    by_contra job
    simp only [Bool.not_eq_false] at job
    simp [(attribution.job_at_head custody thread queued job).1] at other
  have same
      : state.undecidedJobs
        = state.events.waiting.filter fun entry => isJobEvent entry.event.type := by
    rw [undecidedJobs_of_peeked custody thread]
    simp [foreign]
  refine attribution.decide (.inr ⟨rfl, same⟩) ?_
  intro sent sender member
  have unique : worker = some sender :=
    congrArg Prod.snd (custody.queued_unique queued member rfl)
  simp [unique, foreign] at owned

/-- A queued event that completes the running operation leaves no worker's event underway, and if
a worker queued it, that is the operation's own.
-/
theorem prepare_completing (attribution : ForegroundAttribution trace state)
    (custody : QueueCustody trace state) {event offered : MoonlightEvent CString} {stamp : Nat}
    {worker : Option Nat} (thread : state.thread = .peeked event (some stamp))
    (queued : (⟨stamp, offered⟩, worker) ∈ queuedOf trace)
    (owned : isJobEvent event.type = worker.isSome)
    (completes : completesOperation state.service.operation event.type = true)
    (service : ConnectionService)
    : ForegroundAttribution trace
        { state with service, thread := .prepared event (some stamp) (some state.begun) } := by
  have rest : (state.events.waiting.filter fun entry => isJobEvent entry.event.type) = [] := by
    cases job : isJobEvent event.type with
    | true => exact (attribution.job_at_head custody thread queued job).2.2
    | false =>
        obtain unclaimed | ⟨entry, sent, alone, launched, member, -⟩ := attribution.underway
        · rw [undecidedJobs_of_peeked custody thread, List.append_eq_nil_iff] at unclaimed
          exact unclaimed.2
        · have undecided : entry ∈ state.undecidedJobs := by simp [alone]
          have runs := hasWorker_of_completes launched (List.mem_filter.1 undecided).2
          simp [isJobEvent_of_completes runs completes] at job
  refine attribution.decide (.inl rest) ?_
  intro sent sender member
  have unique : worker = some sender :=
    congrArg Prod.snd (custody.queued_unique queued member rfl)
  rw [unique] at owned
  exact (attribution.job_at_head custody thread queued owned).2.1.symm.trans unique

/-- Deciding an event: what it completes is the running operation, by its own worker's event or by
its recorded result.
-/
theorem prepare (attribution : ForegroundAttribution trace state)
    (custody : QueueCustody trace state) (ledger : ForegroundLedger trace state.toForegroundState)
    {event : MoonlightEvent CString} {stamp : Option Nat}
    (thread : state.thread = .peeked event stamp) {service : ConnectionService}
    {completed : Option Nat}
    (decision
      : completesOperation state.service.operation event.type = false
          ∧ service = state.service
          ∧ completed = none
        ∨ completesOperation state.service.operation event.type = true
          ∧ completed = some state.begun)
    : ForegroundAttribution trace
        { state with service, thread := .prepared event stamp completed } := by
  cases stamp with
  | none =>
      obtain ⟨other, -⟩ | ⟨-, rfl⟩ := decision
      · have made := (attribution.synthesized event thread).2
        simp [(getCompletedJobEvent_spec made).2.2.1] at other
      · exact attribution.prepare_synthesized custody ledger thread service
  | some stamp =>
      obtain ⟨offered, worker, queued, kept⟩ :=
        custody.queued_of_known (custody.peeked_known thread)
      have owned : isJobEvent event.type = worker.isSome := by
        rw [kept]
        exact attribution.owned _ _ queued
      obtain ⟨other, rfl, rfl⟩ | ⟨completes, rfl⟩ := decision
      · exact attribution.prepare_foreign custody thread queued owned other
      · exact attribution.prepare_completing custody thread queued owned completes service

/-- Each step keeps the attribution, by what the step does. -/
theorem step (attribution : ForegroundAttribution trace state)
    (custody : QueueCustody trace state) (ledger : ForegroundLedger trace state.toForegroundState)
    (move : DispatchMove state emitted after)
    : ForegroundAttribution (trace ++ emitted) after := by
  have unmoved {point : DispatchPoint} {labels : List DispatchLabel}
      (queued : queuedOf labels = []) (unpeeked : ∀ event, point ≠ .peeked event none)
      (undecided : point.decided = none)
      (unprepared : ∀ event stamp completed, state.thread ≠ .prepared event stamp completed)
      : ForegroundAttribution (trace ++ labels) { state with thread := point } := by
    refine attribution.quiet queued (undecidedJobs_moved undecided unprepared)
      (.inr ⟨rfl, rfl, List.Sublist.refl _⟩) ?_ ?_
    · exact fun event same => absurd same (unpeeked event)
    · intro event stamp completed found
      exact absurd (undecided.symm.trans found) (by simp)
  cases move with
  | entered thread =>
      exact unmoved rfl (by simp) rfl (by simp [thread])
  | @shown events entry thread peeked =>
      obtain ⟨later, head, same, -, pinned, split, -⟩ | ⟨same, -⟩ := state.events.peek_spec
      · rw [peeked, Prod.mk.injEq, Option.some.injEq] at same
        obtain ⟨rfl, rfl⟩ := same
        refine attribution.quiet rfl ?_ (.inr ⟨rfl, rfl, List.Sublist.refl _⟩) (by simp)
          (by simp [DispatchPoint.decided])
        simp only [DispatchState.undecidedJobs, DispatchState.undecided, thread, pinned, ← split,
          Option.toList_some, List.singleton_append]
      · rw [peeked] at same
        simp at same
  | @synthesized event thread unpinned empty finished =>
      have unclaimed : state.undecidedJobs = [] := by
        simp [DispatchState.undecidedJobs, DispatchState.undecided, thread, unpinned, empty]
      have same
          : DispatchState.undecidedJobs { state with thread := .peeked event none }
            = state.undecidedJobs :=
        undecidedJobs_moved rfl (by simp [thread])
      refine attribution.quiet rfl same (.inl unclaimed) ?_ (by simp [DispatchPoint.decided])
      intro found there
      simp only [DispatchPoint.peeked.injEq, and_true] at there
      exact ⟨same.trans unclaimed, there ▸ finished⟩
  | rested thread unpinned empty unfinished =>
      exact unmoved rfl (by simp) rfl (by simp [thread])
  | deferred thread refused =>
      exact unmoved rfl (by simp) rfl (by simp [thread])
  | @prepared event stamp thread accepted =>
      rw [List.append_nil]
      obtain ⟨other, same⟩ | ⟨completes, -⟩ := state.service.prepareCompletion_cases event
      · exact attribution.prepare custody ledger thread (.inl ⟨other, by rw [same], by simp [other]⟩)
      · exact attribution.prepare custody ledger thread (.inr ⟨completes, if_pos completes⟩)
  | @acknowledged event stamp completed thread =>
      have pinned : state.events.pinned = stamp.map (⟨·, event⟩) := by
        have known := custody.pinned
        rwa [thread] at known
      refine attribution.quiet rfl ?_ (.inr ⟨rfl, rfl, List.Sublist.refl _⟩) (by simp) ?_
      · simp only [DispatchState.undecidedJobs, DispatchState.undecided, thread]
        cases stamp with
        | none => simp [pinned]
        | some stamp => simp [CoalescingQueue.acknowledge]
      · intro found mark verdict same
        rw [thread]
        exact same
  | @discarded event stamp completed thread discovery =>
      exact unmoved rfl (by simp) rfl (by simp [thread])
  | @delivered event stamp completed thread =>
      exact unmoved rfl (by simp) rfl (by simp [thread])
  | returned thread =>
      exact unmoved rfl (by simp) rfl (by simp [thread])
  | acted action free =>
      obtain ⟨thread, -, queued⟩ := QueueCustody.act_frame state.toForegroundState action
      have same
          : DispatchState.undecidedJobs { state with toForegroundState := (state.act action).1 }
            = state.undecidedJobs := by
        simp only [DispatchState.undecidedJobs, DispatchState.undecided, thread]
      refine attribution.quiet queued same ?_ ?_ ?_
      · have effect := ForegroundState.act_effect state.toForegroundState action
        generalize state.act action = acted at effect
        cases effect with
        | rested rests unmoved jobs begun =>
            obtain unchanged | ⟨idle, -⟩ := rests
            · exact .inr ⟨(ConnectionService.progress_eq_iff.1 unchanged).1, begun,
                jobs ▸ List.Sublist.refl _⟩
            · exact .inl (attribution.undecidedJobs_of_idle idle)
        | began idle => exact .inl (attribution.undecidedJobs_of_idle idle)
      · intro event there
        rw [thread] at there
        obtain free | free := free <;> simp [free] at there
      · intro event stamp completed found
        rw [thread] at found
        exact found
  | posted ordinary pushed =>
      exact attribution.push custody pushed (by rw [ordinary]; rfl) (.inl ⟨rfl, rfl⟩)
  | refused =>
      exact attribution.quiet rfl rfl (.inr ⟨rfl, rfl, List.Sublist.refl _⟩)
        attribution.synthesized (fun _ _ _ => id)
  | emitted found due completes pushed =>
      obtain ⟨rfl, alone, number, operation, worker, unfinished⟩ := ledger.only_job found
      rw [operation] at completes
      refine attribution.push custody pushed (isJobEvent_of_completes worker completes) (.inr
        ⟨attribution.undecidedJobs_of_due found due, congrArg some number, completes, unfinished, ?_⟩)
      simp [alone]
  | lost found due =>
      refine attribution.quiet rfl rfl (.inl (attribution.undecidedJobs_of_due found due))
        attribution.synthesized (fun _ _ _ => id)
  | recorded result found =>
      obtain ⟨-, -, -, -, -, unfinished⟩ := ledger.only_job found
      refine attribution.quiet rfl rfl (.inr ⟨rfl, rfl, List.eraseIdx_sublist _ _⟩) ?_
        (fun _ _ _ => id)
      intro event thread
      have done := (getCompletedJobEvent_spec (attribution.synthesized event thread).2).2.1
      simp [unfinished] at done

end ForegroundAttribution

/-- Completions are attributed in every run. -/
theorem waiting_attribution {trace : List DispatchLabel} {state : WaitingDispatch}
    (reached : (dispatchMachine waitingChannel).Reaches trace state)
    : ForegroundAttribution trace state := by
  induction reached with
  | start initial =>
      obtain ⟨events, rfl, rfl⟩ := initial
      exact {
        owned := by simp [queuedOf]
        underway := .inl rfl
        synthesized := by simp
        decided := by simp [DispatchPoint.decided]
      }
  | next before taken ih =>
      exact ih.step (waiting_custody before) (waiting_ledger before)
        (DispatchState.move_step taken)

end VitaMoonlight
