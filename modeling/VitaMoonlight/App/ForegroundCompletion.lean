import VitaMoonlight.App.ForegroundAttribution

/-! Each enqueued operation is completed by exactly one delivered event, after its worker has
recorded a result, and every other event is delivered in order.
-/

namespace VitaMoonlight

open Library

-----------------------------------------------------------------------------------------
-- The loop comes to rest
-----------------------------------------------------------------------------------------

namespace DispatchState

variable {trace : List DispatchLabel} {state : WaitingDispatch}

/-- Nothing is left to do for the loop. -/
structure AtRest (state : WaitingDispatch) : Prop where
  thread : state.thread = .idle
  unpinned : state.events.pinned = none
  empty : state.events.waiting = []
  free : state.service.operation.hasWorker = false

/-- The events that the loop still has to take, with the one that it may have to make. -/
def remaining (state : WaitingDispatch) : Nat :=
  state.events.pinned.toList.length + state.events.waiting.length
    + if state.service.operation.hasWorker then 1 else 0

/-- How many steps the loop may still need. -/
def distance (state : WaitingDispatch) : Nat :=
  6 * state.remaining
    + match state.thread with
      | .idle => 3
      | .looping => 2
      | .peeked _ _ => 1
      | .prepared _ (some _) _ => 0
      | .prepared _ none _ => 6
      | .acknowledged _ _ _ => 5
      | .calling => 4

/-- A result is recorded where no worker is left. -/
theorem done_of_workless (ledger : ForegroundLedger trace state.toForegroundState)
    (workless : state.jobs = []) (worker : state.service.operation.hasWorker = true)
    : state.service.workerDone = true := by
  obtain ⟨spent, same⟩ := ledger.jobs
  by_contra unfinished
  simp [workless, ForegroundState.working, worker, unfinished] at same

/-- Where no worker is left, a recorded result can be completed. -/
theorem getCompletedJobEvent_none {address : CString} {service : ConnectionService}
    (done : service.operation.hasWorker = true → service.workerDone = true)
    (nothing : service.getCompletedJobEvent address = none)
    : service.operation.hasWorker = false := by
  by_contra worker
  simp only [Bool.not_eq_false] at worker
  unfold ConnectionService.getCompletedJobEvent at nothing
  simp only [done worker, Bool.not_true, Bool.false_eq_true, if_false] at nothing
  cases sort : service.operation <;> simp_all [ForegroundOperation.hasWorker]

/-- The loop starts and ends no worker. -/
theorem dispatch_jobs (state : WaitingDispatch) (listed : Bool)
    : (state.dispatch waitingChannel listed).1.jobs = state.jobs := by
  unfold DispatchState.dispatch
  repeat' split
  all_goals rfl

/-- Looking for an event finds one or ends the loop. -/
theorem look_closer (thread : state.thread = .looping)
    (done : state.service.operation.hasWorker = true → state.service.workerDone = true)
    (listed : Bool)
    : (state.dispatch waitingChannel listed).1.AtRest
      ∨ (state.dispatch waitingChannel listed).1.distance < state.distance := by
  simp only [DispatchState.dispatch, thread]
  obtain ⟨events, entry, peeked, -, shown, split, -⟩ | ⟨peeked, unpinned, empty⟩ :=
    state.events.peek_spec
  · have same : waitingChannel.peek state.events = (events, some entry) := peeked
    have length := congrArg List.length split
    simp only [List.length_cons, List.length_append] at length
    rw [same]
    right
    simp only [distance, remaining, thread, shown, Option.toList_some, List.length_singleton]
    omega
  · have same : waitingChannel.peek state.events = (state.events, none) := peeked
    rw [same]
    dsimp only
    split
    · right
      simp only [distance, remaining, thread]
      omega
    · rename_i nothing
      exact .inl ⟨rfl, unpinned, empty, getCompletedJobEvent_none done nothing⟩

/-- A found event is prepared: no worker is left that it could be too early for. -/
theorem prepare_closer (attribution : ForegroundAttribution trace state)
    {event : MoonlightEvent CString} {stamp : Option Nat}
    (thread : state.thread = .peeked event stamp)
    (done : state.service.operation.hasWorker = true → state.service.workerDone = true)
    (listed : Bool)
    : (state.dispatch waitingChannel listed).1.distance < state.distance := by
  simp only [DispatchState.dispatch, thread]
  obtain ⟨other, same⟩ | ⟨completes, ⟨relaxed, early, -⟩ | ⟨-, service, same, freed, -⟩⟩ :=
    state.service.prepareCompletion_cases event
  · rw [same]
    cases stamp with
    | none =>
        have made := (attribution.synthesized event thread).2
        simp [(getCompletedJobEvent_spec made).2.2.1] at other
    | some stamp =>
        simp only [distance, remaining, thread]
        omega
  · have worker : state.service.operation.hasWorker = true := by
      cases sort : state.service.operation <;>
        simp_all [completesOperation, ForegroundOperation.hasWorker]
    simp [done worker] at early
  · have idle : ForegroundOperation.none.hasWorker = false := rfl
    rw [same]
    cases stamp with
    | none =>
        have made := (attribution.synthesized event thread).2
        have worker := (getCompletedJobEvent_spec made).1
        simp only [distance, remaining, thread, freed, idle, worker, if_true,
          Bool.false_eq_true, if_false]
        omega
    | some stamp =>
        simp only [distance, remaining, thread, freed, idle, Bool.false_eq_true, if_false]
        omega

/-- A prepared event is taken off the queue if it was on it. -/
theorem acknowledge_closer (custody : QueueCustody trace state)
    {event : MoonlightEvent CString} {stamp completed : Option Nat}
    (thread : state.thread = .prepared event stamp completed) (listed : Bool)
    : (state.dispatch waitingChannel listed).1.distance < state.distance := by
  have pinned := custody.pinned
  rw [thread] at pinned
  simp only [DispatchState.dispatch, thread]
  cases stamp with
  | none =>
      simp only [distance, remaining, thread, Option.isSome_none, Bool.false_eq_true, if_false]
      omega
  | some stamp =>
      have held : state.events.pinned = some ⟨stamp, event⟩ := pinned
      simp only [distance, remaining, thread, held, waitingChannel, CoalescingQueue.acknowledge,
        Option.isSome_some, if_true, Option.toList_some, Option.toList_none, List.length_cons,
        List.length_nil]
      omega

/-- Where no worker is left, each step of the loop is its last or brings it closer to rest. -/
theorem dispatch_closer (reached : (dispatchMachine waitingChannel).Reaches trace state)
    (workless : state.jobs = []) (listed : Bool)
    : (state.dispatch waitingChannel listed).1.AtRest
      ∨ (state.dispatch waitingChannel listed).1.distance < state.distance := by
  have custody := waiting_custody reached
  have done := done_of_workless (waiting_ledger reached) workless
  cases thread : state.thread with
  | looping => exact look_closer thread done listed
  | peeked event stamp =>
      exact .inr (prepare_closer (waiting_attribution reached) thread done listed)
  | prepared event stamp completed => exact .inr (acknowledge_closer custody thread listed)
  | idle | calling =>
      right
      simp only [DispatchState.dispatch, distance, remaining, thread]
      omega
  | acknowledged event stamp completed =>
      right
      simp only [DispatchState.dispatch, thread]
      split
      · simp only [distance, remaining, thread]
        omega
      · simp only [distance, remaining, thread]
        omega

/-- Where no worker is left, the loop on its own comes to rest. -/
theorem comes_to_rest (reached : (dispatchMachine waitingChannel).Reaches trace state)
    (workless : state.jobs = []) (listed : Bool)
    : ∃ count final later,
        (dispatchMachine waitingChannel).run state (List.replicate count (.dispatch listed))
          = some (final, later)
        ∧ final.AtRest := by
  have closer (state : WaitingDispatch)
      (here
        : (∃ trace, (dispatchMachine waitingChannel).Reaches trace state) ∧ state.jobs = [])
      (_ : ¬ state.AtRest)
      : ∃ after emitted,
          (dispatchMachine waitingChannel).step state (.dispatch listed) = some (after, emitted)
          ∧ ((∃ trace, (dispatchMachine waitingChannel).Reaches trace after) ∧ after.jobs = [])
          ∧ (after.AtRest ∨ after.distance < state.distance) := by
    obtain ⟨⟨trace, before⟩, workless⟩ := here
    have kept := (dispatch_jobs state listed).trans workless
    have taken
        : (dispatchMachine waitingChannel).step state (.dispatch listed)
          = some (state.dispatch waitingChannel listed) :=
      rfl
    exact ⟨_, _, taken, ⟨⟨_, before.next taken⟩, kept⟩, dispatch_closer before workless listed⟩
  exact Machine.exists_arrival distance closer ⟨⟨trace, reached⟩, workless⟩

/-- At rest every enqueued operation is completed. -/
theorem AtRest.completed (rest : state.AtRest)
    (ledger : ForegroundLedger trace state.toForegroundState) {number : Nat}
    {operation : ForegroundOperation} (began : (number, operation) ∈ beganOf trace)
    (worker : operation.hasWorker = true)
    : number ∈ completedOf trace := by
  by_contra missing
  have current := (ledger.outstanding number operation began).2 missing
  unfold ForegroundState.current at current
  split at current
  · simp [rest.thread, DispatchPoint.completing] at current
  · rename_i busy
    obtain rfl : state.begun = number := Option.some.inj current
    simp [ledger.operation_unique began (ledger.running busy), rest.free] at worker

/-- The loop on its own comes to rest over the application's queue as over the abstract one, by
induction on its steps.
-/
theorem Images.run_dispatch {state : DispatchState MoonlightEventQueue} {image next : WaitingDispatch}
    (images : state.Images image) {count : Nat} {listed : Bool} {emitted : List DispatchLabel}
    (ran
      : (dispatchMachine waitingChannel).run image (List.replicate count (.dispatch listed))
        = some (next, emitted))
    : ∃ final,
        (dispatchMachine MoonlightEventQueue.channel).run state
            (List.replicate count (.dispatch listed))
          = some (final, emitted)
        ∧ final.Images next := by
  induction count generalizing state image emitted with
  | zero =>
      obtain ⟨rfl, rfl⟩ : image = next ∧ [] = emitted := by simpa [Machine.run] using ran
      exact ⟨state, rfl, images⟩
  | succ count ih =>
      obtain ⟨shown, after⟩ := images.dispatch listed
      rw [List.replicate_succ, Machine.run] at ran
      simp only [dispatchMachine, dispatchStep] at ran
      split at ran
      · contradiction
      · rename_i last later tail
        simp only [Option.some.injEq, Prod.mk.injEq] at ran
        obtain ⟨rfl, rfl⟩ := ran
        obtain ⟨final, rest, same⟩ := ih after tail
        refine ⟨final, ?_, same⟩
        rw [shown]
        exact Machine.run_cons rfl rest

/-- The loop over the application's queue comes to rest with every operation completed and nothing
queued.
-/
theorem Images.comes_to_rest {state : DispatchState MoonlightEventQueue} {image : WaitingDispatch}
    (images : state.Images image) (ran : (dispatchMachine waitingChannel).Reaches trace image)
    (workless : state.jobs = []) (listed : Bool)
    : ∃ count final later,
        (dispatchMachine MoonlightEventQueue.channel).run state
            (List.replicate count (.dispatch listed))
          = some (final, later)
        ∧ final.thread = .idle
        ∧ final.events.contents = []
        ∧ ∀ number operation,
            (number, operation) ∈ beganOf trace
            → operation.hasWorker = true
            → number ∈ completedOf (trace ++ later) := by
  have idle : image.jobs = [] := by rw [images.foreground, workless]
  obtain ⟨count, next, later, arrived, rest⟩ := DispatchState.comes_to_rest ran idle listed
  obtain ⟨final, taken, last⟩ := images.run_dispatch arrived
  refine ⟨count, final, later, taken, ?_, ?_, ?_⟩
  · rw [← last.foreground, rest.thread]
  · refine List.eq_nil_iff_forall_not_mem.2 fun entry held => ?_
    rw [last.refines.mem_contents, rest.unpinned, rest.empty] at held
    simp at held
  · intro number operation began worker
    refine rest.completed (waiting_ledger (ran.run _ arrived)) ?_ worker
    rw [ForegroundLedger.beganOf_append]
    exact List.mem_append_left _ began

end DispatchState

-----------------------------------------------------------------------------------------
-- The foreground's contract
-----------------------------------------------------------------------------------------

/-- What entitles an event to complete the operation of a worker: the worker has recorded its
result, and the event is the one that the worker queued or is made from that result.
-/
def Entitled (trace : List DispatchLabel) (event : MoonlightEvent CString) (stamp : Option Nat)
    (number : Nat) (operation : ForegroundOperation)
    : Prop :=
  ∃ result,
    .recorded number result ∈ trace
    ∧ match stamp with
      | some stamp =>
          ∃ offered,
            (⟨stamp, offered⟩, some number) ∈ queuedOf trace ∧ event = keptEvent offered
      | none => ∃ address, synthesizedEvent operation result address = some event

/-- The event that completes a worker's operation is entitled to. Witness: it is a worker's event,
so the worker that queued it is the operation's own.
-/
theorem ForegroundAttribution.entitled {trace : List DispatchLabel} {state : WaitingDispatch}
    (attribution : ForegroundAttribution trace state) (custody : QueueCustody trace state)
    (ledger : ForegroundLedger trace state.toForegroundState) {event : MoonlightEvent CString}
    {stamp : Option Nat} {number : Nat} {operation : ForegroundOperation}
    (decided : state.thread.decided = some (event, stamp, some number))
    (began : (number, operation) ∈ beganOf trace)
    (completes : completesOperation operation event.type = true)
    (worker : operation.hasWorker = true)
    : Entitled trace event stamp number operation := by
  have attributed := attribution.decided _ _ _ decided
  cases stamp with
  | some stamp =>
      obtain ⟨offered, sender, queued, rfl⟩ :=
        custody.queued_of_known (custody.decided_known decided)
      have owned : isJobEvent (keptEvent offered).type = sender.isSome :=
        attribution.owned _ _ queued
      rw [isJobEvent_of_completes worker completes] at owned
      obtain ⟨own, rfl⟩ := Option.isSome_iff_exists.1 owned.symm
      obtain rfl : number = own := Option.some.inj (attributed offered own queued)
      have completing : state.thread.completing = some (keptEvent offered, some stamp, number) :=
        DispatchPoint.completing_of_decided decided
      obtain ⟨-, sort, began', -, recorded⟩ := ledger.completing _ _ _ completing
      obtain ⟨result, finished⟩ := recorded (ledger.operation_unique began began' ▸ worker)
      exact ⟨result, finished, offered, queued, rfl⟩
  | none =>
      obtain ⟨other, sort, result, address, same, began', finished, made⟩ := attributed
      obtain rfl : number = other := Option.some.inj same
      obtain rfl := ledger.operation_unique began began'
      exact ⟨result, finished, address, made⟩

/-- Every enqueued operation is completed by exactly one delivered event, and every other event is
delivered in order; what the loop discards is a discovery event that is not listed.
-/
structure ForegroundContract (trace : List DispatchLabel) (state : DispatchState MoonlightEventQueue)
    : Prop where
  /-- Operations have numbers of their own. -/
  numbered : (beganOf trace).map Prod.fst = List.range' 1 state.begun
  once : (completedOf trace).Nodup
  /-- What holds when an event that completes an operation is handed to the page. -/
  completed
    : ∀ choice after emitted event stamp number,
        dispatchStep MoonlightEventQueue.channel state choice = some (after, emitted)
        → .delivered event stamp (some number) ∈ emitted
        → state.service.operation = .none
          ∧ state.service.progressDialogSlot = -1
          ∧ number ∉ completedOf trace
          ∧ ∃ operation,
              (number, operation) ∈ beganOf trace
              ∧ completesOperation operation event.type = true
              ∧ (operation.hasWorker = true → Entitled trace event stamp number operation)
  /-- A worker's event completes the worker's operation, and one that is made completes some. -/
  owned
    : ∀ choice after emitted event stamp completed,
        dispatchStep MoonlightEventQueue.channel state choice = some (after, emitted)
        → .delivered event stamp completed ∈ emitted
        → match stamp with
          | some stamp =>
              ∀ offered worker,
                (⟨stamp, offered⟩, some worker) ∈ queuedOf trace → completed = some worker
          | none => completed ≠ none
  /-- An operation is completed, or its worker is at work or has recorded its result. -/
  pending
    : ∀ number operation,
        (number, operation) ∈ beganOf trace
        → operation.hasWorker = true
        → number ∈ completedOf trace
          ∨ (∃ job ∈ state.jobs, job.number = number)
          ∨ ∃ result, .recorded number result ∈ trace
  /-- Once the workers have recorded their results, the loop completes their operations and
  delivers what is queued.
  -/
  rests
    : state.jobs = []
      → ∀ listed,
          ∃ count final later,
            (dispatchMachine MoonlightEventQueue.channel).run state
                (List.replicate count (.dispatch listed))
              = some (final, later)
            ∧ final.thread = .idle
            ∧ final.events.contents = []
            ∧ ∀ number operation,
                (number, operation) ∈ beganOf trace
                → operation.hasWorker = true
                → number ∈ completedOf (trace ++ later)
  inOrder : DeliversInOrder trace state
  /-- What is discarded is a discovery event that the service no longer accepts, or that finds
  another page than the main page.
  -/
  unlisted
    : ∀ choice after emitted event stamp,
        dispatchStep MoonlightEventQueue.channel state choice = some (after, emitted)
        → .discarded event stamp ∈ emitted
        → choice = .dispatch false ∧ event.type = .discoveryChanged

/-- The label parts the loop from an event. -/
def DispatchLabel.parts : DispatchLabel → Bool
  | .delivered .. | .discarded .. => true
  | _ => false

/-- Only the loop parts from an event, and only from the one that it has acknowledged: it hands it
to the page, or drops it where it is a discovery event that is not listed.
-/
theorem parting {Queue : Type} {channel : EventChannel Queue}
    {state after : DispatchState Queue} {choice : DispatchChoice} {emitted : List DispatchLabel}
    (taken : dispatchStep channel state choice = some (after, emitted))
    {label : DispatchLabel} (member : label ∈ emitted) (parts : label.parts = true)
    : ∃ event stamp completed,
        state.thread = .acknowledged event stamp completed
        ∧ (label = .delivered event stamp completed
          ∨ label = .discarded event stamp
            ∧ choice = .dispatch false
            ∧ event.type = .discoveryChanged) := by
  have offered {before : DispatchState Queue} {found : MoonlightEvent CString}
      {worker : Option Nat} (queued : before.queueEvent channel found worker = (after, emitted))
      : False := by
    unfold DispatchState.queueEvent at queued
    split at queued
    all_goals
      rw [← (Prod.mk.inj queued).2, List.mem_singleton] at member
      subst member
      contradiction
  cases choice with
  | dispatch listed =>
      simp only [dispatchStep, Option.some.injEq] at taken
      obtain rfl : (state.dispatch channel listed).2 = emitted := congrArg Prod.snd taken
      unfold DispatchState.dispatch at member
      split at member
      · simp at member
      · split at member
        · simp at member
        · split at member <;> simp at member
      · split at member <;> simp at member
      · simp at member
      · rename_i event stamp completed thread
        split at member
        · rename_i dropped
          obtain rfl : listed = false := by simpa using dropped.2
          exact ⟨event, stamp, completed, thread,
            .inr ⟨List.mem_singleton.1 member, rfl, dropped.1⟩⟩
        · exact ⟨event, stamp, completed, thread, .inl (List.mem_singleton.1 member)⟩
      · simp at member
  | page action =>
      simp only [dispatchStep] at taken
      split at taken
      · simp only [Option.some.injEq, Prod.mk.injEq] at taken
        have effect := ForegroundState.act_effect state.toForegroundState action
        rw [← taken.2] at member
        generalize state.act action = acted at effect member
        cases effect <;> simp at member
        subst member
        contradiction
      · contradiction
  | posted found =>
      simp only [dispatchStep] at taken
      split at taken
      · contradiction
      · exact (offered (Option.some.inj taken)).elim
  | emit index found =>
      simp only [dispatchStep, DispatchState.emit] at taken
      split at taken
      · contradiction
      · split at taken
        · contradiction
        · exact (offered (Option.some.inj taken)).elim
  | record index result =>
      simp only [dispatchStep, DispatchState.record] at taken
      split at taken
      · contradiction
      · simp only [Option.some.injEq, Prod.mk.injEq] at taken
        rw [← taken.2, List.mem_singleton] at member
        subst member
        contradiction

/-- A page sees the event that the loop has acknowledged. -/
theorem thread_of_delivered {Queue : Type} {channel : EventChannel Queue}
    {state after : DispatchState Queue} {choice : DispatchChoice} {emitted : List DispatchLabel}
    (taken : dispatchStep channel state choice = some (after, emitted))
    {event : MoonlightEvent CString} {stamp completed : Option Nat}
    (member : .delivered event stamp completed ∈ emitted)
    : state.thread = .acknowledged event stamp completed := by
  obtain ⟨_, _, _, thread, same | ⟨same, -⟩⟩ := parting taken member rfl
  · cases same
    exact thread
  · cases same

/-- Every run in which fewer than 2^64 events are accepted keeps the foreground's contract.
Witness: custody of the queue, the books and the attribution over the abstract queue.
-/
theorem foreground_completes_once {trace : List DispatchLabel}
    {state : DispatchState MoonlightEventQueue}
    (reached : (dispatchMachine MoonlightEventQueue.channel).Reaches trace state)
    (bounded : (queuedOf trace).length < 2 ^ 64)
    : ForegroundContract trace state := by
  obtain ⟨image, ran, images⟩ := dispatch_imaged reached bounded
  have foreground := images.foreground
  have custody := waiting_custody ran
  have ledger := waiting_ledger ran
  have attribution := waiting_attribution ran
  have thread : image.thread = state.thread := congrArg _ foreground
  rw [foreground] at ledger
  exact {
    numbered := ledger.numbered
    once := ledger.once
    completed := by
      intro choice after emitted event stamp number taken member
      have there := thread_of_delivered taken member
      have completing : state.thread.completing = some (event, stamp, number) := by
        rw [there]
        rfl
      obtain ⟨freed, operation, began, completes, recorded⟩ := ledger.completing _ _ _ completing
      have current : state.current = some number := by
        simp [ForegroundState.current, freed, completing]
      refine ⟨freed, ledger.closed freed, (ledger.outstanding _ _ began).1 current, operation,
        began, completes, ?_⟩
      intro worker
      refine attribution.entitled custody (foreground.symm ▸ ledger) ?_ began completes worker
      rw [thread, there]
      rfl
    owned := by
      intro choice after emitted event stamp completed taken member
      have there := thread_of_delivered taken member
      have decided := attribution.decided event stamp completed (by rw [thread, there]; rfl)
      cases stamp with
      | some stamp => exact decided
      | none =>
          obtain ⟨number, -, -, -, same, -⟩ := decided
          simp [same]
    pending := by
      intro number operation began worker
      exact or_iff_not_imp_left.2 (ledger.pending began worker)
    rests := by
      intro workless listed
      exact images.comes_to_rest ran workless listed
    inOrder := delivers_in_order reached bounded
    unlisted := by
      intro choice after emitted event stamp taken member
      obtain ⟨_, _, _, -, same | ⟨same, unlisted, discovery⟩⟩ := parting taken member rfl
      · cases same
      · cases same
        exact ⟨unlisted, discovery⟩
  }

/-- Queue memory before the first reset. -/
def blankQueue : MoonlightEventQueue :=
  let unused : MoonlightQueuedEvent :=
    { event := { type := .none }, address := .empty, sequence := 0 }
  { ordered := fun _ => unused
    snapshots := fun _ => unused
    snapshotPending := fun _ => false
    head := 0
    tail := 0
    count := 0
    sequence := 0
    pending := unused
    pendingValid := false }

/-- A connection whose event the loop meets before the result is recorded. -/
theorem early_event_completes_once
    : ∃ trace state,
        ForegroundContract trace state
        ∧ completedOf trace = [1]
        ∧ takenOf trace = [⟨1, { type := .connectionReady }⟩] := by
  have start
      : (dispatchMachine MoonlightEventQueue.channel).Reaches [] { events := blankQueue.reset } :=
    .start ⟨_, ⟨blankQueue, rfl⟩, rfl⟩
  have ran := start.run
    [.page (.connect { internal := .copy 256 (.ofLiteral "10.0.0.2") } 3 true),
      .emit 0 { type := .connectionReady }, .dispatch true, .dispatch true, .dispatch true,
      .record 0 0, .dispatch true, .dispatch true, .dispatch true, .dispatch true,
      .dispatch true] rfl
  exact ⟨_, _, foreground_completes_once ran (by decide), rfl, rfl⟩

/-- A waiting availability event gives way to a later one and reaches no page. -/
theorem replaced_event_undelivered
    : ∃ trace state,
        (dispatchMachine MoonlightEventQueue.channel).Reaches trace state
        ∧ ⟨1, { type := .hostAvailabilityChanged, hostId := 3 }⟩ ∈ acceptedOf trace
        ∧ state.thread = .idle
        ∧ state.events.contents = []
        ∧ takenOf trace = [⟨2, { type := .hostAvailabilityChanged, hostId := 4 }⟩] := by
  have start
      : (dispatchMachine MoonlightEventQueue.channel).Reaches [] { events := blankQueue.reset } :=
    .start ⟨_, ⟨blankQueue, rfl⟩, rfl⟩
  have ran := start.run
    [.posted { type := .hostAvailabilityChanged, hostId := 3 },
      .posted { type := .hostAvailabilityChanged, hostId := 4 }, .dispatch true, .dispatch true,
      .dispatch true, .dispatch true, .dispatch true, .dispatch true, .dispatch true] rfl
  refine ⟨_, _, ran, ?_, rfl, rfl, rfl⟩
  decide

end VitaMoonlight
