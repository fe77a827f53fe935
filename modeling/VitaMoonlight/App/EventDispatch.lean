import VitaMoonlight.App.EventQueue
import VitaMoonlight.Library.CoalescingQueue
import VitaMoonlight.Library.Machine
import VitaMoonlight.Services.ConnectionService

/-! `MoonlightApp::QueueEvent` and `MoonlightApp::ProcessEventTask` with the foreground operation
that the events complete: the main thread, the worker of each operation and the other producers
of events interleave at every lock and at the worker's atomic store.
-/

namespace VitaMoonlight

open Library

-----------------------------------------------------------------------------------------
-- Labels and state
-----------------------------------------------------------------------------------------

/-- What the application uses of its event queue. An accepted event gets a number, and a peek
returns the event with that number.
-/
structure EventChannel (Queue : Type) where
  fresh : Queue → Prop
  push : Queue → MoonlightEvent CString → Queue × Option Nat
  peek : Queue → Queue × Option (Stamped (MoonlightEvent CString))
  acknowledge : Queue → Queue

/-- What a run shows. Operations are numbered from one; `completed` is the operation that the
event has completed.
-/
inductive DispatchLabel
  | began (number : Nat) (operation : ForegroundOperation)
  | queued (entry : Stamped (MoonlightEvent CString)) (worker : Option Nat)
  | refused (event : MoonlightEvent CString) (worker : Option Nat)
  | recorded (number : Nat) (result : Int)
  | delivered (event : MoonlightEvent CString) (stamp completed : Option Nat)
  | discarded (event : MoonlightEvent CString) (stamp : Option Nat)
deriving DecidableEq

/-- Where the main thread is in `ProcessEventTask`; a synthesized event has no stamp. -/
inductive DispatchPoint
  | idle
  | looping
  | peeked (event : MoonlightEvent CString) (stamp : Option Nat)
  | prepared (event : MoonlightEvent CString) (stamp completed : Option Nat)
  | acknowledged (event : MoonlightEvent CString) (stamp completed : Option Nat)
  /-- In the callback of a page. -/
  | calling
deriving DecidableEq

/-- A `ConnectJob` or `RefreshAppsJob` that has not recorded its result. -/
structure WorkerJob where
  number : Nat
  operation : ForegroundOperation
  emitted : Bool := false
deriving DecidableEq

/-- The service, the main thread, the enqueued jobs and the number of begun operations. -/
structure ForegroundState where
  service : ConnectionService := {}
  connectAddress : CharArray 256 := .empty
  thread : DispatchPoint := .idle
  jobs : List WorkerJob := []
  begun : Nat := 0

/-- The foreground with the application's event queue. -/
structure DispatchState (Queue : Type) extends ForegroundState where
  events : Queue

/-- What a page, or a task of the main thread, does. `slot` is what opening the progress dialog
answers, `result` what `StartApplication` answers.
-/
inductive PageAction
  | connect (host : MoonlightHost) (slot : Int) (enqueued : Bool)
  | refresh (slot : Int) (enqueued : Bool)
  | start (slot result : Int)
  | showError (message : CString) (result : Int)
  | poll (poll : DialogPoll) (slot result : Int)

/-- The next step of some party. `listed` tells whether a discovery event is accepted and the
main page is the current one.
-/
inductive DispatchChoice
  | dispatch (listed : Bool)
  | page (action : PageAction)
  /-- An event that no worker emits to complete its operation. -/
  | posted (event : MoonlightEvent CString)
  | emit (index : Nat) (event : MoonlightEvent CString)
  | record (index : Nat) (result : Int)

/-- The events that complete the operation of a worker. -/
def isJobEvent (type : MoonlightEventType) : Bool :=
  completesOperation .connect type || completesOperation .applications type

namespace ForegroundState

-----------------------------------------------------------------------------------------
-- The pages
-----------------------------------------------------------------------------------------

/-- An operation has begun; unless it is a launch, a worker is enqueued for it. -/
def began (state : ForegroundState) (operation : ForegroundOperation)
    : ForegroundState × List DispatchLabel :=
  let number := state.begun + 1
  let jobs :=
    if operation = .launch then state.jobs else state.jobs ++ [⟨number, operation, false⟩]
  ({ state with begun := number, jobs }, [.began number operation])

/-- `ConnectionService::StartConfirmed` and what it returns. -/
def startConfirmed (state : ForegroundState) (slot result : Int)
    : (ForegroundState × List DispatchLabel) × Int :=
  match state.service.beginOperation .launch slot with
  | (service, 0) =>
      if result = 0 then ({ state with service }.began .launch, 0)
      else (({ state with service := service.finishUnstartedOperation }, []), result)
  | (service, failure) => (({ state with service }, []), failure)

/-- `ConnectionService::DialogPollTask`. -/
def dialogPollTask (state : ForegroundState) (poll : DialogPoll) (slot result : Int)
    : ForegroundState × List DispatchLabel :=
  let service := (state.service.tryShowError poll.init).1
  if service.errorDialogOpen then
    match service.readDialog poll with
    | none => ({ state with service }, [])
    | some (closed, false) => ({ state with service := closed.unregisterIdle }, [])
    | some (closed, true) =>
        let ((launched, labels), returned) :=
          { state with service := closed }.startConfirmed slot result
        ({ launched with service := launched.service.confirmedReturned returned }, labels)
  else ({ state with service := service.unregisterIdle }, [])

/-- One action of a page or a task. -/
def act (state : ForegroundState) : PageAction → ForegroundState × List DispatchLabel
  | .connect host slot enqueued =>
      let connected := { state with service := state.service.connect host slot enqueued }
      if host.internal.isEmpty ∨ (state.service.beginOperation .connect slot).2 ≠ 0 then
        (connected, [])
      else
        let addressed := { connected with connectAddress := host.internal }
        if enqueued then addressed.began .connect else (addressed, [])
  | .refresh slot enqueued =>
      match state.service.beginOperation .applications slot with
      | (service, 0) =>
          if enqueued then { state with service }.began .applications
          else ({ state with service := service.finishUnstartedOperation }, [])
      | (service, _) => ({ state with service }, [])
  | .start slot result => (state.startConfirmed slot result).1
  | .showError message result =>
      ({ state with service := state.service.showError message result }, [])
  | .poll poll slot result =>
      if state.service.dialogTaskRegistered then state.dialogPollTask poll slot result
      else (state, [])

end ForegroundState

namespace DispatchState

variable {Queue : Type}

/-- `ProcessEventTask` up to its next step. The lock is held from the peek to
`GetCompletedJobEvent`; the callback is registered throughout.
-/
def dispatch (channel : EventChannel Queue) (state : DispatchState Queue) (listed : Bool)
    : DispatchState Queue × List DispatchLabel :=
  match state.thread with
  | .idle => ({ state with thread := .looping }, [])
  | .looping =>
      match channel.peek state.events with
      | (events, some entry) =>
          ({ state with events, thread := .peeked entry.event (some entry.stamp) }, [])
      | (events, none) =>
          match state.service.getCompletedJobEvent state.connectAddress.text with
          | some event => ({ state with events, thread := .peeked event none }, [])
          | none => ({ state with events, thread := .idle }, [])
  | .peeked event stamp =>
      match state.service.prepareCompletion event with
      | (_, false) => ({ state with thread := .idle }, [])
      | (service, true) =>
          let completed :=
            if completesOperation state.service.operation event.type then some state.begun
            else none
          ({ state with service, thread := .prepared event stamp completed }, [])
  | .prepared event stamp completed =>
      let events := if stamp.isSome then channel.acknowledge state.events else state.events
      ({ state with events, thread := .acknowledged event stamp completed }, [])
  | .acknowledged event stamp completed =>
      if event.type = .discoveryChanged ∧ !listed then
        ({ state with thread := .looping }, [.discarded event stamp])
      else ({ state with thread := .calling }, [.delivered event stamp completed])
  | .calling => ({ state with thread := .looping }, [])

/-- `MoonlightApp::QueueEvent`. -/
def queueEvent (channel : EventChannel Queue) (state : DispatchState Queue)
    (event : MoonlightEvent CString) (worker : Option Nat)
    : DispatchState Queue × List DispatchLabel :=
  match channel.push state.events event with
  | (events, some stamp) => ({ state with events }, [.queued ⟨stamp, event⟩ worker])
  | (events, none) => ({ state with events }, [.refused event worker])

/-- A worker emits its completion event, unless it already has. -/
def emit (channel : EventChannel Queue) (state : DispatchState Queue) (index : Nat)
    (event : MoonlightEvent CString)
    : Option (DispatchState Queue × List DispatchLabel) :=
  match state.jobs[index]? with
  | none => none
  | some job =>
      if job.emitted || !completesOperation job.operation event.type then none
      else
        some
          ({ state with jobs := state.jobs.set index { job with emitted := true } }.queueEvent
            channel event (some job.number))

/-- A worker records its result and ends. -/
def record (state : DispatchState Queue) (index : Nat) (result : Int)
    : Option (DispatchState Queue × List DispatchLabel) :=
  match state.jobs[index]? with
  | none => none
  | some job =>
      some
        ({ state with
            service := state.service.recordWorkerResult result
            jobs := state.jobs.eraseIdx index },
          [.recorded job.number result])

end DispatchState

variable {Queue : Type}

/-- One step of the machine. A page acts between the rounds of the main thread's tasks or from
the callback.
-/
def dispatchStep (channel : EventChannel Queue) (state : DispatchState Queue)
    : DispatchChoice → Option (DispatchState Queue × List DispatchLabel)
  | .dispatch listed => some (state.dispatch channel listed)
  | .page action =>
      if state.thread = .idle ∨ state.thread = .calling then
        let (foreground, labels) := state.act action
        some ({ state with toForegroundState := foreground }, labels)
      else none
  | .posted event =>
      if isJobEvent event.type then none else some (state.queueEvent channel event none)
  | .emit index event => state.emit channel index event
  | .record index result => state.record index result

/-- The machine from the application's initialization. -/
def dispatchMachine (channel : EventChannel Queue)
    : Machine (DispatchState Queue) DispatchChoice DispatchLabel where
  initial state := ∃ events, channel.fresh events ∧ state = { events }
  step := dispatchStep channel

/-- The channel of the application's queue. `ProcessEventTask` copies the address into its own
buffer of 256 bytes.
-/
def MoonlightEventQueue.channel : EventChannel MoonlightEventQueue where
  fresh queue := ∃ memory : MoonlightEventQueue, queue = memory.reset
  push queue event :=
    match queue.push (event.mapAddress .caller) with
    | (after, 0) => (after, some after.sequence)
    | (after, _) => (after, none)
  peek queue :=
    match queue.peek with
    | (after, some event) =>
        (after, some ⟨after.pending.sequence, (after.read event).mapAddress (·.take 255)⟩)
    | (after, none) => (after, none)
  acknowledge := .acknowledge

end VitaMoonlight
