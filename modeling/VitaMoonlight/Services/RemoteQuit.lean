import VitaMoonlight.App.EventQueue
import VitaMoonlight.GameStream.LaunchSession
import VitaMoonlight.Services.ConnectionService
import VitaMoonlight.Stream.Session

/-! From a conflict to a remote quit: the dialogs of the main thread, the sessions they start
and the requests of each session's launch, step by step.
The main thread, the owner of a session, the streaming library, the other producers of events
and the server interleave freely. The server answers every request as it likes.
-/

namespace VitaMoonlight

open Library

-----------------------------------------------------------------------------------------
-- Labels and state
-----------------------------------------------------------------------------------------

/-- What a run shows. `requested` is a start by the user, `dialogClosed true` an answer YES to what
the dialog asked; either is behind a session that is started, or refused without one.
-/
inductive RemoteQuitLabel
  | dialogOpened (message : CharArray 512) (asked : Option (Int × Int))
  | dialogClosed (yes : Bool)
  | requested (application : Int)
  | started (application quit : Int)
  | refused
  | launch (label : LaunchLabel)
  | stream (label : StreamLabel)
deriving DecidableEq

/-- Where the main thread is: its event loop, or `moonlight_api_start_application`, called
from a page or from `DialogPollTask`.
-/
inductive MainThread
  | idle
  | calling (application quit : Int) (polling : Bool)
  /-- The application id is stored. -/
  | admitting (application quit : Int) (polling : Bool)
  /-- The session is admitted. -/
  | creating (polling : Bool)
deriving DecidableEq

/-- The arguments of the newest session and the progress of its launch. -/
structure LaunchFrame where
  application : Int := 0
  quit : Int := 0
  point : LaunchPoint := .returned
deriving DecidableEq

/-- The service, the main thread, the event queue, the API's variables that a session's events
read, the newest launch and the stream sessions.
-/
structure RemoteQuitState (Certificate : Type) where
  service : ConnectionService := {}
  thread : MainThread := .idle
  events : MoonlightEventQueue
  host : MoonlightHost := {}
  streamApplicationId : Int := -1
  server : GameStreamServer Certificate
  launch : LaunchFrame := {}
  stream : StreamState := {}

/-- What the main thread does between two events of its loop. -/
inductive ScreenAction
  | connect (host : MoonlightHost) (slot : Int) (enqueued : Bool)
  | loadApplications (slot : Int) (enqueued : Bool)
  | start (application : Int) (slot : Int)
  | showError (message : CString) (result : Int)
  | poll (poll : DialogPoll) (slot : Int)
  | processEvent (address : CString)
  | shutdown

/-- How a call of the main thread goes on. -/
inductive ThreadAction
  | proceed
  | fails (result : Int)

/-- The next step of some party. -/
inductive RemoteQuitChoice (Certificate : Type)
  | screen (action : ScreenAction)
  | thread (action : ThreadAction)
  /-- A request that needs the stream to be over replaces the host and its server. -/
  | host (host : MoonlightHost) (server : GameStreamServer Certificate)
  | launch (action : LaunchAction)
  | stream (choice : StreamChoice)
  /-- An event of another producer. -/
  | posted (event : MoonlightEvent AddressPointer)
  | workerDone (result : Int)

namespace RemoteQuitState

variable {Certificate : Type}

-----------------------------------------------------------------------------------------
-- The main thread
-----------------------------------------------------------------------------------------

/-- `StartConfirmed` up to `StartApplication`. -/
def startConfirmed (state : RemoteQuitState Certificate) (application quit slot : Int)
    (polling : Bool)
    : RemoteQuitState Certificate × List RemoteQuitLabel :=
  match state.service.beginOperation .launch slot with
  | (service, 0) => ({ state with service, thread := .calling application quit polling }, [])
  | (service, result) =>
      ({ state with service := if polling then service.confirmedReturned result else service },
        [.refused])

/-- `StartApplication` returns, and its callers after it. -/
def startReturned (state : RemoteQuitState Certificate) (result : Int) (polling : Bool)
    : RemoteQuitState Certificate :=
  let service := state.service.startReturned result
  { state with
    thread := .idle
    service := if polling then service.confirmedReturned result else service }

/-- `DialogPollTask`. -/
def dialogPollTask (state : RemoteQuitState Certificate) (poll : DialogPoll) (slot : Int)
    : RemoteQuitState Certificate × List RemoteQuitLabel :=
  let (service, opened) := state.service.tryShowError poll.init
  let shown :=
    if opened then [RemoteQuitLabel.dialogOpened service.errorMessage service.asked] else []
  if service.errorDialogOpen then
    match service.readDialog poll with
    | none => ({ state with service }, shown)
    | some (closed, true) =>
        let (state, refused) :=
          { state with service := closed }.startConfirmed service.confirmApplicationId
            service.confirmRunningId slot true
        (state, shown ++ .dialogClosed true :: refused)
    | some (closed, false) =>
        ({ state with service := closed.unregisterIdle }, shown ++ [.dialogClosed false])
  else ({ state with service := service.unregisterIdle }, shown)

/-- One round of the loop in `ProcessEventTask`. -/
def processEvent (state : RemoteQuitState Certificate) (address : CString)
    : RemoteQuitState Certificate :=
  match state.events.peek with
  | (events, some event) =>
      let (service, accepted) := state.service.prepareCompletion event
      { state with service, events := if accepted then events.acknowledge else events }
  | (events, none) =>
      match state.service.getCompletedJobEvent (AddressPointer.caller address) with
      | some event =>
          { state with service := (state.service.prepareCompletion event).1, events }
      | none => { state with events }

/-- One action of the main thread. -/
def screenStep (state : RemoteQuitState Certificate)
    : ScreenAction → Option (RemoteQuitState Certificate × List RemoteQuitLabel)
  | .connect host slot enqueued =>
      some ({ state with service := state.service.connect host slot enqueued }, [])
  | .loadApplications slot enqueued =>
      match state.service.beginOperation .applications slot with
      | (service, 0) =>
          let service := if enqueued then service else service.finishUnstartedOperation
          some ({ state with service }, [])
      | (service, _) => some ({ state with service }, [])
  | .start application slot =>
      let (state, refused) := state.startConfirmed application 0 slot false
      some (state, .requested application :: refused)
  | .showError message result =>
      some ({ state with service := state.service.showError message result }, [])
  | .poll poll slot =>
      if state.service.dialogTaskRegistered then some (state.dialogPollTask poll slot) else none
  | .processEvent address => some (state.processEvent address, [])
  | .shutdown =>
      some ({ state with service := state.service.shutdown },
        if state.service.errorDialogOpen then [.dialogClosed false] else [])

/-- The next step of `moonlight_api_start_application`: its own checks, the admission in
`moonlight_stream_start`, the creation of the owner.
-/
def threadStep (state : RemoteQuitState Certificate) (action : ThreadAction)
    : Option (RemoteQuitState Certificate × List RemoteQuitLabel) :=
  match state.thread, action with
  | .calling application quit polling, .proceed =>
      some ({ state with
          thread := .admitting application quit polling
          streamApplicationId := application }, [])
  | .calling _ _ polling, .fails result =>
      if result = 0 then none else some (state.startReturned result polling, [.refused])
  | .admitting application quit polling, .proceed =>
      match VitaMoonlight.streamStep state.stream .start with
      | some (stream, []) =>
          some ({ state with stream, streamApplicationId := -1 }.startReturned (-2) polling,
            [.refused])
      | some (stream, labels) =>
          some ({ state with
              stream
              launch := { application, quit, point := .created }
              thread := .creating polling },
            labels.map .stream ++ [.started application quit])
      | none => none
  | .admitting _ _ polling, .fails result =>
      if result = 0 then none
      else some ({ state with streamApplicationId := -1 }.startReturned result polling, [.refused])
  | .creating polling, .proceed =>
      match VitaMoonlight.streamStep state.stream (.create 0 true) with
      | some (stream, labels) =>
          some ({ state with stream }.startReturned 0 polling, labels.map .stream)
      | none => none
  | .creating polling, .fails _ =>
      match VitaMoonlight.streamStep state.stream (.create 0 false) with
      | some (stream, labels) =>
          some ({ state with
              stream
              streamApplicationId := -1
              launch := { state.launch with point := .returned } }.startReturned (-4) polling,
            labels.map .stream)
      | none => none
  | .idle, _ => none

-----------------------------------------------------------------------------------------
-- The owner of a session
-----------------------------------------------------------------------------------------

/-- The event type of a session's event. -/
def eventType : StreamEvent → MoonlightEventType
  | .started => .streamStarted
  | .stopped => .streamStopped
  | .failed => .streamFailed

/-- `on_stream_event`, as far as the event and the application id go. -/
def onStreamEvent (state : RemoteQuitState Certificate) (event : StreamEvent) (result : Int)
    : RemoteQuitState Certificate :=
  let emitted : MoonlightEvent AddressPointer :=
    { type := eventType event
      result
      hostId := state.host.id
      applicationId := state.streamApplicationId
      address := some (.caller state.host.internal.text)
      runningApplicationId :=
        if event = .failed ∧ result = GameStreamError.appConflict.code
            ∧ state.server.currentGame ≠ state.streamApplicationId then
          state.server.currentGame
        else 0 }
  { state with
    events := (state.events.push emitted).1
    streamApplicationId := if event = .started then state.streamApplicationId else -1 }

/-- The event among the labels of a step. -/
def published : List StreamLabel → Option (StreamEvent × Int)
  | [.event _ event result] => some (event, result)
  | _ => none

/-- A step of the sessions that makes no request. -/
def streamStep (state : RemoteQuitState Certificate) (choice : StreamChoice)
    : Option (RemoteQuitState Certificate × List RemoteQuitLabel) :=
  match VitaMoonlight.streamStep state.stream choice with
  | none => none
  | some (stream, labels) =>
      let stepped := { state with stream }
      match published labels with
      | some (event, result) => some (stepped.onStreamEvent event result, labels.map .stream)
      | none => some (stepped, labels.map .stream)

/-- The launch goes on at a point. -/
def launchAt (state : RemoteQuitState Certificate) (point : LaunchPoint)
    : RemoteQuitState Certificate :=
  { state with launch := { state.launch with point } }

/-- One check of the owner while a launch is in progress. -/
def checkStep (state : RemoteQuitState Certificate) (index : Nat) (next : LaunchPoint)
    : Option (RemoteQuitState Certificate × List RemoteQuitLabel) :=
  match VitaMoonlight.streamStep state.stream (.owner index .proceed) with
  | none => none
  | some (stream, labels) =>
      let stepped := { state with stream }
      if state.stream.flags.cancelRequested then
        some (stepped.launchAt .returned, labels.map .stream ++ [.launch (.failed (-7))])
      else
        some (stepped.launchAt next,
          labels.map .stream ++ (state.launch.point.shownByCheck state.server).map .launch)

/-- A step of the sessions outside `moonlight_stream_start`. The launch decides when the
owner goes on with its setup.
-/
def sessionStep (state : RemoteQuitState Certificate) (choice : StreamChoice)
    : Option (RemoteQuitState Certificate × List RemoteQuitLabel) :=
  match choice with
  | .start | .create _ _ => none
  | .stop | .terminated _ => state.streamStep choice
  | .owner index action =>
      match state.stream.owners[index]? with
      | none => none
      | some owner =>
          match owner.point, action with
          | .setup _, .proceed =>
              if state.launch.point = .returned then state.streamStep choice
              else
                match state.launch.point.afterCheck state.server with
                | some next => state.checkStep index next
                | none => none
          | .setup _, _ => none
          | _, _ => state.streamStep choice

/-- A step of `load_launch_session`; an error makes the owner give up. -/
def launchStep (state : RemoteQuitState Certificate) (action : LaunchAction)
    : Option (RemoteQuitState Certificate × List RemoteQuitLabel) :=
  match VitaMoonlight.launchStep state.server state.launch.application state.launch.quit
    state.launch.point action with
  | none => none
  | some (server, .ok point, labels) =>
      some ({ state with server }.launchAt point, labels.map .launch)
  | some (server, .error result, labels) =>
      match VitaMoonlight.streamStep state.stream (.owner 0 (.setupFails result)) with
      | none => none
      | some (stream, shown) =>
          some ({ state with server, stream }.launchAt .returned,
            labels.map .launch ++ shown.map .stream)

end RemoteQuitState

variable {Certificate : Type}

/-- One step of the machine. -/
def remoteQuitStep (state : RemoteQuitState Certificate)
    : RemoteQuitChoice Certificate → Option (RemoteQuitState Certificate × List RemoteQuitLabel)
  | .screen action => if state.thread = .idle then state.screenStep action else none
  | .thread action => state.threadStep action
  | .host host server =>
      if state.stream.flags.threadRunning then none else some ({ state with host, server }, [])
  | .launch action => state.launchStep action
  | .stream choice => state.sessionStep choice
  | .posted event =>
      if event.type = .streamStarted ∨ event.type = .streamStopped ∨ event.type = .streamFailed then
        none
      else some ({ state with events := (state.events.push event).1 }, [])
  | .workerDone result =>
      some ({ state with service := state.service.recordWorkerResult result }, [])

/-- The machine of dialogs, sessions and launches, from a fresh process with any server. -/
def remoteQuitMachine (Certificate : Type)
    : Machine (RemoteQuitState Certificate) (RemoteQuitChoice Certificate) RemoteQuitLabel where
  initial state :=
    ∃ (memory : MoonlightEventQueue) (server : GameStreamServer Certificate),
      state = { events := memory.reset, server }
  step := remoteQuitStep

end VitaMoonlight
