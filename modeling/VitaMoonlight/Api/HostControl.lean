import VitaMoonlight.Stream.Session

/-! Admission of host requests and the disconnect cleanup (`moonlight/api.cpp`).
Every request holds `s_host_control_mutex` from its admission to its return; the cleanup
worker and the shutdown take the same mutex. The stream sessions run beside them and report
through `on_stream_event` without it. A callback is registered throughout: without one, `emit`
would return and nobody would see the event of a label.
-/

namespace VitaMoonlight

open Library

-----------------------------------------------------------------------------------------
-- Requests and what holds the mutex
-----------------------------------------------------------------------------------------

/-- `MoonlightConnectionState`; nothing sets `MOONLIGHT_CONNECTION_PAUSED`. -/
inductive ConnectionState
  | disconnected
  | ready
  | paired
  | streaming
deriving DecidableEq

/-- The entry points that begin with a `HostControlRequest`. -/
inductive HostRequest
  | connectHost (host : Nat)
  | preparePairing
  | pairCurrentHost
  | getApplications
  | startApplication (application : Int)
  | stopApplication
  | disconnectHost
deriving DecidableEq

/-- How far an admitted request is. -/
inductive RequestPoint
  | entered
  /-- In the network part of connecting, pairing or listing applications. -/
  | working
  /-- About to enter `moonlight_stream_start`. -/
  | starting
  /-- In `moonlight_stream_start`, about to create the owner. -/
  | creating
  /-- `moonlight_stream_start` returned an error. -/
  | startFailed
  /-- Disconnecting, about to enter `begin_disconnect_cleanup`. -/
  | stopped
  /-- About to create the cleanup worker. -/
  | scheduling
  | scheduled
  | notScheduled
  | leaving
deriving DecidableEq

/-- How far the cleanup worker is once it has the mutex. -/
inductive WorkerPoint
  | waiting
  | cleaning
  | publishing
  | closing
deriving DecidableEq

/-- How far `moonlight_api_shutdown` is once it keeps the mutex. -/
inductive ShutdownPoint
  | entered
  | waiting
deriving DecidableEq

/-- Who holds the mutex. -/
inductive ControlHolder
  | request (request : HostRequest) (point : RequestPoint)
  | worker (point : WorkerPoint)
  | shutdown (point : ShutdownPoint)
deriving DecidableEq

/-- What a request meets: whether everything outside these flags succeeds, and what the
server's record says about pairing.
-/
structure RequestOutcome where
  succeeds : Bool
  paired : Bool

-----------------------------------------------------------------------------------------
-- The state
-----------------------------------------------------------------------------------------

/-- The flags of the API, the holder of the mutex, the cleanup workers that wait for it, the
stream sessions, and the stream event whose callback has not returned.
-/
structure ControlState where
  hasCurrentHost : Bool := false
  currentHost : Nat := 0
  connectionState : ConnectionState := .disconnected
  initialized : Bool := false
  streamApplicationId : Int := -1
  streamActive : Bool := false
  streamPending : Bool := false
  disconnectPending : Bool := false
  workerRunning : Bool := false
  holder : Option ControlHolder := none
  workers : Nat := 0
  stream : StreamState := {}
  handling : Option StreamEvent := none
deriving DecidableEq

/-- The flags that a failed disconnect must leave alone. -/
structure ControlView where
  disconnectPending : Bool
  workerRunning : Bool
  hasCurrentHost : Bool
  currentHost : Nat
deriving DecidableEq

/-- What a run shows. A disconnect is accepted when it schedules the cleanup worker. -/
inductive ControlLabel
  | admitted (request : HostRequest) (seen : ControlView)
  | refused (request : HostRequest)
  | accepted
  | notScheduled (seen : ControlView)
  | closed (hasCurrentHost : Bool) (connectionState : ConnectionState)
  | stream (label : StreamLabel)
deriving DecidableEq

namespace ControlState

def view (state : ControlState) : ControlView where
  disconnectPending := state.disconnectPending
  workerRunning := state.workerRunning
  hasCurrentHost := state.hasCurrentHost
  currentHost := state.currentHost

/-- The holder of the mutex goes on at a point of its request. -/
def moveTo (state : ControlState) (request : HostRequest) (point : RequestPoint) : ControlState :=
  { state with holder := some (.request request point) }

/-- `moonlight_stream_is_running`. -/
def streamRunning (state : ControlState) : Bool := state.stream.flags.threadRunning

/-- Something streams, is about to, or still winds down. -/
def streamBusy (state : ControlState) : Bool :=
  state.streamActive || state.streamPending || state.streamRunning

/-- Let the stream sessions take a step. -/
def streamStep (state : ControlState) (choice : StreamChoice)
    : Option (ControlState × List ControlLabel) :=
  match VitaMoonlight.streamStep state.stream choice with
  | none => none
  | some (stream, labels) => some ({ state with stream }, labels.map .stream)

/-- `moonlight_stream_stop`. -/
def streamStop (state : ControlState) : ControlState × List ControlLabel :=
  ({ state with stream := { state.stream with
        flags := (state.stream.flags.stop state.stream.sessions).1 } },
    (state.stream.flags.stop state.stream.sessions).2.map .stream)

/-- `on_stream_event` up to the event it emits. -/
def onStreamEvent (state : ControlState) : StreamEvent → ControlState
  | .started =>
      { state with
        streamPending := false
        streamActive := true
        connectionState := .streaming
        handling := some .started }
  | event =>
      { state with
        streamPending := false
        streamActive := false
        connectionState := .paired
        handling := some event }

/-- The rest of `on_stream_event`. -/
def afterStreamEvent (state : ControlState) : StreamEvent → ControlState
  | .started => { state with handling := none }
  | _ => { state with streamApplicationId := -1, handling := none }

/-- The event a step of the stream sessions publishes. -/
def publishedEvent : List StreamLabel → Option StreamEvent
  | [.event _ event _] => some event
  | _ => none

/-- A step of the stream sessions that is not part of a request: of the owner unless it is in
the callback, of the library, or a stop that the input thread asks for.
-/
def sessionStep (state : ControlState) (choice : StreamChoice)
    : Option (ControlState × List ControlLabel) :=
  let allowed :=
    match choice with
    | .owner _ _ => state.handling.isNone
    | .stop | .terminated _ => true
    | .start | .create _ _ => false
  if !allowed then none
  else
    match VitaMoonlight.streamStep state.stream choice with
    | none => none
    | some (stream, labels) =>
        let stepped := { state with stream }
        match publishedEvent labels with
        | some event => some (stepped.onStreamEvent event, labels.map .stream)
        | none => some (stepped, labels.map .stream)

-----------------------------------------------------------------------------------------
-- Requests
-----------------------------------------------------------------------------------------

/-- `try_begin_host_request`. -/
def call (state : ControlState) (request : HostRequest)
    : ControlState × List ControlLabel :=
  match state.holder with
  | some _ => (state, [.refused request])
  | none =>
      if request ≠ .disconnectHost ∧ state.disconnectPending then (state, [.refused request])
      else (state.moveTo request .entered, [.admitted request state.view])

/-- The step of a request that was just admitted: its checks on the flags above. -/
def enter (state : ControlState) (outcome : RequestOutcome)
    : HostRequest → ControlState × List ControlLabel
  | .connectHost host =>
      if !outcome.succeeds || state.disconnectPending || state.workerRunning
          || state.streamRunning then
        (state.moveTo (.connectHost host) .leaving, [])
      else ({ state with initialized := false }.moveTo (.connectHost host) .working, [])
  | .preparePairing =>
      if outcome.succeeds && state.hasCurrentHost && state.connectionState == .ready
          && state.initialized && outcome.paired then
        ({ state with connectionState := .paired }.moveTo .preparePairing .leaving, [])
      else (state.moveTo .preparePairing .leaving, [])
  | .pairCurrentHost =>
      if outcome.succeeds && state.hasCurrentHost && state.connectionState == .ready
          && state.initialized then
        (state.moveTo .pairCurrentHost .working, [])
      else (state.moveTo .pairCurrentHost .leaving, [])
  | .getApplications =>
      if !outcome.succeeds || !state.hasCurrentHost || !state.initialized
          || state.disconnectPending || state.streamPending || state.streamRunning
          || state.connectionState != .paired then
        (state.moveTo .getApplications .leaving, [])
      else (state.moveTo .getApplications .working, [])
  | .startApplication application =>
      if !outcome.succeeds || !state.hasCurrentHost || !state.initialized
          || state.connectionState != .paired || state.streamPending
          || state.streamActive then
        (state.moveTo (.startApplication application) .leaving, [])
      else
        ({ state with
            streamApplicationId := application
            streamPending := true }.moveTo (.startApplication application) .starting, [])
  | .stopApplication =>
      if !state.hasCurrentHost || (!state.streamActive && !state.streamPending) then
        (state.moveTo .stopApplication .leaving, [])
      else
        let (after, labels) := state.streamStop
        (after.moveTo .stopApplication .leaving, labels)
  | .disconnectHost =>
      if !state.hasCurrentHost || state.disconnectPending then
        (state.moveTo .disconnectHost .leaving, [])
      else if state.streamBusy then
        let (after, labels) := state.streamStop
        (after.moveTo .disconnectHost .stopped, labels)
      else (state.moveTo .disconnectHost .stopped, [])

/-- What the network part of a request leaves behind. -/
def finishWork (state : ControlState) (outcome : RequestOutcome) : HostRequest → ControlState
  | .connectHost host =>
      if outcome.succeeds then
        { state with
          initialized := true
          currentHost := host
          hasCurrentHost := true
          connectionState := if outcome.paired then .paired else .ready }
      else { state with connectionState := .disconnected, hasCurrentHost := false }
  | .pairCurrentHost =>
      if outcome.succeeds && !state.disconnectPending then
        { state with connectionState := .paired }
      else state
  | _ => state

/-- The next step of an admitted request. -/
def requestStep (state : ControlState) (request : HostRequest) (outcome : RequestOutcome)
    : RequestPoint → Option (ControlState × List ControlLabel)
  | .entered => some (state.enter outcome request)
  | .working => some ((state.finishWork outcome request).moveTo request .leaving, [])
  | .starting =>
      if !outcome.succeeds || state.streamRunning then some (state.moveTo request .startFailed, [])
      else (state.moveTo request .creating).streamStep .start
  | .creating =>
      let next := if outcome.succeeds then RequestPoint.leaving else .startFailed
      (state.moveTo request next).streamStep (.create 0 outcome.succeeds)
  | .startFailed =>
      some
        ({ state with
            streamPending := false
            streamApplicationId := -1
            connectionState := if state.streamActive then state.connectionState else .paired
          }.moveTo request .leaving, [])
  | .stopped =>
      if state.workerRunning then some (state.moveTo request .leaving, [])
      else some ({ state with workerRunning := true }.moveTo request .scheduling, [])
  | .scheduling =>
      if outcome.succeeds then
        some ({ state with workers := state.workers + 1 }.moveTo request .scheduled, [.accepted])
      else some ({ state with workerRunning := false }.moveTo request .notScheduled, [])
  | .scheduled => some ({ state with disconnectPending := true }.moveTo request .leaving, [])
  | .notScheduled =>
      let cleared := { state with disconnectPending := false }
      some (cleared.moveTo request .leaving, [.notScheduled cleared.view])
  | .leaving => some ({ state with holder := none }, [])

-----------------------------------------------------------------------------------------
-- The cleanup worker and the shutdown
-----------------------------------------------------------------------------------------

/-- `disconnect_cleanup_worker`: taking the mutex, then its steps under it. -/
def workerStep (state : ControlState) : Option (ControlState × List ControlLabel) :=
  match state.holder with
  | none =>
      if state.workers = 0 then none
      else some ({ state with
          workers := state.workers - 1
          holder := some (.worker .waiting) }, [])
  | some (.worker .waiting) =>
      if state.streamRunning then some (state, [])
      else some ({ state with holder := some (.worker .cleaning) }, [])
  | some (.worker .cleaning) =>
      some ({ state with
          initialized := false
          streamPending := false
          streamActive := false
          streamApplicationId := -1
          connectionState := .disconnected
          hasCurrentHost := false
          holder := some (.worker .publishing) }, [])
  | some (.worker .publishing) =>
      some ({ state with holder := some (.worker .closing) },
        [.closed state.hasCurrentHost state.connectionState])
  | some (.worker .closing) =>
      some ({ state with
          workerRunning := false
          disconnectPending := false
          holder := none }, [])
  | some _ => none

/-- `moonlight_api_shutdown`: one round of its loop, then its steps under the mutex. -/
def shutdownStep (state : ControlState) : Option (ControlState × List ControlLabel) :=
  match state.holder with
  | none =>
      if state.workerRunning then some (state, [])
      else some ({ state with holder := some (.shutdown .entered) }, [])
  | some (.shutdown .entered) =>
      let waiting := { state with holder := some (.shutdown .waiting) }
      if state.streamBusy then some waiting.streamStop else some (waiting, [])
  | some (.shutdown .waiting) =>
      if state.streamRunning then some (state, [])
      else some ({ state with
          initialized := false
          connectionState := .disconnected
          hasCurrentHost := false
          streamActive := false
          streamPending := false
          streamApplicationId := -1
          disconnectPending := false
          workerRunning := false
          currentHost := 0
          holder := none }, [])
  | some _ => none

end ControlState

/-- The next step of some party. -/
inductive ControlChoice
  | call (request : HostRequest)
  | request (outcome : RequestOutcome)
  | worker
  | shutdown
  | session (choice : StreamChoice)
  | handler

/-- One step of the machine. -/
def controlStep (state : ControlState)
    : ControlChoice → Option (ControlState × List ControlLabel)
  | .call request => some (state.call request)
  | .request outcome =>
      match state.holder with
      | some (.request request point) => state.requestStep request outcome point
      | _ => none
  | .worker => state.workerStep
  | .shutdown => state.shutdownStep
  | .session choice => state.sessionStep choice
  | .handler =>
      match state.handling with
      | some event => some (state.afterStreamEvent event, [])
      | none => none

/-- The machine of the API over the stream sessions, from the state of a fresh process. -/
def controlMachine : Machine ControlState ControlChoice ControlLabel where
  initial state := state = {}
  step := controlStep

end VitaMoonlight
