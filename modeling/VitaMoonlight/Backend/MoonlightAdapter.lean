import VitaMoonlight.Api.RequestSteps
import VitaMoonlight.Types

/-! The adapter over the API (`backend/legacy_moonlight_adapter.cpp`) and the events it keeps
its connection state by (`moonlight/api.cpp`).
A thread that changes the API owes the adapter an event until `emit` has forwarded it, and does
not go on before that: the holder of the control mutex owes at most one event, and so does the
stream session. Between the change and `emit` other threads may act.
-/

namespace VitaMoonlight

open Library

/-- `m_connection_state` and `m_has_current_host`. -/
structure Adapter where
  connectionState : ConnectionState := .disconnected
  hasCurrentHost : Bool := false
deriving DecidableEq

namespace Adapter

/-- `LegacyMoonlightAdapter::ForwardEvent` up to the callback; `apiState` is what
`moonlight_api_get_connection_state` answers.
-/
def forwardEvent (adapter : Adapter) (apiState : ConnectionState) : MoonlightEventType → Adapter
  | .connectionReady => { adapter with connectionState := apiState, hasCurrentHost := true }
  | .pairingFinished => { adapter with connectionState := .paired }
  | .streamStarted => { adapter with connectionState := .streaming }
  | .streamStopped => { adapter with connectionState := .paired }
  | .connectionClosed | .connectionFailed =>
      { adapter with connectionState := .disconnected, hasCurrentHost := false }
  | .pairingFailed =>
      if adapter.hasCurrentHost then { adapter with connectionState := .ready } else adapter
  | .streamFailed =>
      if adapter.hasCurrentHost then { adapter with connectionState := .paired } else adapter
  | .none | .hostsChanged | .pairingRequired | .connectionStarted | .applicationsReady
  | .applicationsFailed | .settingsChanged | .settingsClosed | .hostAvailabilityChanged
  | .discoveryChanged => adapter

/-- The calls the adapter passes on to the API; the others it answers with -1. -/
def passesOn (adapter : Adapter) : HostRequest → Bool
  | .preparePairing | .pairCurrentHost | .startApplication _ | .stopApplication =>
      adapter.hasCurrentHost
  | .connectHost _ | .getApplications | .disconnectHost => true

end Adapter

-----------------------------------------------------------------------------------------
-- Events of the API
-----------------------------------------------------------------------------------------

/-- The type under which `on_stream_event` passes a stream event on. -/
def StreamEvent.eventType : StreamEvent → MoonlightEventType
  | started => .streamStarted
  | stopped => .streamStopped
  | failed => .streamFailed

/-- What a step of a request meets: whether its arguments ask for the work, whether what it
asks of the store, the settings, the device or the server is granted, whether the caller has
cancelled, and what the server's record says about pairing.
-/
structure CallOutcome where
  argument : Bool
  succeeds : Bool
  cancelled : Bool
  paired : Bool

/-- The part of an outcome that moves the flags of the API. -/
def CallOutcome.request (outcome : CallOutcome) : HostRequest → RequestPoint → RequestOutcome
  | .connectHost _, .entered => ⟨outcome.argument && outcome.succeeds, outcome.paired⟩
  | .preparePairing, .entered => ⟨outcome.argument, outcome.paired⟩
  | .pairCurrentHost, .entered => ⟨outcome.argument && !outcome.cancelled, outcome.paired⟩
  | .pairCurrentHost, .working => ⟨outcome.succeeds && !outcome.cancelled, outcome.paired⟩
  | .getApplications, .entered => ⟨outcome.argument, outcome.paired⟩
  | _, _ => ⟨outcome.succeeds, outcome.paired⟩

namespace ControlState

/-- `moonlight_api_connect_host` goes past its checks. -/
def canConnect (state : ControlState) (outcome : CallOutcome) : Bool :=
  outcome.argument && !state.disconnectPending && !state.workerRunning && !state.streamRunning

/-- `moonlight_api_prepare_pairing` goes past its checks. -/
def canPreparePairing (state : ControlState) (outcome : CallOutcome) : Bool :=
  outcome.argument && state.hasCurrentHost && state.connectionState == .ready
    && state.initialized

/-- The event that a step of a request emits. -/
def emitted (state : ControlState) (outcome : CallOutcome)
    : HostRequest → RequestPoint → Option MoonlightEventType
  | .connectHost _, .entered =>
      -- The client's own directory cannot be made.
      if state.canConnect outcome && !outcome.succeeds then some .connectionFailed else none
  | .connectHost _, .working =>
      if outcome.succeeds then some .connectionReady else some .connectionFailed
  | .preparePairing, .entered =>
      if state.canPreparePairing outcome && !outcome.paired && outcome.succeeds then
        some .pairingRequired
      else none
  | .pairCurrentHost, .working =>
      if outcome.cancelled || state.disconnectPending then none
      else if outcome.succeeds then some .pairingFinished
      else some .pairingFailed
  | .getApplications, .entered =>
      if outcome.argument
          && (!state.hasCurrentHost || !state.initialized || state.disconnectPending
            || state.streamPending || state.streamRunning || state.connectionState != .paired)
      then some .applicationsFailed
      else none
  | .getApplications, .working =>
      if outcome.succeeds && !state.disconnectPending && state.connectionState == .paired then
        some .applicationsReady
      else some .applicationsFailed
  | _, _ => none

end ControlState

-----------------------------------------------------------------------------------------
-- The machine of the API and its adapter
-----------------------------------------------------------------------------------------

/-- The API, the adapter, and the events that the holder of the mutex and the stream session owe
the adapter; an emitted one is in `emit`.
-/
structure MirrorState where
  api : ControlState := {}
  adapter : Adapter := {}
  requestEvent : Option MoonlightEventType := none
  requestEmitted : Bool := false
  streamEvent : Option MoonlightEventType := none
  streamEmitted : Bool := false
deriving DecidableEq

/-- The next step of some party. -/
inductive MirrorChoice
  | call (request : HostRequest)
  | request (outcome : CallOutcome)
  | worker
  | session (choice : StreamChoice)
  | handler
  | emitRequest
  | forwardRequest
  | emitStream
  | forwardStream

/-- One step of the machine. The callback of the adapter is registered, and a thread waits
for it before its next step. The worker's step from `publishing` enters `emit`.
-/
def mirrorStep (state : MirrorState)
    : MirrorChoice → Option (MirrorState × List ControlLabel)
  | .call request =>
      if state.adapter.passesOn request then
        (controlStep state.api (.call request)).map fun (api, labels) =>
          ({ state with api }, labels)
      else some (state, [])
  | .request outcome =>
      match state.requestEvent, state.api.holder with
      | none, some (.request request point) =>
          (controlStep state.api (.request (outcome.request request point))).map
            fun (api, labels) =>
              ({ state with api, requestEvent := state.api.emitted outcome request point },
                labels)
      | _, _ => none
  | .worker =>
      match state.requestEvent with
      | some _ => none
      | none =>
          (controlStep state.api .worker).map fun (api, labels) =>
            ({ state with
                api
                requestEvent :=
                  if state.api.holder = some (.worker .publishing) then some .connectionClosed
                  else none
                requestEmitted := state.api.holder = some (.worker .publishing) },
              labels)
  | .session choice =>
      (controlStep state.api (.session choice)).map fun (api, labels) =>
        ({ state with
            api
            streamEvent :=
              match state.api.handling with
              | some _ => state.streamEvent
              | none => api.handling.map StreamEvent.eventType },
          labels)
  | .handler =>
      match state.streamEvent with
      | some _ => none
      | none =>
          (controlStep state.api .handler).map fun (api, labels) => ({ state with api }, labels)
  | .emitRequest =>
      match state.requestEvent, state.requestEmitted with
      | some _, false => some ({ state with requestEmitted := true }, [])
      | _, _ => none
  | .forwardRequest =>
      match state.requestEvent, state.requestEmitted with
      | some event, true =>
          some ({ state with
              adapter := state.adapter.forwardEvent state.api.connectionState event
              requestEvent := none
              requestEmitted := false }, [])
      | _, _ => none
  | .emitStream =>
      match state.streamEvent, state.streamEmitted with
      | some _, false => some ({ state with streamEmitted := true }, [])
      | _, _ => none
  | .forwardStream =>
      match state.streamEvent, state.streamEmitted with
      | some event, true =>
          some ({ state with
              adapter := state.adapter.forwardEvent state.api.connectionState event
              streamEvent := none
              streamEmitted := false }, [])
      | _, _ => none

/-- The step by which a call returns: it is answered without being admitted, or its request ends. -/
def MirrorState.returns (state : MirrorState) : MirrorChoice → Bool
  | .call request =>
      !state.adapter.passesOn request || state.api.holder.isSome
        || (request != .disconnectHost && state.api.disconnectPending)
  | .request _ =>
      match state.api.holder with
      | some (.request _ .leaving) => true
      | _ => false
  | .worker | .session _ | .handler | .emitRequest | .forwardRequest | .emitStream
  | .forwardStream => false

/-- The machine of the API and its adapter, both just initialised. -/
def mirrorMachine : Machine MirrorState MirrorChoice ControlLabel where
  initial state := state = {}
  step := mirrorStep

end VitaMoonlight
