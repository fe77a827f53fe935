import VitaMoonlight.Backend.HostDiscovery

/-! The reader of the background search (`services/host_discovery_service.cpp`) over the search
itself. It runs on the main thread, which calls it between the steps of the search.
-/

namespace VitaMoonlight

open Library

/-- What `legacy_host_discovery_read` returns, with the copy it makes. -/
inductive DiscoveryRead
  | inactive
  | unchanged
  | changed (copy : MoonlightDiscoverySnapshot)

/-- `legacy_host_discovery_read`. -/
def DiscoveryState.read (state : DiscoveryState) (reader : MoonlightDiscoverySnapshot)
    : DiscoveryRead :=
  let published := state.table.snapshot
  if state.control.active state.control.generation state.clock then
    if reader.generation ≠ published.generation ∨ reader.revision ≠ published.revision then
      .changed published
    else .unchanged
  else .inactive

/-- The members of `HostDiscoveryService` except its reference to the backend. -/
structure HostDiscoveryService where
  generation : UInt32 := 0
  snapshot : MoonlightDiscoverySnapshot := {}

namespace HostDiscoveryService

/-- `HostDiscoveryService::Start`, given the generation that the search hands out. -/
def start (service : HostDiscoveryService) (handed : Option UInt32) : HostDiscoveryService :=
  { service with generation := handed.getD service.generation }

/-- `HostDiscoveryService::Stop`, its own part. -/
def stop (service : HostDiscoveryService) : HostDiscoveryService := { service with generation := 0 }

/-- `HostDiscoveryService::Poll`, with the generation of the event it fills in. -/
def poll (service : HostDiscoveryService) (search : DiscoveryState)
    : HostDiscoveryService × Option UInt32 :=
  if service.generation = 0 then (service, none)
  else
    match search.read service.snapshot with
    | .changed copy =>
        ({ service with snapshot := copy },
          if copy.generation = service.generation then some service.generation else none)
    | .unchanged | .inactive => (service, none)

/-- `HostDiscoveryService::Accepts`, given the generation of the event. -/
def accepts (service : HostDiscoveryService) (generation : UInt32) : Bool :=
  service.generation != 0 && generation == service.generation

/-- `HostDiscoveryService::GetHosts`, the copied hosts and their count. -/
def getHosts (service : HostDiscoveryService) (capacity : Nat) : List MoonlightHost × Nat :=
  (service.snapshot.hosts.take capacity, service.snapshot.hosts.length)

end HostDiscoveryService

-----------------------------------------------------------------------------------------
-- Runs
-----------------------------------------------------------------------------------------

/-- The search and its reader. -/
structure PublicationState where
  search : DiscoveryState
  service : HostDiscoveryService := {}

/-- A step of the search other than a start, or a call of the service. -/
inductive PublicationChoice
  | search (choice : DiscoveryChoice)
  | start (created : Bool)
  | stop
  | poll

/-- What a step shows: a generation begun, a stop of the service, or the event of a poll. -/
inductive PublicationEvent
  | quiet
  | began
  | stopped
  | polled (event : Option UInt32)

/-- A step with the published list behind it. -/
structure PublicationLabel where
  event : PublicationEvent
  published : MoonlightDiscoverySnapshot

namespace PublicationState

/-- One step and what it shows. Only the service starts searches. -/
def step (state : PublicationState)
    : PublicationChoice → Option (PublicationState × PublicationEvent)
  | .search choice =>
      match choice with
      | .start _ => none
      | other =>
          (state.search.step other).map fun (search, _) => ({ state with search }, .quiet)
  | .start created =>
      let (search, event) := state.search.start created
      let service := state.service.start (state.search.startedGeneration created)
      match event with
      | .began => some ({ search, service }, .began)
      | _ => some ({ search, service }, .quiet)
  | .stop =>
      (state.search.step .stop).map fun (search, _) =>
        ({ search, service := state.service.stop }, .stopped)
  | .poll =>
      let (service, event) := state.service.poll state.search
      some ({ state with service }, .polled event)

end PublicationState

/-- The search and its reader, from the initialisation on. -/
def publicationMachine : Machine PublicationState PublicationChoice PublicationLabel where
  initial state :=
    ∃ clock leaseUntil, state = { search := { clock, control := { leaseUntil } } }
  step state choice :=
    (state.step choice).map fun (after, event) =>
      (after, [{ event, published := after.search.table.snapshot }])

end VitaMoonlight
