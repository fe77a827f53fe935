import VitaMoonlight.Types
import VitaMoonlight.Library.Generation
import VitaMoonlight.Library.Machine

/-! The background search for hosts (`backend/legacy/legacy_host_discovery.c`): the table of
discovered hosts, the worker that polls the network, and the calls that start and stop it. Times
are in microseconds of process time.
-/

namespace VitaMoonlight

open Library

-----------------------------------------------------------------------------------------
-- The table
-----------------------------------------------------------------------------------------

/-- `DISCOVERY_QUERY_USEC`. -/
def discoveryQueryUsec : Nat := 5000000

/-- `DISCOVERY_EXPIRY_USEC`. -/
def discoveryExpiryUsec : Nat := 15000000

/-- `DISCOVERY_LEASE_USEC`. -/
def discoveryLeaseUsec : Nat := 250000

/-- `MOONLIGHT_MAX_DISCOVERED_HOSTS`. -/
def maxDiscoveredHosts : Nat := 16

/-- `MoonlightDiscoverySnapshot`, whose `count` is the number of hosts. -/
structure MoonlightDiscoverySnapshot where
  generation : UInt32 := 0
  revision : UInt32 := 0
  hosts : List MoonlightHost := []

/-- `s_snapshot`, `s_healthy_time` and the used part of `s_seen`. -/
structure DiscoveryTable where
  snapshot : MoonlightDiscoverySnapshot := {}
  healthyTime : Nat := 0
  seen : List Nat := []

/-- `now - before` in 64 bits. -/
def elapsedUsec (now before : Nat) : Nat :=
  if before ≤ now then now - before else now + 2 ^ 64 - before

/-- A write to an array of which a leading part is used, at most one behind this part. -/
def writeAt {α : Type} (values : List α) (index : Nat) (value : α) : List α :=
  if index < values.length then values.set index value else values ++ [value]

namespace DiscoveryTable

/-- A change of the hosts, which readers see by its revision. -/
def revise (table : DiscoveryTable) (hosts : List MoonlightHost) : DiscoveryTable :=
  { table with
    snapshot := { table.snapshot with hosts, revision := table.snapshot.revision + 1 } }

/-- The position of a host in the table, or the number of hosts. -/
def find (table : DiscoveryTable) (ip : CharArray 16) (port : Int) : Nat :=
  table.snapshot.hosts.findIdx fun host =>
    decide ((host.port.toNat : Int) = port) && decide (host.internal.text = ip.text)

/-- `on_mdns_host` for an active generation and a valid host. -/
def upsert (table : DiscoveryTable) (name : CharArray 256) (ip : CharArray 16) (port : Int)
    : DiscoveryTable :=
  let index := table.find ip port
  if index < maxDiscoveredHosts then
    let added :=
      if index = table.snapshot.hosts.length then
        table.revise
          (table.snapshot.hosts
            ++ [{ id := -1, internal := .copy 256 ip.text, port := UInt16.ofNat port.toNat }])
      else table
    let host := added.snapshot.hosts.getD index {}
    let named :=
      if host.name.text.take 255 ≠ name.text.take 255 then
        added.revise (added.snapshot.hosts.set index { host with name := .copy 256 name.text })
      else added
    { named with seen := writeAt named.seen index named.healthyTime }
  else table

/-- `expire_hosts` at one position. -/
def expireAt (table : DiscoveryTable) (index : Nat) : DiscoveryTable :=
  if elapsedUsec table.healthyTime (table.seen.getD index 0) ≥ discoveryExpiryUsec then
    { table.revise (table.snapshot.hosts.eraseIdx index) with seen := table.seen.eraseIdx index }
  else table

/-- `expire_hosts` at the leading positions, from the back. -/
def expireFrom (table : DiscoveryTable) : Nat → DiscoveryTable
  | 0 => table
  | count + 1 => (table.expireAt count).expireFrom count

/-- `expire_hosts`. -/
def expireHosts (table : DiscoveryTable) : DiscoveryTable :=
  table.expireFrom table.snapshot.hosts.length

end DiscoveryTable

/-- `s_enabled`, `s_shutdown`, `s_generation` and `s_lease_until`. -/
structure DiscoveryControl where
  enabled : Bool := false
  shutdown : Bool := false
  generation : UInt32 := 0
  leaseUntil : Nat := 0

/-- `generation_active`. -/
def DiscoveryControl.active (control : DiscoveryControl) (generation : UInt32) (now : Nat) : Bool :=
  control.enabled && !control.shutdown && generation == control.generation
  && decide (now < control.leaseUntil)

-----------------------------------------------------------------------------------------
-- The worker
-----------------------------------------------------------------------------------------

/-- The variables of the inner loop of `discovery_thread`. -/
structure DiscoveryLoop where
  generation : UInt32
  nextQuery : Nat := 0
  lastTick : Nat
  healthy : Bool := false

/-- Where `discovery_thread` is: before it waits for a generation or has taken one up, or in the
inner loop before it reads the time, checks its generation, returns from the query, sets the next
query and the last tick, returns from the poll, reads the time again and ticks; before it gives
the generation up, and behind its end.
-/
inductive DiscoveryWorker
  | absent
  | waiting
  | preparing (generation : UInt32)
  | top (loop : DiscoveryLoop)
  | checking (loop : DiscoveryLoop) (now : Nat)
  | querying (loop : DiscoveryLoop)
  | scheduling (loop : DiscoveryLoop)
  | stamping (loop : DiscoveryLoop)
  | polling (loop : DiscoveryLoop)
  | polled (loop : DiscoveryLoop)
  | ticking (loop : DiscoveryLoop) (now : Nat)
  | leaving
  | exited

/-- The module's variables, the worker and the clock. `s_last_error` only decides what is logged. -/
structure DiscoveryState where
  clock : Nat
  control : DiscoveryControl := {}
  threadCreated : Bool := false
  activeGeneration : UInt32 := 0
  table : DiscoveryTable := {}
  worker : DiscoveryWorker := .absent

/-- A step: time passes, the main thread makes a call, or the worker goes on. The thread may fail
to be created, the query to be sent and the poll to succeed, and a poll may report hosts. After
`shutdown` the main thread only waits for the worker's end.
-/
inductive DiscoveryChoice
  | pass (span : Nat)
  | start (created : Bool)
  | stop
  | shutdown
  | worker
  | query (sent : Bool)
  | observe (name : CharArray 256) (ip : CharArray 16) (port : Int)
  | poll (succeeds : Bool)

/-- The address and the port by which the table tells hosts apart. -/
abbrev DiscoveryKey := CString × Nat

/-- What a step shows. -/
inductive DiscoveryEvent
  | quiet
  | began
  | took (generation : UInt32)
  | queried (sent : Bool)
  | polled (succeeds : Bool)
  | observed (key : DiscoveryKey)
  | ticked (lastTick now : Nat)

/-- A step as a bystander sees it, with the clock and the control variables behind it. -/
structure DiscoveryLabel where
  event : DiscoveryEvent
  clock : Nat
  control : DiscoveryControl

namespace DiscoveryState

/-- `legacy_host_discovery_start`. -/
def start (state : DiscoveryState) (created : Bool) : DiscoveryState × DiscoveryEvent :=
  if state.control.shutdown then (state, .quiet)
  else if !state.threadCreated && !created then (state, .quiet)
  else
    let ready :=
      if state.threadCreated then state
      else { state with threadCreated := true, worker := .waiting }
    let leased :=
      { ready.control with enabled := true, leaseUntil := ready.clock + discoveryLeaseUsec }
    if !ready.control.enabled || decide (ready.clock ≥ ready.control.leaseUntil) then
      let generation := nextGeneration ready.control.generation
      let table := ready.table.revise ready.table.snapshot.hosts
      ({ ready with
          control := { leased with generation }
          table := { table with snapshot := { table.snapshot with generation } } },
        .began)
    else ({ ready with control := leased }, .quiet)

/-- The generation that `legacy_host_discovery_start` hands out, none when it fails. -/
def startedGeneration (state : DiscoveryState) (created : Bool) : Option UInt32 :=
  if state.control.shutdown || (!state.threadCreated && !created) then none
  else some (state.start created).1.control.generation

/-- `on_mdns_host`. -/
def onMdnsHost (state : DiscoveryState) (name : CharArray 256) (ip : CharArray 16) (port : Int)
    : DiscoveryState × DiscoveryEvent :=
  if name.isEmpty || ip.isEmpty || decide (port ≤ 0) || decide (port > 65535) then (state, .quiet)
  else if !state.control.active state.activeGeneration state.clock then (state, .quiet)
  else
    ({ state with table := state.table.upsert name ip port },
      .observed (ip.text, port.toNat))

/-- The worker's critical section behind a poll. -/
def tick (state : DiscoveryState) (loop : DiscoveryLoop) (now : Nat)
    : DiscoveryState × DiscoveryEvent :=
  let next := { state with worker := .top { loop with lastTick := now } }
  if loop.healthy && state.control.active loop.generation state.clock then
    let healthyTime :=
      state.table.healthyTime + if now ≥ loop.lastTick then now - loop.lastTick else 0
    ({ next with table := { state.table with healthyTime }.expireHosts },
      .ticked loop.lastTick now)
  else (next, .quiet)

/-- A step of `discovery_thread` other than the return from a query or a poll. -/
def work (state : DiscoveryState) : Option (DiscoveryState × DiscoveryEvent) :=
  match state.worker with
  | .waiting =>
      if state.control.shutdown then some ({ state with worker := .exited }, .quiet)
      else if state.control.enabled && decide (state.clock < state.control.leaseUntil) then
        let generation := state.control.generation
        some
          ({ state with activeGeneration := generation, worker := .preparing generation },
            .took generation)
      else none
  | .preparing generation =>
      some ({ state with worker := .top { generation, lastTick := state.clock } }, .quiet)
  | .top loop => some ({ state with worker := .checking loop state.clock }, .quiet)
  | .checking loop now =>
      if !state.control.active loop.generation now then
        some ({ state with worker := .leaving }, .quiet)
      else if now ≥ loop.nextQuery then some ({ state with worker := .querying loop }, .quiet)
      else if loop.healthy then some ({ state with worker := .polling loop }, .quiet)
      else some ({ state with worker := .polled loop }, .quiet)
  | .scheduling loop =>
      some
        ({ state with
            worker := .stamping { loop with nextQuery := state.clock + discoveryQueryUsec } },
          .quiet)
  | .stamping loop =>
      let stamped := { loop with lastTick := state.clock }
      some
        ({ state with worker := if loop.healthy then .polling stamped else .polled stamped },
          .quiet)
  | .polled loop => some ({ state with worker := .ticking loop state.clock }, .quiet)
  | .ticking loop now => some (state.tick loop now)
  | .leaving => some ({ state with activeGeneration := 0, worker := .waiting }, .quiet)
  | .absent | .querying _ | .polling _ | .exited => none

/-- An event with what a bystander sees behind it. -/
def label (after : DiscoveryState) (event : DiscoveryEvent) : DiscoveryLabel where
  event
  clock := after.clock
  control := after.control

/-- One step and what it shows. -/
def step (state : DiscoveryState) : DiscoveryChoice → Option (DiscoveryState × DiscoveryEvent)
  | .pass span => some ({ state with clock := state.clock + span }, .quiet)
  | .start created => some (state.start created)
  | .stop => some ({ state with control := { state.control with enabled := false } }, .quiet)
  | .shutdown =>
      some
        ({ state with control := { state.control with enabled := false, shutdown := true } },
          .quiet)
  | .worker => state.work
  | .query sent =>
      match state.worker with
      | .querying loop =>
          some ({ state with worker := .scheduling { loop with healthy := sent } }, .queried sent)
      | _ => none
  | .observe name ip port =>
      match state.worker with
      | .polling _ => some (state.onMdnsHost name ip port)
      | _ => none
  | .poll succeeds =>
      match state.worker with
      | .polling loop =>
          some ({ state with worker := .polled { loop with healthy := succeeds } },
            .polled succeeds)
      | _ => none

end DiscoveryState

/-- The search, from the state that `legacy_host_discovery_init` leaves. -/
def discoveryMachine : Machine DiscoveryState DiscoveryChoice DiscoveryLabel where
  initial state := ∃ clock leaseUntil, state = { clock, control := { leaseUntil } }
  step state choice :=
    (state.step choice).map fun (after, event) => (after, [after.label event])

end VitaMoonlight
