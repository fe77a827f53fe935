import VitaMoonlight.Types
import VitaMoonlight.Library.Machine

/-! The availability scans of the host service (`services/host_service.cpp`): the main thread
starts, cancels and reads them, and one worker runs them in the order of their queue.
-/

namespace VitaMoonlight

open Library

-----------------------------------------------------------------------------------------
-- Scans
-----------------------------------------------------------------------------------------

/-- `same_probe_host`. -/
def sameProbeHost (a b : MoonlightHost) : Bool :=
  a.hostId == b.hostId && a.internal == b.internal && a.port == b.port

/-- `AvailabilityJob::Entry`. -/
structure AvailabilityEntry where
  host : MoonlightHost
  result : Int := 0
  checkedAt : UInt64 := 0
  previousCheckedAt : UInt64 := 0
  previousAvailable : Bool := false
  displayed : Bool := false

/-- `HostService::AvailabilityJob`. -/
structure AvailabilityJob where
  entries : List AvailabilityEntry := []
  cancel : Bool := false
  done : Bool := false
  startedAt : UInt64 := 0

namespace AvailabilityJob

/-- `AvailabilityJob::RefreshDue`. -/
def refreshDue (job : AvailabilityJob) (now : UInt64) : Bool :=
  job.done && 15000000 ≤ now - job.startedAt

/-- What `AvailabilityJob::Available` reads before the clock: the time of a success, if there is
one to report.
-/
def successTime (job : AvailabilityJob) (entry : AvailabilityEntry) : Option UInt64 :=
  if job.cancel then none
  else if entry.result = 0 then
    if entry.previousAvailable then some entry.previousCheckedAt else none
  else if entry.result ≠ 1 then none
  else some entry.checkedAt

/-- What `AvailabilityJob::Available` returns once it has read the clock. -/
def isFresh (success : Option UInt64) (now : UInt64) : Bool :=
  success.any fun checkedAt => now - checkedAt < 30000000

/-- `AvailabilityJob::Available` with nothing in between its steps. -/
def available (job : AvailabilityJob) (entry : AvailabilityEntry) (now : UInt64) : Bool :=
  isFresh (job.successTime entry) now

/-- The entry of the previous scan whose success the constructor copies. -/
def carried (previous : Option AvailabilityJob) (index : Nat) (now : UInt64)
    : Option AvailabilityEntry :=
  previous.bind fun job => job.entries[index]?.filter fun entry => job.available entry now

/-- The constructor; `readings` are the clocks that its calls of `Available` read. -/
def create (hosts : List MoonlightHost) (previous : Option AvailabilityJob) (startedAt : UInt64)
    (readings : Nat → UInt64) : AvailabilityJob where
  entries := hosts.mapIdx fun index host =>
    let copied := carried previous index (readings index)
    { host := host
      previousAvailable := copied.isSome
      previousCheckedAt := copied.elim 0 (·.checkedAt)
      displayed := copied.isSome }
  startedAt := startedAt

/-- The scan is over exactly these hosts. -/
def scans (job : AvailabilityJob) (hosts : List MoonlightHost) : Bool :=
  job.entries.length == hosts.length
    && (job.entries.zip hosts).all fun (entry, host) => sameProbeHost entry.host host

/-- One entry of a scan after a change. -/
def modifyEntry (job : AvailabilityJob) (index : Nat)
    (change : AvailabilityEntry → AvailabilityEntry) : AvailabilityJob :=
  { job with entries := job.entries.modify index change }

end AvailabilityJob

-----------------------------------------------------------------------------------------
-- Threads
-----------------------------------------------------------------------------------------

/-- Where the worker is in the loop of `AvailabilityJob::Run`: at its test, in the probe, or behind
one of the two steps that follow it.
-/
inductive ProbePhase
  | test
  | probing
  | returned (result : Int)
  | stamped (result : Int)

/-- The worker in a scan. -/
structure AvailabilityWorker where
  scan : Nat
  index : Nat := 0
  phase : ProbePhase := .test

/-- Where the main thread is: outside, behind the first part of an `Available`, or in the loop of
`PollAvailability`.
-/
inductive AvailabilityMain
  | idle
  | asking (host : MoonlightHost) (success : Option UInt64)
  | polling (index : Nat) (changed : Bool)
  | sampling (index : Nat) (changed : Bool) (success : Option UInt64)

/-- The members of `HostService` besides its backend, its scans by the order of their creation,
the two threads and the clock. Owners are addresses, 0 for `NULL`.
-/
structure HostService where
  jobs : Nat → AvailabilityJob := fun _ => {}
  created : Nat := 0
  job : Option Nat := none
  barrier : Option Nat := none
  owner : Nat := 0
  dirty : Bool := false
  queue : List Nat := []
  worker : Option AvailabilityWorker := none
  main : AvailabilityMain := .idle
  clock : UInt64 := 0

/-- What happens to scans, probes and their readers. -/
inductive AvailabilityEvent
  | started (scan : Nat) (hosts : List MoonlightHost)
  | cancelled (scan : Nat)
  | finished (scan : Nat)
  | returned (scan : Nat) (host : MoonlightHost) (result : Int) (now : UInt64)
  | stamped (scan : Nat) (host : MoonlightHost) (result : Int) (now : UInt64)
  | answered (host : MoonlightHost) (now : UInt64) (available : Bool)
  | polled (shown : List (MoonlightHost × Bool)) (emitted : Bool)

/-- The clocks that `CheckAvailability` reads, and whether the queue takes the scan. -/
structure CheckOutcome where
  dueAt : UInt64
  startedAt : UInt64
  readings : Nat → UInt64
  leftAt : UInt64
  enqueued : Bool

namespace HostService

def updateJob (service : HostService) (scan : Nat) (change : AvailabilityJob → AvailabilityJob)
    : HostService :=
  { service with jobs := Function.update service.jobs scan (change (service.jobs scan)) }

/-- `HostService::CancelAvailability`. -/
def cancelAvailability (service : HostService) : HostService × List AvailabilityEvent :=
  match service.job with
  | none => ({ service with owner := 0, dirty := true }, [])
  | some scan =>
      ({ service.updateJob scan fun job => { job with cancel := true } with
          owner := 0, dirty := true },
        [.cancelled scan])

/-- `HostService::StopAvailability`. -/
def stopAvailability (service : HostService) (owner : Nat)
    : HostService × List AvailabilityEvent :=
  if service.owner = owner then service.cancelAvailability else (service, [])

/-- `m_owner == owner`, and the current scan is over the same hosts. -/
def unchanged (service : HostService) (owner : Nat) (hosts : List MoonlightHost)
    : Option AvailabilityJob :=
  (service.job.map service.jobs).filter fun old => service.owner = owner && old.scans hosts

/-- The part of `HostService::CheckAvailability` that replaces the current scan. -/
def replaceScan (service : HostService) (owner : Nat) (hosts : List MoonlightHost)
    (previous : Option AvailabilityJob) (outcome : CheckOutcome)
    : HostService × List AvailabilityEvent :=
  let scan := service.created
  let next := AvailabilityJob.create hosts previous outcome.startedAt outcome.readings
  let (service, cancelled) := service.cancelAvailability
  let service := { service with created := scan + 1, owner := owner, job := some scan }
  if outcome.enqueued then
    ({ service with
        jobs := Function.update service.jobs scan next
        queue := service.queue ++ [scan]
        barrier := some scan },
      .started scan hosts :: cancelled)
  else
    ({ service with
        jobs := Function.update service.jobs scan { next with cancel := true, done := true } },
      .started scan hosts :: cancelled ++ [.cancelled scan])

/-- `HostService::CheckAvailability`. -/
def checkAvailability (service : HostService) (owner : Nat) (hosts : List MoonlightHost)
    (outcome : CheckOutcome) : HostService × List AvailabilityEvent :=
  if hosts = [] then service.stopAvailability owner
  else
    match service.unchanged owner hosts with
    | none => service.replaceScan owner hosts none outcome
    | some old =>
        if old.refreshDue outcome.dueAt then service.replaceScan owner hosts (some old) outcome
        else (service, [])

/-- `HostService::IsAvailable` up to its reading of the clock. -/
def askAvailable (service : HostService) (host : MoonlightHost) : Option UInt64 := do
  let scan ← service.job
  let entry ← (service.jobs scan).entries.find? fun entry => sameProbeHost entry.host host
  (service.jobs scan).successTime entry

/-- The hosts of the current scan, each with the value last sampled. -/
def shown (service : HostService) : List (MoonlightHost × Bool) :=
  service.job.elim [] fun scan =>
    (service.jobs scan).entries.map fun entry => (entry.host, entry.displayed)

/-- The next entry in the loop of `HostService::PollAvailability`. -/
def pollEntry (service : HostService) (index : Nat) : Option AvailabilityEntry :=
  service.job.bind fun scan => (service.jobs scan).entries[index]?

/-- A step of the main thread inside `HostService::PollAvailability`: the value sampled for an
entry is compared with the one shown.
-/
def samplePoll (service : HostService) (index : Nat) (changed : Bool) (success : Option UInt64)
    (now : UInt64) : HostService :=
  let available := AvailabilityJob.isFresh success now
  let differs := (service.pollEntry index).any fun entry => available != entry.displayed
  let service :=
    match service.job with
    | none => service
    | some scan =>
        service.updateJob scan fun job =>
          job.modifyEntry index fun entry => { entry with displayed := available }
  { service with main := .polling (index + 1) (changed || differs), clock := now }

end HostService

-----------------------------------------------------------------------------------------
-- The machine
-----------------------------------------------------------------------------------------

/-- A step of the main thread or of the worker. -/
inductive AvailabilityChoice
  | check (owner : Nat) (hosts : List MoonlightHost) (outcome : CheckOutcome)
  | stop (owner : Nat)
  | cancel
  | ask (host : MoonlightHost)
  | answer (now : UInt64)
  | poll
  | load
  | sample (now : UInt64)
  | endPoll
  | dequeue
  | test
  | probed (result : Int) (now : UInt64)
  | stamp (now : UInt64)
  | publish

/-- The readings of `CheckAvailability` follow the clock. -/
def CheckOutcome.Follows (outcome : CheckOutcome) (clock : UInt64) (count : Nat) : Prop :=
  clock ≤ outcome.dueAt
  ∧ outcome.dueAt ≤ outcome.startedAt
  ∧ outcome.startedAt ≤ outcome.leftAt
  ∧ ∀ index < count,
      outcome.startedAt ≤ outcome.readings index ∧ outcome.readings index ≤ outcome.leftAt

instance (outcome : CheckOutcome) (clock : UInt64) (count : Nat)
    : Decidable (outcome.Follows clock count) :=
  inferInstanceAs (Decidable (_ ∧ _ ∧ _ ∧ _))

namespace HostService

/-- Calls of the main thread, which it makes one after the other. -/
def mainStep (service : HostService)
    : AvailabilityChoice → Option (HostService × List AvailabilityEvent)
  | .check owner hosts outcome =>
      match service.main with
      | .idle =>
          if outcome.Follows service.clock hosts.length then
            let (after, events) := service.checkAvailability owner hosts outcome
            some ({ after with clock := outcome.leftAt }, events)
          else none
      | _ => none
  | .stop owner =>
      match service.main with
      | .idle => some (service.stopAvailability owner)
      | _ => none
  | .cancel =>
      match service.main with
      | .idle => some service.cancelAvailability
      | _ => none
  | .ask host =>
      match service.main with
      | .idle => some ({ service with main := .asking host (service.askAvailable host) }, [])
      | _ => none
  | .answer now =>
      match service.main with
      | .asking host success =>
          if service.clock ≤ now then
            some ({ service with main := .idle, clock := now },
              [.answered host now (AvailabilityJob.isFresh success now)])
          else none
      | _ => none
  | .poll =>
      match service.main with
      | .idle => some ({ service with main := .polling 0 service.dirty, dirty := false }, [])
      | _ => none
  | .load =>
      match service.main, service.job with
      | .polling index changed, some scan =>
          (service.pollEntry index).map fun entry =>
            ({ service with
                main := .sampling index changed ((service.jobs scan).successTime entry) }, [])
      | _, _ => none
  | .sample now =>
      match service.main with
      | .sampling index changed success =>
          if service.clock ≤ now then some (service.samplePoll index changed success now, [])
          else none
      | _ => none
  | .endPoll =>
      match service.main with
      | .polling index changed =>
          if (service.pollEntry index).isNone then
            some ({ service with main := .idle }, [.polled service.shown changed])
          else none
      | _ => none
  | _ => none

/-- Steps of the worker in `AvailabilityJob::Run`, and its taking of the next scan. -/
def workerStep (service : HostService)
    : AvailabilityChoice → Option (HostService × List AvailabilityEvent)
  | .dequeue =>
      match service.worker, service.queue with
      | none, scan :: rest => some ({ service with queue := rest, worker := some { scan } }, [])
      | _, _ => none
  | .test =>
      match service.worker with
      | some ⟨scan, index, .test⟩ =>
          let job := service.jobs scan
          if index < job.entries.length ∧ job.cancel = false then
            some ({ service with worker := some ⟨scan, index, .probing⟩ }, [])
          else
            some ({ service.updateJob scan fun job => { job with done := true } with
                worker := none },
              [.finished scan])
      | _ => none
  | .probed result now =>
      match service.worker with
      | some ⟨scan, index, .probing⟩ =>
          if service.clock ≤ now then
            (service.jobs scan).entries[index]?.map fun entry =>
              ({ service with worker := some ⟨scan, index, .returned result⟩, clock := now },
                [.returned scan entry.host result now])
          else none
      | _ => none
  | .stamp now =>
      match service.worker with
      | some ⟨scan, index, .returned result⟩ =>
          if service.clock ≤ now then
            (service.jobs scan).entries[index]?.map fun entry =>
              ({ service.updateJob scan fun job =>
                    job.modifyEntry index fun entry => { entry with checkedAt := now } with
                  worker := some ⟨scan, index, .stamped result⟩
                  clock := now },
                [.stamped scan entry.host result now])
          else none
      | _ => none
  | .publish =>
      match service.worker with
      | some ⟨scan, index, .stamped result⟩ =>
          some
            ({ service.updateJob scan fun job =>
                  job.modifyEntry index fun entry =>
                    { entry with result := if result = 0 then 2 else result } with
                worker := some ⟨scan, index + 1, .test⟩ },
              [])
      | _ => none
  | _ => none

end HostService

/-- The host service from its construction on, its main thread and its worker interleaved. -/
def availabilityMachine : Machine HostService AvailabilityChoice AvailabilityEvent where
  initial service := ∃ clock, service = { clock }
  step service choice := (service.mainStep choice).or (service.workerStep choice)

end VitaMoonlight
