import Mathlib.Data.List.Forall2
import VitaMoonlight.Services.HostService

/-! A host is reported available only on the word of a recent probe of its own, made by the current
scan or by the finished one it refreshed, and a poll announces every change of what it shows.
-/

namespace VitaMoonlight

open Library

-----------------------------------------------------------------------------------------
-- What supports an answer
-----------------------------------------------------------------------------------------

/-- A probe of the host returned success in a scan, and was then given its time. -/
def Probed (trace : List AvailabilityEvent) (scan : Nat) (host : MoonlightHost)
    (checkedAt : UInt64) : Prop :=
  .stamped scan host 1 checkedAt ∈ trace
  ∧ ∃ returnedAt ≤ checkedAt, .returned scan host 1 returnedAt ∈ trace

/-- The next scan was over the same hosts, and began once this one had finished uncancelled. -/
def Refreshed (trace : List AvailabilityEvent) (scan : Nat) : Prop :=
  ∃ early late hosts next,
    trace = early ++ .started (scan + 1) next :: late
    ∧ .started scan hosts ∈ early
    ∧ List.Forall₂ (fun old new => sameProbeHost old new = true) hosts next
    ∧ .finished scan ∈ early
    ∧ .cancelled scan ∉ early

/-- A scan is the last one begun, and not cancelled. -/
def Current (trace : List AvailabilityEvent) (scan : Nat) : Prop :=
  (∃ hosts, .started scan hosts ∈ trace)
  ∧ (∀ other hosts, .started other hosts ∈ trace → other ≤ scan)
  ∧ .cancelled scan ∉ trace

/-- A success of the current scan, or of the one it refreshed, for exactly this host. -/
def Supported (trace : List AvailabilityEvent) (host : MoonlightHost) (checkedAt : UInt64)
    : Prop :=
  ∃ scan prober listed,
    Current trace scan
    ∧ Probed trace prober listed checkedAt
    ∧ sameProbeHost listed host = true
    ∧ (prober = scan ∨ prober + 1 = scan ∧ Refreshed trace prober)

/-- What the last poll showed. -/
def lastShown (trace : List AvailabilityEvent) : List (MoonlightHost × Bool) :=
  trace.foldl
    (fun last event =>
      match event with
      | .polled shown _ => shown
      | _ => last)
    []

/-- An answer is supported by a success of less than 30 seconds ago, and a poll that shows
something else than the last one emits its event.
-/
def Sound (before : List AvailabilityEvent) : AvailabilityEvent → Prop
  | .answered host now available =>
      available = true
      → ∃ checkedAt ≤ now, Supported before host checkedAt ∧ now - checkedAt < 30000000
  | .polled shown emitted => shown ≠ lastShown before → emitted = true
  | _ => True

theorem sameProbeHost_trans {a b c : MoonlightHost} (first : sameProbeHost a b = true)
    (second : sameProbeHost b c = true)
    : sameProbeHost a c = true := by
  simp only [sameProbeHost, Bool.and_eq_true, beq_iff_eq] at first second ⊢
  obtain ⟨⟨hostId, internal⟩, port⟩ := first
  rw [hostId, internal, port]
  exact second

theorem Probed.append {trace : List AvailabilityEvent} {scan : Nat} {host : MoonlightHost}
    {checkedAt : UInt64} (probed : Probed trace scan host checkedAt)
    (more : List AvailabilityEvent)
    : Probed (trace ++ more) scan host checkedAt := by
  obtain ⟨stamped, returnedAt, past, returned⟩ := probed
  exact ⟨List.mem_append_left _ stamped, returnedAt, past, List.mem_append_left _ returned⟩

theorem Refreshed.append {trace : List AvailabilityEvent} {scan : Nat}
    (refreshed : Refreshed trace scan) (more : List AvailabilityEvent)
    : Refreshed (trace ++ more) scan := by
  obtain ⟨early, late, hosts, next, rfl, rest⟩ := refreshed
  exact ⟨early, late ++ more, hosts, next, by rw [List.append_assoc, List.cons_append], rest⟩

-----------------------------------------------------------------------------------------
-- Scans
-----------------------------------------------------------------------------------------

/-- What a scan's entries say is on record. -/
structure JobSound (trace : List AvailabilityEvent) (clock : UInt64) (scan : Nat)
    (job : AvailabilityJob) : Prop where
  started : .started scan (job.entries.map (·.host)) ∈ trace
  finished
    : job.done = true
      → job.cancel = true
        ∨ .finished scan ∈ trace ∧ ∀ entry ∈ job.entries, entry.result ≠ 0
  probed
    : ∀ entry ∈ job.entries,
        entry.result = 1 → entry.checkedAt ≤ clock ∧ Probed trace scan entry.host entry.checkedAt
  carried
    : ∀ entry ∈ job.entries,
        entry.previousAvailable = true
        → entry.previousCheckedAt ≤ clock
          ∧ ∃ prober listed,
              prober + 1 = scan
              ∧ Probed trace prober listed entry.previousCheckedAt
              ∧ sameProbeHost listed entry.host = true
              ∧ Refreshed trace prober

theorem JobSound.later {trace : List AvailabilityEvent} {clock : UInt64} {scan : Nat}
    {job : AvailabilityJob} (sound : JobSound trace clock scan job)
    (more : List AvailabilityEvent) {now : UInt64} (ordered : clock ≤ now)
    : JobSound (trace ++ more) now scan job where
  started := List.mem_append_left _ sound.started
  finished := by
    intro done
    rcases sound.finished done with cancelled | ⟨finished, results⟩
    · exact .inl cancelled
    · exact .inr ⟨List.mem_append_left _ finished, results⟩
  probed := by
    intro entry member success
    obtain ⟨past, probed⟩ := sound.probed entry member success
    exact ⟨UInt64.le_trans past ordered, probed.append more⟩
  carried := by
    intro entry member available
    obtain ⟨past, prober, listed, before, probed, same, refreshed⟩ :=
      sound.carried entry member available
    exact ⟨UInt64.le_trans past ordered, prober, listed, before, probed.append more, same,
      refreshed.append more⟩

/-- An entry of a changed list is an old one or the changed one. -/
theorem mem_modifyEntry {job : AvailabilityJob} {index : Nat}
    {change : AvailabilityEntry → AvailabilityEntry} {entry : AvailabilityEntry}
    (member : entry ∈ (job.modifyEntry index change).entries)
    : entry ∈ job.entries ∨ ∃ old, job.entries[index]? = some old ∧ entry = change old := by
  obtain ⟨place, at_place⟩ := List.mem_iff_getElem?.1 member
  rw [AvailabilityJob.modifyEntry, List.getElem?_modify] at at_place
  split_ifs at at_place with same
  · subst same
    obtain ⟨old, found, rfl⟩ := Option.map_eq_some_iff.1 at_place
    exact .inr ⟨old, found, rfl⟩
  · obtain ⟨old, found, rfl⟩ := Option.map_eq_some_iff.1 at_place
    exact .inl (List.mem_of_getElem? found)

/-- What the worker knows behind each step of its loop. -/
def PhaseSound (trace : List AvailabilityEvent) (clock : UInt64) (job : AvailabilityJob)
    (worker : AvailabilityWorker) : Prop :=
  ∀ entry, job.entries[worker.index]? = some entry →
    match worker.phase with
    | .test | .probing => True
    | .returned result =>
        result = 1 → ∃ returnedAt ≤ clock, .returned worker.scan entry.host 1 returnedAt ∈ trace
    | .stamped result =>
        result = 1
        → entry.checkedAt ≤ clock ∧ Probed trace worker.scan entry.host entry.checkedAt

/-- The worker has been through the entries before its index, and through no other. -/
structure WorkerSound (trace : List AvailabilityEvent) (clock : UInt64) (job : AvailabilityJob)
    (worker : AvailabilityWorker) : Prop where
  behind
    : ∀ place entry,
        job.entries[place]? = some entry → place < worker.index → entry.result ≠ 0
  ahead
    : ∀ place entry,
        job.entries[place]? = some entry → worker.index ≤ place → entry.result = 0
  phase : PhaseSound trace clock job worker

theorem WorkerSound.later {trace : List AvailabilityEvent} {clock : UInt64}
    {job : AvailabilityJob} {worker : AvailabilityWorker}
    (sound : WorkerSound trace clock job worker) (more : List AvailabilityEvent) {now : UInt64}
    (ordered : clock ≤ now)
    : WorkerSound (trace ++ more) now job worker where
  behind := sound.behind
  ahead := sound.ahead
  phase := by
    intro entry found
    have known := sound.phase entry found
    obtain ⟨scan, index, phase⟩ := worker
    cases phase with
    | test | probing => trivial
    | returned result =>
        intro success
        obtain ⟨returnedAt, past, returned⟩ := known success
        exact ⟨returnedAt, UInt64.le_trans past ordered, List.mem_append_left _ returned⟩
    | stamped result =>
        intro success
        obtain ⟨past, probed⟩ := known success
        exact ⟨UInt64.le_trans past ordered, probed.append more⟩

/-- The scans, the queue and the worker are as the trace tells. -/
structure ScansSound (trace : List AvailabilityEvent) (service : HostService) : Prop where
  started : ∀ scan hosts, .started scan hosts ∈ trace → scan < service.created
  cancelled
    : ∀ scan, .cancelled scan ∈ trace → scan < service.created ∧ (service.jobs scan).cancel = true
  jobs : ∀ scan < service.created, JobSound trace service.clock scan (service.jobs scan)
  queued
    : ∀ scan ∈ service.queue,
        scan < service.created ∧ ∀ entry ∈ (service.jobs scan).entries, entry.result = 0
  distinct : service.queue.Nodup
  worker
    : ∀ worker, service.worker = some worker →
        worker.scan < service.created
        ∧ worker.scan ∉ service.queue
        ∧ WorkerSound trace service.clock (service.jobs worker.scan) worker

/-- Events that neither begin nor cancel a scan. -/
def Quiet (events : List AvailabilityEvent) : Prop :=
  (∀ scan hosts, .started scan hosts ∉ events) ∧ ∀ scan, .cancelled scan ∉ events

theorem Supported.append {trace : List AvailabilityEvent} {host : MoonlightHost}
    {checkedAt : UInt64} (supported : Supported trace host checkedAt)
    {more : List AvailabilityEvent} (quiet : Quiet more)
    : Supported (trace ++ more) host checkedAt := by
  obtain ⟨scan, prober, listed, ⟨⟨hosts, begun⟩, last, live⟩, probed, same, source⟩ := supported
  refine ⟨scan, prober, listed, ⟨⟨hosts, List.mem_append_left _ begun⟩, ?_, ?_⟩,
    probed.append more, same, ?_⟩
  · intro other hosts member
    rcases List.mem_append.1 member with old | new
    · exact last other hosts old
    · exact absurd new (quiet.1 other hosts)
  · intro member
    rcases List.mem_append.1 member with old | new
    · exact live old
    · exact quiet.2 scan new
  · rcases source with own | ⟨next, refreshed⟩
    · exact .inl own
    · exact .inr ⟨next, refreshed.append more⟩

/-- Time passing, and what readers do, leaves the scans sound. -/
theorem ScansSound.later {trace : List AvailabilityEvent} {service : HostService}
    (sound : ScansSound trace service) {more : List AvailabilityEvent} (quiet : Quiet more)
    {now : UInt64} (ordered : service.clock ≤ now) (dirty : Bool) (main : AvailabilityMain)
    : ScansSound (trace ++ more) { service with clock := now, dirty := dirty, main := main } where
  started := by
    intro scan hosts member
    rcases List.mem_append.1 member with old | new
    · exact sound.started scan hosts old
    · exact absurd new (quiet.1 scan hosts)
  cancelled := by
    intro scan member
    rcases List.mem_append.1 member with old | new
    · exact sound.cancelled scan old
    · exact absurd new (quiet.2 scan)
  jobs := fun scan created => (sound.jobs scan created).later more ordered
  queued := sound.queued
  distinct := sound.distinct
  worker := by
    intro worker running
    obtain ⟨created, unqueued, known⟩ := sound.worker worker running
    exact ⟨created, unqueued, known.later more ordered⟩

-----------------------------------------------------------------------------------------
-- Steps of the worker
-----------------------------------------------------------------------------------------

/-- The scan of the worker may change when the change keeps its entries sound. -/
theorem ScansSound.work {trace more : List AvailabilityEvent} {service : HostService}
    (sound : ScansSound trace service) (quiet : Quiet more) {now : UInt64}
    (ordered : service.clock ≤ now) {scan : Nat} (unqueued : scan ∉ service.queue)
    {change : AvailabilityJob → AvailabilityJob}
    (cancel : (change (service.jobs scan)).cancel = (service.jobs scan).cancel)
    (job : JobSound (trace ++ more) now scan (change (service.jobs scan)))
    {worker : Option AvailabilityWorker}
    (known
      : ∀ next, worker = some next →
          next.scan = scan
          ∧ scan < service.created
          ∧ WorkerSound (trace ++ more) now (change (service.jobs scan)) next)
    : ScansSound (trace ++ more)
        { service.updateJob scan change with worker := worker, clock := now } := by
  have later := sound.later quiet ordered service.dirty service.main
  refine ⟨later.started, ?_, ?_, ?_, later.distinct, ?_⟩
  · intro other member
    obtain ⟨created, stopped⟩ := later.cancelled other member
    refine ⟨created, ?_⟩
    by_cases same : other = scan
    · subst same
      simpa [HostService.updateJob, cancel] using stopped
    · simpa [HostService.updateJob, same] using stopped
  · intro other created
    by_cases same : other = scan
    · subst same
      simpa [HostService.updateJob] using job
    · simpa [HostService.updateJob, same] using later.jobs other created
  · intro other member
    obtain ⟨created, results⟩ := later.queued other member
    have same : other ≠ scan := fun same => unqueued (same ▸ member)
    refine ⟨created, ?_⟩
    simpa [HostService.updateJob, same] using results
  · intro next running
    obtain ⟨same, created, sound⟩ := known next running
    subst same
    exact ⟨created, unqueued, by simpa [HostService.updateJob] using sound⟩

/-- Entries that a change gives no new success keep their records. -/
theorem JobSound.modifyEntry {trace : List AvailabilityEvent} {clock : UInt64} {scan index : Nat}
    {job : AvailabilityJob} (sound : JobSound trace clock scan job)
    {change : AvailabilityEntry → AvailabilityEntry}
    (host : ∀ entry, (change entry).host = entry.host)
    (available : ∀ entry, (change entry).previousAvailable = entry.previousAvailable)
    (previous : ∀ entry, (change entry).previousCheckedAt = entry.previousCheckedAt)
    (result
      : ∀ entry, job.entries[index]? = some entry → entry.result ≠ 0 → (change entry).result ≠ 0)
    (success
      : ∀ entry, job.entries[index]? = some entry → (change entry).result = 1
        → (change entry).checkedAt ≤ clock
          ∧ Probed trace scan entry.host (change entry).checkedAt)
    : JobSound trace clock scan (job.modifyEntry index change) where
  started := by
    have hosts : (job.modifyEntry index change).entries.map (·.host)
        = job.entries.map (·.host) := by
      rw [AvailabilityJob.modifyEntry]
      apply List.ext_getElem?
      intro place
      rw [List.getElem?_map, List.getElem?_map, List.getElem?_modify, Option.map_eq_map,
        Option.map_map]
      congr 1
      funext entry
      simp only [Function.comp_apply]
      split_ifs
      · exact host entry
      · rfl
    rw [hosts]
    exact sound.started
  finished := by
    intro done
    rcases sound.finished done with cancelled | ⟨finished, results⟩
    · exact .inl cancelled
    · refine .inr ⟨finished, ?_⟩
      intro entry member
      rcases mem_modifyEntry member with old | ⟨old, found, rfl⟩
      · exact results entry old
      · exact result old found (results old (List.mem_of_getElem? found))
  probed := by
    intro entry member reported
    rcases mem_modifyEntry member with old | ⟨old, found, rfl⟩
    · exact sound.probed entry old reported
    · rw [host old]
      exact success old found reported
  carried := by
    intro entry member copied
    rcases mem_modifyEntry member with old | ⟨old, found, rfl⟩
    · exact sound.carried entry old copied
    · rw [available old] at copied
      rw [host old, previous old]
      exact sound.carried old (List.mem_of_getElem? found) copied

/-- The worker moves on within its scan. -/
theorem ScansSound.proceed {trace : List AvailabilityEvent} {service : HostService}
    (sound : ScansSound trace service) {worker next : AvailabilityWorker}
    (running : service.worker = some worker) (scan : next.scan = worker.scan)
    (known : WorkerSound trace service.clock (service.jobs worker.scan) next)
    : ScansSound trace { service with worker := some next } where
  started := sound.started
  cancelled := sound.cancelled
  jobs := sound.jobs
  queued := sound.queued
  distinct := sound.distinct
  worker := by
    intro other same
    cases same
    rw [scan]
    obtain ⟨created, unqueued, -⟩ := sound.worker worker running
    exact ⟨created, unqueued, known⟩

/-- The worker takes the next scan from the queue. -/
theorem ScansSound.dequeue {trace : List AvailabilityEvent} {service : HostService}
    (sound : ScansSound trace service) {scan : Nat} {rest : List Nat}
    (waiting : service.queue = scan :: rest)
    : ScansSound trace { service with queue := rest, worker := some { scan } } where
  started := sound.started
  cancelled := sound.cancelled
  jobs := sound.jobs
  queued := by
    intro other member
    exact sound.queued other (waiting ▸ List.mem_cons_of_mem scan member)
  distinct := by
    have distinct := sound.distinct
    rw [waiting] at distinct
    exact (List.nodup_cons.1 distinct).2
  worker := by
    intro worker running
    cases running
    have distinct := sound.distinct
    rw [waiting] at distinct
    obtain ⟨created, results⟩ := sound.queued scan (waiting ▸ List.mem_cons_self)
    refine ⟨created, (List.nodup_cons.1 distinct).1, ?_, ?_, fun _ _ => trivial⟩
    · intro place entry _ before
      exact absurd before (Nat.not_lt_zero place)
    · intro place entry found _
      exact results entry (List.mem_of_getElem? found)

/-- The worker has left its loop. -/
theorem ScansSound.finish {trace : List AvailabilityEvent} {service : HostService}
    (sound : ScansSound trace service) {worker : AvailabilityWorker}
    (running : service.worker = some worker)
    (left
      : ¬ (worker.index < (service.jobs worker.scan).entries.length
          ∧ (service.jobs worker.scan).cancel = false))
    : ScansSound (trace ++ [.finished worker.scan])
        { service.updateJob worker.scan fun job => { job with done := true } with
          worker := none } := by
  have quiet : Quiet [.finished worker.scan] := ⟨by simp, by simp⟩
  have still := UInt64.le_refl service.clock
  obtain ⟨created, unqueued, known⟩ := sound.worker worker running
  have job := (sound.jobs worker.scan created).later [.finished worker.scan] still
  refine sound.work quiet still unqueued rfl ⟨job.started, fun _ => ?_, job.probed, job.carried⟩
    (fun next stopped => nomatch stopped)
  by_cases cancelled : (service.jobs worker.scan).cancel = true
  · exact .inl cancelled
  · refine .inr ⟨List.mem_append_right _ List.mem_cons_self, ?_⟩
    intro entry member
    obtain ⟨place, found⟩ := List.mem_iff_getElem?.1 member
    refine known.behind place entry found ?_
    have inside : place < (service.jobs worker.scan).entries.length :=
      (List.getElem?_eq_some_iff.1 found).1
    by_contra beyond
    exact left ⟨by omega, by simpa using cancelled⟩

/-- A probe has returned. -/
theorem ScansSound.probeReturned {trace : List AvailabilityEvent} {service : HostService}
    (sound : ScansSound trace service) {scan index : Nat} {entry : AvailabilityEntry}
    (running : service.worker = some ⟨scan, index, .probing⟩)
    (found : (service.jobs scan).entries[index]? = some entry) (result : Int) {now : UInt64}
    (ordered : service.clock ≤ now)
    : ScansSound (trace ++ [.returned scan entry.host result now])
        { service with worker := some ⟨scan, index, .returned result⟩, clock := now } := by
  have quiet : Quiet [.returned scan entry.host result now] := ⟨by simp, by simp⟩
  have later := sound.later quiet ordered service.dirty service.main
  obtain ⟨-, -, known⟩ := later.worker _ running
  refine later.proceed running rfl ⟨known.behind, known.ahead, ?_⟩
  intro other same success
  cases found.symm.trans same
  subst success
  exact ⟨now, UInt64.le_refl now, List.mem_append_right _ List.mem_cons_self⟩

/-- The worker keeps what it knows of a scan whose entry under its hands changes. -/
theorem WorkerSound.modifyEntry {trace : List AvailabilityEvent} {clock : UInt64}
    {job : AvailabilityJob} {worker : AvailabilityWorker}
    (sound : WorkerSound trace clock job worker) {index : Nat} {next : AvailabilityWorker}
    {change : AvailabilityEntry → AvailabilityEntry}
    (behind
      : ∀ entry, job.entries[index]? = some entry → index < next.index →
          (change entry).result ≠ 0)
    (ahead
      : ∀ entry, job.entries[index]? = some entry → next.index ≤ index →
          (change entry).result = 0)
    (beyond : next.index = worker.index ∨ worker.index = index ∧ next.index = index + 1)
    (phase : PhaseSound trace clock (job.modifyEntry index change) next)
    : WorkerSound trace clock (job.modifyEntry index change) next where
  behind := by
    intro place entry found before
    rw [AvailabilityJob.modifyEntry, List.getElem?_modify] at found
    obtain ⟨old, there, rfl⟩ := Option.map_eq_some_iff.1 found
    split_ifs with same
    · subst same
      exact behind old there before
    · exact sound.behind place old there (by omega)
  ahead := by
    intro place entry found after
    rw [AvailabilityJob.modifyEntry, List.getElem?_modify] at found
    obtain ⟨old, there, rfl⟩ := Option.map_eq_some_iff.1 found
    split_ifs with same
    · subst same
      exact ahead old there after
    · exact sound.ahead place old there (by omega)
  phase := phase

theorem getElem?_modifyEntry_self {job : AvailabilityJob} {index : Nat}
    {change : AvailabilityEntry → AvailabilityEntry} {entry : AvailabilityEntry}
    (found : (job.modifyEntry index change).entries[index]? = some entry)
    : ∃ old, job.entries[index]? = some old ∧ entry = change old := by
  rw [AvailabilityJob.modifyEntry, List.getElem?_modify] at found
  obtain ⟨old, there, rfl⟩ := Option.map_eq_some_iff.1 found
  exact ⟨old, there, if_pos rfl⟩

/-- The probed entry gets its time. -/
theorem ScansSound.probeStamped {trace : List AvailabilityEvent} {service : HostService}
    (sound : ScansSound trace service) {scan index : Nat} {result : Int}
    {entry : AvailabilityEntry} (running : service.worker = some ⟨scan, index, .returned result⟩)
    (found : (service.jobs scan).entries[index]? = some entry) {now : UInt64}
    (ordered : service.clock ≤ now)
    : ScansSound (trace ++ [.stamped scan entry.host result now])
        { service.updateJob scan fun job =>
            job.modifyEntry index fun entry => { entry with checkedAt := now } with
          worker := some ⟨scan, index, .stamped result⟩
          clock := now } := by
  have quiet : Quiet [.stamped scan entry.host result now] := ⟨by simp, by simp⟩
  obtain ⟨created, unqueued, known⟩ := sound.worker _ running
  have pending : entry.result = 0 := known.ahead index entry found (Nat.le_refl index)
  have job := (sound.jobs scan created).later [.stamped scan entry.host result now] ordered
  refine sound.work quiet ordered unqueued rfl ?_ ?_
  · refine job.modifyEntry (fun _ => rfl) (fun _ => rfl) (fun _ => rfl)
      (fun _ _ nonzero => nonzero) ?_
    intro other same success
    cases found.symm.trans same
    rw [pending] at success
    contradiction
  · intro next same
    cases same
    have returned := known.phase entry found
    refine ⟨rfl, created,
      (known.later [.stamped scan entry.host result now] ordered).modifyEntry ?_ ?_ (.inl rfl) ?_⟩
    · intro other _ before
      exact absurd before (Nat.lt_irrefl index)
    · intro other same _
      exact known.ahead index other same (Nat.le_refl index)
    · intro changed there success
      obtain ⟨old, same, rfl⟩ := getElem?_modifyEntry_self there
      cases found.symm.trans same
      subst success
      obtain ⟨returnedAt, past, member⟩ := returned rfl
      exact ⟨UInt64.le_refl now, List.mem_append_right _ List.mem_cons_self, returnedAt,
        UInt64.le_trans past ordered, List.mem_append_left _ member⟩

/-- The result of the probe is published. -/
theorem ScansSound.publish {trace : List AvailabilityEvent} {service : HostService}
    (sound : ScansSound trace service) {scan index : Nat} {result : Int}
    (running : service.worker = some ⟨scan, index, .stamped result⟩)
    : ScansSound trace
        { service.updateJob scan fun job =>
            job.modifyEntry index fun entry =>
              { entry with result := if result = 0 then 2 else result } with
          worker := some ⟨scan, index + 1, .test⟩ } := by
  obtain ⟨created, unqueued, known⟩ := sound.worker _ running
  have still := UInt64.le_refl service.clock
  have nonzero : (if result = 0 then 2 else result) ≠ 0 := by split_ifs <;> omega
  have quiet : Quiet [] := ⟨by simp, by simp⟩
  rw [← List.append_nil trace]
  have job := (sound.jobs scan created).later [] still
  have before := known.later [] still
  refine sound.work quiet still unqueued rfl ?_ ?_
  · refine job.modifyEntry (fun _ => rfl) (fun _ => rfl) (fun _ => rfl)
      (fun _ _ _ => nonzero) ?_
    intro entry found success
    have reported : result = 1 := by
      dsimp only at success
      split_ifs at success
      · contradiction
      · exact success
    exact before.phase entry found reported
  · intro next same
    cases same
    refine ⟨rfl, created, before.modifyEntry (fun _ _ _ => nonzero) ?_ (.inr ⟨rfl, rfl⟩)
      (fun _ _ => trivial)⟩
    intro entry _ below
    exact absurd below (Nat.not_succ_le_self index)

/-- Every step of the worker keeps the scans sound. -/
theorem ScansSound.workerStep {trace : List AvailabilityEvent} {service : HostService}
    (sound : ScansSound trace service) {choice : AvailabilityChoice} {after : HostService}
    {events : List AvailabilityEvent} (taken : service.workerStep choice = some (after, events))
    : ScansSound (trace ++ events) after ∧ Quiet events := by
  cases choice with
  | dequeue =>
      simp only [HostService.workerStep] at taken
      split at taken
      · rename_i scan rest idle waiting
        obtain ⟨rfl, rfl⟩ := Prod.ext_iff.1 (Option.some.inj taken)
        rw [List.append_nil]
        exact ⟨sound.dequeue waiting, by simp [Quiet]⟩
      · contradiction
  | test =>
      simp only [HostService.workerStep] at taken
      split at taken
      · rename_i scan index running
        split_ifs at taken with go
        · obtain ⟨rfl, rfl⟩ := Prod.ext_iff.1 (Option.some.inj taken)
          obtain ⟨-, -, known⟩ := sound.worker _ running
          rw [List.append_nil]
          exact ⟨sound.proceed running rfl ⟨known.behind, known.ahead, fun _ _ => trivial⟩,
            by simp [Quiet]⟩
        · obtain ⟨rfl, rfl⟩ := Prod.ext_iff.1 (Option.some.inj taken)
          exact ⟨sound.finish running go, by simp [Quiet]⟩
      · contradiction
  | probed result now =>
      simp only [HostService.workerStep] at taken
      split at taken
      · rename_i scan index running
        split_ifs at taken with ordered
        obtain ⟨entry, found, made⟩ := Option.map_eq_some_iff.1 taken
        obtain ⟨rfl, rfl⟩ := Prod.ext_iff.1 made
        exact ⟨sound.probeReturned running found result ordered, by simp [Quiet]⟩
      · contradiction
  | stamp now =>
      simp only [HostService.workerStep] at taken
      split at taken
      · rename_i scan index result running
        split_ifs at taken with ordered
        obtain ⟨entry, found, made⟩ := Option.map_eq_some_iff.1 taken
        obtain ⟨rfl, rfl⟩ := Prod.ext_iff.1 made
        exact ⟨sound.probeStamped running found ordered, by simp [Quiet]⟩
      · contradiction
  | publish =>
      simp only [HostService.workerStep] at taken
      split at taken
      · rename_i scan index result running
        obtain ⟨rfl, rfl⟩ := Prod.ext_iff.1 (Option.some.inj taken)
        rw [List.append_nil]
        exact ⟨sound.publish running, by simp [Quiet]⟩
      · contradiction
  | _ => cases taken

-----------------------------------------------------------------------------------------
-- Steps of the main thread
-----------------------------------------------------------------------------------------

/-- A cancelled scan may be reported as such. -/
theorem ScansSound.reportCancelled {trace : List AvailabilityEvent} {service : HostService}
    (sound : ScansSound trace service) {scan : Nat} (created : scan < service.created)
    (stopped : (service.jobs scan).cancel = true)
    : ScansSound (trace ++ [.cancelled scan]) service where
  started := by
    intro other hosts member
    exact sound.started other hosts (by simpa using member)
  cancelled := by
    intro other member
    rcases List.mem_append.1 member with old | new
    · exact sound.cancelled other old
    · rw [List.mem_singleton, AvailabilityEvent.cancelled.injEq] at new
      exact new ▸ ⟨created, stopped⟩
  jobs := fun other created =>
    (sound.jobs other created).later [.cancelled scan] (UInt64.le_refl service.clock)
  queued := sound.queued
  distinct := sound.distinct
  worker := by
    intro worker running
    obtain ⟨created, unqueued, known⟩ := sound.worker worker running
    exact ⟨created, unqueued, known.later [.cancelled scan] (UInt64.le_refl service.clock)⟩

/-- Cancelling a scan leaves its entries alone. -/
theorem ScansSound.cancelJob {trace : List AvailabilityEvent} {service : HostService}
    (sound : ScansSound trace service) (scan : Nat)
    : ScansSound trace (service.updateJob scan fun job => { job with cancel := true }) := by
  have entries : ∀ other,
      ((service.updateJob scan fun job => { job with cancel := true }).jobs other).entries
        = (service.jobs other).entries := by
    intro other
    by_cases same : other = scan
    · subst same
      simp [HostService.updateJob]
    · simp [HostService.updateJob, same]
  refine ⟨sound.started, ?_, ?_, ?_, sound.distinct, ?_⟩
  · intro other member
    obtain ⟨created, stopped⟩ := sound.cancelled other member
    refine ⟨created, ?_⟩
    by_cases same : other = scan
    · subst same
      simp [HostService.updateJob]
    · simpa [HostService.updateJob, same] using stopped
  · intro other created
    have job := sound.jobs other created
    by_cases same : other = scan
    · subst same
      simp only [HostService.updateJob, Function.update_self]
      exact ⟨job.started, fun _ => .inl rfl, job.probed, job.carried⟩
    · simpa [HostService.updateJob, same] using job
  · intro other member
    rw [entries other]
    exact sound.queued other member
  · intro worker running
    obtain ⟨created, unqueued, known⟩ := sound.worker worker running
    refine ⟨created, unqueued, ?_, ?_, ?_⟩
    · rw [entries worker.scan]
      exact known.behind
    · rw [entries worker.scan]
      exact known.ahead
    · unfold PhaseSound
      rw [entries worker.scan]
      exact known.phase

/-- A new scan takes the next place. -/
theorem ScansSound.begin {trace : List AvailabilityEvent} {service : HostService}
    (sound : ScansSound trace service) {next : AvailabilityJob} {hosts : List MoonlightHost}
    {now : UInt64} (ordered : service.clock ≤ now)
    (job : JobSound (trace ++ [.started service.created hosts]) now service.created next)
    (queue : List Nat)
    (queued
      : queue = service.queue
        ∨ queue = service.queue ++ [service.created] ∧ ∀ entry ∈ next.entries, entry.result = 0)
    : ScansSound (trace ++ [.started service.created hosts])
        { service with
          jobs := Function.update service.jobs service.created next
          created := service.created + 1
          queue := queue
          clock := now } := by
  have fresh : ∀ other < service.created,
      Function.update service.jobs service.created next other = service.jobs other :=
    fun other created => Function.update_of_ne (Nat.ne_of_lt created) _ _
  have members : ∀ other ∈ queue,
      other ∈ service.queue
        ∨ other = service.created ∧ ∀ entry ∈ next.entries, entry.result = 0 := by
    intro other member
    rcases queued with rfl | ⟨rfl, results⟩
    · exact .inl member
    · rcases List.mem_append.1 member with old | new
      · exact .inl old
      · exact .inr ⟨List.mem_singleton.1 new, results⟩
  have absent : service.created ∉ service.queue := by
    intro member
    exact absurd (sound.queued _ member).1 (Nat.lt_irrefl _)
  refine ⟨?_, ?_, ?_, ?_, ?_, ?_⟩
  · intro other hosts member
    rcases List.mem_append.1 member with old | new
    · exact Nat.lt_succ_of_lt (sound.started other hosts old)
    · rw [List.mem_singleton, AvailabilityEvent.started.injEq] at new
      exact new.1 ▸ Nat.lt_succ_self _
  · intro other member
    obtain ⟨created, stopped⟩ := sound.cancelled other (by simpa using member)
    refine ⟨Nat.lt_succ_of_lt created, ?_⟩
    dsimp only
    rw [fresh other created]
    exact stopped
  · intro other created
    rcases Nat.lt_succ_iff_lt_or_eq.1 created with old | rfl
    · dsimp only
      rw [fresh other old]
      exact (sound.jobs other old).later _ ordered
    · dsimp only
      rw [Function.update_self]
      exact job
  · intro other member
    rcases members other member with old | ⟨rfl, results⟩
    · obtain ⟨created, results⟩ := sound.queued other old
      refine ⟨Nat.lt_succ_of_lt created, ?_⟩
      dsimp only
      rw [fresh other created]
      exact results
    · refine ⟨Nat.lt_succ_self _, ?_⟩
      dsimp only
      rw [Function.update_self]
      exact results
  · rcases queued with rfl | ⟨rfl, -⟩
    · exact sound.distinct
    · refine List.nodup_append.2 ⟨sound.distinct, List.pairwise_singleton _ _, ?_⟩
      intro old member new singleton same
      rw [List.mem_singleton.1 singleton] at same
      exact absent (same ▸ member)
  · intro worker running
    obtain ⟨created, unqueued, known⟩ := sound.worker worker running
    refine ⟨Nat.lt_succ_of_lt created, ?_, ?_⟩
    · intro member
      rcases members _ member with old | ⟨same, -⟩
      · exact unqueued old
      · exact absurd created (same ▸ Nat.lt_irrefl _)
    · dsimp only
      rw [fresh _ created]
      exact known.later _ ordered

theorem forall₂_of_scans {job : AvailabilityJob} {hosts : List MoonlightHost}
    (same : job.scans hosts = true)
    : List.Forall₂ (fun old new => sameProbeHost old new = true) (job.entries.map (·.host))
        hosts := by
  unfold AvailabilityJob.scans at same
  rw [Bool.and_eq_true, beq_iff_eq, List.all_eq_true] at same
  obtain ⟨length, paired⟩ := same
  rw [List.forall₂_map_left_iff, List.forall₂_iff_zip]
  exact ⟨length, fun member => paired _ member⟩

theorem hosts_of_create (hosts : List MoonlightHost) (previous : Option AvailabilityJob)
    (startedAt : UInt64) (readings : Nat → UInt64)
    : (AvailabilityJob.create hosts previous startedAt readings).entries.map (·.host)
      = hosts := by
  apply List.ext_getElem?
  intro index
  simp [AvailabilityJob.create, Function.comp_def]

/-- What a new entry copies is a success of the finished, uncancelled scan before it. -/
theorem carried_success {trace : List AvailabilityEvent} {clock : UInt64} {scan index : Nat}
    {job : AvailabilityJob} (sound : JobSound trace clock scan job) (done : job.done = true)
    {now : UInt64} {entry : AvailabilityEntry}
    (copied : AvailabilityJob.carried (some job) index now = some entry)
    : job.entries[index]? = some entry
      ∧ job.cancel = false
      ∧ .finished scan ∈ trace
      ∧ entry.checkedAt ≤ clock
      ∧ Probed trace scan entry.host entry.checkedAt := by
  rw [AvailabilityJob.carried, Option.bind_some, Option.filter_eq_some_iff] at copied
  obtain ⟨found, available⟩ := copied
  have member := List.mem_of_getElem? found
  unfold AvailabilityJob.available AvailabilityJob.isFresh AvailabilityJob.successTime at available
  have live : job.cancel = false := by
    by_contra cancelled
    rw [Bool.not_eq_false] at cancelled
    rw [if_pos cancelled] at available
    contradiction
  rcases sound.finished done with cancelled | ⟨finished, results⟩
  · rw [live] at cancelled
    contradiction
  · have success : entry.result = 1 := by
      by_contra other
      rw [if_neg (by simp [live]), if_neg (results entry member), if_pos other] at available
      contradiction
    exact ⟨found, live, finished, sound.probed entry member success⟩

/-- The new scan is sound when it replaces no scan, or a finished one over the same hosts. -/
theorem jobSound_create {trace : List AvailabilityEvent} {service : HostService}
    (sound : ScansSound trace service) {hosts : List MoonlightHost}
    {previous : Option AvailabilityJob}
    (source
      : ∀ old, previous = some old →
          ∃ scan, scan + 1 = service.created ∧ old = service.jobs scan
            ∧ old.done = true ∧ old.scans hosts = true)
    (startedAt : UInt64) (readings : Nat → UInt64) {now : UInt64} (ordered : service.clock ≤ now)
    : JobSound (trace ++ [.started service.created hosts]) now service.created
        (AvailabilityJob.create hosts previous startedAt readings) := by
  refine ⟨?_, (fun done => nomatch done), ?_, ?_⟩
  · rw [hosts_of_create]
    exact List.mem_append_right _ List.mem_cons_self
  · intro entry member success
    obtain ⟨index, bound, rfl⟩ := List.mem_mapIdx.1 member
    exact absurd success (show ¬ (0 : Int) = 1 by decide)
  · intro entry member available
    obtain ⟨index, bound, rfl⟩ := List.mem_mapIdx.1 member
    dsimp only at available ⊢
    obtain ⟨copied, carried⟩ := Option.isSome_iff_exists.1 available
    rw [carried, Option.elim_some]
    cases previous with
    | none => contradiction
    | some old =>
        obtain ⟨scan, next, rfl, done, same⟩ := source old rfl
        have created : scan < service.created := by omega
        have job := sound.jobs scan created
        obtain ⟨found, live, finished, past, probed⟩ := carried_success job done carried
        have matched := forall₂_of_scans same
        refine ⟨UInt64.le_trans past ordered, scan, copied.host, next, probed.append _, ?_, ?_⟩
        · obtain ⟨inside, rfl⟩ := List.getElem?_eq_some_iff.1 found
          have paired := (List.forall₂_iff_get.1 matched).2 index (by simpa using inside) bound
          simpa using paired
        · refine ⟨trace, [], _, hosts, by rw [next], job.started, matched, finished, ?_⟩
          intro member
          rw [(sound.cancelled scan member).2] at live
          contradiction

theorem ScansSound.congr {trace : List AvailabilityEvent} {service after : HostService}
    (sound : ScansSound trace service) (jobs : after.jobs = service.jobs)
    (created : after.created = service.created) (queue : after.queue = service.queue)
    (worker : after.worker = service.worker) (clock : after.clock = service.clock)
    : ScansSound trace after := by
  obtain ⟨started, cancelled, known, queued, distinct, working⟩ := sound
  rw [← jobs, ← created, ← clock] at *
  rw [← queue] at queued distinct working
  rw [← worker] at working
  exact ⟨started, cancelled, known, queued, distinct, working⟩

/-- The service after its current scan was cancelled or replaced: sound, its change not yet
polled, and nothing answered meanwhile.
-/
structure Restarted (trace events : List AvailabilityEvent) (service after : HostService) : Prop
    where
  scans : ScansSound (trace ++ events) after
  current : ∀ scan, after.job = some scan → scan + 1 = after.created
  main : after.main = service.main
  dirty : after.dirty = true
  plain : ∀ before, ∀ event ∈ events, Sound before event

/-- Cancelling the current scan. -/
theorem restarted_cancel {trace : List AvailabilityEvent} {service : HostService}
    (sound : ScansSound trace service)
    (current : ∀ scan, service.job = some scan → scan + 1 = service.created)
    : Restarted trace service.cancelAvailability.2 service service.cancelAvailability.1 := by
  unfold HostService.cancelAvailability
  cases last : service.job with
  | none =>
      refine ⟨?_, ?_, rfl, rfl, by simp⟩
      · rw [List.append_nil]
        exact sound.congr rfl rfl rfl rfl rfl
      · intro scan same
        have same : none = some scan := same
        contradiction
  | some scan =>
      have created : scan < service.created := by
        rw [← current scan last]
        exact Nat.lt_succ_self scan
      refine ⟨?_, current, rfl, rfl, ?_⟩
      · have cancelled := (sound.cancelJob scan).reportCancelled created
          (by simp [HostService.updateJob])
        exact cancelled.congr rfl rfl rfl rfl rfl
      · intro before event member
        rw [List.mem_singleton.1 member]
        trivial

/-- The scan that a new one has replaced may be cancelled after it. -/
theorem ScansSound.cancelReplaced {trace : List AvailabilityEvent} {service : HostService}
    {next : AvailabilityJob} {hosts : List MoonlightHost} {queue : List Nat} {now : UInt64}
    (current : ∀ scan, service.job = some scan → scan + 1 = service.created)
    (begun
      : ScansSound (trace ++ [.started service.created hosts])
          { service with
            jobs := Function.update service.jobs service.created next
            created := service.created + 1
            queue := queue
            clock := now })
    : ScansSound (trace ++ .started service.created hosts :: service.cancelAvailability.2)
        { service with
          jobs := Function.update service.cancelAvailability.1.jobs service.created next
          created := service.created + 1
          queue := queue
          clock := now } := by
  unfold HostService.cancelAvailability
  cases last : service.job with
  | none => exact begun.congr rfl rfl rfl rfl rfl
  | some old =>
      have before : old < service.created := by
        rw [← current old last]
        exact Nat.lt_succ_self old
      have other : old ≠ service.created := Nat.ne_of_lt before
      have cancelled := (begun.cancelJob old).reportCancelled (Nat.lt_succ_of_lt before)
        (by simp [HostService.updateJob])
      rw [List.append_assoc] at cancelled
      refine cancelled.congr ?_ rfl rfl rfl rfl
      simp only [HostService.updateJob, Function.update_of_ne other]
      rw [Function.update_comm other]

/-- Replacing the current scan. -/
theorem restarted_replace {trace : List AvailabilityEvent} {service : HostService}
    (sound : ScansSound trace service)
    (current : ∀ scan, service.job = some scan → scan + 1 = service.created) (owner : Nat)
    (hosts : List MoonlightHost) {previous : Option AvailabilityJob}
    (source
      : ∀ old, previous = some old →
          ∃ scan, scan + 1 = service.created ∧ old = service.jobs scan
            ∧ old.done = true ∧ old.scans hosts = true)
    (outcome : CheckOutcome) (ordered : service.clock ≤ outcome.leftAt)
    : Restarted trace (service.replaceScan owner hosts previous outcome).2 service
        { (service.replaceScan owner hosts previous outcome).1 with clock := outcome.leftAt } := by
  have job := jobSound_create sound source outcome.startedAt outcome.readings ordered
  have pending : ∀ entry ∈ (AvailabilityJob.create hosts previous outcome.startedAt
      outcome.readings).entries, entry.result = 0 := by
    intro entry member
    obtain ⟨index, bound, rfl⟩ := List.mem_mapIdx.1 member
    rfl
  have cancelled := restarted_cancel sound current
  unfold HostService.replaceScan
  generalize AvailabilityJob.create hosts previous outcome.startedAt outcome.readings = next
    at job pending
  have kept : service.cancelAvailability.1.queue = service.queue
      ∧ service.cancelAvailability.1.worker = service.worker := by
    unfold HostService.cancelAvailability
    cases service.job <;> exact ⟨rfl, rfl⟩
  dsimp only
  split_ifs
  · have begun := ScansSound.cancelReplaced current
      (sound.begin ordered job (service.queue ++ [service.created]) (.inr ⟨rfl, pending⟩))
    refine ⟨begun.congr rfl rfl ?_ kept.2 rfl, ?_, cancelled.main, cancelled.dirty, ?_⟩
    · rw [kept.1]
    · intro scan same
      cases same
      rfl
    · intro before event member
      rcases List.mem_cons.1 member with rfl | rest
      · trivial
      · exact cancelled.plain before event rest
  · have job : JobSound (trace ++ [.started service.created hosts]) outcome.leftAt
        service.created { next with cancel := true, done := true } :=
      ⟨job.started, fun _ => .inl rfl, job.probed, job.carried⟩
    have begun := ScansSound.cancelReplaced current (sound.begin ordered job _ (.inl rfl))
    have reported := begun.reportCancelled (Nat.lt_succ_self service.created) (by simp)
    rw [List.append_assoc] at reported
    refine ⟨reported.congr rfl rfl kept.1 kept.2 rfl, ?_, cancelled.main, cancelled.dirty, ?_⟩
    · intro scan same
      cases same
      rfl
    · intro before event member
      rcases List.mem_cons.1 member with rfl | rest
      · trivial
      · rcases List.mem_append.1 rest with old | new
        · exact cancelled.plain before event old
        · rw [List.mem_singleton.1 new]
          trivial

/-- Time may pass after a restart. -/
theorem Restarted.later {trace events : List AvailabilityEvent} {service after : HostService}
    (restarted : Restarted trace events service after) {now : UInt64}
    (ordered : after.clock ≤ now)
    : Restarted trace events service { after with clock := now } := by
  have quiet : Quiet [] := ⟨by simp, by simp⟩
  have scans := restarted.scans.later quiet ordered after.dirty after.main
  rw [List.append_nil] at scans
  exact ⟨scans, restarted.current, restarted.main, restarted.dirty, restarted.plain⟩

theorem cancelAvailability_clock (service : HostService)
    : service.cancelAvailability.1.clock = service.clock := by
  unfold HostService.cancelAvailability
  cases service.job <;> rfl

/-- `CheckAvailability` from its first reading to its last. -/
theorem restarted_check {trace : List AvailabilityEvent} {service : HostService}
    (sound : ScansSound trace service)
    (current : ∀ scan, service.job = some scan → scan + 1 = service.created) (owner : Nat)
    (hosts : List MoonlightHost) (outcome : CheckOutcome)
    (ordered : service.clock ≤ outcome.leftAt)
    : Restarted trace (service.checkAvailability owner hosts outcome).2 service
        { (service.checkAvailability owner hosts outcome).1 with clock := outcome.leftAt }
      ∨ service.checkAvailability owner hosts outcome = (service, []) := by
  unfold HostService.checkAvailability
  split_ifs
  · unfold HostService.stopAvailability
    split_ifs
    · refine .inl ((restarted_cancel sound current).later ?_)
      rw [cancelAvailability_clock]
      exact ordered
    · exact .inr rfl
  · cases same : service.unchanged owner hosts with
    | none =>
        refine .inl (restarted_replace sound current owner hosts ?_ outcome ordered)
        intro old absent
        cases absent
    | some old =>
        dsimp only
        split_ifs with due
        · refine .inl (restarted_replace sound current owner hosts ?_ outcome ordered)
          intro other copied
          cases copied
          obtain ⟨last, matched⟩ := Option.filter_eq_some_iff.1 same
          obtain ⟨scan, running, rfl⟩ := Option.map_eq_some_iff.1 last
          rw [Bool.and_eq_true] at matched
          rw [AvailabilityJob.refreshDue, Bool.and_eq_true] at due
          exact ⟨scan, current scan running, rfl, due.1, matched.2⟩
        · exact .inr rfl

/-- What the current scan can report of a host has its support. -/
theorem askAvailable_supported {trace : List AvailabilityEvent} {service : HostService}
    (sound : ScansSound trace service)
    (current : ∀ scan, service.job = some scan → scan + 1 = service.created)
    {host : MoonlightHost} {checkedAt : UInt64}
    (asked : service.askAvailable host = some checkedAt)
    : checkedAt ≤ service.clock ∧ Supported trace host checkedAt := by
  unfold HostService.askAvailable at asked
  obtain ⟨scan, last, asked⟩ := Option.bind_eq_some_iff.1 asked
  obtain ⟨entry, found, success⟩ := Option.bind_eq_some_iff.1 asked
  have next := current scan last
  have job := sound.jobs scan (by omega)
  have member := List.mem_of_find?_eq_some found
  have same : sameProbeHost entry.host host = true := by
    simpa using List.find?_some found
  have live : (service.jobs scan).cancel = false := by
    by_contra cancelled
    rw [Bool.not_eq_false] at cancelled
    rw [AvailabilityJob.successTime, if_pos cancelled] at success
    contradiction
  have currentScan : Current trace scan := by
    refine ⟨⟨_, job.started⟩, ?_, ?_⟩
    · intro other hosts begun
      have before := sound.started other hosts begun
      omega
    · intro stopped
      rw [(sound.cancelled scan stopped).2] at live
      contradiction
  unfold AvailabilityJob.successTime at success
  split_ifs at success with cancelled pending copied failed
  · -- pending, on the word of the previous scan
    obtain rfl := Option.some.inj success
    obtain ⟨past, prober, listed, before, probed, listedSame, refreshed⟩ :=
      job.carried entry member copied
    exact ⟨past, scan, prober, listed, currentScan, probed,
      sameProbeHost_trans listedSame same, .inr ⟨before, refreshed⟩⟩
  · -- its own probe
    obtain rfl := Option.some.inj success
    obtain ⟨past, probed⟩ := job.probed entry member (by simpa using failed)
    exact ⟨past, scan, scan, entry.host, currentScan, probed, same, .inl rfl⟩

-----------------------------------------------------------------------------------------
-- What is shown
-----------------------------------------------------------------------------------------

/-- A change of an entry's value shown, which nothing else depends on. -/
theorem ScansSound.display {trace : List AvailabilityEvent} {service : HostService}
    (sound : ScansSound trace service) (scan index : Nat) (value : Bool)
    : ScansSound trace
        (service.updateJob scan fun job =>
          job.modifyEntry index fun entry => { entry with displayed := value }) := by
  have undone : ∀ (other place : Nat) (entry : AvailabilityEntry),
      ((service.updateJob scan fun job =>
          job.modifyEntry index fun entry => { entry with displayed := value }).jobs
        other).entries[place]? = some entry
      → ∃ (old : AvailabilityEntry) (value : Bool),
          (service.jobs other).entries[place]? = some old
          ∧ entry = { old with displayed := value } := by
    intro other place entry found
    by_cases same : other = scan
    · subst same
      simp only [HostService.updateJob, Function.update_self, AvailabilityJob.modifyEntry,
        List.getElem?_modify] at found
      obtain ⟨old, there, rfl⟩ := Option.map_eq_some_iff.1 found
      split_ifs
      · exact ⟨old, value, there, rfl⟩
      · exact ⟨old, old.displayed, there, rfl⟩
    · simp only [HostService.updateJob, Function.update_of_ne same] at found
      exact ⟨entry, entry.displayed, found, rfl⟩
  refine ⟨sound.started, ?_, ?_, ?_, sound.distinct, ?_⟩
  · intro other member
    obtain ⟨created, stopped⟩ := sound.cancelled other member
    refine ⟨created, ?_⟩
    by_cases same : other = scan
    · subst same
      simpa [HostService.updateJob, AvailabilityJob.modifyEntry] using stopped
    · simpa [HostService.updateJob, same] using stopped
  · intro other created
    have job := sound.jobs other created
    by_cases same : other = scan
    · subst same
      simp only [HostService.updateJob, Function.update_self]
      refine job.modifyEntry (fun _ => rfl) (fun _ => rfl) (fun _ => rfl)
        (fun _ _ nonzero => nonzero) ?_
      intro entry found success
      exact job.probed entry (List.mem_of_getElem? found) success
    · simpa [HostService.updateJob, same] using job
  · intro other member
    obtain ⟨created, results⟩ := sound.queued other member
    refine ⟨created, ?_⟩
    intro entry inside
    obtain ⟨place, found⟩ := List.mem_iff_getElem?.1 inside
    obtain ⟨old, value, there, rfl⟩ := undone other place entry found
    exact results old (List.mem_of_getElem? there)
  · intro worker running
    obtain ⟨created, unqueued, known⟩ := sound.worker worker running
    refine ⟨created, unqueued, ?_, ?_, ?_⟩
    · intro place entry found before
      obtain ⟨old, value, there, rfl⟩ := undone worker.scan place entry found
      exact known.behind place old there before
    · intro place entry found after
      obtain ⟨old, value, there, rfl⟩ := undone worker.scan place entry found
      exact known.ahead place old there after
    · intro entry found
      obtain ⟨old, value, there, rfl⟩ := undone worker.scan worker.index entry found
      exact known.phase old there

/-- What a scan shows of its hosts. -/
def AvailabilityJob.shown (job : AvailabilityJob) : List (MoonlightHost × Bool) :=
  job.entries.map fun entry => (entry.host, entry.displayed)

theorem shown_modifyEntry {job : AvailabilityJob} {index : Nat}
    {change : AvailabilityEntry → AvailabilityEntry}
    (same
      : ∀ entry, job.entries[index]? = some entry →
          (change entry).host = entry.host ∧ (change entry).displayed = entry.displayed)
    : (job.modifyEntry index change).shown = job.shown := by
  unfold AvailabilityJob.shown AvailabilityJob.modifyEntry
  apply List.ext_getElem?
  intro place
  rw [List.getElem?_map, List.getElem?_map, List.getElem?_modify]
  cases found : job.entries[place]? with
  | none => rfl
  | some entry =>
      simp only [Option.map_eq_map, Option.map_some]
      split_ifs with here
      · obtain ⟨host, displayed⟩ := same entry (here ▸ found)
        rw [host, displayed]
      · rfl

theorem shown_of_update {service after : HostService} {scan : Nat} {job : AvailabilityJob}
    (current : after.job = service.job)
    (jobs : after.jobs = Function.update service.jobs scan job)
    (same : job.shown = (service.jobs scan).shown)
    : after.shown = service.shown := by
  have each : ∀ other, (after.jobs other).shown = (service.jobs other).shown := by
    intro other
    rw [jobs]
    by_cases here : other = scan
    · subst here
      rw [Function.update_self, same]
    · rw [Function.update_of_ne here]
  unfold HostService.shown
  rw [current]
  cases service.job with
  | none => rfl
  | some current => exact each current

/-- What a step of the worker leaves alone: what is shown, and the state of the main thread. -/
structure WorkerFrame (events : List AvailabilityEvent) (service after : HostService) : Prop where
  shown : after.shown = service.shown
  main : after.main = service.main
  dirty : after.dirty = service.dirty
  job : after.job = service.job
  created : after.created = service.created
  clock : service.clock ≤ after.clock
  plain : ∀ before, ∀ event ∈ events, Sound before event
  unpolled : ∀ trace, lastShown (trace ++ events) = lastShown trace

theorem workerStep_frame {service after : HostService} {choice : AvailabilityChoice}
    {events : List AvailabilityEvent} (taken : service.workerStep choice = some (after, events))
    : WorkerFrame events service after := by
  have still := UInt64.le_refl service.clock
  cases choice with
  | dequeue =>
      simp only [HostService.workerStep] at taken
      split at taken
      · obtain ⟨rfl, rfl⟩ := Prod.ext_iff.1 (Option.some.inj taken)
        exact ⟨rfl, rfl, rfl, rfl, rfl, still, by simp, by simp⟩
      · contradiction
  | test =>
      simp only [HostService.workerStep] at taken
      split at taken
      · split_ifs at taken
        · obtain ⟨rfl, rfl⟩ := Prod.ext_iff.1 (Option.some.inj taken)
          exact ⟨rfl, rfl, rfl, rfl, rfl, still, by simp, by simp⟩
        · obtain ⟨rfl, rfl⟩ := Prod.ext_iff.1 (Option.some.inj taken)
          exact ⟨shown_of_update rfl rfl rfl, rfl, rfl, rfl, rfl, still, by simp [Sound],
            by simp [lastShown]⟩
      · contradiction
  | probed result now =>
      simp only [HostService.workerStep] at taken
      split at taken
      · split_ifs at taken with ordered
        obtain ⟨entry, -, made⟩ := Option.map_eq_some_iff.1 taken
        obtain ⟨rfl, rfl⟩ := Prod.ext_iff.1 made
        exact ⟨rfl, rfl, rfl, rfl, rfl, ordered, by simp [Sound], by simp [lastShown]⟩
      · contradiction
  | stamp now =>
      simp only [HostService.workerStep] at taken
      split at taken
      · split_ifs at taken with ordered
        obtain ⟨entry, -, made⟩ := Option.map_eq_some_iff.1 taken
        obtain ⟨rfl, rfl⟩ := Prod.ext_iff.1 made
        exact ⟨shown_of_update rfl rfl (shown_modifyEntry fun _ _ => ⟨rfl, rfl⟩), rfl, rfl, rfl, rfl,
          ordered, by simp [Sound], by simp [lastShown]⟩
      · contradiction
  | publish =>
      simp only [HostService.workerStep] at taken
      split at taken
      · obtain ⟨rfl, rfl⟩ := Prod.ext_iff.1 (Option.some.inj taken)
        exact ⟨shown_of_update rfl rfl (shown_modifyEntry fun _ _ => ⟨rfl, rfl⟩), rfl, rfl, rfl, rfl,
          still, by simp, by simp⟩
      · contradiction
  | _ => cases taken

-----------------------------------------------------------------------------------------
-- The invariant
-----------------------------------------------------------------------------------------

/-- Whether the poll under way, or the next one, will emit its event anyway. -/
def HostService.pendingChange (service : HostService) : Bool :=
  match service.main with
  | .polling _ changed | .sampling _ changed _ => changed
  | .idle | .asking _ _ => service.dirty

/-- What holds between the steps of both threads. -/
structure ServiceSound (trace : List AvailabilityEvent) (service : HostService) : Prop where
  scans : ScansSound trace service
  current : ∀ scan, service.job = some scan → scan + 1 = service.created
  asking
    : ∀ host checkedAt, service.main = .asking host (some checkedAt) →
        checkedAt ≤ service.clock ∧ Supported trace host checkedAt
  settled : service.pendingChange = false → service.shown = lastShown trace

theorem allowedAfter_plain {trace events : List AvailabilityEvent}
    (plain : ∀ before, ∀ event ∈ events, Sound before event)
    : AllowedAfter Sound trace events := by
  induction events generalizing trace with
  | nil => trivial
  | cons event rest ih =>
      exact ⟨plain trace event List.mem_cons_self,
        ih fun before next member => plain before next (List.mem_cons_of_mem _ member)⟩

/-- Steps of the worker keep the invariant. -/
theorem ServiceSound.workerStep {trace : List AvailabilityEvent} {service : HostService}
    (sound : ServiceSound trace service) {choice : AvailabilityChoice} {after : HostService}
    {events : List AvailabilityEvent} (taken : service.workerStep choice = some (after, events))
    : ServiceSound (trace ++ events) after ∧ AllowedAfter Sound trace events := by
  obtain ⟨scans, quiet⟩ := sound.scans.workerStep taken
  have frame := workerStep_frame taken
  refine ⟨⟨scans, ?_, ?_, ?_⟩, allowedAfter_plain frame.plain⟩
  · rw [frame.job, frame.created]
    exact sound.current
  · rw [frame.main]
    intro host checkedAt asking
    obtain ⟨past, supported⟩ := sound.asking host checkedAt asking
    exact ⟨UInt64.le_trans past frame.clock, supported.append quiet⟩
  · unfold HostService.pendingChange
    rw [frame.main, frame.dirty, frame.shown, frame.unpolled]
    exact sound.settled

theorem ServiceSound.of_restarted {trace events : List AvailabilityEvent}
    {service after : HostService} (restarted : Restarted trace events service after)
    (idle : service.main = .idle)
    : ServiceSound (trace ++ events) after ∧ AllowedAfter Sound trace events := by
  have main := restarted.main.trans idle
  refine ⟨⟨restarted.scans, restarted.current, ?_, ?_⟩, allowedAfter_plain restarted.plain⟩
  · intro host checkedAt asking
    rw [main] at asking
    contradiction
  · intro settled
    rw [HostService.pendingChange, main, restarted.dirty] at settled
    contradiction

/-- A step that leaves the scans and what is shown alone. -/
theorem ServiceSound.quiet {trace : List AvailabilityEvent} {service : HostService}
    (sound : ServiceSound trace service) {now : UInt64} (ordered : service.clock ≤ now)
    {dirty : Bool} {main : AvailabilityMain} {events : List AvailabilityEvent}
    (quiet : Quiet events) (unpolled : lastShown (trace ++ events) = lastShown trace)
    (asking
      : ∀ host checkedAt, main = .asking host (some checkedAt) →
          checkedAt ≤ service.clock ∧ Supported trace host checkedAt)
    (pending
      : ({ service with clock := now, dirty := dirty, main := main } : HostService).pendingChange
          = service.pendingChange)
    : ServiceSound (trace ++ events)
        { service with clock := now, dirty := dirty, main := main } := by
  refine ⟨sound.scans.later quiet ordered dirty main, sound.current, ?_, ?_⟩
  · intro host checkedAt asked
    obtain ⟨past, supported⟩ := asking host checkedAt asked
    exact ⟨UInt64.le_trans past ordered, supported.append quiet⟩
  · rw [pending, unpolled]
    exact sound.settled

/-- A sample that equals what was shown changes nothing that is shown. -/
theorem samplePoll_shown {service : HostService} {index : Nat} {changed : Bool}
    {success : Option UInt64} {now : UInt64}
    (settled : (service.samplePoll index changed success now).pendingChange = false)
    : changed = false ∧ (service.samplePoll index changed success now).shown = service.shown := by
  unfold HostService.samplePoll at settled ⊢
  simp only [HostService.pendingChange, Bool.or_eq_false_iff] at settled
  obtain ⟨unchanged, same⟩ := settled
  refine ⟨unchanged, ?_⟩
  cases last : service.job with
  | none => simp [HostService.shown, last]
  | some scan =>
      refine shown_of_update rfl rfl (shown_modifyEntry ?_)
      intro entry found
      refine ⟨rfl, ?_⟩
      rw [HostService.pollEntry, last, Option.bind_some, found, Option.any_some] at same
      simpa using same

/-- Sampling an entry keeps the invariant. -/
theorem ServiceSound.sample {trace : List AvailabilityEvent} {service : HostService}
    (sound : ServiceSound trace service) {index : Nat} {changed : Bool} {success : Option UInt64}
    (sampling : service.main = .sampling index changed success) {now : UInt64}
    (ordered : service.clock ≤ now)
    : ServiceSound trace (service.samplePoll index changed success now) := by
  have silent : Quiet [] := ⟨by simp, by simp⟩
  have settled : (service.samplePoll index changed success now).pendingChange = false →
      (service.samplePoll index changed success now).shown = lastShown trace := by
    intro pending
    obtain ⟨unchanged, same⟩ := samplePoll_shown pending
    rw [same]
    apply sound.settled
    rw [HostService.pendingChange, sampling, unchanged]
  have current := sound.current
  unfold HostService.samplePoll at settled ⊢
  cases last : service.job with
  | none =>
      rw [last] at settled
      have scans := sound.scans.later silent ordered service.dirty .idle
      rw [List.append_nil] at scans
      refine ⟨scans.congr rfl rfl rfl rfl rfl, ?_, (fun _ _ asked => by cases asked), settled⟩
      intro scan same
      exact absurd (last.symm.trans same) (by simp)
  | some scan =>
      rw [last] at settled
      have displayed := sound.scans.display scan index (AvailabilityJob.isFresh success now)
      have scans := displayed.later silent ordered service.dirty .idle
      rw [List.append_nil] at scans
      exact ⟨scans.congr rfl rfl rfl rfl rfl, current, (fun _ _ asked => by cases asked), settled⟩

/-- Steps of the main thread keep the invariant, and what they answer and announce is sound. -/
theorem ServiceSound.mainStep {trace : List AvailabilityEvent} {service : HostService}
    (sound : ServiceSound trace service) {choice : AvailabilityChoice} {after : HostService}
    {events : List AvailabilityEvent} (taken : service.mainStep choice = some (after, events))
    : ServiceSound (trace ++ events) after ∧ AllowedAfter Sound trace events := by
  have still := UInt64.le_refl service.clock
  have silent : Quiet [] := ⟨by simp, by simp⟩
  have nothing : lastShown (trace ++ []) = lastShown trace := by rw [List.append_nil]
  cases choice with
  | check owner hosts outcome =>
      simp only [HostService.mainStep] at taken
      split at taken
      · rename_i idle
        split_ifs at taken with follows
        obtain ⟨rfl, rfl⟩ := Prod.ext_iff.1 (Option.some.inj taken)
        have ordered : service.clock ≤ outcome.leftAt :=
          UInt64.le_trans follows.1 (UInt64.le_trans follows.2.1 follows.2.2.1)
        rcases restarted_check sound.scans sound.current owner hosts outcome ordered
          with restarted | same
        · exact ServiceSound.of_restarted restarted idle
        · rw [same]
          exact ⟨sound.quiet ordered silent nothing sound.asking rfl, trivial⟩
      · contradiction
  | stop owner =>
      simp only [HostService.mainStep] at taken
      split at taken
      · rename_i idle
        obtain ⟨rfl, rfl⟩ := Prod.ext_iff.1 (Option.some.inj taken)
        unfold HostService.stopAvailability
        split_ifs
        · exact ServiceSound.of_restarted (restarted_cancel sound.scans sound.current) idle
        · exact ⟨sound.quiet still silent nothing sound.asking rfl, trivial⟩
      · contradiction
  | cancel =>
      simp only [HostService.mainStep] at taken
      split at taken
      · rename_i idle
        obtain ⟨rfl, rfl⟩ := Prod.ext_iff.1 (Option.some.inj taken)
        exact ServiceSound.of_restarted (restarted_cancel sound.scans sound.current) idle
      · contradiction
  | ask host =>
      simp only [HostService.mainStep] at taken
      split at taken
      · rename_i idle
        obtain ⟨rfl, rfl⟩ := Prod.ext_iff.1 (Option.some.inj taken)
        refine ⟨sound.quiet still silent nothing ?_ ?_, trivial⟩
        · intro other checkedAt asked
          obtain ⟨rfl, success⟩ := AvailabilityMain.asking.inj asked
          exact askAvailable_supported sound.scans sound.current success
        · simp [HostService.pendingChange, idle]
      · contradiction
  | answer now =>
      simp only [HostService.mainStep] at taken
      split at taken
      · rename_i host success asking
        split_ifs at taken with ordered
        obtain ⟨rfl, rfl⟩ := Prod.ext_iff.1 (Option.some.inj taken)
        refine ⟨sound.quiet ordered ⟨by simp, by simp⟩ (by simp [lastShown])
          (fun _ _ asked => by cases asked) ?_, ?_, trivial⟩
        · simp [HostService.pendingChange, asking]
        · intro available
          cases success with
          | none => contradiction
          | some checkedAt =>
              obtain ⟨past, supported⟩ := sound.asking host checkedAt asking
              exact ⟨checkedAt, UInt64.le_trans past ordered, supported,
                by simpa [AvailabilityJob.isFresh] using available⟩
      · contradiction
  | poll =>
      simp only [HostService.mainStep] at taken
      split at taken
      · rename_i idle
        obtain ⟨rfl, rfl⟩ := Prod.ext_iff.1 (Option.some.inj taken)
        refine ⟨sound.quiet still silent nothing (fun _ _ asked => by cases asked) ?_, trivial⟩
        simp [HostService.pendingChange, idle]
      · contradiction
  | load =>
      simp only [HostService.mainStep] at taken
      split at taken
      · rename_i index changed scan polling last
        obtain ⟨entry, -, made⟩ := Option.map_eq_some_iff.1 taken
        obtain ⟨rfl, rfl⟩ := Prod.ext_iff.1 made
        refine ⟨sound.quiet still silent nothing (fun _ _ asked => by cases asked) ?_, trivial⟩
        simp [HostService.pendingChange, polling]
      · contradiction
  | sample now =>
      simp only [HostService.mainStep] at taken
      split at taken
      · rename_i index changed success sampling
        split_ifs at taken with ordered
        obtain ⟨rfl, rfl⟩ := Prod.ext_iff.1 (Option.some.inj taken)
        rw [List.append_nil]
        exact ⟨sound.sample sampling ordered, trivial⟩
      · contradiction
  | endPoll =>
      simp only [HostService.mainStep] at taken
      split at taken
      · rename_i index changed polling
        split_ifs at taken with ended
        obtain ⟨rfl, rfl⟩ := Prod.ext_iff.1 (Option.some.inj taken)
        have settled := sound.settled
        rw [HostService.pendingChange, polling] at settled
        refine ⟨⟨sound.scans.later ⟨by simp, by simp⟩ still _ _, sound.current,
          (fun _ _ asked => by cases asked), fun _ => ?_⟩, ?_, trivial⟩
        · simp [HostService.shown, lastShown]
        · intro differs
          by_contra unchanged
          rw [Bool.not_eq_true] at unchanged
          exact differs (settled unchanged)
      · contradiction
  | _ => cases taken

-----------------------------------------------------------------------------------------
-- Runs
-----------------------------------------------------------------------------------------

theorem initial_sound (clock : UInt64) : ServiceSound [] { clock } where
  scans :=
    { started := by simp
      cancelled := by simp
      jobs := fun scan created => absurd created (Nat.not_lt_zero scan)
      queued := fun scan member => nomatch member
      distinct := List.nodup_nil
      worker := fun worker running => nomatch running }
  current := fun scan last => nomatch last
  asking := fun host checkedAt asking => nomatch asking
  settled := fun _ => rfl

/-- The invariant holds along every run, and all that was answered and announced is sound. -/
theorem reaches_sound {trace : List AvailabilityEvent} {service : HostService}
    (reached : availabilityMachine.Reaches trace service)
    : ServiceSound trace service ∧ Guarded Sound trace := by
  refine reached.invariant
    (fun trace service => ServiceSound trace service ∧ Guarded Sound trace) ?_ ?_
  · rintro service ⟨clock, rfl⟩
    exact ⟨initial_sound clock, .nil Sound⟩
  · rintro trace service choice after events ⟨sound, guarded⟩ taken
    rcases Option.or_eq_some_iff.1 taken with main | ⟨-, worker⟩
    · obtain ⟨kept, allowed⟩ := sound.mainStep main
      exact ⟨kept, guarded.append allowed⟩
    · obtain ⟨kept, allowed⟩ := sound.workerStep worker
      exact ⟨kept, guarded.append allowed⟩

/-- A host is answered to be available only on a success of its own, stamped less than 30 seconds
ago, of the current scan or of the finished one it refreshed. What a scan carries over is a
success of the scan right before it, under its own time. A poll that shows something else than the
last one emits its event.
-/
theorem availability_is_supported {trace : List AvailabilityEvent} {service : HostService}
    (reached : availabilityMachine.Reaches trace service)
    : (∀ before host now after,
        trace = before ++ .answered host now true :: after
        → ∃ checkedAt ≤ now, Supported before host checkedAt ∧ now - checkedAt < 30000000)
      ∧ (∀ scan < service.created, ∀ entry ∈ (service.jobs scan).entries,
          entry.previousAvailable = true
          → ∃ prober listed,
              prober + 1 = scan
              ∧ Probed trace prober listed entry.previousCheckedAt
              ∧ sameProbeHost listed entry.host = true
              ∧ Refreshed trace prober)
      ∧ ∀ before shown emitted after,
          trace = before ++ .polled shown emitted :: after
          → shown ≠ lastShown before
          → emitted = true := by
  obtain ⟨sound, guarded⟩ := reaches_sound reached
  refine ⟨?_, ?_, ?_⟩
  · intro before host now after split
    exact guarded before _ after split rfl
  · intro scan created entry member carried
    exact ((sound.scans.jobs scan created).carried entry member carried).2
  · intro before shown emitted after split
    exact guarded before _ after split

/-- A host at the standard port. -/
def listedHost : MoonlightHost := { port := 47989 }

/-- One probe succeeds and is answered. -/
theorem success_is_supported
    : ∃ checkedAt ≤ 10,
        Supported
          [.started 0 [listedHost], .returned 0 listedHost 1 5, .stamped 0 listedHost 1 6]
          listedHost checkedAt
        ∧ 10 - checkedAt < 30000000 := by
  have reached : ∃ service,
      availabilityMachine.Reaches
        ([.started 0 [listedHost], .returned 0 listedHost 1 5, .stamped 0 listedHost 1 6]
          ++ [.answered listedHost 10 true])
        service :=
    ⟨_, Machine.reaches_run availabilityMachine (⟨0, rfl⟩ : availabilityMachine.initial {})
      [.check 1 [listedHost] ⟨1, 1, fun _ => 1, 1, true⟩, .dequeue, .test, .probed 1 5,
        .stamp 6, .publish, .ask listedHost, .answer 10] rfl⟩
  obtain ⟨service, reached⟩ := reached
  exact (availability_is_supported reached).1 _ _ _ [] rfl

/-- A probe that returned long before its result got a time is still answered as a success. -/
theorem late_stamp_is_answered
    : ∃ before service,
        availabilityMachine.Reaches (before ++ [.answered listedHost 40000002 true]) service
        ∧ ∀ scan listed returnedAt,
            .returned scan listed 1 returnedAt ∈ before
            → ¬ 40000002 - returnedAt < 30000000 := by
  refine ⟨[.started 0 [listedHost], .returned 0 listedHost 1 5,
    .stamped 0 listedHost 1 40000000], _,
    Machine.reaches_run availabilityMachine (⟨0, rfl⟩ : availabilityMachine.initial {})
      [.check 1 [listedHost] ⟨1, 1, fun _ => 1, 1, true⟩, .dequeue, .test, .probed 1 5,
        .stamp 40000000, .publish, .ask listedHost, .answer 40000002] rfl, ?_⟩
  intro scan listed returnedAt member
  simp only [List.mem_cons, reduceCtorEq, AvailabilityEvent.returned.injEq, List.not_mem_nil,
    or_false, false_or] at member
  obtain ⟨-, -, -, rfl⟩ := member
  decide

end VitaMoonlight
