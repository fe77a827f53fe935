import VitaMoonlight.Library.CString
import VitaMoonlight.Library.KeptCalls

/-! Attempts at pairing (`services/pairing_service.cpp`). The main thread starts and cancels them, the
job queue runs their jobs on any threads and in any order, and the backend asks whenever it likes
whether the attempt that it works on was cancelled (`moonlight/cancellation.h`).
-/

namespace VitaMoonlight

open Library

-----------------------------------------------------------------------------------------
-- The service
-----------------------------------------------------------------------------------------

/-- Where a job is: in `Run`, a job that found itself uncancelled has yet to call the backend. -/
inductive PairingPlace where
  | queued
  | passed
  | running
  | finished
deriving DecidableEq

/-- `PairingService::Job`, with where it is. -/
structure PairingJob where
  pin : CString
  cancelled : Bool := false
  place : PairingPlace := .queued

/-- `PairingService`: the jobs that the queue took, in the order of their creation, and `m_job`. -/
structure PairingService where
  jobs : List PairingJob := []
  job : Option Nat := none

/-- What the calls do. An attempt that is `rejected` has changed nothing; one that is `refused` by the
queue has cancelled the one before it.
-/
inductive PairingLabel where
  | attempted (pin : CString)
  | rejected
  | refused (result : Int32)
  | cancelled
  | checked (number : Nat) (cancelled : Bool)
  | called (number : Nat) (pin : CString)
  | polled (number : Nat) (cancelled : Bool)
  | ended (number : Nat)
deriving DecidableEq

/-- What a thread of the queue does with a job. -/
inductive PairingAction where
  | check
  | call
  | poll
  | finish

namespace PairingService

variable (service : PairingService)

/-- `PairingService::Cancel`. -/
def cancel : PairingService :=
  match service.job with
  | none => service
  | some number =>
      { jobs := service.jobs.modify number fun job => { job with cancelled := true }, job := none }

/-- `PairingService::Pair`, with what the queue answers to the job where there is a queue. -/
def pair (pin : Option CString) (queue : Option Int32) : PairingService × List PairingLabel :=
  match pin, queue with
  | some pin, some result =>
      if pin.length ≠ 4 then (service, [.rejected])
      else if result ≠ 0 then (service.cancel, [.refused result])
      else
        let jobs := service.cancel.jobs
        ({ jobs := jobs ++ [{ pin }], job := some jobs.length }, [.attempted pin])
  | _, _ => (service, [.rejected])

/-- A job at another place. -/
def move (number : Nat) (place : PairingPlace) : PairingService :=
  { service with jobs := service.jobs.modify number fun job => { job with place } }

/-- `PairingService::Job::Run` in its steps, and `moonlight_is_cancelled` within the backend's work. -/
def work (number : Nat) (action : PairingAction) : Option (PairingService × List PairingLabel) :=
  match service.jobs[number]? with
  | none => none
  | some job =>
      match job.place, action with
      | .queued, .check =>
          let place := if job.cancelled then PairingPlace.finished else .passed
          some (service.move number place, [.checked number job.cancelled])
      | .passed, .call => some (service.move number .running, [.called number job.pin])
      | .running, .poll => some (service, [.polled number job.cancelled])
      | .running, .finish => some (service.move number .finished, [.ended number])
      | _, _ => none

end PairingService

/-- What the main thread, the queue and its threads do next. -/
inductive PairingChoice where
  | pair (pin : Option CString) (queue : Option Int32)
  | cancel
  | work (number : Nat) (action : PairingAction)

def pairingStep (service : PairingService)
    : PairingChoice → Option (PairingService × List PairingLabel)
  | .pair pin queue => some (service.pair pin queue)
  | .cancel => some (service.cancel, [.cancelled])
  | .work number action => service.work number action

def pairingMachine : Machine PairingService PairingChoice PairingLabel where
  initial service := service = {}
  step := pairingStep

-----------------------------------------------------------------------------------------
-- What a run tells
-----------------------------------------------------------------------------------------

/-- The PINs of the attempts, the attempt that counts, and where each one is. -/
structure PairingHistory where
  pins : List CString := []
  latest : Option Nat := none
  places : Nat → PairingPlace := fun _ => .queued

namespace PairingHistory

def moved (past : PairingHistory) (number : Nat) (place : PairingPlace) : PairingHistory :=
  { past with places := Function.update past.places number place }

def observe (past : PairingHistory) : PairingLabel → PairingHistory
  | .attempted pin =>
      { past with pins := past.pins ++ [pin], latest := some past.pins.length }
  | .rejected => past
  | .refused _ => { past with latest := none }
  | .cancelled => { past with latest := none }
  | .checked number cancelled => past.moved number (if cancelled then .finished else .passed)
  | .called number _ => past.moved number .running
  | .polled _ _ => past
  | .ended number => past.moved number .finished

/-- An attempt is checked once, is worked on once behind a check that it passed and with its own PIN,
and is told that it was cancelled exactly if it is not the attempt that counts.
-/
def Permits (past : PairingHistory) : PairingLabel → Prop
  | .checked number cancelled =>
      number < past.pins.length
      ∧ past.places number = .queued
      ∧ (cancelled = true ↔ past.latest ≠ some number)
  | .called number pin => past.places number = .passed ∧ past.pins[number]? = some pin
  | .polled number cancelled =>
      past.places number = .running ∧ (cancelled = true ↔ past.latest ≠ some number)
  | .ended number => past.places number = .running
  | _ => True

end PairingHistory

-----------------------------------------------------------------------------------------
-- What is kept
-----------------------------------------------------------------------------------------

/-- The jobs are as the history tells, and every one is cancelled but the one that counts. -/
structure AttemptsKept (past : PairingHistory) (service : PairingService) : Prop where
  pins : past.pins = service.jobs.map fun job => job.pin
  latest : past.latest = service.job
  superseded
    : ∀ (number : Nat) (job : PairingJob),
        service.jobs[number]? = some job → (job.cancelled = true ↔ service.job ≠ some number)
  place
    : ∀ (number : Nat) (job : PairingJob),
        service.jobs[number]? = some job → past.places number = job.place
  fresh : ∀ number, service.jobs.length ≤ number → past.places number = .queued

/-- A call that keeps this. -/
abbrev PairingCallKept (past : PairingHistory) (outcome : PairingService × List PairingLabel) : Prop :=
  CallKept PairingHistory.observe PairingHistory.Permits AttemptsKept past outcome

/-- A change of one job that keeps the PINs. -/
theorem pins_modify (jobs : List PairingJob) (number : Nat) (change : PairingJob → PairingJob)
    (same : ∀ job, (change job).pin = job.pin)
    : (jobs.modify number change).map (fun job => job.pin) = jobs.map fun job => job.pin := by
  refine List.ext_getElem? fun idx => ?_
  rw [List.getElem?_map, List.getElem?_map, List.getElem?_modify]
  cases jobs[idx]? with
  | none => rfl
  | some job =>
      by_cases there : number = idx
      · simp [there, same]
      · simp [there]

/-- A job behind a change of one job. -/
theorem job_modify {jobs : List PairingJob} {number idx : Nat} {change : PairingJob → PairingJob}
    {job : PairingJob} (stored : (jobs.modify number change)[idx]? = some job)
    : ∃ old, jobs[idx]? = some old ∧ job = if number = idx then change old else old := by
  rw [List.getElem?_modify] at stored
  obtain ⟨old, there, rfl⟩ := Option.map_eq_some_iff.mp stored
  exact ⟨old, there, rfl⟩

/-- A job behind the addition of one. -/
theorem job_append {jobs : List PairingJob} {added job : PairingJob} {idx : Nat}
    (stored : (jobs ++ [added])[idx]? = some job)
    : jobs[idx]? = some job ∨ idx = jobs.length ∧ job = added := by
  rw [List.getElem?_append] at stored
  split at stored
  · exact .inl stored
  · rename_i outside
    obtain ⟨inside, rfl⟩ := List.getElem?_eq_some_iff.mp stored
    rw [List.length_singleton] at inside
    exact .inr ⟨by omega, by simp⟩

namespace AttemptsKept

variable {past : PairingHistory} {service : PairingService}

/-- Behind a cancellation every job is cancelled. -/
theorem cancel (kept : AttemptsKept past service)
    : AttemptsKept { past with latest := none } service.cancel := by
  rw [PairingService.cancel]
  cases held : service.job with
  | none => exact { kept with latest := held.symm }
  | some number =>
      have pins := pins_modify service.jobs number (fun job => { job with cancelled := true }) fun _ => rfl
      refine
        { pins := kept.pins.trans pins.symm, latest := rfl, superseded := ?_, place := ?_, fresh := ?_ }
      · intro idx job stored
        obtain ⟨old, there, rfl⟩ := job_modify stored
        split
        · simp
        · rename_i apart
          rw [kept.superseded idx old there, held]
          simp [apart]
      · intro idx job stored
        obtain ⟨old, there, rfl⟩ := job_modify stored
        rw [kept.place idx old there]
        split
        · rfl
        · rfl
      · intro idx outside
        rw [List.length_modify] at outside
        exact kept.fresh idx outside

/-- A new attempt behind a cancellation. -/
theorem attempt (kept : AttemptsKept past service) (cancelled : service.job = none) (pin : CString)
    : AttemptsKept (past.observe (.attempted pin))
        { jobs := service.jobs ++ [{ pin }], job := some service.jobs.length } where
  pins := by
    rw [List.map_append]
    exact congrArg (· ++ [pin]) kept.pins
  latest := by
    rw [PairingHistory.observe, kept.pins, List.length_map]
  superseded number job stored := by
    obtain earlier | ⟨rfl, rfl⟩ := job_append stored
    · have inside := (List.getElem?_eq_some_iff.mp earlier).1
      rw [kept.superseded number job earlier, cancelled]
      simp [Nat.ne_of_gt inside]
    · simp
  place number job stored := by
    obtain earlier | ⟨rfl, rfl⟩ := job_append stored
    · exact kept.place number job earlier
    · exact kept.fresh _ (Nat.le_refl _)
  fresh number outside := by
    rw [List.length_append] at outside
    exact kept.fresh number (Nat.le_of_add_right_le outside)

/-- A job that moves on. -/
theorem move (kept : AttemptsKept past service) {number : Nat} {job : PairingJob}
    (stored : service.jobs[number]? = some job) (place : PairingPlace)
    : AttemptsKept (past.moved number place) (service.move number place) where
  pins := kept.pins.trans (pins_modify service.jobs number ({ · with place }) fun _ => rfl).symm
  latest := kept.latest
  superseded idx job found := by
    obtain ⟨old, there, rfl⟩ := job_modify found
    rw [PairingService.move, ← kept.superseded idx old there]
    split
    · rfl
    · rfl
  place idx job found := by
    obtain ⟨old, there, rfl⟩ := job_modify found
    by_cases same : number = idx
    · subst same
      rw [if_pos rfl]
      exact Function.update_self number place past.places
    · rw [if_neg same, ← kept.place idx old there]
      exact Function.update_of_ne (Ne.symm same) place past.places
  fresh idx outside := by
    rw [PairingService.move, List.length_modify] at outside
    have inside := (List.getElem?_eq_some_iff.mp stored).1
    have apart : idx ≠ number := Nat.ne_of_gt (Nat.lt_of_lt_of_le inside outside)
    exact (Function.update_of_ne apart place past.places).trans (kept.fresh idx outside)

theorem pair (kept : AttemptsKept past service) (pin : Option CString) (queue : Option Int32)
    : PairingCallKept past (service.pair pin queue) := by
  cases pin with
  | none => exact .single trivial kept
  | some pin =>
      cases queue with
      | none => exact .single trivial kept
      | some result =>
          rw [PairingService.pair]
          split
          · exact .single trivial kept
          · split
            · exact .single trivial kept.cancel
            · have cancelled : service.cancel.job = none := by
                rw [PairingService.cancel]
                split
                · assumption
                · rfl
              exact .single trivial (kept.cancel.attempt cancelled pin)

theorem work (kept : AttemptsKept past service) {number : Nat} {action : PairingAction}
    {outcome : PairingService × List PairingLabel} (taken : service.work number action = some outcome)
    : PairingCallKept past outcome := by
  rw [PairingService.work] at taken
  split at taken
  · contradiction
  rename_i job stored
  have place := kept.place number job stored
  have inside : number < past.pins.length := by
    rw [kept.pins, List.length_map]
    exact (List.getElem?_eq_some_iff.mp stored).1
  have told : job.cancelled = true ↔ past.latest ≠ some number := by
    rw [kept.latest]
    exact kept.superseded number job stored
  split at taken
  · rename_i queued
    obtain rfl := Option.some.inj taken
    exact .single ⟨inside, place.trans queued, told⟩ (kept.move stored _)
  · rename_i passed
    obtain rfl := Option.some.inj taken
    refine .single ⟨place.trans passed, ?_⟩ (kept.move stored _)
    rw [kept.pins, List.getElem?_map, stored]
    rfl
  · rename_i running
    obtain rfl := Option.some.inj taken
    exact .single ⟨place.trans running, told⟩ kept
  · rename_i running
    obtain rfl := Option.some.inj taken
    exact .single (place.trans running) (kept.move stored _)
  · contradiction

theorem step (kept : AttemptsKept past service) {choice : PairingChoice}
    {outcome : PairingService × List PairingLabel} (taken : pairingStep service choice = some outcome)
    : PairingCallKept past outcome := by
  cases choice with
  | pair pin queue => exact Option.some.inj taken ▸ kept.pair pin queue
  | cancel => exact Option.some.inj taken ▸ .single trivial kept.cancel
  | work number action => exact kept.work taken

end AttemptsKept

-----------------------------------------------------------------------------------------
-- Runs
-----------------------------------------------------------------------------------------

/-- The history of a trace. -/
def pairingHistory (trace : List PairingLabel) : PairingHistory :=
  trace.foldl PairingHistory.observe {}

/-- Over every interleaving of the main thread with the threads of the queue, the backend works on each
attempt at most once and with its PIN, and only on one that had not been superseded when its job began;
and an attempt reads as cancelled as soon as another one is made or it is cancelled, and never before.
-/
theorem attempts_superseded {trace : List PairingLabel} {service : PairingService}
    (reached : pairingMachine.Reaches trace service)
    : Guarded (fun before label => (pairingHistory before).Permits label) trace := by
  have base (service : PairingService) (initial : pairingMachine.initial service)
      : AttemptsKept {} service := by
    cases initial
    exact
      {
        pins := rfl
        latest := rfl
        superseded := fun _ _ stored => (by cases stored)
        place := fun _ _ stored => (by cases stored)
        fresh := fun _ _ => rfl
      }
  exact (reached.keeps base fun past service choice outcome kept taken => kept.step taken).1

/-- A second attempt cancels the first one, which the backend works on, and the user cancels the second
one before its job begins.
-/
theorem attempts_superseded_twice
    : Guarded (fun before label => (pairingHistory before).Permits label)
        [.attempted (.ofLiteral "0427"), .checked 0 false, .called 0 (.ofLiteral "0427"),
          .polled 0 false, .rejected, .polled 0 false, .attempted (.ofLiteral "1138"),
          .polled 0 true, .cancelled, .checked 1 true, .ended 0] :=
  attempts_superseded
    (pairingMachine.reaches_run rfl
      [.pair (some (.ofLiteral "0427")) (some 0), .work 0 .check, .work 0 .call, .work 0 .poll,
        .pair (some (.ofLiteral "04")) (some 0), .work 0 .poll,
        .pair (some (.ofLiteral "1138")) (some 0), .work 0 .poll, .cancel, .work 1 .check,
        .work 0 .finish]
      rfl)

end VitaMoonlight
