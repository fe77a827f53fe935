import VitaMoonlight.App.DispatchCustody

/-! The books of the foreground operations: which have begun, which worker is still to record its
result, which are completed, and by what right.
-/

namespace VitaMoonlight

open Library

-----------------------------------------------------------------------------------------
-- What the service's functions do to the operation
-----------------------------------------------------------------------------------------

namespace ConnectionService

variable {service : ConnectionService}

/-- The members that the operation's progress depends on. -/
def progress (service : ConnectionService) : ForegroundOperation × Int × Bool × Int :=
  (service.operation, service.progressDialogSlot, service.workerDone, service.workerResult)

theorem progress_eq_iff {before after : ConnectionService}
    : after.progress = before.progress
      ↔ after.operation = before.operation
        ∧ after.progressDialogSlot = before.progressDialogSlot
        ∧ after.workerDone = before.workerDone
        ∧ after.workerResult = before.workerResult := by
  simp only [progress, Prod.mk.injEq]

@[simp] theorem progress_showError (service : ConnectionService) (message : CString) (result : Int)
    : (service.showError message result).progress = service.progress := by
  unfold showError
  split <;> rfl

@[simp] theorem progress_unregisterIdle (service : ConnectionService)
    : service.unregisterIdle.progress = service.progress := by
  unfold unregisterIdle
  split <;> rfl

@[simp] theorem progress_confirmedReturned (service : ConnectionService) (result : Int)
    : (service.confirmedReturned result).progress = service.progress := by
  unfold confirmedReturned
  split <;> simp

@[simp] theorem progress_tryShowError (service : ConnectionService) (init : DialogInit)
    : (service.tryShowError init).1.progress = service.progress := by
  unfold tryShowError
  split
  · rfl
  · cases init <;> rfl

theorem progress_readDialog {closed : ConnectionService} {poll : DialogPoll} {yes : Bool}
    (read : service.readDialog poll = some (closed, yes))
    : closed.progress = service.progress := by
  unfold readDialog at read
  split at read
  · contradiction
  · simp only [Option.some.injEq, Prod.mk.injEq] at read
    rw [← read.1]
    rfl

@[simp] theorem progress_confirmQuitAndStart (service : ConnectionService) (application running : Int)
    : (service.confirmQuitAndStart application running).progress = service.progress := by
  have shown (message : CString) := progress_showError service message 0
  unfold confirmQuitAndStart
  split
  · exact shown _
  · exact shown _

/-- Finishing an operation that did not start frees the slot and closes the dialog. -/
theorem finishUnstartedOperation_spec (service : ConnectionService)
    : service.finishUnstartedOperation.operation = .none
      ∧ service.finishUnstartedOperation.progressDialogSlot = -1 := by
  have shown
      := progress_showError { service.closeWaitDialog with operation := .none }
        (.ofLiteral "Unable to connect to PC. Check the address, network connection and Sunshine.") 0
  rw [progress_eq_iff] at shown
  unfold finishUnstartedOperation
  dsimp only
  split
  · exact ⟨shown.1, shown.2.1⟩
  · exact ⟨rfl, rfl⟩

/-- The operation goes on as it was, or there is none before and after and an open dialog would
be new.
-/
def Rests (before after : ConnectionService) : Prop :=
  after.progress = before.progress
  ∨ before.operation = .none
    ∧ after.operation = .none
    ∧ (before.progressDialogSlot = -1 → after.progressDialogSlot = -1)

/-- Only the progress before and after matters. -/
theorem Rests.congr {before after first last : ConnectionService} (rests : Rests before after)
    (started : before.progress = first.progress) (ended : last.progress = after.progress)
    : Rests first last := by
  obtain unchanged | ⟨idle, done, closed⟩ := rests
  · exact .inl (ended.trans (unchanged.trans started))
  · rw [progress_eq_iff] at started ended
    refine .inr ⟨started.1 ▸ idle, ended.1.trans done, fun was => ?_⟩
    exact ended.2.1.trans (closed (started.2.1.trans was))

/-- Beginning an operation takes a free slot and forgets the last worker, or fails. -/
theorem beginOperation_cases (service : ConnectionService) (operation : ForegroundOperation)
    (slot : Int)
    : (∃ begun,
        service.beginOperation operation slot = (begun, 0)
        ∧ service.operation = .none
        ∧ operation ≠ .none
        ∧ begun.operation = operation
        ∧ begun.workerDone = false)
      ∨ ∃ idle failure,
          service.beginOperation operation slot = (idle, failure)
          ∧ failure ≠ 0
          ∧ Rests service idle := by
  unfold beginOperation
  split
  · exact .inr ⟨service, -1, rfl, by decide, .inl rfl⟩
  · rename_i free
    simp only [not_or, isBusy, Bool.or_eq_true, bne_iff_ne, ne_eq, not_not] at free
    obtain ⟨real, ⟨⟨idle, -⟩, -⟩, -⟩ := free
    dsimp only
    split
    · rename_i failed
      exact .inr ⟨_, slot, rfl, by omega, .inr ⟨idle, rfl, id⟩⟩
    · exact .inl ⟨_, rfl, idle, real, rfl, rfl⟩

/-- An event that does not complete the operation passes, one that comes before the worker's
result is put off, and any other frees the slot and closes the dialog.
-/
theorem prepareCompletion_cases {Address : Type} (service : ConnectionService)
    (event : MoonlightEvent Address)
    : completesOperation service.operation event.type = false
        ∧ service.prepareCompletion event = (service, true)
      ∨ completesOperation service.operation event.type = true
        ∧ (service.operation ≠ .launch ∧ service.workerDone = false
              ∧ service.prepareCompletion event = (service, false)
          ∨ (service.operation ≠ .launch → service.workerDone = true)
            ∧ ∃ after,
                service.prepareCompletion event = (after, true)
                ∧ after.operation = .none
                ∧ after.progressDialogSlot = -1) := by
  cases completes : completesOperation service.operation event.type with
  | false => exact .inl ⟨rfl, by simp [prepareCompletion, completes]⟩
  | true =>
      refine .inr ⟨rfl, ?_⟩
      by_cases early : service.operation ≠ .launch ∧ service.workerDone = false
      · exact .inl ⟨early.1, early.2, by simp [prepareCompletion, completes, early]⟩
      · refine .inr ⟨fun worker => by simpa [worker] using early, ?_⟩
        have late : ¬ (service.operation ≠ .launch ∧ (!service.workerDone) = true) := by
          simpa using early
        have closed (shown : ConnectionService)
            (same
              : shown.progress = { service.closeWaitDialog with operation := .none }.progress)
            : shown.operation = .none ∧ shown.progressDialogSlot = -1 := by
          rw [progress_eq_iff] at same
          exact ⟨same.1, same.2.1⟩
        simp only [prepareCompletion, completes, Bool.not_true, Bool.false_eq_true, if_false,
          if_neg late]
        split
        · exact ⟨_, rfl, closed _ (progress_showError _ _ _)⟩
        · split
          · split
            · exact ⟨_, rfl, closed _ (progress_confirmQuitAndStart _ _ _)⟩
            · split <;> exact ⟨_, rfl, closed _ (progress_showError _ _ _)⟩
          · exact ⟨_, rfl, rfl, rfl⟩

end ConnectionService

-----------------------------------------------------------------------------------------
-- What a page does to the operation
-----------------------------------------------------------------------------------------

/-- The new foreground and the labels of a page's action. -/
inductive ActEffect (state : ForegroundState) : ForegroundState × List DispatchLabel → Prop
  | rested {after : ForegroundState} (rests : ConnectionService.Rests state.service after.service)
    (thread : after.thread = state.thread) (jobs : after.jobs = state.jobs)
    (begun : after.begun = state.begun)
    : ActEffect state (after, [])
  | began {after : ForegroundState} {operation : ForegroundOperation}
    (idle : state.service.operation = .none) (real : operation ≠ .none)
    (running : after.service.operation = operation) (fresh : after.service.workerDone = false)
    (thread : after.thread = state.thread)
    (jobs
      : after.jobs
        = if operation = .launch then state.jobs
          else state.jobs ++ [⟨state.begun + 1, operation, false⟩])
    (begun : after.begun = state.begun + 1)
    : ActEffect state (after, [.began (state.begun + 1) operation])

/-- An effect stays what it is if the service changes by a dialog before and after. -/
theorem ActEffect.within {state : ForegroundState} {before service : ConnectionService}
    {effect : ForegroundState × List DispatchLabel}
    (done : ActEffect { state with service := before } effect)
    (first : before.progress = state.service.progress)
    (last : service.progress = effect.1.service.progress)
    : ActEffect state ({ effect.1 with service }, effect.2) := by
  cases done with
  | rested rests thread jobs begun =>
      exact .rested (rests.congr first last) thread jobs begun
  | began idle real running fresh thread jobs begun =>
      rw [ConnectionService.progress_eq_iff] at first last
      exact .began (first.1 ▸ idle) real (last.1.trans running) (last.2.2.1.trans fresh) thread
        jobs begun

namespace ForegroundState

/-- An operation that began and did not start leaves things as they were. -/
theorem rests_unstarted {service begun : ConnectionService} (idle : service.operation = .none)
    : ConnectionService.Rests service begun.finishUnstartedOperation :=
  .inr ⟨idle, (ConnectionService.finishUnstartedOperation_spec begun).1,
    fun _ => (ConnectionService.finishUnstartedOperation_spec begun).2⟩

theorem startConfirmed_effect (state : ForegroundState) (slot result : Int)
    : ActEffect state (state.startConfirmed slot result).1 := by
  unfold startConfirmed
  obtain ⟨begun, same, idle, real, running, fresh⟩ | ⟨idle, failure, same, failed, rests⟩ :=
    state.service.beginOperation_cases .launch slot
  · simp only [same]
    split
    · exact .began idle real running fresh rfl rfl rfl
    · exact .rested (rests_unstarted idle) rfl rfl rfl
  · simp only [same]
    exact .rested rests rfl rfl rfl

/-- `DialogPollTask` starts at most what the user confirmed. -/
theorem dialogPollTask_effect (state : ForegroundState) (poll : DialogPoll) (slot result : Int)
    : ActEffect state (state.dialogPollTask poll slot result) := by
  have tried := ConnectionService.progress_tryShowError state.service poll.init
  unfold dialogPollTask
  dsimp only
  split
  · split
    · exact .rested (.inl tried) rfl rfl rfl
    · rename_i closed read
      have read := ConnectionService.progress_readDialog read
      exact .rested (.inl ((ConnectionService.progress_unregisterIdle closed).trans
        (read.trans tried))) rfl rfl rfl
    · rename_i closed read
      have read := ConnectionService.progress_readDialog read
      exact (startConfirmed_effect { state with service := closed } slot result).within
        (read.trans tried) (ConnectionService.progress_confirmedReturned _ _)
  · exact .rested (.inl ((ConnectionService.progress_unregisterIdle _).trans tried)) rfl rfl rfl

/-- An action of a page begins an operation or leaves it as it is. -/
theorem act_effect (state : ForegroundState) (action : PageAction)
    : ActEffect state (state.act action) := by
  cases action with
  | connect host slot enqueued =>
      simp only [act, ConnectionService.connect]
      cases host.internal.isEmpty with
      | true => exact .rested (.inl (ConnectionService.progress_showError _ _ _)) rfl rfl rfl
      | false =>
          obtain ⟨begun, same, idle, real, running, fresh⟩ | ⟨idle, failure, same, failed, rests⟩ :=
            state.service.beginOperation_cases .connect slot
          · simp only [same]
            cases enqueued with
            | true => exact .began idle real running fresh rfl rfl rfl
            | false => exact .rested (rests_unstarted idle) rfl rfl rfl
          · simp only [same]
            rw [if_pos (Or.inr failed)]
            refine .rested ?_ rfl rfl rfl
            rw [if_neg Bool.false_ne_true]
            split
            · exact rests
            · exact rests.congr rfl (ConnectionService.progress_showError _ _ _)
  | refresh slot enqueued =>
      simp only [act]
      obtain ⟨begun, same, idle, real, running, fresh⟩ | ⟨idle, failure, same, failed, rests⟩ :=
        state.service.beginOperation_cases .applications slot
      · simp only [same]
        split
        · exact .began idle real running fresh rfl rfl rfl
        · exact .rested (rests_unstarted idle) rfl rfl rfl
      · simp only [same]
        exact .rested rests rfl rfl rfl
  | start slot result => exact startConfirmed_effect state slot result
  | showError message result =>
      exact .rested (.inl (ConnectionService.progress_showError _ _ _)) rfl rfl rfl
  | poll poll slot result =>
      simp only [act]
      split
      · exact dialogPollTask_effect state poll slot result
      · exact .rested (.inl rfl) rfl rfl rfl

end ForegroundState

-----------------------------------------------------------------------------------------
-- The books
-----------------------------------------------------------------------------------------

def DispatchLabel.began? : DispatchLabel → Option (Nat × ForegroundOperation)
  | .began number operation => some (number, operation)
  | _ => none

def DispatchLabel.completed? : DispatchLabel → Option Nat
  | .delivered _ _ completed => completed
  | _ => none

/-- The operations that began, with their numbers. -/
def beganOf (trace : List DispatchLabel) : List (Nat × ForegroundOperation) :=
  trace.filterMap DispatchLabel.began?

/-- The operations that a delivered event has completed. -/
def completedOf (trace : List DispatchLabel) : List Nat :=
  trace.filterMap DispatchLabel.completed?

/-- The event that is on its way to the pages and the operation that it completes. -/
def DispatchPoint.completing
    : DispatchPoint → Option (MoonlightEvent CString × Option Nat × Nat)
  | .prepared event stamp (some number) | .acknowledged event stamp (some number) =>
      some (event, stamp, number)
  | _ => none

/-- Connecting and loading the applications leave the work to a worker. -/
def ForegroundOperation.hasWorker : ForegroundOperation → Bool
  | .connect | .applications => true
  | .none | .launch => false

namespace ForegroundState

/-- The operation that has begun and whose completion no page has seen. -/
def current (state : ForegroundState) : Option Nat :=
  if state.service.operation = .none then
    state.thread.completing.map fun (_, _, number) => number
  else some state.begun

/-- The worker that is still to record its result. -/
def working (state : ForegroundState) (emitted : Bool) : List WorkerJob :=
  if state.service.operation.hasWorker && !state.service.workerDone then
    [⟨state.begun, state.service.operation, emitted⟩]
  else []

end ForegroundState

/-- The books agree with the state. An operation is completed by one delivered event, and not
before its worker has recorded a result.
-/
structure ForegroundLedger (trace : List DispatchLabel) (state : ForegroundState) : Prop where
  closed : state.service.operation = .none → state.service.progressDialogSlot = -1
  numbered : (beganOf trace).map Prod.fst = List.range' 1 state.begun
  running
    : state.service.operation ≠ .none → (state.begun, state.service.operation) ∈ beganOf trace
  jobs : ∃ emitted, state.jobs = state.working emitted
  recorded
    : state.service.operation.hasWorker = true
      → state.service.workerDone = true
      → .recorded state.begun state.service.workerResult ∈ trace
  completing
    : ∀ event stamp number,
        state.thread.completing = some (event, stamp, number)
        → state.service.operation = .none
          ∧ ∃ operation,
              (number, operation) ∈ beganOf trace
              ∧ completesOperation operation event.type = true
              ∧ (operation.hasWorker = true → ∃ result, .recorded number result ∈ trace)
  outstanding
    : ∀ number operation,
        (number, operation) ∈ beganOf trace
        → (state.current = some number ↔ number ∉ completedOf trace)
  known : ∀ number ∈ completedOf trace, ∃ operation, (number, operation) ∈ beganOf trace
  once : (completedOf trace).Nodup

namespace ForegroundLedger

variable {trace emitted : List DispatchLabel} {state after : ForegroundState}

@[simp] theorem beganOf_append (trace emitted : List DispatchLabel)
    : beganOf (trace ++ emitted) = beganOf trace ++ beganOf emitted :=
  List.filterMap_append

@[simp] theorem completedOf_append (trace emitted : List DispatchLabel)
    : completedOf (trace ++ emitted) = completedOf trace ++ completedOf emitted :=
  List.filterMap_append

/-- A label that begins nothing adds no entry. -/
theorem beganOf_snoc {label : DispatchLabel} (other : label.began? = none)
    : beganOf (trace ++ [label]) = beganOf trace := by
  have nothing : beganOf [label] = [] := List.filterMap_cons_none other
  rw [beganOf_append, nothing, List.append_nil]

/-- A label that completes nothing closes no entry. -/
theorem completedOf_snoc {label : DispatchLabel} (other : label.completed? = none)
    : completedOf (trace ++ [label]) = completedOf trace := by
  have nothing : completedOf [label] = [] := List.filterMap_cons_none other
  rw [completedOf_append, nothing, List.append_nil]

/-- Every begun operation has a number up to the count. -/
theorem number_le (ledger : ForegroundLedger trace state) {number : Nat}
    {operation : ForegroundOperation} (began : (number, operation) ∈ beganOf trace)
    : number ≤ state.begun := by
  have member : number ∈ (beganOf trace).map Prod.fst := List.mem_map_of_mem began
  rw [ledger.numbered, List.mem_range'_1] at member
  omega

/-- A number stands for one operation. -/
theorem operation_unique (ledger : ForegroundLedger trace state) {number : Nat}
    {first second : ForegroundOperation} (left : (number, first) ∈ beganOf trace)
    (right : (number, second) ∈ beganOf trace)
    : first = second := by
  have distinct : ((beganOf trace).map Prod.fst).Nodup := by
    rw [ledger.numbered]
    exact List.nodup_range'
  exact congrArg Prod.snd (List.inj_on_of_nodup_map distinct left right rfl)

theorem known_le (ledger : ForegroundLedger trace state) {number : Nat}
    (completed : number ∈ completedOf trace)
    : number ≤ state.begun := by
  obtain ⟨operation, began⟩ := ledger.known number completed
  exact ledger.number_le began

/-- An operation that is not completed has a worker that is still to record its result, or that
has recorded one.
-/
theorem pending (ledger : ForegroundLedger trace state) {number : Nat}
    {operation : ForegroundOperation} (began : (number, operation) ∈ beganOf trace)
    (worker : operation.hasWorker = true) (missing : number ∉ completedOf trace)
    : (∃ job ∈ state.jobs, job.number = number) ∨ ∃ result, .recorded number result ∈ trace := by
  have current := (ledger.outstanding number operation began).2 missing
  unfold ForegroundState.current at current
  split at current
  · obtain ⟨⟨event, stamp, other⟩, completing, same⟩ := Option.map_eq_some_iff.1 current
    obtain rfl : other = number := same
    obtain ⟨-, sort, began', -, recorded⟩ := ledger.completing _ _ _ completing
    exact .inr (recorded (ledger.operation_unique began began' ▸ worker))
  · rename_i busy
    obtain rfl : state.begun = number := Option.some.inj current
    rw [ledger.operation_unique began (ledger.running busy)] at worker
    cases done : state.service.workerDone with
    | true => exact .inr ⟨_, ledger.recorded worker done⟩
    | false =>
        obtain ⟨spent, same⟩ := ledger.jobs
        refine .inl ⟨⟨state.begun, state.service.operation, spent⟩, ?_, rfl⟩
        simp [same, ForegroundState.working, worker, done]

/-- What the completing event may rely on stays true. -/
theorem completing_append (ledger : ForegroundLedger trace state) (emitted : List DispatchLabel)
    {event : MoonlightEvent CString} {stamp : Option Nat} {number : Nat}
    (completing : state.thread.completing = some (event, stamp, number))
    : ∃ operation,
        (number, operation) ∈ beganOf (trace ++ emitted)
        ∧ completesOperation operation event.type = true
        ∧ (operation.hasWorker = true → ∃ result, .recorded number result ∈ trace ++ emitted) := by
  obtain ⟨-, operation, began, completes, recorded⟩ := ledger.completing _ _ _ completing
  refine ⟨operation, ?_, completes, ?_⟩
  · rw [beganOf_append]
    exact List.mem_append_left _ began
  · intro worker
    obtain ⟨result, member⟩ := recorded worker
    exact ⟨result, List.mem_append_left _ member⟩

/-- A step that keeps the operation, its progress and its completion keeps the books. -/
theorem quiet (ledger : ForegroundLedger trace state)
    (rests : ConnectionService.Rests state.service after.service)
    (began : beganOf emitted = []) (completed : completedOf emitted = [])
    (completing : after.thread.completing = state.thread.completing)
    (begun : after.begun = state.begun) (jobs : ∃ emitted, after.jobs = after.working emitted)
    : ForegroundLedger (trace ++ emitted) after := by
  have operation : after.service.operation = state.service.operation := by
    obtain same | ⟨idle, ended, -⟩ := rests
    · exact (ConnectionService.progress_eq_iff.1 same).1
    · rw [idle, ended]
  have current : after.current = state.current := by
    simp only [ForegroundState.current, operation, completing, begun]
  exact {
    closed := by
      intro idle
      obtain same | ⟨was, -, closed⟩ := rests
      · rw [(ConnectionService.progress_eq_iff.1 same).2.1]
        exact ledger.closed (operation ▸ idle)
      · exact closed (ledger.closed was)
    numbered := by rw [beganOf_append, began, List.append_nil, begun, ledger.numbered]
    running := by
      rw [beganOf_append, began, List.append_nil, begun, operation]
      exact ledger.running
    jobs
    recorded := by
      intro worker done
      obtain same | ⟨-, idle, -⟩ := rests
      · obtain ⟨-, -, finished, result⟩ := ConnectionService.progress_eq_iff.1 same
        rw [begun, result]
        exact List.mem_append_left _ (ledger.recorded (operation ▸ worker) (finished ▸ done))
      · simp [idle, ForegroundOperation.hasWorker] at worker
    completing := by
      intro event stamp number found
      rw [completing] at found
      rw [operation]
      exact ⟨(ledger.completing _ _ _ found).1, ledger.completing_append emitted found⟩
    outstanding := by
      rw [beganOf_append, began, List.append_nil, completedOf_append, completed, List.append_nil,
        current]
      exact ledger.outstanding
    known := by
      rw [beganOf_append, began, List.append_nil, completedOf_append, completed, List.append_nil]
      exact ledger.known
    once := by
      rw [completedOf_append, completed, List.append_nil]
      exact ledger.once
  }

/-- Beginning an operation opens the next entry. -/
theorem begin (ledger : ForegroundLedger trace state) {operation : ForegroundOperation}
    (free : state.thread.completing = none) (idle : state.service.operation = .none)
    (real : operation ≠ .none) (running : after.service.operation = operation)
    (fresh : after.service.workerDone = false) (thread : after.thread = state.thread)
    (jobs
      : after.jobs
        = if operation = .launch then state.jobs
          else state.jobs ++ [⟨state.begun + 1, operation, false⟩])
    (begun : after.begun = state.begun + 1)
    : ForegroundLedger (trace ++ [.began (state.begun + 1) operation]) after := by
  have settled : state.current = none := by simp [ForegroundState.current, idle, free]
  have current : after.current = some (state.begun + 1) := by
    simp [ForegroundState.current, running, real, begun]
  have began
      : beganOf (trace ++ [.began (state.begun + 1) operation])
        = beganOf trace ++ [(state.begun + 1, operation)] :=
    beganOf_append _ _
  have completed
      : completedOf (trace ++ [.began (state.begun + 1) operation]) = completedOf trace :=
    completedOf_snoc rfl
  exact {
    closed := fun stopped => absurd (running.symm.trans stopped) real
    numbered := by
      rw [began, List.map_append, ledger.numbered, begun, List.range'_concat, Nat.one_mul,
        Nat.add_comm 1]
      rfl
    running := by
      intro _
      rw [began, begun, running]
      exact List.mem_append_right _ (List.mem_singleton_self _)
    jobs := by
      obtain ⟨spent, same⟩ := ledger.jobs
      have workless : state.jobs = [] := by
        simpa [ForegroundState.working, idle, ForegroundOperation.hasWorker] using same
      refine ⟨false, ?_⟩
      simp only [jobs, workless, ForegroundState.working, running, fresh, begun]
      cases operation <;> first | rfl | exact absurd rfl real
    recorded := by
      intro _ done
      simp [fresh] at done
    completing := by
      intro event stamp number found
      rw [thread, free] at found
      simp at found
    outstanding := by
      intro number sort member
      rw [began, List.mem_append] at member
      rw [current, completed]
      obtain old | new := member
      · have done : number ∈ completedOf trace := by
          by_contra missing
          have opened := (ledger.outstanding number sort old).2 missing
          simp [settled] at opened
        have bound := ledger.number_le old
        simp only [Option.some.injEq, done, not_true_eq_false, iff_false]
        omega
      · obtain ⟨rfl, -⟩ := Prod.mk.inj (List.mem_singleton.1 new)
        simp only [true_iff]
        intro done
        have bound := ledger.known_le done
        omega
    known := by
      intro number done
      rw [completed] at done
      obtain ⟨sort, member⟩ := ledger.known number done
      exact ⟨sort, began ▸ List.mem_append_left _ member⟩
    once := completed ▸ ledger.once
  }

/-- The completing event frees the operation and is on its way. -/
theorem prepare (ledger : ForegroundLedger trace state) {event : MoonlightEvent CString}
    {stamp : Option Nat} {service : ConnectionService}
    (completes : completesOperation state.service.operation event.type = true)
    (late : state.service.operation ≠ .launch → state.service.workerDone = true)
    (freed : service.operation = .none) (closed : service.progressDialogSlot = -1)
    : ForegroundLedger trace
        { state with service, thread := .prepared event stamp (some state.begun) } := by
  have busy : state.service.operation ≠ .none := by
    intro idle
    simp [idle, completesOperation] at completes
  have current : state.current = some state.begun := by simp [ForegroundState.current, busy]
  exact {
    closed := fun _ => closed
    numbered := ledger.numbered
    running := fun other => absurd freed other
    jobs := by
      obtain ⟨spent, same⟩ := ledger.jobs
      refine ⟨spent, same.trans ?_⟩
      simp only [ForegroundState.working, freed]
      cases sort : state.service.operation <;>
        simp_all [ForegroundOperation.hasWorker]
    recorded := by
      intro worker
      simp [freed, ForegroundOperation.hasWorker] at worker
    completing := by
      intro found mark number same
      simp only [DispatchPoint.completing, Option.some.injEq, Prod.mk.injEq] at same
      obtain ⟨rfl, rfl, rfl⟩ := same
      refine ⟨freed, state.service.operation, ledger.running busy, completes, ?_⟩
      intro worker
      refine ⟨_, ledger.recorded worker (late ?_)⟩
      intro launch
      simp [launch, ForegroundOperation.hasWorker] at worker
    outstanding := by
      intro number operation member
      rw [← ledger.outstanding number operation member, current]
      simp [ForegroundState.current, freed, DispatchPoint.completing]
    known := ledger.known
    once := ledger.once
  }

/-- The delivery closes the entry. -/
theorem deliver (ledger : ForegroundLedger trace state) {event : MoonlightEvent CString}
    {stamp : Option Nat} {number : Nat}
    (thread : state.thread = .acknowledged event stamp (some number))
    : ForegroundLedger (trace ++ [.delivered event stamp (some number)])
        { state with thread := .calling } := by
  have found : state.thread.completing = some (event, stamp, number) := by rw [thread]; rfl
  obtain ⟨freed, operation, began, -, -⟩ := ledger.completing _ _ _ found
  have current : state.current = some number := by
    simp [ForegroundState.current, freed, found]
  have first : number ∉ completedOf trace := (ledger.outstanding _ _ began).1 current
  have unchanged
      : beganOf (trace ++ [.delivered event stamp (some number)]) = beganOf trace :=
    beganOf_snoc rfl
  have completed
      : completedOf (trace ++ [.delivered event stamp (some number)])
        = completedOf trace ++ [number] :=
    completedOf_append _ _
  exact {
    closed := ledger.closed
    numbered := unchanged ▸ ledger.numbered
    running := fun other => absurd freed other
    jobs := ledger.jobs
    recorded := fun worker done => List.mem_append_left _ (ledger.recorded worker done)
    completing := by
      intro event stamp number same
      simp [DispatchPoint.completing] at same
    outstanding := by
      intro other sort member
      rw [unchanged] at member
      rw [completed, List.mem_append, List.mem_singleton]
      have now := ledger.outstanding other sort member
      rw [current] at now
      have idle : ForegroundState.current { state with thread := .calling } = none := by
        simp [ForegroundState.current, freed, DispatchPoint.completing]
      rw [idle]
      by_cases same : other = number
      · simp [same]
      · have done : other ∈ completedOf trace := by
          by_contra missing
          exact same (Option.some.inj (now.2 missing)).symm
        simp [done]
    known := by
      intro other done
      rw [completed, List.mem_append, List.mem_singleton] at done
      rw [unchanged]
      obtain old | rfl := done
      · exact ledger.known other old
      · exact ⟨operation, began⟩
    once := by
      rw [completed, List.nodup_append]
      refine ⟨ledger.once, List.nodup_singleton _, ?_⟩
      intro old member new last same
      rw [List.mem_singleton] at last
      exact first (last ▸ same ▸ member)
  }

/-- There is one worker at most, that of the running operation. -/
theorem only_job (ledger : ForegroundLedger trace state) {index : Nat} {job : WorkerJob}
    (found : state.jobs[index]? = some job)
    : index = 0
      ∧ state.jobs = [job]
      ∧ job.number = state.begun
      ∧ job.operation = state.service.operation
      ∧ state.service.operation.hasWorker = true
      ∧ state.service.workerDone = false := by
  obtain ⟨spent, same⟩ := ledger.jobs
  rw [same] at found ⊢
  unfold ForegroundState.working at found ⊢
  split at found
  · rename_i working
    rw [if_pos working]
    simp only [Bool.and_eq_true, Bool.not_eq_true'] at working
    cases index with
    | zero =>
        obtain rfl := Option.some.inj found
        exact ⟨rfl, rfl, rfl, rfl, working.1, working.2⟩
    | succ index => simp at found
  · simp at found

/-- The worker's result is in the books before it can be seen. -/
theorem record (ledger : ForegroundLedger trace state) {index : Nat} {job : WorkerJob}
    (result : Int) (found : state.jobs[index]? = some job)
    : ForegroundLedger (trace ++ [.recorded job.number result])
        { state with
          service := state.service.recordWorkerResult result
          jobs := state.jobs.eraseIdx index } := by
  obtain ⟨rfl, alone, number, operation, worker, unfinished⟩ := ledger.only_job found
  have began : beganOf (trace ++ [.recorded job.number result]) = beganOf trace :=
    beganOf_snoc rfl
  have completed : completedOf (trace ++ [.recorded job.number result]) = completedOf trace :=
    completedOf_snoc rfl
  exact {
    closed := ledger.closed
    numbered := began ▸ ledger.numbered
    running := began ▸ ledger.running
    jobs := ⟨false, by simp [alone, ForegroundState.working, ConnectionService.recordWorkerResult]⟩
    recorded := by
      intro _ _
      rw [number]
      exact List.mem_append_right _ (List.mem_singleton_self _)
    completing := by
      intro event stamp completes found
      exact ⟨(ledger.completing _ _ _ found).1, ledger.completing_append _ found⟩
    outstanding := by
      rw [began, completed]
      exact ledger.outstanding
    known := by
      rw [began, completed]
      exact ledger.known
    once := completed ▸ ledger.once
  }

/-- The worker's event is spent, whether the queue takes it or not. -/
theorem emit (ledger : ForegroundLedger trace state) {index : Nat} {job : WorkerJob}
    (found : state.jobs[index]? = some job) (began : beganOf emitted = [])
    (completed : completedOf emitted = [])
    : ForegroundLedger (trace ++ emitted)
        { state with jobs := state.jobs.set index { job with emitted := true } } := by
  obtain ⟨rfl, alone, number, operation, worker, unfinished⟩ := ledger.only_job found
  refine ledger.quiet (.inl rfl) began completed rfl rfl ⟨true, ?_⟩
  simp [alone, ForegroundState.working, worker, unfinished, number, operation]

/-- A page's action keeps the books. -/
theorem act (ledger : ForegroundLedger trace state) (action : PageAction)
    (free : state.thread = .idle ∨ state.thread = .calling)
    : ForegroundLedger (trace ++ (state.act action).2) (state.act action).1 := by
  have uncompleting : state.thread.completing = none := by
    obtain thread | thread := free <;> rw [thread] <;> rfl
  have effect := ForegroundState.act_effect state action
  generalize state.act action = acted at effect ⊢
  cases effect with
  | rested rests thread jobs begun =>
      refine ledger.quiet rests rfl rfl (congrArg _ thread) begun ?_
      obtain ⟨spent, same⟩ := ledger.jobs
      refine ⟨spent, (jobs.trans same).trans ?_⟩
      obtain unchanged | ⟨idle, ended, -⟩ := rests
      · obtain ⟨operation, -, done, -⟩ := ConnectionService.progress_eq_iff.1 unchanged
        simp only [ForegroundState.working, operation, done, begun]
      · simp only [ForegroundState.working, idle, ended, ForegroundOperation.hasWorker,
          Bool.false_and, Bool.false_eq_true, if_false]
  | began idle real running fresh thread jobs begun =>
      exact ledger.begin uncompleting idle real running fresh thread jobs begun

/-- Each step keeps the books, by what the step does. -/
theorem step {state after : WaitingDispatch} (ledger : ForegroundLedger trace state.toForegroundState)
    (move : DispatchMove state emitted after)
    : ForegroundLedger (trace ++ emitted) after.toForegroundState := by
  have unmoved {point : DispatchPoint} {labels : List DispatchLabel}
      (began : beganOf labels = []) (completed : completedOf labels = [])
      (completing : point.completing = state.thread.completing)
      : ForegroundLedger (trace ++ labels) { state.toForegroundState with thread := point } :=
    ledger.quiet (.inl rfl) began completed completing rfl ledger.jobs
  cases move with
  | entered thread => exact unmoved rfl rfl (by rw [thread]; rfl)
  | shown thread peeked => exact unmoved rfl rfl (by rw [thread]; rfl)
  | synthesized thread unpinned empty finished => exact unmoved rfl rfl (by rw [thread]; rfl)
  | rested thread unpinned empty unfinished => exact unmoved rfl rfl (by rw [thread]; rfl)
  | deferred thread refused => exact unmoved rfl rfl (by rw [thread]; rfl)
  | @prepared event stamp thread accepted =>
      obtain ⟨other, same⟩ | ⟨completes, ⟨-, -, same⟩ | ⟨late, service, same, freed, closed⟩⟩ :=
        state.service.prepareCompletion_cases event
      · rw [same, if_neg (by simp [other])]
        exact unmoved rfl rfl (by rw [thread]; rfl)
      · simp [same] at accepted
      · rw [same, if_pos completes, List.append_nil]
        exact ledger.prepare completes late freed closed
  | @acknowledged event stamp completed thread =>
      refine unmoved rfl rfl ?_
      rw [thread]
      cases completed <;> rfl
  | @discarded event stamp completed thread discovery =>
      refine unmoved rfl rfl ?_
      cases completed with
      | none => rw [thread]; rfl
      | some number =>
          obtain ⟨-, operation, -, completes, -⟩ :=
            ledger.completing event stamp number (by rw [thread]; rfl)
          rw [discovery] at completes
          cases operation <;> simp [completesOperation] at completes
  | @delivered event stamp completed thread =>
      cases completed with
      | none => exact unmoved rfl rfl (by rw [thread]; rfl)
      | some number => exact ledger.deliver thread
  | returned thread => exact unmoved rfl rfl (by rw [thread]; rfl)
  | acted action free => exact ledger.act action free
  | posted ordinary pushed => exact unmoved rfl rfl rfl
  | refused => exact unmoved rfl rfl rfl
  | emitted found due completes pushed => exact ledger.emit found rfl rfl
  | lost found due => exact ledger.emit found rfl rfl
  | recorded result found => exact ledger.record result found

end ForegroundLedger

/-- The books are kept in every run. -/
theorem waiting_ledger {trace : List DispatchLabel} {state : WaitingDispatch}
    (reached : (dispatchMachine waitingChannel).Reaches trace state)
    : ForegroundLedger trace state.toForegroundState := by
  refine reached.invariant (fun trace state => ForegroundLedger trace state.toForegroundState) ?_ ?_
  · rintro state ⟨events, rfl, rfl⟩
    exact {
      closed := fun _ => rfl
      numbered := rfl
      running := fun other => absurd rfl other
      jobs := ⟨false, rfl⟩
      recorded := fun worker => absurd worker (by decide)
      completing := by simp [DispatchPoint.completing]
      outstanding := by simp [beganOf]
      known := by simp [completedOf]
      once := List.nodup_nil
    }
  · intro trace state choice after emitted ledger taken
    exact ledger.step (DispatchState.move_step taken)

end VitaMoonlight
