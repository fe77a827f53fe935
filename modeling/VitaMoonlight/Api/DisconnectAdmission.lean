import VitaMoonlight.Api.RequestSteps
import Mathlib.Data.List.Induction

/-! The contract of a disconnect over every interleaving of requests, stream sessions, the
cleanup worker and the shutdown.
-/

namespace VitaMoonlight

open Library SessionHistory

-----------------------------------------------------------------------------------------
-- Every cleanup can be closed
-----------------------------------------------------------------------------------------

/-- Some further run publishes the CONNECTION_CLOSED that is due. -/
def CanClose (trace : List ControlLabel) (state : ControlState) : Prop :=
  ∃ choices final emitted,
    controlMachine.run state choices = some (final, emitted)
    ∧ (controlHistory (trace ++ emitted)).cleanup = false

theorem CanClose.closed {trace : List ControlLabel} {state : ControlState}
    (closed : (controlHistory trace).cleanup = false)
    : CanClose trace state :=
  ⟨[], state, [], rfl, by rwa [List.append_nil]⟩

theorem CanClose.step {trace labels : List ControlLabel} {state after : ControlState}
    (choice : ControlChoice) (taken : controlStep state choice = some (after, labels))
    (later : CanClose (trace ++ labels) after)
    : CanClose trace state := by
  obtain ⟨choices, final, emitted, ran, closed⟩ := later
  have stepped : controlMachine.step state choice = some (after, labels) := taken
  refine ⟨choice :: choices, final, labels ++ emitted, ?_, by rwa [← List.append_assoc]⟩
  simp only [Machine.run, stepped, ran]

theorem canClose_of_publishing {trace : List ControlLabel} {state : ControlState}
    (holder : state.holder = some (.worker .publishing))
    : CanClose trace state := by
  refine .step .worker (by rw [controlStep, ControlState.workerStep, holder]) (.closed ?_)
  simp [controlHistory, ControlHistory.observe]

theorem canClose_of_cleaning {trace : List ControlLabel} {state : ControlState}
    (holder : state.holder = some (.worker .cleaning))
    : CanClose trace state := by
  refine .step .worker (by rw [controlStep, ControlState.workerStep, holder]) ?_
  exact canClose_of_publishing rfl

/-- The worker closes once the stream has ended. -/
theorem canClose_of_quiet {trace : List ControlLabel} {state : ControlState}
    (holder : state.holder = some (.worker .waiting)) (quiet : state.streamRunning = false)
    : CanClose trace state := by
  refine .step .worker
    (by rw [controlStep, ControlState.workerStep, holder]; simp only [quiet]; rfl) ?_
  exact canClose_of_cleaning rfl

/-- How far the stream is from its end, callbacks included. -/
def ControlState.distance (state : ControlState) : Nat :=
  match state.stream.owners with
  | [] => 0
  | owner :: _ => 2 * owner.point.rank + if state.handling.isSome then 1 else 0

/-- A step of the first owner outside callbacks. -/
theorem sessionStep_of_owner {state : ControlState} {owner : StreamOwner}
    {action : OwnerAction} {flags : StreamFlags} {next : Option OwnerPoint}
    {labels : List StreamLabel} (free : state.handling = none)
    (owners : state.stream.owners = [owner])
    (stepped : ownerStep owner.session state.stream.flags owner.point action
      = some (flags, next, labels))
    : ∃ after shown,
        controlStep state (.session (.owner 0 action)) = some (after, shown)
        ∧ after.holder = state.holder
        ∧ after.stream.owners = next.toList.map (⟨owner.session, ·⟩) := by
  have taken
      : ∃ stream,
          streamStep state.stream (.owner 0 action) = some (stream, labels)
          ∧ stream.owners = next.toList.map (⟨owner.session, ·⟩) := by
    cases next <;> simp [streamStep, owners, stepped]
  obtain ⟨stream, taken, remaining⟩ := taken
  simp only [controlStep, ControlState.sessionStep]
  rw [if_neg (by simp [free]), taken]
  dsimp only
  split
  · rename_i event publishes
    cases event <;> exact ⟨_, _, rfl, rfl, remaining⟩
  · exact ⟨_, _, rfl, rfl, remaining⟩

/-- While the worker waits, the stream it told to stop can end, by induction on how far the
stream is from that.
-/
theorem canClose_of_waiting {trace : List ControlLabel} {state : ControlState}
    (invariant : ControlInvariant trace state)
    (holder : state.holder = some (.worker .waiting))
    : CanClose trace state := by
  induction distance : state.distance using Nat.strongRecOn generalizing trace state with
  | ind distance ih =>
      have consistent := invariant.holder
      rw [holder] at consistent
      obtain ⟨launching, flags, told⟩ := consistent
      cases invariant.stream.phase with
      | idle free _ owners finished => exact canClose_of_quiet holder free
      | launching alive launched owners uncreated untouched =>
          exact absurd (launching.symm.trans launched) (by simp)
      | owned point alive _ owners consistent =>
          cases handling : state.handling with
          | some event =>
              have taken
                  : controlStep state .handler = some (state.afterStreamEvent event, []) := by
                simp [controlStep, handling]
              have kept := invariant.step taken
              refine .step .handler taken (ih _ ?_ kept ?_ rfl)
              · rw [← distance]
                cases event <;>
                  simp [ControlState.distance, ControlState.afterStreamEvent, owners, handling]
              · cases event <;> exact holder
          | none =>
              have stopping := told alive.running
              obtain ⟨action, after, next, labels, stepped, nearer⟩ :=
                ownerStep_progresses state.stream.sessions point stopping
              obtain ⟨later, shown, taken, same, remaining⟩ :=
                sessionStep_of_owner handling owners stepped
              have kept := invariant.step taken
              refine .step _ taken (ih _ ?_ kept (same.trans holder) rfl)
              rw [← distance]
              cases next with
              | none =>
                  have rank := point.rank_pos
                  simp only [ControlState.distance, owners, remaining, Option.toList_none,
                    List.map_nil]
                  omega
              | some nextPoint =>
                  have closer := (nearer nextPoint rfl).2
                  simp only [ControlState.distance, owners, remaining, Option.toList_some,
                    List.map_cons]
                  split <;> omega

/-- The worker takes the free mutex. -/
theorem canClose_of_free {trace : List ControlLabel} {state : ControlState}
    (invariant : ControlInvariant trace state) (free : state.holder = none)
    (due : (controlHistory trace).cleanup = true)
    : CanClose trace state := by
  have consistent := invariant.holder
  rw [free] at consistent
  rcases consistent.2 with flags | ⟨flags, told⟩
  · exact absurd (flags.cleanup.symm.trans due) (by decide)
  · have taken
        : controlStep state .worker
          = some ({ state with
                workers := state.workers - 1
                holder := some (.worker .waiting) }, []) := by
      rw [controlStep, ControlState.workerStep, free]
      simp only [flags.workers, Nat.one_ne_zero, if_false]
    exact .step .worker taken (canClose_of_waiting (invariant.step taken) rfl)

/-- A request that leaves frees the mutex. -/
theorem canClose_of_leaving {trace : List ControlLabel} {state : ControlState}
    (invariant : ControlInvariant trace state) {request : HostRequest}
    (holder : state.holder = some (.request request .leaving))
    (due : (controlHistory trace).cleanup = true)
    : CanClose trace state := by
  have taken
      : controlStep state (.request ⟨false, false⟩) = some ({ state with holder := none }, []) := by
    rw [controlStep, holder]
    rfl
  refine .step _ taken (canClose_of_free (invariant.step taken) rfl ?_)
  rwa [List.append_nil]

/-- A disconnect that scheduled the worker, or found one scheduled, leaves. -/
theorem canClose_of_disconnect {trace : List ControlLabel} {state : ControlState}
    (invariant : ControlInvariant trace state) {point : RequestPoint}
    (holder : state.holder = some (.request .disconnectHost point))
    (due : (controlHistory trace).cleanup = true)
    : CanClose trace state := by
  have consistent := invariant.holder
  rw [holder] at consistent
  obtain ⟨-, consistent⟩
      : state.stream.launching = [] ∧ DisconnectConsistent state (controlHistory trace) point := by
    simpa only [HolderConsistent, if_true] using consistent
  cases point with
  | working | starting | creating | startFailed => exact absurd consistent id
  | stopped | scheduling | notScheduled =>
      exact absurd (consistent.1.cleanup.symm.trans due) (by decide)
  | leaving => exact canClose_of_leaving invariant holder due
  | entered =>
      rcases consistent.1 with flags | ⟨flags, -⟩
      · exact absurd (flags.cleanup.symm.trans due) (by decide)
      · have taken
            : controlStep state (.request ⟨false, false⟩)
              = some (state.moveTo .disconnectHost .leaving, []) := by
          rw [controlStep, holder]
          simp [ControlState.requestStep, ControlState.enter, flags.pending]
        refine .step _ taken (canClose_of_leaving (invariant.step taken) rfl ?_)
        rwa [List.append_nil]
  | scheduled =>
      have taken
          : controlStep state (.request ⟨false, false⟩)
            = some ({ state with disconnectPending := true }.moveTo .disconnectHost .leaving, []) := by
        rw [controlStep, holder]
        rfl
      refine .step _ taken (canClose_of_leaving (invariant.step taken) rfl ?_)
      rwa [List.append_nil]

/-- Whatever is due can be closed. -/
theorem ControlInvariant.can_close {trace : List ControlLabel} {state : ControlState}
    (invariant : ControlInvariant trace state)
    : CanClose trace state := by
  by_cases due : (controlHistory trace).cleanup = true
  · have consistent := invariant.holder
    cases holder : state.holder with
    | none => exact canClose_of_free invariant holder due
    | some held =>
        rw [holder] at consistent
        cases held with
        | request request point =>
            by_cases disconnects : request = .disconnectHost
            · subst disconnects
              exact canClose_of_disconnect invariant holder due
            · simp only [HolderConsistent, if_neg disconnects] at consistent
              exact absurd (consistent.2.2.cleanup.symm.trans due) (by decide)
        | worker point =>
            cases point with
            | waiting => exact canClose_of_waiting invariant holder
            | cleaning => exact canClose_of_cleaning holder
            | publishing => exact canClose_of_publishing holder
            | closing => exact absurd (consistent.2.cleanup.symm.trans due) (by decide)
        | shutdown point => exact absurd (consistent.2.cleanup.symm.trans due) (by decide)
  · exact .closed ((Bool.not_eq_true _).mp due)

-----------------------------------------------------------------------------------------
-- Nothing of a session follows its close
-----------------------------------------------------------------------------------------

/-- A session never takes a terminal event back. -/
theorem finals_length_observe (past : SessionHistory) (label : StreamLabel)
    : past.finals.length ≤ (past.observe label).finals.length := by
  cases label with
  | event session event result => cases event <;> simp [observe]
  | admitted | created | notCreated | libraryCalled | stageStarting | connectionStarted
  | libraryReturned | settled | interrupt | libraryStop | exited | stop | terminated =>
      exact Nat.le_refl _

theorem finals_length_append (session : Nat) (trace labels : List StreamLabel)
    : (history session trace).finals.length
      ≤ (history session (trace ++ labels)).finals.length := by
  induction labels generalizing trace with
  | nil => simp
  | cons label rest ih =>
      rw [List.append_cons]
      refine Nat.le_trans ?_ (ih (trace ++ [label]))
      by_cases same : label.session = session
      · rw [history_snoc_same trace label same]
        exact finals_length_observe _ label
      · simp [history_snoc_other trace label same]

/-- A session that may publish an event has not ended. -/
theorem not_ended_of_event {past : SessionHistory} {session : Nat} {event : StreamEvent}
    {result : Int} (permitted : past.Permits (.event session event result))
    : past.finals = [] := by
  cases event with
  | started => exact permitted.2.2.2
  | stopped | failed => exact permitted.1

/-- No event of a session follows a close that found it. -/
theorem ControlInvariant.silent_after {trace before after : List ControlLabel}
    {state : ControlState} {hasCurrentHost : Bool} {connectionState : ConnectionState}
    (invariant : ControlInvariant trace state)
    (split : trace = before ++ .closed hasCurrentHost connectionState :: after) {session : Nat}
    (created : (history session (streamTrace before)).created = true) (event : StreamEvent)
    (result : Int)
    : .stream (.event session event result) ∉ after := by
  intro member
  obtain ⟨middle, rest, rfl⟩ := List.append_of_mem member
  have ended := (invariant.permitted before _ _ split).2.2.2 session created
  have allowed := invariant.permitted
    (before ++ .closed hasCurrentHost connectionState :: middle)
    (.stream (.event session event result)) rest (by simp [split])
  have open_still := not_ended_of_event allowed.1
  have grown := finals_length_append session (streamTrace before)
    (streamTrace (.closed hasCurrentHost connectionState :: middle))
  have joined
      : streamTrace before ++ streamTrace (.closed hasCurrentHost connectionState :: middle)
        = streamTrace (before ++ .closed hasCurrentHost connectionState :: middle) := by
    simp [streamTrace]
  rw [joined] at grown
  rw [StreamLabel.session] at open_still
  rw [open_still, ended.1] at grown
  exact absurd grown (by decide)

-----------------------------------------------------------------------------------------
-- The contract
-----------------------------------------------------------------------------------------

/-- The CONNECTION_CLOSED labels of a trace. -/
def ControlLabel.isClosed : ControlLabel → Bool
  | closed _ _ => true
  | admitted _ _ | refused _ | accepted | notScheduled _ | stream _ => false

/-- Accepted disconnects and closes alternate, by induction on the trace. -/
theorem accepted_count {trace : List ControlLabel} (permitted : Guarded ControlAllowed trace)
    : trace.count .accepted
      = trace.countP ControlLabel.isClosed + (controlHistory trace).cleanup.toNat := by
  induction trace using List.reverseRecOn with
  | nil => rfl
  | append_singleton trace label ih =>
      have before := ih permitted.left
      have allowed := permitted trace label [] rfl
      have same : controlHistory (trace ++ [label]) = (controlHistory trace).observe label := by
        simp [controlHistory]
      rw [same, List.count_append, List.countP_append]
      cases label with
      | accepted =>
          rw [show (controlHistory trace).cleanup = false from allowed] at before
          simp [before, ControlHistory.observe, ControlLabel.isClosed]
      | closed hasCurrentHost connectionState =>
          rw [allowed.1] at before
          simp [before, ControlHistory.observe, ControlLabel.isClosed]
      | admitted | refused | notScheduled | stream =>
          simp [before, ControlHistory.observe, ControlLabel.isClosed]

/-- What every run of the API keeps. Each label is one that `ControlAllowed` allows: behind an
accepted disconnect no other request is admitted and no cleanup scheduled before the close, a
close finds every stream session ended and leaves no host, and a disconnect whose worker could
not be created returns with the flags it met.
-/
structure DisconnectContract (trace : List ControlLabel) (state : ControlState) : Prop where
  permitted : Guarded ControlAllowed trace
  counted
    : trace.count .accepted
      = trace.countP ControlLabel.isClosed + (controlHistory trace).cleanup.toNat
  can_close : CanClose trace state
  silent_after
    : ∀ before hasCurrentHost connectionState after,
        trace = before ++ .closed hasCurrentHost connectionState :: after
        → ∀ session event result,
            (history session (streamTrace before)).created = true
            → .stream (.event session event result) ∉ after
  admits
    : state.holder = none
      → (controlHistory trace).cleanup = false
      → ∀ request,
          state.call request
          = (state.moveTo request .entered, [.admitted request state.view])

/-- Without a cleanup the free mutex admits every request. -/
theorem ControlInvariant.admits {trace : List ControlLabel} {state : ControlState}
    (invariant : ControlInvariant trace state) (free : state.holder = none)
    (settled : (controlHistory trace).cleanup = false) (request : HostRequest)
    : state.call request = (state.moveTo request .entered, [.admitted request state.view]) := by
  have consistent := invariant.holder
  rw [free] at consistent
  rcases consistent.2 with flags | ⟨flags, -⟩
  · simp [ControlState.call, free, flags.pending]
  · exact absurd (flags.cleanup.symm.trans settled) (by decide)

/-- The API keeps its contract over every interleaving of requests, stream sessions, the
cleanup worker and the shutdown.
-/
theorem disconnect_keeps_contract {trace : List ControlLabel} {state : ControlState}
    (reached : controlMachine.Reaches trace state)
    : DisconnectContract trace state := by
  have invariant := controlInvariant_of_reaches reached
  refine ⟨invariant.permitted, accepted_count invariant.permitted, invariant.can_close, ?_,
    invariant.admits⟩
  intro before hasCurrentHost connectionState after split session event result created
  exact invariant.silent_after split created event result

/-- A host is connected, an application started and the host disconnected at once. -/
theorem disconnect_keeps_contract_when_starting
    : ∃ trace state,
        .closed false .disconnected ∈ trace ∧ DisconnectContract trace state := by
  let goes : ControlChoice := .request ⟨true, true⟩
  let owns : ControlChoice := .session (.owner 0 .proceed)
  have ran
      : ∃ final,
          controlMachine.run {}
              ([.call (.connectHost 7)] ++ List.replicate 3 goes
                ++ [.call (.startApplication 1)] ++ List.replicate 4 goes
                ++ [.call .disconnectHost] ++ List.replicate 5 goes
                ++ [.call .getApplications, .worker, owns, owns, owns, .handler, owns]
                ++ List.replicate 4 .worker)
            = some
              (final,
                [.admitted (.connectHost 7) ⟨false, false, false, 0⟩,
                  .admitted (.startApplication 1) ⟨false, false, true, 7⟩,
                  .stream (.admitted 1), .stream (.created 1),
                  .admitted .disconnectHost ⟨false, false, true, 7⟩, .stream (.stop 1),
                  .accepted, .refused .getApplications, .stream (.event 1 .failed (-7)),
                  .stream (.exited 1), .closed false .disconnected]) := ⟨_, rfl⟩
  obtain ⟨final, ran⟩ := ran
  exact ⟨_, final, by simp,
    disconnect_keeps_contract (Machine.reaches_run controlMachine rfl _ ran)⟩

end VitaMoonlight
