import VitaMoonlight.Backend.AdapterInvariant

/-! When the adapter's connection state is the API's.
Every event that can change the adapter is emitted for a change of the API, but for one: a
connection that fails before it touches the current host. Every change of the API is
followed by an event, but for one: a pairing prepared for a server that is paired already.
Another call may return between the change and its event.
-/

namespace VitaMoonlight

open Library

-----------------------------------------------------------------------------------------
-- Steps of requests
-----------------------------------------------------------------------------------------

namespace MirrorInvariant

variable {state : MirrorState} {api : ControlState} {event : Option MoonlightEventType}

/-- Nothing is owed where the holder has emitted nothing and changed nothing. -/
theorem owed_of_silent (silent : state.requestEvent = none)
    (holder : state.api.holder ≠ some (.worker .publishing))
    : state.owed = none := by
  rw [MirrorState.owed, if_neg holder, silent]

theorem neutral_owed_of_request {request : HostRequest} {point : RequestPoint}
    (holder : api.holder = some (.request request point)) (neutral : Neutral event)
    : Neutral { state with api, requestEvent := event }.owed := by
  rw [MirrorState.owed, if_neg (by rw [holder]; simp)]
  exact neutral

end MirrorInvariant

/-- What entering a request leaves alone. -/
structure EnterEffect (state after : ControlState) : Prop where
  handling : after.handling = state.handling
  connection : after.connectionState = state.connectionState
  host : after.hasCurrentHost = state.hasCurrentHost
  active : after.streamActive = state.streamActive
  running : after.streamRunning = state.streamRunning

theorem streamStop_running (state : ControlState)
    : state.streamStop.1.streamRunning = state.streamRunning := by
  cases running : state.streamRunning with
  | false => exact ((streamStop_frame state).1.quiet running).1
  | true =>
      simp only [ControlState.streamRunning] at running
      simp only [ControlState.streamRunning, ControlState.streamStop, StreamFlags.stop, running,
        if_true]
      rw [(StreamFlags.interruptCommonStartupLocked_keeps_stop _ _).2]

/-- Entering a request changes nothing the adapter mirrors unless the server is paired when a
pairing is prepared.
-/
theorem enter_effect (state : ControlState) (outcome : CallOutcome) (request : HostRequest)
    (unpaired
      : request = .preparePairing → state.canPreparePairing outcome = true
        → outcome.paired = false)
    : EnterEffect state (state.enter (outcome.request request .entered) request).1 := by
  cases request with
  | preparePairing =>
      have unpaired := unpaired rfl
      simp only [ControlState.enter]
      split
      · rename_i silent
        rw [Bool.and_eq_true] at silent
        have paired : outcome.paired = true := silent.2
        rw [unpaired silent.1] at paired
        contradiction
      · exact ⟨rfl, rfl, rfl, rfl, rfl⟩
  | stopApplication =>
      simp only [ControlState.enter]
      split
      · exact ⟨rfl, rfl, rfl, rfl, rfl⟩
      · exact ⟨rfl, rfl, rfl, rfl, streamStop_running state⟩
  | disconnectHost =>
      simp only [ControlState.enter]
      split
      · exact ⟨rfl, rfl, rfl, rfl, rfl⟩
      · split
        · exact ⟨rfl, rfl, rfl, rfl, streamStop_running state⟩
        · exact ⟨rfl, rfl, rfl, rfl, rfl⟩
  | connectHost | pairCurrentHost | getApplications | startApplication =>
      simp only [ControlState.enter]
      split <;> exact ⟨rfl, rfl, rfl, rfl, rfl⟩

/-- Whatever a request goes on to, the checks it has passed allow. -/
theorem enter_mirrors {state : ControlState}
    (ofStream : state.streamRunning = true → OfStream state) (outcome : CallOutcome)
    (request : HostRequest)
    : ∃ point,
        (state.enter (outcome.request request .entered) request).1.holder
          = some (.request request point)
        ∧ RequestMirrors (state.enter (outcome.request request .entered) request).1
            (state.emitted outcome request .entered) request point := by
  cases request with
  | connectHost host =>
      simp only [ControlState.enter]
      split
      · refine ⟨.leaving, rfl, ?_⟩
        cases failed : state.canConnect outcome && !outcome.succeeds with
        | true =>
            simp only [ControlState.canConnect, Bool.and_eq_true, Bool.not_eq_true'] at failed
            exact .inr failed.1.2
        | false =>
            refine .inl ?_
            simp only [ControlState.emitted, failed, Bool.false_eq_true, if_false]
            exact neutral_none
      · rename_i passed
        simp only [Bool.or_eq_true, not_or, Bool.not_eq_true] at passed
        have succeeds : (!(outcome.argument && outcome.succeeds)) = false := passed.1.1.1
        simp only [Bool.not_eq_false', Bool.and_eq_true] at succeeds
        refine ⟨.working, rfl, ?_, passed.2⟩
        simp [ControlState.emitted, succeeds.2]
  | preparePairing =>
      have neutral : Neutral (state.emitted outcome .preparePairing .entered) := by
        simp only [ControlState.emitted]
        split <;> exact fun _ _ => rfl
      simp only [ControlState.enter]
      split <;> exact ⟨.leaving, rfl, .inl neutral⟩
  | pairCurrentHost =>
      simp only [ControlState.enter]
      split
      · rename_i passed
        simp only [Bool.and_eq_true, beq_iff_eq] at passed
        refine ⟨.working, rfl, rfl, ?_, passed.1.2, passed.1.1.2⟩
        by_contra running
        have connected := (ofStream ((Bool.not_eq_false _).mp running)).2
        rw [passed.1.2] at connected
        simp at connected
      · exact ⟨.leaving, rfl, .inl neutral_none⟩
  | getApplications =>
      have neutral : Neutral (state.emitted outcome .getApplications .entered) := by
        simp only [ControlState.emitted]
        split <;> exact fun _ _ => rfl
      simp only [ControlState.enter]
      split
      · exact ⟨.leaving, rfl, .inl neutral⟩
      · rename_i passed
        simp only [Bool.or_eq_true, not_or, Bool.not_eq_true] at passed
        refine ⟨.working, rfl, ?_, trivial⟩
        simp [ControlState.emitted, passed]
  | startApplication application =>
      simp only [ControlState.enter]
      split
      · exact ⟨.leaving, rfl, .inl neutral_none⟩
      · rename_i passed
        simp only [Bool.or_eq_true, not_or, Bool.not_eq_true, Bool.not_eq_false',
          bne_eq_false_iff_eq] at passed
        obtain ⟨⟨⟨⟨⟨-, hosted⟩, -⟩, paired⟩, -⟩, -⟩ := passed
        exact ⟨.starting, rfl, rfl, hosted, .inl paired⟩
  | stopApplication =>
      simp only [ControlState.enter]
      split <;> exact ⟨.leaving, rfl, .inl neutral_none⟩
  | disconnectHost =>
      simp only [ControlState.enter]
      split
      · exact ⟨.leaving, rfl, .inl neutral_none⟩
      · split <;> exact ⟨.stopped, rfl, rfl⟩

theorem neutral_emitted_entered (state : ControlState) (outcome : CallOutcome)
    {request : HostRequest} (other : ∀ host, request ≠ .connectHost host)
    : Neutral (state.emitted outcome request .entered) := by
  cases request with
  | connectHost host => exact absurd rfl (other host)
  | preparePairing | getApplications =>
      simp only [ControlState.emitted]
      split <;> exact fun _ _ => rfl
  | pairCurrentHost | startApplication | stopApplication | disconnectHost =>
      exact neutral_none

theorem neutral_emitted_working (state : ControlState) (outcome : CallOutcome)
    {request : HostRequest} (other : ∀ host, request ≠ .connectHost host)
    (unpairing : request ≠ .pairCurrentHost)
    : Neutral (state.emitted outcome request .working) := by
  cases request with
  | connectHost host => exact absurd rfl (other host)
  | pairCurrentHost => exact absurd rfl unpairing
  | getApplications =>
      simp only [ControlState.emitted]
      split <;> exact fun _ _ => rfl
  | preparePairing | startApplication | stopApplication | disconnectHost => exact neutral_none

/-- Only entering a request and its network part emit events. -/
theorem emitted_eq_none (state : ControlState) (outcome : CallOutcome) (request : HostRequest)
    {point : RequestPoint} (entered : point ≠ .entered) (working : point ≠ .working)
    : state.emitted outcome request point = none := by
  cases point with
  | entered => exact absurd rfl entered
  | working => exact absurd rfl working
  | starting | creating | startFailed | stopped | scheduling | scheduled | notScheduled
  | leaving => cases request <;> rfl

/-- The step does not have the adapter told of a failure that left a connection alone, nor
the API told of a pairing that the adapter is not.
-/
def Reported (state : ControlState) (outcome : CallOutcome) : HostRequest → RequestPoint → Prop
  | .connectHost _, .entered =>
      state.canConnect outcome = true → outcome.succeeds = true ∨ state.mirror = {}
  | .preparePairing, .entered =>
      state.canPreparePairing outcome = true → outcome.paired = false
  | _, _ => True

namespace MirrorInvariant

variable {trace labels : List ControlLabel} {state : MirrorState} {api : ControlState}
  {request : HostRequest} {outcome : CallOutcome}

theorem entered (invariant : MirrorInvariant trace state)
    (holder : state.api.holder = some (.request request .entered))
    (silent : state.requestEvent = none)
    (reported : Reported state.api outcome request .entered)
    (control
      : ControlInvariant (trace ++ labels)
          (state.api.enter (outcome.request request .entered) request).1)
    : MirrorInvariant (trace ++ labels)
        { state with
          api := (state.api.enter (outcome.request request .entered) request).1
          requestEvent := state.api.emitted outcome request .entered } := by
  have before := owed_of_silent silent (by rw [holder]; simp)
  have effect := enter_effect state.api outcome request (by rintro rfl; exact reported)
  obtain ⟨point, held, mirrors⟩ := enter_mirrors invariant.ofStream outcome request
  have later : HolderMirrors _ _ (some (.request request point)) := mirrors
  rw [← held] at later
  have quietly
      : Neutral (state.api.emitted outcome request .entered)
        → MirrorInvariant (trace ++ labels)
            { state with
              api := (state.api.enter (outcome.request request .entered) request).1
              requestEvent := state.api.emitted outcome request .entered } := by
    intro neutral
    refine invariant.keep control effect.handling effect.connection effect.host effect.active
      (fun runs => .inl (effect.running.symm.trans runs)) later ?_
      (neutral_owed_of_request held neutral)
    rw [before]
    exact neutral_none
  by_cases connects : ∃ host, request = .connectHost host
  · obtain ⟨host, rfl⟩ := connects
    cases failed : state.api.canConnect outcome && !outcome.succeeds with
    | false =>
        refine quietly ?_
        simp only [ControlState.emitted, failed, Bool.false_eq_true, if_false]
        exact neutral_none
    | true =>
        rw [Bool.and_eq_true, Bool.not_eq_true'] at failed
        have blank := (reported failed.1).resolve_left (by simp [failed.2])
        have quiet : state.api.streamRunning = false := by
          have checks := failed.1
          simp only [ControlState.canConnect, Bool.and_eq_true, Bool.not_eq_true'] at checks
          exact checks.2
        have view : ∀ after, EnterEffect state.api after → after.mirror = {} := by
          intro after effect
          rw [← blank]
          simp only [ControlState.mirror, effect.connection, effect.host]
        refine invariant.report control quiet (effect.running.trans quiet)
          ?_ later before ?_
        · intro streaming
          rw [effect.connection] at streaming
          exact effect.active.trans (invariant.active streaming)
        · rw [view _ effect, blank, MirrorState.owed, if_neg (by rw [held]; simp)]
          simp [ControlState.emitted, failed, Adapter.receive, Adapter.forwardEvent]
  · exact quietly (neutral_emitted_entered _ _ fun host same => connects ⟨host, same⟩)

/-- The network part of connecting and pairing owes the event for what it changed. -/
theorem working (invariant : MirrorInvariant trace state)
    (holder : state.api.holder = some (.request request .working))
    (silent : state.requestEvent = none)
    (control
      : ControlInvariant (trace ++ labels)
          ((state.api.finishWork (outcome.request request .working) request).moveTo request
            .leaving))
    : MirrorInvariant (trace ++ labels)
        { state with
          api :=
            (state.api.finishWork (outcome.request request .working) request).moveTo request
              .leaving
          requestEvent := state.api.emitted outcome request .working } := by
  have before := owed_of_silent silent (by rw [holder]; simp)
  have mirrors := invariant.holder
  rw [holder] at mirrors
  have owes
      : ∀ {after event}, after.holder = some (.request request .leaving)
        → MirrorState.owed { state with api := after, requestEvent := event } = event := by
    intro after event held
    rw [MirrorState.owed, if_neg (by rw [held]; simp)]
  cases request with
  | connectHost host =>
      have quiet : state.api.streamRunning = false := mirrors.2
      have still
          : ∀ result, ((state.api.finishWork result (.connectHost host)).moveTo
              (.connectHost host) .leaving).streamRunning = false := by
        intro result
        simp only [ControlState.finishWork]
        split <;> exact quiet
      refine invariant.report control quiet (still _) ?_ (.inr (still _)) before ?_
      · simp only [ControlState.finishWork]
        split
        · simp only [ControlState.moveTo]
          split <;> exact fun streaming => by cases streaming
        · exact fun streaming => by cases streaming
      · rw [owes rfl]
        cases succeeds : outcome.succeeds <;>
          simp [ControlState.finishWork, CallOutcome.request, ControlState.emitted, succeeds,
            Adapter.receive, Adapter.forwardEvent, ControlState.mirror, ControlState.moveTo]
  | pairCurrentHost =>
      obtain ⟨-, quiet, ready, hosted⟩ := mirrors
      have still
          : ∀ result, ((state.api.finishWork result .pairCurrentHost).moveTo
              .pairCurrentHost .leaving).streamRunning = false := by
        intro result
        simp only [ControlState.finishWork]
        split <;> exact quiet
      refine invariant.report control quiet (still _) ?_ (.inr (still _)) before ?_
      · simp only [ControlState.finishWork]
        split
        · exact fun streaming => by cases streaming
        · intro streaming
          exact absurd (ready.symm.trans streaming) (by decide)
      · rw [owes rfl]
        cases cancelled : outcome.cancelled <;> cases pending : state.api.disconnectPending
        case false.false =>
          cases succeeds : outcome.succeeds <;>
            simp [ControlState.finishWork, CallOutcome.request, ControlState.emitted, succeeds,
              cancelled, pending, Adapter.receive, Adapter.forwardEvent, ControlState.mirror,
              ControlState.moveTo, ready, hosted]
        all_goals
          simp [ControlState.finishWork, CallOutcome.request, ControlState.emitted, cancelled,
            pending, Adapter.receive, ControlState.mirror, ControlState.moveTo]
  | preparePairing | getApplications | startApplication | stopApplication | disconnectHost =>
      refine invariant.keep control rfl rfl rfl rfl .inl (.inl ?_) ?_
        (neutral_owed_of_request rfl ?_)
      · exact neutral_emitted_working _ _ (by simp) (by simp)
      · rw [before]
        exact neutral_none
      · exact neutral_emitted_working _ _ (by simp) (by simp)

/-- A step of a request that emits nothing and leaves the connection alone. -/
theorem silently (invariant : MirrorInvariant trace state) {point next : RequestPoint}
    (holder : state.api.holder = some (.request request point))
    (silent : state.requestEvent = none) (control : ControlInvariant (trace ++ labels) api)
    (handling : api.handling = state.api.handling)
    (connection : api.connectionState = state.api.connectionState)
    (host : api.hasCurrentHost = state.api.hasCurrentHost)
    (active : api.streamActive = state.api.streamActive)
    (running : api.streamRunning = true → state.api.streamRunning = true ∨ OfStream api)
    (held : api.holder = some (.request request next))
    (mirrors : RequestMirrors api none request next)
    : MirrorInvariant (trace ++ labels) { state with api, requestEvent := none } := by
  refine invariant.keep control handling connection host active running ?_ ?_
    (neutral_owed_of_request held neutral_none)
  · rw [held]
    exact mirrors
  · rw [owed_of_silent silent (by rw [holder]; simp)]
    exact neutral_none

theorem requestStep {point : RequestPoint} (invariant : MirrorInvariant trace state)
    (holder : state.api.holder = some (.request request point))
    (silent : state.requestEvent = none)
    (reported : Reported state.api outcome request point)
    (taken
      : controlStep state.api (.request (outcome.request request point)) = some (api, labels))
    : MirrorInvariant (trace ++ labels)
        { state with api, requestEvent := state.api.emitted outcome request point } := by
  have control := invariant.control.step taken
  have mirrors := invariant.holder
  rw [holder] at mirrors
  rw [controlStep, holder] at taken
  cases point with
  | entered =>
      obtain ⟨rfl, -⟩ := Prod.mk.inj (Option.some.inj taken)
      exact invariant.entered holder silent reported control
  | working =>
      obtain ⟨rfl, -⟩ := Prod.mk.inj (Option.some.inj taken)
      exact invariant.working holder silent control
  | starting =>
      obtain ⟨-, hosted, connected⟩ := mirrors
      rw [emitted_eq_none _ _ _ (by simp) (by simp)]
      simp only [ControlState.requestStep] at taken
      split at taken
      · obtain ⟨rfl, -⟩ := Prod.mk.inj (Option.some.inj taken)
        exact invariant.silently holder silent control rfl rfl rfl rfl .inl rfl
          ⟨rfl, hosted, connected⟩
      · obtain ⟨stream, shown, -, rfl, -⟩ := streamStep_eq_some taken
        exact invariant.silently holder silent control rfl rfl rfl rfl
          (fun _ => .inr ⟨hosted, connected⟩) rfl ⟨rfl, hosted, connected⟩
  | creating =>
      obtain ⟨-, hosted, connected⟩ := mirrors
      rw [emitted_eq_none _ _ _ (by simp) (by simp)]
      obtain ⟨stream, shown, -, rfl, -⟩ := streamStep_eq_some taken
      refine invariant.silently holder silent control rfl rfl rfl rfl
        (fun _ => .inr ⟨hosted, connected⟩) rfl ?_
      split
      · exact .inl neutral_none
      · exact ⟨rfl, hosted, connected⟩
  | startFailed =>
      obtain ⟨-, hosted, connected⟩ := mirrors
      rw [emitted_eq_none _ _ _ (by simp) (by simp)]
      obtain ⟨rfl, -⟩ := Prod.mk.inj (Option.some.inj taken)
      refine invariant.silently holder silent control rfl ?_ rfl rfl .inl rfl
        (.inl neutral_none)
      -- A stream that runs is active, so the state is put back to what it is.
      simp only [ControlState.moveTo]
      split
      · rfl
      · rename_i inactive
        rcases connected with paired | streaming
        · exact paired.symm
        · exact absurd (invariant.active streaming) inactive
  | stopped =>
      rw [emitted_eq_none _ _ _ (by simp) (by simp)]
      simp only [ControlState.requestStep] at taken
      split at taken
      · obtain ⟨rfl, -⟩ := Prod.mk.inj (Option.some.inj taken)
        exact invariant.silently holder silent control rfl rfl rfl rfl .inl rfl
          (.inl neutral_none)
      · obtain ⟨rfl, -⟩ := Prod.mk.inj (Option.some.inj taken)
        exact invariant.silently holder silent control rfl rfl rfl rfl .inl rfl rfl
  | scheduling =>
      rw [emitted_eq_none _ _ _ (by simp) (by simp)]
      simp only [ControlState.requestStep] at taken
      split at taken
      · obtain ⟨rfl, -⟩ := Prod.mk.inj (Option.some.inj taken)
        exact invariant.silently holder silent control rfl rfl rfl rfl .inl rfl rfl
      · obtain ⟨rfl, -⟩ := Prod.mk.inj (Option.some.inj taken)
        exact invariant.silently holder silent control rfl rfl rfl rfl .inl rfl rfl
  | scheduled | notScheduled =>
      rw [emitted_eq_none _ _ _ (by simp) (by simp)]
      obtain ⟨rfl, -⟩ := Prod.mk.inj (Option.some.inj taken)
      exact invariant.silently holder silent control rfl rfl rfl rfl .inl rfl
        (.inl neutral_none)
  | leaving =>
      rw [emitted_eq_none _ _ _ (by simp) (by simp)]
      obtain ⟨rfl, -⟩ := Prod.mk.inj (Option.some.inj taken)
      refine invariant.keep control rfl rfl rfl rfl .inl rfl ?_ neutral_none
      rw [owed_of_silent silent (by rw [holder]; simp)]
      exact neutral_none

-----------------------------------------------------------------------------------------
-- Calls, the cleanup worker and callbacks
-----------------------------------------------------------------------------------------

theorem call (invariant : MirrorInvariant trace state) (request : HostRequest)
    : MirrorInvariant (trace ++ (state.api.call request).2)
        { state with api := (state.api.call request).1 } := by
  have control := invariant.control.call request
  unfold ControlState.call at control ⊢
  cases holder : state.api.holder with
  | some other =>
      rw [holder] at control
      exact { invariant with control }
  | none =>
      rw [holder] at control
      have silent : state.requestEvent = none := by
        have mirrors := invariant.holder
        rwa [holder] at mirrors
      have nothing : state.owed = none := owed_of_silent silent (by rw [holder]; simp)
      dsimp only at control ⊢
      split at control
      · rename_i refused
        rw [if_pos refused]
        exact { invariant with control }
      · rename_i admitted
        rw [if_neg admitted]
        refine invariant.keep control rfl rfl rfl rfl .inl silent ?_
          (neutral_owed_of_request rfl ?_)
        · rw [nothing]
          exact neutral_none
        · rw [silent]
          exact neutral_none

theorem worker (invariant : MirrorInvariant trace state) (silent : state.requestEvent = none)
    (taken : controlStep state.api .worker = some (api, labels))
    : MirrorInvariant (trace ++ labels)
        { state with
          api
          requestEvent :=
            if state.api.holder = some (.worker .publishing) then some .connectionClosed
            else none } := by
  have control := invariant.control.step taken
  have mirrors := invariant.holder
  simp only [controlStep, ControlState.workerStep] at taken
  split at taken
  · rename_i holder
    have nothing : state.owed = none := owed_of_silent silent (by rw [holder]; simp)
    split at taken
    · contradiction
    · obtain ⟨rfl, -⟩ := taken
      rw [if_neg (by rw [holder]; simp)]
      refine invariant.keep control rfl rfl rfl rfl .inl rfl ?_ neutral_none
      rw [nothing]
      exact neutral_none
  · rename_i holder
    have nothing : state.owed = none := owed_of_silent silent (by rw [holder]; simp)
    rw [if_neg (by rw [holder]; simp)]
    split at taken
    · obtain ⟨rfl, -⟩ := taken
      refine invariant.keep control rfl rfl rfl rfl .inl ?_ ?_ ?_
      · rw [holder]
        rfl
      · rw [nothing]
        exact neutral_none
      · rw [MirrorState.owed, if_neg (by rw [holder]; simp)]
        exact neutral_none
    · rename_i ended
      obtain ⟨rfl, -⟩ := taken
      refine invariant.keep control rfl rfl rfl rfl .inl
        ⟨rfl, (Bool.not_eq_true _).mp ended⟩ ?_ neutral_none
      rw [nothing]
      exact neutral_none
  · rename_i holder
    have nothing : state.owed = none := owed_of_silent silent (by rw [holder]; simp)
    rw [holder] at mirrors
    rw [if_neg (by rw [holder]; simp)]
    obtain ⟨rfl, -⟩ := taken
    exact invariant.report control mirrors.2 mirrors.2 (fun streaming => by cases streaming)
      ⟨rfl, mirrors.2⟩ nothing rfl
  · rename_i holder
    rw [holder] at mirrors
    rw [if_pos holder]
    obtain ⟨rfl, -⟩ := taken
    have owes : state.owed = some .connectionClosed := if_pos holder
    have mirrored := invariant.mirrored
    rw [MirrorState.caughtUp, owes] at mirrored
    exact ⟨control, invariant.published, invariant.ofStream, invariant.active, mirrors.2, mirrored⟩
  · rename_i holder
    have nothing : state.owed = none := owed_of_silent silent (by rw [holder]; simp)
    rw [if_neg (by rw [holder]; simp)]
    obtain ⟨rfl, -⟩ := taken
    refine invariant.keep control rfl rfl rfl rfl .inl rfl ?_ neutral_none
    rw [nothing]
    exact neutral_none
  · contradiction

theorem handler (invariant : MirrorInvariant trace state) (silent : state.streamEvent = none)
    (taken : controlStep state.api .handler = some (api, labels))
    : MirrorInvariant (trace ++ labels) { state with api } := by
  have control := invariant.control.step taken
  simp only [controlStep] at taken
  split at taken
  · rename_i event handled
    obtain ⟨rfl, -⟩ := taken
    cases event with
    | started | stopped | failed =>
        exact ⟨control, fun emitted => absurd silent emitted, invariant.ofStream,
          invariant.active, invariant.holder, invariant.mirrored⟩
  · contradiction

theorem forwardRequest (invariant : MirrorInvariant trace state) {type : MoonlightEventType}
    (emitted : state.requestEvent = some type)
    : MirrorInvariant trace
        { state with
          adapter := state.adapter.forwardEvent state.api.connectionState type
          requestEvent := none } := by
  have mirrors := invariant.holder
  obtain ⟨holder, owes⟩
      : HolderMirrors state.api none state.api.holder
        ∧ (Neutral (some type) ∨ state.api.streamRunning = false)
        ∧ state.api.holder ≠ some (.worker .publishing) := by
    rw [emitted] at mirrors
    cases held : state.api.holder with
    | none =>
        rw [held] at mirrors
        exact nomatch mirrors
    | some held' =>
        rw [held] at mirrors
        cases held' with
        | request request point =>
            cases point with
            | leaving => exact ⟨.inl neutral_none, mirrors, by simp⟩
            | working | starting | creating | startFailed => exact nomatch mirrors.1
            | entered | stopped | scheduling | scheduled | notScheduled => exact nomatch mirrors
        | worker point =>
            cases point with
            | waiting => exact nomatch mirrors
            | cleaning | publishing => exact nomatch mirrors.1
            | closing => exact ⟨mirrors, .inr mirrors, by simp⟩
        | shutdown point => exact absurd mirrors id
  have mirrored := invariant.mirrored
  rw [MirrorState.caughtUp, MirrorState.owed, if_neg owes.2, emitted] at mirrored
  refine ⟨invariant.control, invariant.published, invariant.ofStream, invariant.active, holder, ?_⟩
  rw [← mirrored, MirrorState.caughtUp, MirrorState.owed, if_neg owes.2]
  cases streaming : state.streamEvent with
  | none => rfl
  | some other =>
      have running := invariant.control.running_of_handling
        (invariant.published (by simp [streaming]))
      have neutral := owes.1.resolve_right (by simp [running])
      have same := neutral state.adapter state.api.connectionState
      simp only [Adapter.receive] at same ⊢
      rw [same]
      exact (neutral _ _).symm

theorem forwardStream (invariant : MirrorInvariant trace state) {type : MoonlightEventType}
    (emitted : state.streamEvent = some type)
    : MirrorInvariant trace
        { state with
          adapter := state.adapter.forwardEvent state.api.connectionState type
          streamEvent := none } := by
  have mirrored := invariant.mirrored
  rw [MirrorState.caughtUp, emitted] at mirrored
  exact ⟨invariant.control, fun silent => absurd rfl silent, invariant.ofStream,
    invariant.active, invariant.holder, mirrored⟩

end MirrorInvariant

-----------------------------------------------------------------------------------------
-- The adapter and the API
-----------------------------------------------------------------------------------------

/-- The step reports what it changes: a request by `Reported`, and no call returns while another
thread has yet to emit an event that changes the adapter.
-/
def MirrorState.ReportedStep (state : MirrorState) (choice : MirrorChoice) : Prop :=
  (match choice, state.api.holder with
    | .request outcome, some (.request request point) => Reported state.api outcome request point
    | _, _ => True)
  ∧ (state.returns choice = true → state.Announced)

/-- Every reported step keeps the invariant. -/
theorem MirrorInvariant.step {trace labels : List ControlLabel} {state after : MirrorState}
    {choice : MirrorChoice} (invariant : MirrorInvariant trace state)
    (reported : state.ReportedStep choice)
    (taken : mirrorStep state choice = some (after, labels))
    : MirrorInvariant (trace ++ labels) after := by
  cases choice with
  | call request =>
      simp only [mirrorStep, controlStep, Option.map_some] at taken
      split at taken
      · obtain ⟨rfl, rfl⟩ := Prod.mk.inj (Option.some.inj taken)
        exact invariant.call request
      · obtain ⟨rfl, rfl⟩ := Prod.mk.inj (Option.some.inj taken)
        rwa [List.append_nil]
  | request outcome =>
      simp only [mirrorStep] at taken
      split at taken
      · rename_i request point silent holder
        obtain ⟨⟨api, emitted⟩, stepped, same⟩ := Option.map_eq_some_iff.mp taken
        obtain ⟨rfl, rfl⟩ := Prod.mk.inj same
        simp only [MirrorState.ReportedStep, holder] at reported
        exact invariant.requestStep holder silent reported.1 stepped
      · contradiction
  | worker =>
      simp only [mirrorStep] at taken
      split at taken
      · contradiction
      · rename_i silent
        obtain ⟨⟨api, emitted⟩, stepped, same⟩ := Option.map_eq_some_iff.mp taken
        obtain ⟨rfl, rfl⟩ := Prod.mk.inj same
        exact (invariant.worker silent stepped).emitting _ _
  | session choice =>
      obtain ⟨⟨api, emitted⟩, stepped, same⟩ := Option.map_eq_some_iff.mp taken
      obtain ⟨rfl, rfl⟩ := Prod.mk.inj same
      exact invariant.session stepped
  | handler =>
      simp only [mirrorStep] at taken
      split at taken
      · contradiction
      · rename_i silent
        obtain ⟨⟨api, emitted⟩, stepped, same⟩ := Option.map_eq_some_iff.mp taken
        obtain ⟨rfl, rfl⟩ := Prod.mk.inj same
        exact invariant.handler silent stepped
  | emitRequest | emitStream =>
      simp only [mirrorStep] at taken
      split at taken
      · obtain ⟨rfl, rfl⟩ := Prod.mk.inj (Option.some.inj taken)
        rw [List.append_nil]
        exact invariant.emitting _ _
      · contradiction
  | forwardRequest =>
      simp only [mirrorStep] at taken
      split at taken
      · rename_i type owed emitted
        obtain ⟨rfl, rfl⟩ := Prod.mk.inj (Option.some.inj taken)
        rw [List.append_nil]
        exact (invariant.forwardRequest owed).emitting _ _
      · contradiction
  | forwardStream =>
      simp only [mirrorStep] at taken
      split at taken
      · rename_i type owed emitted
        obtain ⟨rfl, rfl⟩ := Prod.mk.inj (Option.some.inj taken)
        rw [List.append_nil]
        exact (invariant.forwardStream owed).emitting _ _
      · contradiction

/-- Every run that reports its changes keeps the invariant. -/
theorem mirrorInvariant_of_reaches {trace : List ControlLabel} {state : MirrorState}
    (reached
      : mirrorMachine.ReachesWhen (fun _ state choice => state.ReportedStep choice) trace state)
    : MirrorInvariant trace state := by
  refine reached.invariant MirrorInvariant ?_ ?_
  · rintro state rfl
    exact ⟨controlInvariant_of_reaches (.start rfl), fun emitted => absurd rfl emitted,
      fun runs => by simp [ControlState.streamRunning] at runs,
      fun streaming => absurd streaming (by decide), rfl, rfl⟩
  · exact fun trace state choice after emitted before reported taken => before.step reported taken

/-- The connection state and the flag of the current host are those of the API. -/
def MirrorState.Mirrors (state : MirrorState) : Prop :=
  state.adapter.connectionState = state.api.connectionState
  ∧ state.adapter.hasCurrentHost = state.api.hasCurrentHost

/-- Where what is emitted has been forwarded and the rest changes nothing, the adapter is what the
API is.
-/
theorem MirrorInvariant.mirrors {trace : List ControlLabel} {state : MirrorState}
    (invariant : MirrorInvariant trace state) (forwarded : state.AllForwarded)
    (announced : state.Announced)
    : state.Mirrors := by
  have mirrored := invariant.mirrored
  rw [MirrorState.Announced, forwarded.1, forwarded.2] at announced
  have same : state.adapter = state.api.mirror := announced.symm.trans mirrored
  exact ⟨congrArg Adapter.connectionState same, congrArg Adapter.hasCurrentHost same⟩

/-- A call that returns leaves the events and the adapter as they are. -/
theorem mirrorStep_returns {state after : MirrorState} {choice : MirrorChoice}
    {labels : List ControlLabel} (taken : mirrorStep state choice = some (after, labels))
    (returns : state.returns choice = true) (announced : state.Announced)
    : after.Announced := by
  cases choice with
  | call request =>
      simp only [mirrorStep, controlStep, Option.map_some] at taken
      split at taken
      · rename_i passed
        obtain ⟨rfl, rfl⟩ := Prod.mk.inj (Option.some.inj taken)
        simp only [MirrorState.returns, passed, Bool.not_true, Bool.false_or, Bool.or_eq_true,
          Bool.and_eq_true, bne_iff_ne] at returns
        unfold ControlState.call
        split
        · exact announced
        · rename_i free
          rw [if_pos (returns.resolve_left (by simp [free]))]
          exact announced
      · obtain ⟨rfl, rfl⟩ := Prod.mk.inj (Option.some.inj taken)
        exact announced
  | request outcome =>
      simp only [mirrorStep] at taken
      split at taken
      · rename_i request point silent holder
        obtain ⟨⟨api, shown⟩, stepped, same⟩ := Option.map_eq_some_iff.mp taken
        obtain ⟨rfl, rfl⟩ := Prod.mk.inj same
        simp only [MirrorState.returns, holder] at returns
        cases point with
        | leaving =>
            simp only [controlStep, holder, ControlState.requestStep, Option.some.injEq,
              Prod.mk.injEq] at stepped
            obtain ⟨rfl, -⟩ := stepped
            have owed := MirrorInvariant.owed_of_silent silent (by rw [holder]; simp)
            have next : state.api.emitted outcome request .leaving = none :=
              emitted_eq_none state.api outcome request (by simp) (by simp)
            simpa [MirrorState.Announced, MirrorState.owed, next, holder, silent] using announced
        | entered | working | starting | creating | startFailed | stopped | scheduling
        | scheduled | notScheduled => simp at returns
      · contradiction
  | worker | session choice | handler | emitRequest | forwardRequest | emitStream
  | forwardStream => simp [MirrorState.returns] at returns

/-- In every run that reports its changes, over every interleaving of calls, streams and the
cleanup worker: whenever a call returns and all events emitted so far have been forwarded, the
adapter is what the API is; and so it is between the calls wherever no change is unannounced.
-/
theorem adapter_mirrors_api {trace : List ControlLabel} {state : MirrorState}
    (reached
      : mirrorMachine.ReachesWhen (fun _ state choice => state.ReportedStep choice) trace state)
    : (∀ choice after labels,
        state.ReportedStep choice
        → mirrorStep state choice = some (after, labels)
        → state.returns choice = true
        → after.AllForwarded
        → after.Mirrors)
      ∧ (state.AllForwarded → state.Announced → state.Mirrors) := by
  have invariant := mirrorInvariant_of_reaches reached
  refine ⟨?_, invariant.mirrors⟩
  intro choice after labels reported taken returns forwarded
  exact (invariant.step reported taken).mirrors forwarded
    (mirrorStep_returns taken returns (reported.2 returns))

/-- The steps of a connection to a server that is paired, up to the return. -/
def connectsPaired (host : Nat) : List MirrorChoice :=
  [.call (.connectHost host), .request ⟨true, true, false, true⟩,
    .request ⟨true, true, false, true⟩, .emitRequest, .forwardRequest]

/-- A host is connected and mirrored when the call returns. -/
theorem connected_host_mirrored
    : ∃ trace state after labels,
        mirrorMachine.Reaches trace state
        ∧ mirrorStep state (.request ⟨true, true, false, true⟩) = some (after, labels)
        ∧ after.adapter.connectionState = .paired
        ∧ after.Mirrors := by
  have reached :=
    Machine.reachesWhen_run mirrorMachine (fun _ state choice => state.ReportedStep choice)
      (show mirrorMachine.initial {} from rfl) (connectsPaired 7)
      ⟨⟨trivial, fun _ => rfl⟩, ⟨fun _ => .inl rfl, fun _ => rfl⟩, ⟨trivial, fun _ => rfl⟩,
        ⟨trivial, nofun⟩, ⟨trivial, nofun⟩, trivial⟩
      rfl
  refine ⟨_, _, _, _, reached.reaches, rfl, rfl, ?_⟩
  exact (adapter_mirrors_api reached).1 (.request ⟨true, true, false, true⟩) _ _
    ⟨trivial, fun _ => rfl⟩ rfl rfl ⟨rfl, rfl⟩

/-- A second connection fails before it touches the first one. -/
theorem failed_directory_unmirrored
    : ¬∀ trace state choice after labels,
        mirrorMachine.Reaches trace state
        → mirrorStep state choice = some (after, labels)
        → state.returns choice = true
        → after.AllForwarded
        → after.Mirrors := by
  intro law
  have reached := mirrorMachine.reaches_run rfl
    (connectsPaired 7
      ++ [.request ⟨true, true, false, true⟩, .call (.connectHost 8),
        .request ⟨true, false, false, false⟩, .emitRequest, .forwardRequest])
    rfl
  have returned := law _ _ (.request ⟨true, true, false, false⟩) _ _ reached rfl rfl ⟨rfl, rfl⟩
  exact absurd returned.1 (by decide)

-- A call is refused while the cleanup worker is about to publish what it has changed.
example
    : ∃ trace state after labels,
        mirrorMachine.Reaches trace state
        ∧ mirrorStep state (.call .getApplications) = some (after, labels)
        ∧ state.returns (.call .getApplications) = true
        ∧ after.AllForwarded
        ∧ ¬ after.Mirrors := by
  have reached := mirrorMachine.reaches_run rfl
    (connectsPaired 7
      ++ [.request ⟨true, true, false, true⟩, .call .disconnectHost]
      ++ List.replicate 5 (.request ⟨true, true, false, true⟩)
      ++ [.worker, .worker, .worker])
    rfl
  exact ⟨_, _, _, _, reached, rfl, rfl, ⟨rfl, rfl⟩, fun same => absurd same.1 (by decide)⟩

end VitaMoonlight
