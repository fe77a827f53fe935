import VitaMoonlight.Api.HostControl
import VitaMoonlight.Stream.SessionLifecycle

/-! What a disconnect admits until it is closed.
A disconnect is pending while the worker it scheduled has not published CONNECTION_CLOSED.
Whoever holds the mutex, the flags say whether that is so, and a stream that is still running
then has been told to stop.
-/

namespace VitaMoonlight

open Library SessionHistory

-----------------------------------------------------------------------------------------
-- The history of the API
-----------------------------------------------------------------------------------------

/-- Whether an accepted disconnect is still to be closed, and the last admitted request with
the flags it met.
-/
structure ControlHistory where
  cleanup : Bool := false
  last : Option (HostRequest × ControlView) := none
deriving DecidableEq

/-- The history after one more label. -/
def ControlHistory.observe (past : ControlHistory) : ControlLabel → ControlHistory
  | .admitted request seen => { past with last := some (request, seen) }
  | .accepted => { past with cleanup := true }
  | .closed _ _ => { past with cleanup := false }
  | .refused _ | .notScheduled _ | .stream _ => past

def controlHistory (trace : List ControlLabel) : ControlHistory :=
  trace.foldl ControlHistory.observe {}

/-- The labels of the stream sessions. -/
def streamTrace (trace : List ControlLabel) : List StreamLabel :=
  trace.filterMap fun label =>
    match label with
    | .stream label => some label
    | _ => none

theorem controlHistory_append_stream (trace : List ControlLabel) (labels : List StreamLabel)
    : controlHistory (trace ++ labels.map .stream) = controlHistory trace := by
  induction labels generalizing trace with
  | nil => simp
  | cons label rest ih =>
      rw [List.map_cons, List.append_cons, ih]
      simp [controlHistory, ControlHistory.observe]

theorem streamTrace_append_stream (trace : List ControlLabel) (labels : List StreamLabel)
    : streamTrace (trace ++ labels.map .stream) = streamTrace trace ++ labels := by
  simp [streamTrace, List.filterMap_append, List.filterMap_map]

/-- A label may follow a trace. -/
def ControlAllowed (before : List ControlLabel) : ControlLabel → Prop
  | .admitted request _ =>
      request ≠ .disconnectHost → (controlHistory before).cleanup = false
  | .refused _ => True
  | .accepted => (controlHistory before).cleanup = false
  | .notScheduled seen =>
      (controlHistory before).cleanup = false
      ∧ seen.disconnectPending = false
      ∧ seen.workerRunning = false
      ∧ (controlHistory before).last = some (.disconnectHost, seen)
  | .closed hasCurrentHost connectionState =>
      (controlHistory before).cleanup = true
      ∧ hasCurrentHost = false
      ∧ connectionState = .disconnected
      ∧ ∀ session,
          (history session (streamTrace before)).created = true
          → (history session (streamTrace before)).Ended
  | .stream label => StreamAllowed (streamTrace before) label

/-- Labels that the sessions allow are allowed here, by induction on the labels. -/
theorem allowedAfter_stream {trace : List ControlLabel} {labels : List StreamLabel}
    (allowed : AllowedAfter StreamAllowed (streamTrace trace) labels)
    : AllowedAfter ControlAllowed trace (labels.map .stream) := by
  induction labels generalizing trace with
  | nil => trivial
  | cons label rest ih =>
      refine ⟨allowed.1, ih ?_⟩
      have shown := streamTrace_append_stream trace [label]
      rw [List.map_singleton] at shown
      rw [shown]
      exact allowed.2

-----------------------------------------------------------------------------------------
-- What holds under each holder of the mutex
-----------------------------------------------------------------------------------------

/-- The flags of the cleanup, the workers that wait, and what the trace says. -/
structure CleanupFlags (state : ControlState) (past : ControlHistory) (pending running : Bool)
    (workers : Nat) (cleanup : Bool) : Prop where
  pending : state.disconnectPending = pending
  running : state.workerRunning = running
  workers : state.workers = workers
  cleanup : past.cleanup = cleanup

/-- A stream that still runs has been told to stop. -/
def StreamTold (state : ControlState) : Prop :=
  state.stream.flags.threadRunning = true → state.stream.flags.stopRequested = true

/-- Between requests a cleanup is pending exactly when one worker waits for the mutex. -/
def Steady (state : ControlState) (past : ControlHistory) : Prop :=
  CleanupFlags state past false false 0 false
  ∨ CleanupFlags state past true true 1 true ∧ StreamTold state

/-- The points that a request other than a disconnect can be at. -/
def RequestPoint.ordinary : RequestPoint → Bool
  | stopped | scheduling | scheduled | notScheduled => false
  | entered | working | starting | creating | startFailed | leaving => true

/-- What holds at the points of a disconnect. -/
def DisconnectConsistent (state : ControlState) (past : ControlHistory) : RequestPoint → Prop
  | .entered => Steady state past ∧ past.last = some (.disconnectHost, state.view)
  | .stopped =>
      CleanupFlags state past false false 0 false
      ∧ StreamTold state
      ∧ past.last = some (.disconnectHost, state.view)
  | .scheduling =>
      CleanupFlags state past false true 0 false
      ∧ StreamTold state
      ∧ past.last = some (.disconnectHost, { state.view with workerRunning := false })
  | .scheduled => CleanupFlags state past false true 1 true ∧ StreamTold state
  | .notScheduled =>
      CleanupFlags state past false false 0 false
      ∧ past.last = some (.disconnectHost, state.view)
  | .leaving => Steady state past
  | .working | .starting | .creating | .startFailed => False

/-- What holds under a holder of the mutex. -/
def HolderConsistent (state : ControlState) (past : ControlHistory)
    : Option ControlHolder → Prop
  | none => state.stream.launching = [] ∧ Steady state past
  | some (.request request point) =>
      if request = .disconnectHost then
        state.stream.launching = [] ∧ DisconnectConsistent state past point
      else
        (point ≠ .creating → state.stream.launching = [])
        ∧ point.ordinary = true
        ∧ CleanupFlags state past false false 0 false
  | some (.worker point) =>
      state.stream.launching = []
      ∧ match point with
        | .waiting => CleanupFlags state past true true 0 true ∧ StreamTold state
        | .cleaning =>
            CleanupFlags state past true true 0 true ∧ state.streamRunning = false
        | .publishing =>
            CleanupFlags state past true true 0 true
            ∧ state.streamRunning = false
            ∧ state.hasCurrentHost = false
            ∧ state.connectionState = .disconnected
        | .closing => CleanupFlags state past true true 0 false
  | some (.shutdown _) =>
      state.stream.launching = [] ∧ CleanupFlags state past false false 0 false

/-- What holds of every run. -/
structure ControlInvariant (trace : List ControlLabel) (state : ControlState) : Prop where
  permitted : Guarded ControlAllowed trace
  stream : StreamInvariant (streamTrace trace) state.stream
  handling : state.handling ≠ none → state.stream.owners ≠ []
  holder : HolderConsistent state (controlHistory trace) state.holder

/-- Labels of the stream sessions keep the invariant if the sessions and the holder do. -/
theorem ControlInvariant.emitStream {trace : List ControlLabel} {labels : List StreamLabel}
    {state after : ControlState} (invariant : ControlInvariant trace state)
    (stream : StreamInvariant (streamTrace trace ++ labels) after.stream)
    (handling : after.handling ≠ none → after.stream.owners ≠ [])
    (holder : HolderConsistent after (controlHistory trace) after.holder)
    : ControlInvariant (trace ++ labels.map .stream) after := by
  constructor
  · exact invariant.permitted.append (allowedAfter_stream stream.permitted.allowedAfter)
  · rwa [streamTrace_append_stream]
  · exact handling
  · rwa [controlHistory_append_stream]

/-- A silent step keeps the invariant if it leaves the sessions alone. -/
theorem ControlInvariant.silent {trace : List ControlLabel} {state after : ControlState}
    (invariant : ControlInvariant trace state) (stream : after.stream = state.stream)
    (handling : after.handling = state.handling)
    (holder : HolderConsistent after (controlHistory trace) after.holder)
    : ControlInvariant (trace ++ []) after := by
  rw [List.append_nil]
  refine ⟨invariant.permitted, ?_, ?_, holder⟩
  · rw [stream]
    exact invariant.stream
  · rw [stream, handling]
    exact invariant.handling

/-- So does an allowed label of the API. -/
theorem ControlInvariant.emit {trace : List ControlLabel} {label : ControlLabel}
    {state after : ControlState} (invariant : ControlInvariant trace state)
    (allowed : ControlAllowed trace label) (own : ∀ shown, label ≠ .stream shown)
    (stream : after.stream = state.stream) (handling : after.handling = state.handling)
    (holder
      : HolderConsistent after ((controlHistory trace).observe label) after.holder)
    : ControlInvariant (trace ++ [label]) after := by
  constructor
  · exact invariant.permitted.snoc allowed
  · have same : streamTrace (trace ++ [label]) = streamTrace trace := by
      cases label with
      | stream shown => exact absurd rfl (own shown)
      | admitted | refused | accepted | notScheduled | closed => simp [streamTrace]
    rw [same, stream]
    exact invariant.stream
  · rw [stream, handling]
    exact invariant.handling
  · have same : controlHistory (trace ++ [label]) = (controlHistory trace).observe label := by
      simp [controlHistory]
    rwa [same]

-----------------------------------------------------------------------------------------
-- Steps of the stream sessions
-----------------------------------------------------------------------------------------

/-- Passing on a cancellation leaves the stop and the owner alone. -/
theorem StreamFlags.interruptCommonStartupLocked_keeps_stop (flags : StreamFlags)
    (session : Nat)
    : (flags.interruptCommonStartupLocked session).1.stopRequested = flags.stopRequested
      ∧ (flags.interruptCommonStartupLocked session).1.threadRunning = flags.threadRunning := by
  unfold interruptCommonStartupLocked
  split <;> exact ⟨rfl, rfl⟩

/-- The owner takes back a stop only when its session is over. -/
theorem ownerStep_keeps_stop {session : Nat} {flags after : StreamFlags} {point : OwnerPoint}
    {action : OwnerAction} {next : Option OwnerPoint} {labels : List StreamLabel}
    (taken : ownerStep session flags point action = some (after, next, labels))
    : after.stopRequested = flags.stopRequested ∨ after.threadRunning = false := by
  unfold ownerStep at taken
  split at taken
  case h_3 =>
    obtain ⟨rfl, -, -⟩ := taken
    exact .inl (StreamFlags.interruptCommonStartupLocked_keeps_stop _ _).1
  case h_15 =>
    obtain ⟨rfl, -, -⟩ := taken
    exact .inr rfl
  -- The steps with a test: the checks, the two ways into and out of the library, the loop.
  case h_1 | h_2 | h_7 | h_10 =>
    repeat' split at taken
    all_goals first | contradiction | (obtain ⟨rfl, -, -⟩ := taken; exact .inl rfl)
  all_goals first | contradiction | (obtain ⟨rfl, -, -⟩ := taken; exact .inl rfl)

/-- What the steps of the sessions leave alone, whoever holds the mutex. -/
structure SessionFrame (state after : ControlState) : Prop where
  view : after.view = state.view
  workers : after.workers = state.workers
  launching : after.stream.launching = state.stream.launching
  told : StreamTold state → StreamTold after
  quiet
    : state.streamRunning = false
      → after.streamRunning = false ∧ after.connectionState = state.connectionState

theorem CleanupFlags.frame {state after : ControlState} {past : ControlHistory}
    {pending running cleanup : Bool} {workers : Nat} (view : after.view = state.view)
    (same : after.workers = state.workers)
    (flags : CleanupFlags state past pending running workers cleanup)
    : CleanupFlags after past pending running workers cleanup :=
  ⟨(congrArg ControlView.disconnectPending view).trans flags.pending,
    (congrArg ControlView.workerRunning view).trans flags.running, same.trans flags.workers,
    flags.cleanup⟩

theorem Steady.frame {state after : ControlState} {past : ControlHistory}
    (frame : SessionFrame state after) (steady : Steady state past)
    : Steady after past := by
  rcases steady with flags | ⟨flags, told⟩
  · exact .inl (flags.frame frame.view frame.workers)
  · exact .inr ⟨flags.frame frame.view frame.workers, frame.told told⟩

/-- Steps of the sessions keep what holds under every holder of the mutex. -/
theorem HolderConsistent.frame {state after : ControlState} {past : ControlHistory}
    {holder : Option ControlHolder} (frame : SessionFrame state after)
    (consistent : HolderConsistent state past holder)
    : HolderConsistent after past holder := by
  have keep
      : ∀ {pending running workers cleanup},
          CleanupFlags state past pending running workers cleanup
          → CleanupFlags after past pending running workers cleanup :=
    fun flags => flags.frame frame.view frame.workers
  cases holder with
  | none => exact ⟨frame.launching.trans consistent.1, consistent.2.frame frame⟩
  | some holder =>
      cases holder with
      | request request point =>
          simp only [HolderConsistent] at consistent ⊢
          split
          · rename_i disconnects
            rw [if_pos disconnects] at consistent
            refine ⟨frame.launching.trans consistent.1, ?_⟩
            have inner := consistent.2
            cases point with
            | entered => exact ⟨inner.1.frame frame, by rw [frame.view]; exact inner.2⟩
            | stopped =>
                exact ⟨keep inner.1, frame.told inner.2.1, by rw [frame.view]; exact inner.2.2⟩
            | scheduling =>
                exact ⟨keep inner.1, frame.told inner.2.1, by rw [frame.view]; exact inner.2.2⟩
            | scheduled => exact ⟨keep inner.1, frame.told inner.2⟩
            | notScheduled => exact ⟨keep inner.1, by rw [frame.view]; exact inner.2⟩
            | leaving => exact inner.frame frame
            | working | starting | creating | startFailed => exact inner
          · rename_i ordinary
            rw [if_neg ordinary] at consistent
            exact ⟨fun other => frame.launching.trans (consistent.1 other), consistent.2.1,
              keep consistent.2.2⟩
      | worker point =>
          refine ⟨frame.launching.trans consistent.1, ?_⟩
          have inner := consistent.2
          cases point with
          | waiting => exact ⟨keep inner.1, frame.told inner.2⟩
          | cleaning => exact ⟨keep inner.1, (frame.quiet inner.2).1⟩
          | publishing =>
              obtain ⟨flags, quiet, noHost, disconnected⟩ := inner
              have host := congrArg ControlView.hasCurrentHost frame.view
              exact ⟨keep flags, (frame.quiet quiet).1, host.trans noHost,
                (frame.quiet quiet).2.trans disconnected⟩
          | closing => exact keep inner
      | shutdown point => exact ⟨frame.launching.trans consistent.1, keep consistent.2⟩

/-- A stop reaches a running stream and leaves everything else alone. -/
theorem streamStop_frame (state : ControlState)
    : SessionFrame state state.streamStop.1 ∧ StreamTold state.streamStop.1 := by
  have told : StreamTold state.streamStop.1 := by
    intro running
    simp only [ControlState.streamStop, StreamFlags.stop] at running ⊢
    split at running
    · rename_i was_running
      rw [if_pos was_running]
      exact (StreamFlags.interruptCommonStartupLocked_keeps_stop _ _).1
    · rename_i idle
      exact absurd running idle
  refine ⟨⟨rfl, rfl, rfl, fun _ => told, fun quiet => ?_⟩, told⟩
  simp only [ControlState.streamRunning] at quiet
  simp [ControlState.streamRunning, ControlState.streamStop, StreamFlags.stop, quiet]

/-- The stop of the machine is that of the source. -/
theorem streamInvariant_streamStop {trace : List StreamLabel} {state : ControlState}
    (invariant : StreamInvariant trace state.stream)
    : StreamInvariant
        (trace ++ (state.stream.flags.stop state.stream.sessions).2)
        state.streamStop.1.stream :=
  invariant.stop rfl

theorem publishedEvent_stop (flags : StreamFlags) (session : Nat)
    : ControlState.publishedEvent (flags.stop session).2 = none := by
  unfold StreamFlags.stop
  split
  · rfl
  · rfl

theorem publishedEvent_terminated (flags : StreamFlags) (session : Nat)
    : ControlState.publishedEvent (if flags.threadRunning = true then [.terminated session] else [])
      = none := by
  split
  · rfl
  · rfl

/-- An owner's step leaves the starts alone and keeps a requested stop while the session is
alive; the thread is still there when it publishes an event.
-/
theorem ownerStep_frame {trace : List StreamLabel} {state after : StreamState} {index : Nat}
    {action : OwnerAction} {labels : List StreamLabel} (invariant : StreamInvariant trace state)
    (taken : streamStep state (.owner index action) = some (after, labels))
    : after.launching = state.launching
      ∧ state.flags.threadRunning = true
      ∧ (after.flags.stopRequested = state.flags.stopRequested
        ∨ after.flags.threadRunning = false)
      ∧ (ControlState.publishedEvent labels ≠ none → after.owners ≠ []) := by
  obtain ⟨point, flags, left, stepped, -, launching, alive, consistent, rfl⟩ :=
    invariant.owner_cases taken
  refine ⟨rfl, alive.running, ownerStep_keeps_stop stepped, fun published => ?_⟩
  cases left with
  | some next => exact List.cons_ne_nil _ _
  | none =>
      -- An owner that exits publishes nothing.
      obtain ⟨rfl, -⟩ := ownerStep_exits alive consistent stepped
      exact absurd rfl published

/-- Steps of the sessions keep the invariant. -/
theorem ControlInvariant.session {trace : List ControlLabel} {labels : List ControlLabel}
    {state after : ControlState} {choice : StreamChoice}
    (invariant : ControlInvariant trace state)
    (taken : state.sessionStep choice = some (after, labels))
    : ControlInvariant (trace ++ labels) after := by
  cases choice with
  | start => simp [ControlState.sessionStep] at taken
  | create index succeeds => simp [ControlState.sessionStep] at taken
  | stop =>
      have stopped : (after, labels) = (state.streamStop.1, state.streamStop.2) := by
        simp only [ControlState.sessionStep, streamStep, Bool.not_true, Bool.false_eq_true,
          if_false, publishedEvent_stop] at taken
        exact (Option.some.inj taken).symm
      obtain ⟨rfl, rfl⟩ := Prod.mk.inj stopped
      exact invariant.emitStream (streamInvariant_streamStop invariant.stream)
        invariant.handling (invariant.holder.frame (streamStop_frame state).1)
  | terminated result =>
      simp only [ControlState.sessionStep, streamStep, Bool.not_true, Bool.false_eq_true,
        if_false, publishedEvent_terminated] at taken
      obtain ⟨rfl, rfl⟩ := taken
      have frame
          : SessionFrame state
              { state with stream := { state.stream with
                    flags := state.stream.flags.onConnectionTerminated result } } := by
        refine ⟨rfl, rfl, rfl, fun told running => ?_, fun quiet => ?_⟩
        · simp only [StreamFlags.onConnectionTerminated] at running ⊢
          split at running
          · rename_i was_running
            rw [if_pos was_running]
          · rename_i idle
            exact absurd running idle
        · simp only [ControlState.streamRunning] at quiet
          simp [ControlState.streamRunning, StreamFlags.onConnectionTerminated, quiet]
      exact invariant.emitStream (invariant.stream.terminated rfl) invariant.handling
        (invariant.holder.frame frame)
  | owner index action =>
      simp only [ControlState.sessionStep] at taken
      cases handling : state.handling with
      | some event => simp [handling] at taken
      | none =>
          rw [if_neg (by simp [handling])] at taken
          split at taken
          · contradiction
          · rename_i stream shown stepped
            obtain ⟨launching, running, stop, published⟩ :=
              ownerStep_frame invariant.stream stepped
            have told : StreamTold state → StreamTold { state with stream } := by
              intro told still
              rcases stop with same | ended
              · exact same.trans (told running)
              · exact absurd (ended.symm.trans still) (by decide)
            have busy : state.streamRunning ≠ false := by
              rw [ControlState.streamRunning, running]
              decide
            split at taken
            · rename_i event publishes
              obtain ⟨rfl, rfl⟩ := taken
              have frame
                  : SessionFrame state (ControlState.onStreamEvent { state with stream } event) := by
                cases event <;>
                  exact ⟨rfl, rfl, launching, told, fun quiet => absurd quiet busy⟩
              have kept := invariant.holder.frame frame
              have owned := published (by simp [publishes])
              cases event with
              | started | stopped | failed =>
                  exact invariant.emitStream (invariant.stream.owner stepped)
                    (fun _ => owned) kept
            · obtain ⟨rfl, rfl⟩ := taken
              have frame : SessionFrame state { state with stream } :=
                ⟨rfl, rfl, launching, told, fun quiet => absurd quiet busy⟩
              exact invariant.emitStream (invariant.stream.owner stepped)
                (fun handled => absurd handling handled) (invariant.holder.frame frame)

/-- The rest of a stream event's callback keeps the invariant. -/
theorem ControlInvariant.handler {trace : List ControlLabel} {labels : List ControlLabel}
    {state after : ControlState} (invariant : ControlInvariant trace state)
    (taken : controlStep state .handler = some (after, labels))
    : ControlInvariant (trace ++ labels) after := by
  simp only [controlStep] at taken
  split at taken
  · rename_i event handling
    obtain ⟨rfl, rfl⟩ := taken
    rw [List.append_nil]
    have frame : SessionFrame state (state.afterStreamEvent event) := by
      cases event <;> exact ⟨rfl, rfl, rfl, id, fun quiet => ⟨quiet, rfl⟩⟩
    have kept := invariant.holder.frame frame
    cases event with
    | started | stopped | failed =>
        exact ⟨invariant.permitted, invariant.stream, fun handled => absurd rfl handled, kept⟩
  · contradiction
end VitaMoonlight
