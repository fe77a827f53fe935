import VitaMoonlight.Backend.MoonlightAdapter

/-! What links the adapter to the API while events are owed to it.
The invariant says what the adapter becomes once they are forwarded. A request that changes
the connection runs beside no stream, so only one event at a time can change the adapter.
-/

namespace VitaMoonlight

open Library

-----------------------------------------------------------------------------------------
-- What the steps of a stream session change
-----------------------------------------------------------------------------------------

/-- The connection state an event of a stream session leaves behind. -/
def StreamEvent.connectionState : StreamEvent → ConnectionState
  | started => .streaming
  | stopped | failed => .paired

/-- A step of the stream sessions publishes an event, which a running session does outside
its callback, or it leaves the connection alone.
-/
structure SessionEffect (state after : ControlState) : Prop where
  holder : after.holder = state.holder
  host : after.hasCurrentHost = state.hasCurrentHost
  running : after.streamRunning = true → state.streamRunning = true
  connection
    : (after.handling = state.handling
        ∧ after.connectionState = state.connectionState
        ∧ after.streamActive = state.streamActive)
      ∨ ∃ event,
        state.handling = none
        ∧ state.streamRunning = true
        ∧ after.handling = some event
        ∧ after.connectionState = event.connectionState
        ∧ (event = .started → after.streamActive = true)

theorem sessionStep_effect {trace labels : List ControlLabel} {state after : ControlState}
    {choice : StreamChoice} (invariant : ControlInvariant trace state)
    (taken : state.sessionStep choice = some (after, labels))
    : SessionEffect state after := by
  cases choice with
  | start => simp [ControlState.sessionStep] at taken
  | create index succeeds => simp [ControlState.sessionStep] at taken
  | stop =>
      simp only [ControlState.sessionStep, streamStep, Bool.not_true, Bool.false_eq_true,
        if_false, publishedEvent_stop] at taken
      obtain ⟨rfl, -⟩ := Prod.mk.inj (Option.some.inj taken)
      refine ⟨rfl, rfl, fun running => ?_, .inl ⟨rfl, rfl, rfl⟩⟩
      by_contra idle
      have quiet := (streamStop_frame state).1.quiet (by simpa using idle)
      exact absurd running (by rw [Bool.not_eq_true]; exact quiet.1)
  | terminated result =>
      simp only [ControlState.sessionStep, streamStep, Bool.not_true, Bool.false_eq_true,
        if_false, publishedEvent_terminated] at taken
      obtain ⟨rfl, -⟩ := taken
      refine ⟨rfl, rfl, fun running => ?_, .inl ⟨rfl, rfl, rfl⟩⟩
      simp only [ControlState.streamRunning, StreamFlags.onConnectionTerminated] at running ⊢
      split at running <;> exact running
  | owner index action =>
      simp only [ControlState.sessionStep] at taken
      cases handling : state.handling with
      | some event => simp [handling] at taken
      | none =>
          rw [if_neg (by simp [handling])] at taken
          split at taken
          · contradiction
          · rename_i stream shown stepped
            have running := (ownerStep_frame invariant.stream stepped).2.1
            split at taken
            · rename_i event publishes
              obtain ⟨rfl, -⟩ := taken
              cases event with
              | started =>
                  exact ⟨rfl, rfl, fun _ => running,
                    .inr ⟨_, handling, running, rfl, rfl, fun _ => rfl⟩⟩
              | stopped | failed =>
                  exact ⟨rfl, rfl, fun _ => running,
                    .inr ⟨_, handling, running, rfl, rfl, fun started => by cases started⟩⟩
            · obtain ⟨rfl, -⟩ := taken
              exact ⟨rfl, rfl, fun _ => running, .inl ⟨rfl, rfl, rfl⟩⟩

-----------------------------------------------------------------------------------------
-- The adapter once everything owed has been forwarded
-----------------------------------------------------------------------------------------

/-- The adapter after an event, if there is one. -/
def Adapter.receive (adapter : Adapter) (apiState : ConnectionState)
    : Option MoonlightEventType → Adapter
  | none => adapter
  | some type => adapter.forwardEvent apiState type

/-- The event, if there is one, changes no adapter. -/
def Neutral (event : Option MoonlightEventType) : Prop :=
  ∀ adapter apiState, Adapter.receive adapter apiState event = adapter

theorem neutral_none : Neutral none := fun _ _ => rfl

/-- What the adapter mirrors of the API. -/
def ControlState.mirror (state : ControlState) : Adapter where
  connectionState := state.connectionState
  hasCurrentHost := state.hasCurrentHost

namespace MirrorState

/-- The event the holder of the mutex owes the adapter. The cleanup worker that is about to
publish owes one: it has changed the state already.
-/
def owed (state : MirrorState) : Option MoonlightEventType :=
  if state.api.holder = some (.worker .publishing) then some .connectionClosed
  else state.requestEvent

/-- The adapter once the owed events have been forwarded. -/
def caughtUp (state : MirrorState) : Adapter :=
  (state.adapter.receive state.api.connectionState state.streamEvent).receive
    state.api.connectionState state.owed

/-- Every event emitted so far has been forwarded. -/
def AllForwarded (state : MirrorState) : Prop :=
  state.requestEmitted = false ∧ state.streamEmitted = false

/-- The events that are owed and not emitted yet would leave the adapter as it is. -/
def Announced (state : MirrorState) : Prop :=
  let stream := if state.streamEmitted then none else state.streamEvent
  let request := if state.requestEmitted then none else state.owed
  (state.adapter.receive state.api.connectionState stream).receive state.api.connectionState request
    = state.adapter

end MirrorState

/-- The connection of a stream that runs or is being started. -/
def OfStream (api : ControlState) : Prop :=
  api.hasCurrentHost = true
  ∧ (api.connectionState = .paired ∨ api.connectionState = .streaming)

/-- What holds at the points of a request: one that changes the connection runs beside no
stream.
-/
def RequestMirrors (api : ControlState) (event : Option MoonlightEventType)
    (request : HostRequest) : RequestPoint → Prop
  | .leaving => Neutral event ∨ api.streamRunning = false
  | .working =>
      event = none
      ∧ match request with
        | .connectHost _ => api.streamRunning = false
        | .pairCurrentHost =>
            api.streamRunning = false ∧ api.connectionState = .ready ∧ api.hasCurrentHost = true
        | _ => True
  | .starting | .creating | .startFailed => event = none ∧ OfStream api
  | .entered | .stopped | .scheduling | .scheduled | .notScheduled => event = none

/-- What holds under a holder of the mutex. -/
def HolderMirrors (api : ControlState) (event : Option MoonlightEventType)
    : Option ControlHolder → Prop
  | none => event = none
  | some (.request request point) => RequestMirrors api event request point
  | some (.worker .waiting) => event = none
  | some (.worker .cleaning) | some (.worker .publishing) =>
      event = none ∧ api.streamRunning = false
  | some (.worker .closing) => api.streamRunning = false
  | some (.shutdown _) => False

/-- What holds of every admitted run: with the owed events the adapter is what the API is. -/
structure MirrorInvariant (trace : List ControlLabel) (state : MirrorState) : Prop where
  control : ControlInvariant trace state.api
  published : state.streamEvent ≠ none → state.api.handling ≠ none
  ofStream : state.api.streamRunning = true → OfStream state.api
  active : state.api.connectionState = .streaming → state.api.streamActive = true
  holder : HolderMirrors state.api state.requestEvent state.api.holder
  mirrored : state.caughtUp = state.api.mirror

/-- A session in the callback still runs. -/
theorem ControlInvariant.running_of_handling {trace : List ControlLabel} {state : ControlState}
    (invariant : ControlInvariant trace state) (handled : state.handling ≠ none)
    : state.streamRunning = true := by
  have owned := invariant.handling handled
  cases invariant.stream.phase with
  | idle free launching owners finished => exact absurd owners owned
  | launching alive launching owners uncreated untouched => exact absurd owners owned
  | owned point alive launching owners consistent => exact alive.running

namespace MirrorInvariant

variable {trace labels : List ControlLabel} {state : MirrorState} {api : ControlState}
  {event : Option MoonlightEventType}

/-- Emitting an owed event changes neither the API nor the adapter. -/
theorem emitting (invariant : MirrorInvariant trace state) (request stream : Bool)
    : MirrorInvariant trace
        { state with requestEmitted := request, streamEmitted := stream } :=
  ⟨invariant.control, invariant.published, invariant.ofStream, invariant.active,
    invariant.holder, invariant.mirrored⟩

theorem streamEvent_of_quiet (invariant : MirrorInvariant trace state)
    (quiet : state.api.streamRunning = false)
    : state.streamEvent = none := by
  by_contra emitted
  have running := invariant.control.running_of_handling (invariant.published emitted)
  rw [quiet] at running
  contradiction

/-- A step that leaves the connection alone keeps the invariant if what its holder owes
before and after is neutral.
-/
theorem keep (invariant : MirrorInvariant trace state)
    (control : ControlInvariant (trace ++ labels) api)
    (handling : api.handling = state.api.handling)
    (connection : api.connectionState = state.api.connectionState)
    (host : api.hasCurrentHost = state.api.hasCurrentHost)
    (active : api.streamActive = state.api.streamActive)
    (running : api.streamRunning = true → state.api.streamRunning = true ∨ OfStream api)
    (holder : HolderMirrors api event api.holder) (before : Neutral state.owed)
    (later : Neutral { state with api, requestEvent := event }.owed)
    : MirrorInvariant (trace ++ labels) { state with api, requestEvent := event } := by
  refine ⟨control, ?_, ?_, ?_, holder, ?_⟩
  · rw [handling]
    exact invariant.published
  · intro runs
    rcases running runs with ran | ofStream
    · obtain ⟨hosted, connected⟩ := invariant.ofStream ran
      exact ⟨host.trans hosted, by rwa [connection]⟩
    · exact ofStream
  · intro streaming
    rw [connection] at streaming
    exact active.trans (invariant.active streaming)
  · have mirrored := invariant.mirrored
    rw [MirrorState.caughtUp, before] at mirrored
    rw [MirrorState.caughtUp, later]
    have same : api.mirror = state.api.mirror := by
      simp only [ControlState.mirror, connection, host]
    rw [same, ← mirrored]
    exact congrArg (state.adapter.receive · state.streamEvent) connection

/-- A step beside no stream may change the connection if it owes the event for that. -/
theorem report (invariant : MirrorInvariant trace state)
    (control : ControlInvariant (trace ++ labels) api)
    (quiet : state.api.streamRunning = false) (still : api.streamRunning = false)
    (active : api.connectionState = .streaming → api.streamActive = true)
    (holder : HolderMirrors api event api.holder) (before : state.owed = none)
    (reported
      : state.api.mirror.receive api.connectionState
          { state with api, requestEvent := event }.owed
        = api.mirror)
    : MirrorInvariant (trace ++ labels) { state with api, requestEvent := event } := by
  have none_emitted := invariant.streamEvent_of_quiet quiet
  have adapter : state.adapter = state.api.mirror := by
    have mirrored := invariant.mirrored
    rwa [MirrorState.caughtUp, before, none_emitted] at mirrored
  refine ⟨control, fun emitted => absurd none_emitted emitted, fun runs => ?_, active, holder, ?_⟩
  · rw [still] at runs
    contradiction
  · rw [← reported, ← adapter, MirrorState.caughtUp]
    simp only [none_emitted]
    rfl

end MirrorInvariant

-----------------------------------------------------------------------------------------
-- Steps of the stream sessions
-----------------------------------------------------------------------------------------

namespace SessionEffect

variable {state after : ControlState}

theorem quiet (effect : SessionEffect state after) (still : state.streamRunning = false)
    : after.streamRunning = false := by
  by_contra runs
  have ran := effect.running (by simpa using runs)
  rw [still] at ran
  contradiction

theorem connectionState_of_quiet (effect : SessionEffect state after)
    (still : state.streamRunning = false)
    : after.connectionState = state.connectionState := by
  rcases effect.connection with ⟨-, same, -⟩ | ⟨event, -, running, -⟩
  · exact same
  · rw [still] at running
    contradiction

theorem ofStream (effect : SessionEffect state after) (connected : OfStream state)
    : OfStream after := by
  refine ⟨effect.host.trans connected.1, ?_⟩
  rcases effect.connection with ⟨-, same, -⟩ | ⟨event, -, -, -, same, -⟩
  · rw [same]
    exact connected.2
  · rw [same]
    cases event with
    | started => exact .inr rfl
    | stopped | failed => exact .inl rfl

/-- What holds under a holder of the mutex is left alone by the stream sessions. -/
theorem holder_mirrors (effect : SessionEffect state after) {event : Option MoonlightEventType}
    {holder : Option ControlHolder} (mirrors : HolderMirrors state event holder)
    : HolderMirrors after event holder := by
  cases holder with
  | none => exact mirrors
  | some holder =>
      cases holder with
      | request request point =>
          cases point with
          | leaving => exact mirrors.imp_right effect.quiet
          | starting | creating | startFailed => exact ⟨mirrors.1, effect.ofStream mirrors.2⟩
          | entered | stopped | scheduling | scheduled | notScheduled => exact mirrors
          | working =>
              cases request with
              | connectHost host => exact ⟨mirrors.1, effect.quiet mirrors.2⟩
              | pairCurrentHost =>
                  obtain ⟨silent, still, ready, hosted⟩ := mirrors
                  exact ⟨silent, effect.quiet still,
                    (effect.connectionState_of_quiet still).trans ready, effect.host.trans hosted⟩
              | preparePairing | getApplications | startApplication | stopApplication
              | disconnectHost => exact ⟨mirrors.1, trivial⟩
      | worker point =>
          cases point with
          | waiting => exact mirrors
          | cleaning | publishing => exact ⟨mirrors.1, effect.quiet mirrors.2⟩
          | closing => exact effect.quiet mirrors
      | shutdown point => exact mirrors

end SessionEffect

namespace MirrorInvariant

variable {trace labels : List ControlLabel} {state : MirrorState} {api : ControlState}
  {event : Option MoonlightEventType}

/-- Beside a running stream nothing else that changes the connection is under way. -/
theorem neutral_owed_of_running (invariant : MirrorInvariant trace state)
    (running : state.api.streamRunning = true)
    : Neutral state.owed := by
  have mirrors := invariant.holder
  have busy : state.api.streamRunning ≠ false := by simp [running]
  cases holder : state.api.holder with
  | none =>
      rw [holder] at mirrors
      rw [MirrorState.owed, holder, if_neg (by simp), show state.requestEvent = none from mirrors]
      exact neutral_none
  | some held =>
      rw [holder] at mirrors
      cases held with
      | request request point =>
          rw [MirrorState.owed, holder, if_neg (by simp)]
          cases point with
          | leaving => exact mirrors.resolve_right busy
          | starting | creating | startFailed | working =>
              rw [mirrors.1]
              exact neutral_none
          | entered | stopped | scheduling | scheduled | notScheduled =>
              rw [show state.requestEvent = none from mirrors]
              exact neutral_none
      | worker point =>
          cases point with
          | waiting =>
              rw [MirrorState.owed, holder, if_neg (by simp),
                show state.requestEvent = none from mirrors]
              exact neutral_none
          | cleaning | publishing => exact absurd mirrors.2 busy
          | closing => exact absurd mirrors busy
      | shutdown point => exact absurd mirrors id

theorem session {choice : StreamChoice} (invariant : MirrorInvariant trace state)
    (taken : state.api.sessionStep choice = some (api, labels))
    : MirrorInvariant (trace ++ labels)
        { state with
          api
          streamEvent :=
            match state.api.handling with
            | some _ => state.streamEvent
            | none => api.handling.map StreamEvent.eventType } := by
  have control := invariant.control.session taken
  have effect := sessionStep_effect invariant.control taken
  have holder : HolderMirrors api state.requestEvent api.holder := by
    rw [effect.holder]
    exact effect.holder_mirrors invariant.holder
  have ofStream : api.streamRunning = true → OfStream api :=
    fun runs => effect.ofStream (invariant.ofStream (effect.running runs))
  have mirrored := invariant.mirrored
  rcases effect.connection with ⟨handling, same, active⟩ | ⟨event, idle, running, handled, same, active⟩
  · have streamEvent
        : (match state.api.handling with
            | some _ => state.streamEvent
            | none => api.handling.map StreamEvent.eventType)
          = state.streamEvent := by
      cases handled : state.api.handling with
      | some event => rfl
      | none =>
          by_contra emitted
          rw [handling, handled] at emitted
          exact invariant.published (fun silent => emitted silent.symm) handled
    rw [streamEvent]
    refine ⟨control, ?_, ofStream, fun streaming => ?_, holder, ?_⟩
    · rw [handling]
      exact invariant.published
    · exact active.trans (invariant.active (same.symm.trans streaming))
    · have view : api.mirror = state.api.mirror := by
        simp only [ControlState.mirror, same, effect.host]
      rw [view, ← mirrored]
      simp only [MirrorState.caughtUp, MirrorState.owed, effect.holder, same]
  · have silent : state.streamEvent = none := by
      by_contra emitted
      exact invariant.published emitted idle
    have neutral := invariant.neutral_owed_of_running running
    have adapter : state.adapter = state.api.mirror := by
      rw [MirrorState.caughtUp, neutral, silent] at mirrored
      exact mirrored
    have streamEvent
        : (match state.api.handling with
            | some _ => state.streamEvent
            | none => api.handling.map StreamEvent.eventType)
          = some event.eventType := by
      rw [idle, handled]
      rfl
    rw [streamEvent]
    refine ⟨control, fun _ => by simp [handled], ofStream, fun streaming => ?_, holder, ?_⟩
    · cases event with
      | started => exact active rfl
      | stopped | failed => exact absurd (same.symm.trans streaming) (by decide)
    · have owed
          : MirrorState.owed { state with api, streamEvent := some event.eventType }
            = state.owed := by
        simp only [MirrorState.owed, effect.holder]
      have hosted := (invariant.ofStream running).1
      rw [MirrorState.caughtUp, owed, neutral]
      simp only [Adapter.receive, adapter, ControlState.mirror, effect.host, same]
      cases event <;> simp [StreamEvent.eventType, Adapter.forwardEvent, hosted,
        StreamEvent.connectionState]

end MirrorInvariant

end VitaMoonlight
