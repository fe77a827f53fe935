import VitaMoonlight.Api.CleanupInvariant

/-! What the steps of requests, of the cleanup worker and of the shutdown do to the cleanup.
Only a disconnect that found no cleanup can schedule one, and only its worker can end it.
-/

namespace VitaMoonlight

open Library SessionHistory

-----------------------------------------------------------------------------------------
-- Steps of requests
-----------------------------------------------------------------------------------------

/-- Admission keeps the invariant: behind the mutex only a disconnect gets past a cleanup. -/
theorem ControlInvariant.call {trace : List ControlLabel} {state : ControlState}
    (invariant : ControlInvariant trace state) (request : HostRequest)
    : ControlInvariant (trace ++ (state.call request).2) (state.call request).1 := by
  have consistent := invariant.holder
  unfold ControlState.call
  cases holder : state.holder with
  | some other =>
      exact invariant.emit trivial (fun shown => by simp) rfl rfl (by rwa [holder] at consistent ⊢)
  | none =>
      rw [holder] at consistent
      obtain ⟨launching, steady⟩ := consistent
      dsimp only
      split
      · refine invariant.emit trivial (fun shown => by simp) rfl rfl ?_
        rw [holder]
        exact ⟨launching, steady⟩
      · rename_i admitted
        have kept
            : Steady (state.moveTo request .entered)
                ((controlHistory trace).observe (.admitted request state.view)) := by
          rcases steady with flags | ⟨flags, told⟩
          · exact .inl ⟨flags.pending, flags.running, flags.workers, flags.cleanup⟩
          · exact .inr ⟨⟨flags.pending, flags.running, flags.workers, flags.cleanup⟩, told⟩
        by_cases disconnects : request = .disconnectHost
        · subst disconnects
          exact invariant.emit (fun other => absurd rfl other) (fun shown => by simp) rfl rfl
            ⟨launching, kept, rfl⟩
        · have flags : CleanupFlags state (controlHistory trace) false false 0 false := by
            rcases steady with flags | ⟨flags, -⟩
            · exact flags
            · exact absurd ⟨disconnects, flags.pending⟩ admitted
          refine invariant.emit (fun _ => flags.cleanup) (fun shown => by simp) rfl rfl ?_
          simp only [HolderConsistent, ControlState.moveTo, if_neg disconnects]
          exact ⟨fun _ => launching, rfl,
            ⟨flags.pending, flags.running, flags.workers, flags.cleanup⟩⟩

/-- A request other than a disconnect keeps out of the cleanup. -/
structure RequestKeeps (state after : ControlState) (request : HostRequest) : Prop where
  holder
    : ∃ point,
        after.holder = some (.request request point)
        ∧ point.ordinary = true
        ∧ point ≠ .creating
  pending : after.disconnectPending = state.disconnectPending
  running : after.workerRunning = state.workerRunning
  workers : after.workers = state.workers
  handling : after.handling = state.handling

theorem enter_keeps (state : ControlState) (outcome : RequestOutcome) {request : HostRequest}
    (ordinary : request ≠ .disconnectHost)
    : RequestKeeps state (state.enter outcome request).1 request := by
  cases request with
  | disconnectHost => exact absurd rfl ordinary
  | stopApplication =>
      unfold ControlState.enter
      dsimp only
      split
      · exact ⟨⟨_, rfl, rfl, by decide⟩, rfl, rfl, rfl, rfl⟩
      · exact ⟨⟨_, rfl, rfl, by decide⟩, rfl, rfl, rfl, rfl⟩
  | connectHost | preparePairing | pairCurrentHost | getApplications | startApplication =>
      unfold ControlState.enter
      dsimp only
      split
      · exact ⟨⟨_, rfl, rfl, by decide⟩, rfl, rfl, rfl, rfl⟩
      · exact ⟨⟨_, rfl, rfl, by decide⟩, rfl, rfl, rfl, rfl⟩

/-- Entering a request at most stops the stream. -/
theorem enter_stream (state : ControlState) (outcome : RequestOutcome) (request : HostRequest)
    : (state.enter outcome request).1.stream = state.stream
        ∧ (state.enter outcome request).2 = []
      ∨ (state.enter outcome request).1.stream = state.streamStop.1.stream
        ∧ (state.enter outcome request).2 = state.streamStop.2 := by
  cases request with
  | connectHost | preparePairing | pairCurrentHost | getApplications | startApplication =>
      left
      unfold ControlState.enter
      dsimp only
      split <;> exact ⟨rfl, rfl⟩
  | stopApplication =>
      unfold ControlState.enter
      dsimp only
      split
      · exact .inl ⟨rfl, rfl⟩
      · exact .inr ⟨rfl, rfl⟩
  | disconnectHost =>
      unfold ControlState.enter
      dsimp only
      split
      · exact .inl ⟨rfl, rfl⟩
      · split
        · exact .inr ⟨rfl, rfl⟩
        · exact .inl ⟨rfl, rfl⟩

/-- A step that at most stops the stream keeps the invariant if the holder does. -/
theorem ControlInvariant.stopping {trace labels : List ControlLabel}
    {state after : ControlState} (invariant : ControlInvariant trace state)
    (stream
      : after.stream = state.stream ∧ labels = []
        ∨ after.stream = state.streamStop.1.stream ∧ labels = state.streamStop.2)
    (handling : after.handling = state.handling)
    (holder : HolderConsistent after (controlHistory trace) after.holder)
    : ControlInvariant (trace ++ labels) after := by
  rcases stream with ⟨same, rfl⟩ | ⟨stopped, rfl⟩
  · exact invariant.silent same handling holder
  · refine invariant.emitStream ?_ ?_ holder
    · rw [stopped]
      exact streamInvariant_streamStop invariant.stream
    · rw [stopped, handling]
      exact invariant.handling

theorem launching_of_enter {state after : ControlState} {labels : List ControlLabel}
    (stream
      : after.stream = state.stream ∧ labels = []
        ∨ after.stream = state.streamStop.1.stream ∧ labels = state.streamStop.2)
    : after.stream.launching = state.stream.launching := by
  rcases stream with ⟨same, -⟩ | ⟨stopped, -⟩
  · rw [same]
  · rw [stopped]
    rfl

/-- What holds under a request other than a disconnect carries over. -/
theorem RequestKeeps.consistent {state after : ControlState} {request : HostRequest}
    {past : ControlHistory} (keeps : RequestKeeps state after request)
    (ordinary : request ≠ .disconnectHost) (launching : after.stream.launching = [])
    (flags : CleanupFlags state past false false 0 false)
    : HolderConsistent after past after.holder := by
  obtain ⟨point, holder, is_ordinary, -⟩ := keeps.holder
  rw [holder]
  simp only [HolderConsistent, if_neg ordinary]
  exact ⟨fun _ => launching, is_ordinary, keeps.pending.trans flags.pending,
    keeps.running.trans flags.running, keeps.workers.trans flags.workers, flags.cleanup⟩

theorem finishWork_keeps (state : ControlState) (outcome : RequestOutcome)
    (request : HostRequest)
    : RequestKeeps state ((state.finishWork outcome request).moveTo request .leaving) request
      ∧ ((state.finishWork outcome request).moveTo request .leaving).stream = state.stream := by
  cases request with
  | connectHost | pairCurrentHost =>
      unfold ControlState.finishWork
      dsimp only
      split <;> exact ⟨⟨⟨_, rfl, rfl, by decide⟩, rfl, rfl, rfl, rfl⟩, rfl⟩
  | preparePairing | getApplications | startApplication | stopApplication | disconnectHost =>
      exact ⟨⟨⟨_, rfl, rfl, by decide⟩, rfl, rfl, rfl, rfl⟩, rfl⟩

theorem streamStep_eq_some {state after : ControlState} {choice : StreamChoice}
    {labels : List ControlLabel} (taken : state.streamStep choice = some (after, labels))
    : ∃ stream shown,
        streamStep state.stream choice = some (stream, shown)
        ∧ after = { state with stream }
        ∧ labels = shown.map .stream := by
  unfold ControlState.streamStep at taken
  split at taken
  · contradiction
  · rename_i stream shown stepped
    obtain ⟨rfl, rfl⟩ := Prod.mk.inj (Option.some.inj taken)
    exact ⟨stream, shown, stepped, rfl, rfl⟩

theorem start_keeps_owners {state after : StreamState} {labels : List StreamLabel}
    (taken : streamStep state .start = some (after, labels))
    : after.owners = state.owners := by
  simp only [streamStep] at taken
  split at taken
  all_goals
    obtain ⟨rfl, -⟩ := Prod.mk.inj (Option.some.inj taken)
    rfl

/-- Creating an owner, or failing to, ends the launch. -/
theorem create_ends_launch {trace : List StreamLabel} {state after : StreamState} {index : Nat}
    {succeeds : Bool} {labels : List StreamLabel} (invariant : StreamInvariant trace state)
    (taken : streamStep state (.create index succeeds) = some (after, labels))
    : after.launching = [] ∧ state.owners = [] := by
  obtain ⟨-, owners, -, -, done⟩ := invariant.create_cases taken
  cases succeeds with
  | true | false =>
      obtain ⟨rfl, -⟩ := Prod.mk.inj done
      exact ⟨rfl, owners⟩

/-- Every step of a request other than a disconnect keeps the invariant. -/
theorem ControlInvariant.ordinaryRequest {trace labels : List ControlLabel}
    {state after : ControlState} {request : HostRequest} {outcome : RequestOutcome}
    {point : RequestPoint} (invariant : ControlInvariant trace state)
    (holder : state.holder = some (.request request point))
    (ordinary : request ≠ .disconnectHost)
    (taken : state.requestStep request outcome point = some (after, labels))
    : ControlInvariant (trace ++ labels) after := by
  have consistent := invariant.holder
  rw [holder] at consistent
  simp only [HolderConsistent, if_neg ordinary] at consistent
  obtain ⟨launching, is_ordinary, flags⟩ := consistent
  cases point with
  | stopped | scheduling | scheduled | notScheduled => contradiction
  | entered =>
      obtain ⟨rfl, rfl⟩ := Prod.mk.inj (Option.some.inj taken)
      have keeps := enter_keeps state outcome ordinary
      have stream := enter_stream state outcome request
      exact invariant.stopping stream keeps.handling
        (keeps.consistent ordinary ((launching_of_enter stream).trans (launching (by decide)))
          flags)
  | working =>
      obtain ⟨rfl, rfl⟩ := Prod.mk.inj (Option.some.inj taken)
      obtain ⟨keeps, stream⟩ := finishWork_keeps state outcome request
      exact invariant.silent stream keeps.handling
        (keeps.consistent ordinary ((congrArg _ stream).trans (launching (by decide))) flags)
  | starting =>
      simp only [ControlState.requestStep] at taken
      split at taken
      · obtain ⟨rfl, rfl⟩ := Prod.mk.inj (Option.some.inj taken)
        have keeps : RequestKeeps state (state.moveTo request .startFailed) request :=
          ⟨⟨_, rfl, rfl, by decide⟩, rfl, rfl, rfl, rfl⟩
        exact invariant.silent rfl rfl
          (keeps.consistent ordinary (launching (by decide)) flags)
      · obtain ⟨stream, shown, stepped, rfl, rfl⟩ := streamStep_eq_some taken
        refine invariant.emitStream (invariant.stream.start stepped) ?_ ?_
        · rw [start_keeps_owners stepped]
          exact invariant.handling
        · simp only [HolderConsistent, ControlState.moveTo, if_neg ordinary]
          exact ⟨fun other => absurd rfl other, rfl, flags.pending, flags.running,
            flags.workers, flags.cleanup⟩
  | creating =>
      obtain ⟨stream, shown, stepped, rfl, rfl⟩ := streamStep_eq_some taken
      obtain ⟨launched, unowned⟩ := create_ends_launch invariant.stream stepped
      refine invariant.emitStream (invariant.stream.create stepped) ?_ ?_
      · exact fun handled => absurd unowned (invariant.handling handled)
      · simp only [HolderConsistent, ControlState.moveTo, if_neg ordinary]
        refine ⟨fun _ => launched, ?_, flags.pending, flags.running, flags.workers,
          flags.cleanup⟩
        cases outcome.succeeds <;> rfl
  | startFailed =>
      obtain ⟨rfl, rfl⟩ := Prod.mk.inj (Option.some.inj taken)
      refine invariant.silent rfl rfl ?_
      simp only [HolderConsistent, ControlState.moveTo, if_neg ordinary]
      exact ⟨fun _ => launching (by decide), rfl, flags.pending, flags.running, flags.workers,
        flags.cleanup⟩
  | leaving =>
      obtain ⟨rfl, rfl⟩ := Prod.mk.inj (Option.some.inj taken)
      exact invariant.silent rfl rfl ⟨launching (by decide),
        .inl ⟨flags.pending, flags.running, flags.workers, flags.cleanup⟩⟩

/-- Every step of a disconnect keeps the invariant. -/
theorem ControlInvariant.disconnectRequest {trace labels : List ControlLabel}
    {state after : ControlState} {outcome : RequestOutcome} {point : RequestPoint}
    (invariant : ControlInvariant trace state)
    (holder : state.holder = some (.request .disconnectHost point))
    (taken : state.requestStep .disconnectHost outcome point = some (after, labels))
    : ControlInvariant (trace ++ labels) after := by
  have consistent := invariant.holder
  rw [holder] at consistent
  obtain ⟨launching, consistent⟩ : state.stream.launching = [] ∧ DisconnectConsistent state _ point := by
    simpa only [HolderConsistent, if_true] using consistent
  cases point with
  | working | starting | creating | startFailed => exact absurd consistent id
  | entered =>
      have entered : state.enter outcome .disconnectHost = (after, labels) := Option.some.inj taken
      obtain ⟨rfl, rfl⟩
          : (state.enter outcome .disconnectHost).1 = after
            ∧ (state.enter outcome .disconnectHost).2 = labels := by
        rw [entered]
        exact ⟨rfl, rfl⟩
      obtain ⟨steady, last⟩ := consistent
      have stream := enter_stream state outcome .disconnectHost
      have launched := (launching_of_enter stream).trans launching
      refine invariant.stopping stream ?_ ?_
      all_goals
        unfold ControlState.enter at launched ⊢
        dsimp only at launched ⊢
        split
      · rfl
      · split <;> rfl
      · refine ⟨launching, ?_⟩
        rcases steady with flags | ⟨flags, told⟩
        · exact .inl ⟨flags.pending, flags.running, flags.workers, flags.cleanup⟩
        · exact .inr ⟨⟨flags.pending, flags.running, flags.workers, flags.cleanup⟩, told⟩
      · rename_i proceeds
        have flags : CleanupFlags state (controlHistory trace) false false 0 false := by
          rcases steady with flags | ⟨flags, -⟩
          · exact flags
          · simp [flags.pending] at proceeds
        split
        · exact ⟨launching, ⟨flags.pending, flags.running, flags.workers, flags.cleanup⟩,
            (streamStop_frame state).2, last⟩
        · rename_i idle
          refine ⟨launching, ⟨flags.pending, flags.running, flags.workers, flags.cleanup⟩, ?_,
            last⟩
          intro running
          simp only [ControlState.moveTo] at running
          simp [ControlState.streamBusy, ControlState.streamRunning, running] at idle
  | stopped =>
      obtain ⟨flags, told, last⟩ := consistent
      simp only [ControlState.requestStep, flags.running, Bool.false_eq_true, if_false] at taken
      obtain ⟨rfl, rfl⟩ := Prod.mk.inj (Option.some.inj taken)
      refine invariant.silent rfl rfl ⟨launching,
        ⟨flags.pending, rfl, flags.workers, flags.cleanup⟩, told, ?_⟩
      rw [last]
      simp [ControlState.view, ControlState.moveTo, flags.running]
  | scheduling =>
      obtain ⟨flags, told, last⟩ := consistent
      simp only [ControlState.requestStep] at taken
      split at taken
      · obtain ⟨rfl, rfl⟩ := Prod.mk.inj (Option.some.inj taken)
        refine invariant.emit flags.cleanup (fun shown => by simp) rfl rfl ⟨launching,
          ⟨flags.pending, flags.running, ?_, rfl⟩, told⟩
        simp [ControlState.moveTo, flags.workers]
      · obtain ⟨rfl, rfl⟩ := Prod.mk.inj (Option.some.inj taken)
        exact invariant.silent rfl rfl ⟨launching,
          ⟨flags.pending, rfl, flags.workers, flags.cleanup⟩, last⟩
  | scheduled =>
      obtain ⟨flags, told⟩ := consistent
      obtain ⟨rfl, rfl⟩ := Prod.mk.inj (Option.some.inj taken)
      exact invariant.silent rfl rfl ⟨launching,
        .inr ⟨⟨rfl, flags.running, flags.workers, flags.cleanup⟩, told⟩⟩
  | notScheduled =>
      obtain ⟨flags, last⟩ := consistent
      obtain ⟨rfl, rfl⟩ := Prod.mk.inj (Option.some.inj taken)
      have same : { state with disconnectPending := false }.view = state.view := by
        simp [ControlState.view, flags.pending]
      refine invariant.emit ⟨flags.cleanup, rfl, flags.running, ?_⟩ (fun shown => by simp) rfl
        rfl ⟨launching, .inl ⟨rfl, flags.running, flags.workers, flags.cleanup⟩⟩
      rw [same, last]
  | leaving =>
      obtain ⟨rfl, rfl⟩ := Prod.mk.inj (Option.some.inj taken)
      refine invariant.silent rfl rfl ⟨launching, ?_⟩
      rcases consistent with flags | ⟨flags, told⟩
      · exact .inl ⟨flags.pending, flags.running, flags.workers, flags.cleanup⟩
      · exact .inr ⟨⟨flags.pending, flags.running, flags.workers, flags.cleanup⟩, told⟩

/-- Every step of the cleanup worker keeps the invariant. -/
theorem ControlInvariant.worker {trace labels : List ControlLabel} {state after : ControlState}
    (invariant : ControlInvariant trace state)
    (taken : state.workerStep = some (after, labels))
    : ControlInvariant (trace ++ labels) after := by
  have consistent := invariant.holder
  unfold ControlState.workerStep at taken
  split at taken
  · rename_i holder
    rw [holder] at consistent
    obtain ⟨launching, steady⟩ := consistent
    split at taken
    · contradiction
    · rename_i waiting
      obtain ⟨rfl, rfl⟩ := Prod.mk.inj (Option.some.inj taken)
      rcases steady with flags | ⟨flags, told⟩
      · exact absurd flags.workers waiting
      · exact invariant.silent rfl rfl ⟨launching,
          ⟨flags.pending, flags.running, by simp [flags.workers], flags.cleanup⟩, told⟩
  · rename_i holder
    rw [holder] at consistent
    obtain ⟨launching, flags, told⟩ := consistent
    split at taken
    · obtain ⟨rfl, rfl⟩ := Prod.mk.inj (Option.some.inj taken)
      refine invariant.silent rfl rfl ?_
      rw [holder]
      exact ⟨launching, flags, told⟩
    · rename_i quiet
      obtain ⟨rfl, rfl⟩ := Prod.mk.inj (Option.some.inj taken)
      exact invariant.silent rfl rfl ⟨launching,
        ⟨flags.pending, flags.running, flags.workers, flags.cleanup⟩,
        (Bool.not_eq_true _).mp quiet⟩
  · rename_i holder
    rw [holder] at consistent
    obtain ⟨launching, flags, quiet⟩ := consistent
    obtain ⟨rfl, rfl⟩ := Prod.mk.inj (Option.some.inj taken)
    exact invariant.silent rfl rfl ⟨launching,
      ⟨flags.pending, flags.running, flags.workers, flags.cleanup⟩, quiet, rfl, rfl⟩
  · rename_i holder
    rw [holder] at consistent
    obtain ⟨launching, flags, quiet, noHost, disconnected⟩ := consistent
    obtain ⟨rfl, rfl⟩ := Prod.mk.inj (Option.some.inj taken)
    have unowned : state.stream.owners = [] := by
      cases invariant.stream.phase with
      | idle free launching owners finished => exact owners
      | launching alive launching owners uncreated untouched => exact owners
      | owned point alive launching owners consistent =>
          exact absurd (quiet.symm.trans alive.running) (by decide)
    have ended
        : ∀ session,
            (history session (streamTrace trace)).created = true
            → (history session (streamTrace trace)).Ended := by
      intro session created
      exact invariant.stream.ended created (by simp [unowned])
    exact invariant.emit ⟨flags.cleanup, noHost, disconnected, ended⟩ (fun shown => by simp) rfl
      rfl ⟨launching, flags.pending, flags.running, flags.workers, rfl⟩
  · rename_i holder
    rw [holder] at consistent
    obtain ⟨launching, flags⟩ := consistent
    obtain ⟨rfl, rfl⟩ := Prod.mk.inj (Option.some.inj taken)
    exact invariant.silent rfl rfl ⟨launching, .inl ⟨rfl, rfl, flags.workers, flags.cleanup⟩⟩
  · contradiction

/-- Every step of the shutdown keeps the invariant. -/
theorem ControlInvariant.shutdown {trace labels : List ControlLabel}
    {state after : ControlState} (invariant : ControlInvariant trace state)
    (taken : state.shutdownStep = some (after, labels))
    : ControlInvariant (trace ++ labels) after := by
  have consistent := invariant.holder
  unfold ControlState.shutdownStep at taken
  split at taken
  · rename_i holder
    rw [holder] at consistent
    obtain ⟨launching, steady⟩ := consistent
    split at taken
    · obtain ⟨rfl, rfl⟩ := Prod.mk.inj (Option.some.inj taken)
      refine invariant.silent rfl rfl ?_
      rw [holder]
      exact ⟨launching, steady⟩
    · rename_i stopped
      obtain ⟨rfl, rfl⟩ := Prod.mk.inj (Option.some.inj taken)
      rcases steady with flags | ⟨flags, -⟩
      · exact invariant.silent rfl rfl ⟨launching, flags.pending, flags.running, flags.workers,
          flags.cleanup⟩
      · exact absurd flags.running stopped
  · rename_i holder
    rw [holder] at consistent
    obtain ⟨launching, flags⟩ := consistent
    dsimp only at taken
    split at taken
    · obtain ⟨rfl, rfl⟩ := Prod.mk.inj (Option.some.inj taken)
      exact invariant.stopping (.inr ⟨rfl, rfl⟩) rfl
        ⟨launching, flags.pending, flags.running, flags.workers, flags.cleanup⟩
    · obtain ⟨rfl, rfl⟩ := Prod.mk.inj (Option.some.inj taken)
      exact invariant.silent rfl rfl
        ⟨launching, flags.pending, flags.running, flags.workers, flags.cleanup⟩
  · rename_i holder
    rw [holder] at consistent
    obtain ⟨launching, flags⟩ := consistent
    split at taken
    · obtain ⟨rfl, rfl⟩ := Prod.mk.inj (Option.some.inj taken)
      refine invariant.silent rfl rfl ?_
      rw [holder]
      exact ⟨launching, flags⟩
    · obtain ⟨rfl, rfl⟩ := Prod.mk.inj (Option.some.inj taken)
      exact invariant.silent rfl rfl
        ⟨launching, .inl ⟨rfl, rfl, flags.workers, flags.cleanup⟩⟩
  · contradiction

/-- Every step of every party keeps the invariant. -/
theorem ControlInvariant.step {trace labels : List ControlLabel} {state after : ControlState}
    {choice : ControlChoice} (invariant : ControlInvariant trace state)
    (taken : controlStep state choice = some (after, labels))
    : ControlInvariant (trace ++ labels) after := by
  cases choice with
  | call request =>
      obtain ⟨rfl, rfl⟩ := Prod.mk.inj (Option.some.inj taken)
      exact invariant.call request
  | request outcome =>
      simp only [controlStep] at taken
      split at taken
      · rename_i request point holder
        by_cases disconnects : request = .disconnectHost
        · subst disconnects
          exact invariant.disconnectRequest holder taken
        · exact invariant.ordinaryRequest holder disconnects taken
      · contradiction
  | worker => exact invariant.worker taken
  | shutdown => exact invariant.shutdown taken
  | session choice => exact invariant.session taken
  | handler => exact invariant.handler taken

/-- The invariant holds of every run, by induction on the run. -/
theorem controlInvariant_of_reaches {trace : List ControlLabel} {state : ControlState}
    (reached : controlMachine.Reaches trace state)
    : ControlInvariant trace state := by
  refine reached.invariant ControlInvariant ?_ ?_
  · rintro state rfl
    exact ⟨.nil _, streamInvariant_initial, fun handled => absurd rfl handled,
      rfl, .inl ⟨rfl, rfl, rfl, rfl⟩⟩
  · exact fun trace state choice after emitted invariant taken => invariant.step taken

end VitaMoonlight
