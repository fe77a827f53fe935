import VitaMoonlight.Stream.SessionHistory

/-! What one step does to a session.
Each point of the owner thread fixes what the flags and the history of its session can be;
every step of the owner keeps that and shows only labels the session permits.
-/

namespace VitaMoonlight

open Library SessionHistory

-----------------------------------------------------------------------------------------
-- What holds at each point of the owner
-----------------------------------------------------------------------------------------

/-- What holds between admission and the owner's last critical section. -/
structure Alive (flags : StreamFlags) (session : Nat) (past : SessionHistory) : Prop where
  running : flags.threadRunning = true
  callback : flags.callback = some session
  exited : past.exited = false
  cancel : flags.cancelRequested = past.stopped
  stop : flags.stopRequested = true → past.stopped = true ∨ past.terminated = true

/-- Before `LiStartConnection` nothing has happened to the session but stops. -/
structure Untouched (flags : StreamFlags) (past : SessionHistory) : Prop where
  history
    : past
      = { created := past.created, stopped := past.stopped, terminated := past.terminated }
  started : flags.started = false
  commonStarting : flags.commonStarting = false
  sent : flags.startInterruptSent = false

/-- What holds from the call of `LiStartConnection` until its result is settled. -/
structure Unsettled (flags : StreamFlags) (past : SessionHistory) : Prop where
  settled : past.settled = false
  libraryStops : past.libraryStops = 0
  finals : past.finals = []
  committed : past.committed = flags.started
  interrupts : past.interrupts = flags.startInterruptSent.toNat
  sent : flags.startInterruptSent = true → flags.cancelRequested = true
  quiet : flags.started = true → flags.startInterruptSent = false ∧ past.ready = true
  staged : flags.commonStarting = true → past.stage = true
  refused
    : past.ready = true → flags.started = false → flags.startInterruptSent = true

/-- While the library is between its first stage and `connectionStarted`, a stop is passed on
to it.
-/
structure Calling (flags : StreamFlags) (past : SessionHistory) (stage ready : Bool)
    : Prop extends Unsettled flags past where
  returned : past.returned = none
  is_stage : past.stage = stage
  is_ready : past.ready = ready
  publishes
    : stage = true
      → ready = false
      → flags.commonStarting = true
        ∧ (flags.cancelRequested = true → flags.startInterruptSent = true)

/-- What holds once the result of `LiStartConnection` is settled and the transport is up. -/
structure Running (flags : StreamFlags) (past : SessionHistory) (libraryStops : Nat)
    : Prop where
  returned : past.returned = some 0
  settled : past.settled = true
  finals : past.finals = []
  commonStarting : flags.commonStarting = false
  stops : past.libraryStops = libraryStops

/-- What the flags and the history are at a point of the owner. -/
def Consistent (flags : StreamFlags) (past : SessionHistory) : OwnerPoint → Prop
  | .setup _ => past.created = true ∧ Untouched flags past
  | .calling stage ready =>
      past.created = true ∧ Calling flags past stage ready ∧ past.started = flags.started.toNat
  | .committed =>
      past.created = true
      ∧ Calling flags past true true
      ∧ flags.started = true
      ∧ past.started = 0
  | .announcing callback =>
      past.created = true
      ∧ Calling flags past true true
      ∧ flags.started = true
      ∧ past.started = 0
      ∧ callback = flags.callback
  | .returned code =>
      past.created = true
      ∧ Unsettled flags past
      ∧ past.returned = some code
      ∧ (past.ready = true → code = 0)
      ∧ past.started = flags.started.toNat
  | .abandoning =>
      past.created = true
      ∧ Running flags past 0
      ∧ past.interrupts = 1
      ∧ past.started = 0
      ∧ past.committed = false
  | .active =>
      past.created = true
      ∧ Running flags past 0
      ∧ past.interrupts = 0
      ∧ (past.ready = true → past.started = 1)
  | .stopping =>
      past.created = true
      ∧ Running flags past 0
      ∧ past.interrupts = 0
      ∧ (past.ready = true → past.started = 1)
      ∧ (past.stopped = true ∨ past.terminated = true)
  | .stopped =>
      past.created = true ∧ flags.commonStarting = false ∧ past.MayEndWith .stopped
  | .finishing event _ =>
      past.created = true ∧ flags.commonStarting = false ∧ past.MayEndWith event
  | .publishing callback event _ =>
      past.created = true
      ∧ flags.commonStarting = false
      ∧ past.MayEndWith event
      ∧ callback = flags.callback
  | .closing => past.created = true ∧ flags.commonStarting = false ∧ past.Ended

-----------------------------------------------------------------------------------------
-- One step of the owner
-----------------------------------------------------------------------------------------

/-- The labels belong to the session and admit none. -/
def OwnLabels (session : Nat) (labels : List StreamLabel) : Prop :=
  ∀ label ∈ labels, label.session = session ∧ ∀ number, label ≠ .admitted number

/-- What a step of the owner establishes. -/
structure StepKeeps (session : Nat) (past : SessionHistory) (after : StreamFlags)
    (labels : List StreamLabel) (point : OwnerPoint) : Prop where
  own : OwnLabels session labels
  permitted : past.PermitsAll labels
  alive : Alive after session (labels.foldl SessionHistory.observe past)
  consistent : Consistent after (labels.foldl SessionHistory.observe past) point

theorem OwnLabels.nil (session : Nat) : OwnLabels session [] := by
  intro label member
  simp at member

theorem OwnLabels.cons {session : Nat} {label : StreamLabel} {labels : List StreamLabel}
    (same : label.session = session) (not_admission : ∀ number, label ≠ .admitted number)
    (rest : OwnLabels session labels)
    : OwnLabels session (label :: labels) := by
  intro other member
  rcases List.mem_cons.mp member with rfl | member
  · exact ⟨same, not_admission⟩
  · exact rest other member

/-- A step that shows nothing and leaves the flags alone only has to be consistent. -/
theorem StepKeeps.silent {session : Nat} {past : SessionHistory} {flags : StreamFlags}
    {point : OwnerPoint} (alive : Alive flags session past)
    (consistent : Consistent flags past point)
    : StepKeeps session past flags [] point :=
  ⟨.nil session, trivial, alive, consistent⟩

/-- What passing on a cancellation changes: at most the mark that it was sent. -/
structure Interrupted (session : Nat) (flags : StreamFlags) (past : SessionHistory)
    (sent : Bool) (count : Nat) (labels : List StreamLabel) : Prop where
  outcome
    : flags.interruptCommonStartupLocked session
      = ({ flags with startInterruptSent := sent }, labels)
  own : OwnLabels session labels
  permitted : past.PermitsAll labels
  history : labels.foldl observe past = { past with interrupts := count }
  unsettled : Unsettled { flags with startInterruptSent := sent } { past with interrupts := count }
  passed_on
    : flags.commonStarting = true
      → flags.cancelRequested = true
      → flags.started = false
      → sent = true

/-- `interrupt_common_startup_locked` sends at most one interrupt, to a startup that a stop
cancelled.
-/
theorem exists_interrupted {session : Nat} {flags : StreamFlags}
    {past : SessionHistory} (alive : Alive flags session past)
    (unsettled : Unsettled flags past)
    : ∃ sent count labels, Interrupted session flags past sent count labels := by
  obtain ⟨settled, libraryStops, finals, committed, interrupts, sent, quiet, staged, refused⟩ :=
    unsettled
  by_cases due
      : flags.commonStarting = true ∧ flags.cancelRequested = true ∧ flags.started = false
        ∧ flags.startInterruptSent = false
  · obtain ⟨starting, cancelled, unstarted, unsent⟩ := due
    have stopped : past.stopped = true := alive.cancel ▸ cancelled
    rw [unsent] at interrupts
    refine ⟨true, 1, [.interrupt session], ?_, ?_, ?_, ?_, ?_, fun _ _ _ => rfl⟩
    · simp [StreamFlags.interruptCommonStartupLocked, starting, cancelled, unstarted, unsent]
    · simp [OwnLabels, StreamLabel.session]
    · exact ⟨⟨stopped, staged starting, committed.trans unstarted, settled, interrupts⟩, trivial⟩
    · simp [observe, interrupts]
    · exact ⟨settled, libraryStops, finals, committed, rfl, fun _ => cancelled,
        by simp [unstarted], staged, fun _ _ => rfl⟩
  · refine ⟨flags.startInterruptSent, past.interrupts, [], ?_, .nil session, trivial, rfl, ?_, ?_⟩
    · unfold StreamFlags.interruptCommonStartupLocked
      rw [if_neg (by simpa [and_assoc] using due)]
    · exact ⟨settled, libraryStops, finals, committed, interrupts, sent, quiet, staged, refused⟩
    · intro starting cancelled unstarted
      by_contra unsent
      exact due ⟨starting, cancelled, unstarted, by simpa using unsent⟩

/-- The library's stage callback passes on a stop that came before the first stage. -/
theorem stageStarting_keeps {session : Nat} {flags : StreamFlags} {past : SessionHistory}
    {stage ready : Bool} (alive : Alive flags session past)
    (consistent : Consistent flags past (.calling stage ready))
    : StepKeeps session past (flags.publishCommonStartup session).1
        (.stageStarting session :: (flags.publishCommonStartup session).2)
        (.calling true ready) := by
  obtain ⟨created, calling, started⟩ := consistent
  have staged_alive
      : Alive { flags with commonStarting := true } session { past with stage := true } :=
    ⟨alive.running, alive.callback, alive.exited, alive.cancel, alive.stop⟩
  obtain ⟨sent, count, labels, interrupted⟩ := exists_interrupted staged_alive
    ⟨calling.settled, calling.libraryStops, calling.finals, calling.committed,
      calling.interrupts, calling.sent, calling.quiet, fun _ => rfl, calling.refused⟩
  rw [StreamFlags.publishCommonStartup, interrupted.outcome]
  refine ⟨interrupted.own.cons rfl (fun _ => by simp), ⟨calling.returned, interrupted.permitted⟩, ?_, ?_⟩
  all_goals rw [List.foldl_cons, observe, interrupted.history]
  · exact ⟨alive.running, alive.callback, alive.exited, alive.cancel, alive.stop⟩
  · refine ⟨created, ⟨interrupted.unsettled, calling.returned, rfl, calling.is_ready, ?_⟩, started⟩
    intro _ unready
    refine ⟨rfl, fun cancelled => interrupted.passed_on rfl cancelled ?_⟩
    by_contra was_started
    have ready := (calling.quiet (by simpa using was_started)).2
    exact absurd (calling.is_ready.symm.trans ready) (by simp [unready])

/-- The commit of the start, unless a stop came first: then it was passed on to the library. -/
theorem connectionStarted_keeps {session : Nat} {flags : StreamFlags} {past : SessionHistory}
    (alive : Alive flags session past) (consistent : Consistent flags past (.calling true false))
    : StepKeeps session past flags.onConnectionStarted.1
        [.connectionStarted session flags.onConnectionStarted.2]
        (if flags.onConnectionStarted.2 then .committed else .calling true true) := by
  obtain ⟨created, calling, started⟩ := consistent
  obtain ⟨_, passed_on⟩ := calling.publishes rfl rfl
  have unstarted : flags.started = false := by
    by_contra was_started
    have ready := (calling.quiet (by simpa using was_started)).2
    exact absurd (calling.is_ready.symm.trans ready) (by decide)
  rw [unstarted] at started
  unfold StreamFlags.onConnectionStarted
  constructor
  · simp [OwnLabels, StreamLabel.session]
  · exact ⟨⟨calling.returned, calling.is_ready, by simp [alive.cancel]⟩, trivial⟩
  · exact ⟨alive.running, alive.callback, alive.exited, alive.cancel, alive.stop⟩
  · cases cancelled : flags.cancelRequested with
    | false =>
        have unsent : flags.startInterruptSent = false := by
          by_contra was_sent
          exact absurd (calling.sent (by simpa using was_sent)) (by simp [cancelled])
        refine ⟨created, ⟨⟨calling.settled, calling.libraryStops, calling.finals, ?_,
          calling.interrupts, ?_, fun _ => ⟨unsent, rfl⟩, nofun, ?_⟩, calling.returned,
          calling.is_stage, rfl, fun _ => nofun⟩, ?_, started⟩
        · simp [observe]
        · exact fun was_sent => absurd was_sent (by simp [unsent])
        · simp
        · simp
    | true =>
        refine ⟨created, ⟨⟨calling.settled, calling.libraryStops, calling.finals, ?_,
          calling.interrupts, fun _ => rfl, ?_, nofun, fun _ _ => passed_on cancelled⟩,
          calling.returned, calling.is_stage, rfl, fun _ => nofun⟩, ?_⟩
        · simp [observe, unstarted]
        · simp [unstarted]
        · simpa [observe, unstarted] using started

/-- Settling the result of `LiStartConnection`. -/
theorem finishCommonStartup_keeps {session : Nat} {flags : StreamFlags} {past : SessionHistory}
    {code : Int} (alive : Alive flags session past)
    (consistent : Consistent flags past (.returned code))
    : StepKeeps session past flags.finishCommonStartup.1 [.settled session]
        (if flags.finishCommonStartup.2 then
          if code = 0 then .abandoning else .finishing .failed (-7)
        else if code = 0 then .active
        else .finishing .failed code) := by
  obtain ⟨created, unsettled, returned, succeeds, started⟩ := consistent
  unfold StreamFlags.finishCommonStartup
  constructor
  · simp [OwnLabels, StreamLabel.session]
  · exact ⟨⟨by simp [returned], unsettled.settled⟩, trivial⟩
  · exact ⟨alive.running, alive.callback, alive.exited, alive.cancel, alive.stop⟩
  · have interrupts := unsettled.interrupts
    have committed := unsettled.committed
    cases sent : flags.startInterruptSent with
    | true =>
        have cancelled := unsettled.sent sent
        have unstarted : flags.started = false := by
          by_contra was_started
          exact absurd (unsettled.quiet (by simpa using was_started)).1 (by simp [sent])
        rw [sent] at interrupts
        rw [unstarted] at committed started
        simp only [cancelled, unstarted, Bool.and_self, Bool.not_false, if_true]
        split
        · rename_i success
          subst success
          exact ⟨created, ⟨returned, rfl, unsettled.finals, rfl, unsettled.libraryStops⟩,
            interrupts, started, committed⟩
        · rename_i failure
          refine ⟨created, rfl, unsettled.finals, ?_, started, committed, fun _ => interrupts⟩
          simp [observe, returned, failure, unsettled.libraryStops]
    | false =>
        rw [sent] at interrupts
        simp only [Bool.false_and, Bool.false_eq_true, if_false]
        split
        · rename_i success
          subst success
          refine ⟨created, ⟨returned, rfl, unsettled.finals, rfl, unsettled.libraryStops⟩,
            interrupts, fun ready => ?_⟩
          have was_started : flags.started = true := by
            by_contra unstarted
            exact absurd (unsettled.refused ready (by simpa using unstarted)) (by simp [sent])
          simpa [observe, was_started] using started
        · rename_i failure
          have unstarted : flags.started = false := by
            by_contra was_started
            exact failure (succeeds (unsettled.quiet (by simpa using was_started)).2)
          rw [unstarted] at committed started
          refine ⟨created, rfl, unsettled.finals, ?_, started, committed, ?_⟩
          · simp [observe, returned, failure, unsettled.libraryStops]
          · simp [observe, returned, failure]

/-- A session that the library never saw may fail. -/
theorem Untouched.mayFail {flags : StreamFlags} {past : SessionHistory}
    (untouched : Untouched flags past)
    : past.MayEndWith .failed := by
  rw [untouched.history]
  exact ⟨rfl, rfl, rfl, rfl, nofun⟩

/-- Announcing, returning and terminating do not touch the startup. -/
theorem Unsettled.observed {flags after : StreamFlags} {past other : SessionHistory}
    (unsettled : Unsettled flags past)
    (same_flags
      : after
        = { flags with
            stopRequested := after.stopRequested
            terminationResult := after.terminationResult })
    (same
      : other
        = { past with
            started := other.started
            returned := other.returned
            terminated := other.terminated })
    : Unsettled after other := by
  rw [same, same_flags]
  exact ⟨unsettled.settled, unsettled.libraryStops, unsettled.finals, unsettled.committed,
    unsettled.interrupts, unsettled.sent, unsettled.quiet, unsettled.staged, unsettled.refused⟩

/-- The call of the library starts from a session that it never saw. -/
theorem Untouched.calling {flags : StreamFlags} {past : SessionHistory}
    (untouched : Untouched flags past)
    : Calling flags past false false ∧ past.started = flags.started.toNat := by
  obtain ⟨history, started, commonStarting, sent⟩ := untouched
  rw [history]
  exact ⟨⟨⟨rfl, rfl, rfl, started.symm, by simp [sent], by simp [sent], by simp [started],
    by simp [commonStarting], nofun⟩, rfl, rfl, rfl, nofun⟩, by simp [started]⟩

/-- A running session ends with STOPPED once its transport is stopped. -/
theorem Running.mayStop {flags : StreamFlags} {past : SessionHistory}
    (up : Running flags past 0) (interrupts : past.interrupts = 0)
    (announced : past.ready = true → past.started = 1)
    (ending : past.stopped = true ∨ past.terminated = true) (session : Nat)
    : (past.observe (.libraryStop session)).MayEndWith .stopped := by
  refine ⟨up.finals, ?_, up.returned, interrupts, announced, ending⟩
  simp [observe, up.returned, up.stops]

/-- Publishing the terminal event ends the session. -/
theorem SessionHistory.MayEndWith.ended {past : SessionHistory} {event : StreamEvent}
    (ending : past.MayEndWith event) (session : Nat) (result : Int)
    : past.Permits (.event session event result)
      ∧ past.observe (.event session event result) = { past with finals := [event] }
      ∧ { past with finals := [event] }.Ended := by
  have finals := ending.1
  cases event with
  | started => exact absurd ending.2.2 id
  | stopped => exact ⟨ending, by simp [observe, finals], rfl, ending.2.1⟩
  | failed => exact ⟨ending, by simp [observe, finals], rfl, ending.2.1⟩

theorem announce_some (session : Nat) (event : StreamEvent) (result : Int)
    : announce (some session) event result = [.event session event result] := rfl

/-- Every step of the owner that does not end it keeps what holds at its points. -/
theorem ownerStep_keeps {session : Nat} {flags after : StreamFlags} {past : SessionHistory}
    {point next : OwnerPoint} {action : OwnerAction} {labels : List StreamLabel}
    (alive : Alive flags session past) (consistent : Consistent flags past point)
    (taken : ownerStep session flags point action = some (after, some next, labels))
    : StepKeeps session past after labels next := by
  unfold ownerStep at taken
  split at taken
  case h_1 checks =>
    obtain ⟨created, untouched⟩ := consistent
    split at taken
    · split at taken
      all_goals
        simp only [Option.some.injEq, Prod.mk.injEq] at taken
        obtain ⟨rfl, rfl, rfl⟩ := taken
      · exact .silent alive ⟨created, untouched.commonStarting, untouched.mayFail⟩
      · exact .silent alive ⟨created, untouched⟩
    · simp only [Option.some.injEq, Prod.mk.injEq] at taken
      obtain ⟨rfl, rfl, rfl⟩ := taken
      obtain ⟨calling, started⟩ := untouched.calling
      refine ⟨?_, ⟨⟨calling.is_stage, calling.returned⟩, trivial⟩, alive, created, calling, started⟩
      simp [OwnLabels, StreamLabel.session]
  case h_2 checks result =>
    obtain ⟨created, untouched⟩ := consistent
    split at taken
    · simp only [Option.some.injEq, Prod.mk.injEq] at taken
      obtain ⟨rfl, rfl, rfl⟩ := taken
      exact .silent alive ⟨created, untouched.commonStarting, untouched.mayFail⟩
    · contradiction
  case h_3 stage ready =>
    simp only [Option.some.injEq, Prod.mk.injEq] at taken
    obtain ⟨rfl, rfl, rfl⟩ := taken
    exact stageStarting_keeps alive consistent
  case h_4 =>
    simp only [Option.some.injEq, Prod.mk.injEq] at taken
    obtain ⟨rfl, rfl, rfl⟩ := taken
    exact connectionStarted_keeps alive consistent
  case h_5 =>
    simp only [Option.some.injEq, Prod.mk.injEq] at taken
    obtain ⟨rfl, rfl, rfl⟩ := taken
    obtain ⟨created, calling, started, announced⟩ := consistent
    exact .silent alive ⟨created, calling, started, announced, rfl⟩
  case h_6 =>
    simp only [Option.some.injEq, Prod.mk.injEq] at taken
    obtain ⟨rfl, rfl, rfl⟩ := taken
    obtain ⟨created, calling, started, unannounced, rfl⟩ := consistent
    rw [alive.callback, announce_some]
    refine ⟨?_, ⟨⟨calling.committed.trans started, unannounced, calling.returned,
      calling.finals⟩, trivial⟩,
      ⟨alive.running, alive.callback, alive.exited, alive.cancel, alive.stop⟩, created, ?_, ?_⟩
    · simp [OwnLabels, StreamLabel.session]
    · exact ⟨calling.toUnsettled.observed rfl rfl, calling.returned, calling.is_stage,
        calling.is_ready, fun _ => nofun⟩
    · simp [observe, started, unannounced]
  case h_7 stage ready code =>
    split at taken
    · contradiction
    · rename_i kept
      simp only [Option.some.injEq, Prod.mk.injEq] at taken
      obtain ⟨rfl, rfl, rfl⟩ := taken
      obtain ⟨created, calling, started⟩ := consistent
      refine ⟨?_, ⟨calling.returned, trivial⟩,
        ⟨alive.running, alive.callback, alive.exited, alive.cancel, alive.stop⟩, created,
        calling.toUnsettled.observed rfl rfl, rfl, ?_, started⟩
      · simp [OwnLabels, StreamLabel.session]
      · intro was_ready
        by_contra failure
        exact kept ⟨calling.is_ready.symm.trans was_ready, failure⟩
  case h_8 =>
    simp only [Option.some.injEq, Prod.mk.injEq] at taken
    obtain ⟨rfl, rfl, rfl⟩ := taken
    exact finishCommonStartup_keeps alive consistent
  case h_9 =>
    simp only [Option.some.injEq, Prod.mk.injEq] at taken
    obtain ⟨rfl, rfl, rfl⟩ := taken
    obtain ⟨created, up, interrupts, started, committed⟩ := consistent
    refine ⟨?_, ⟨⟨up.returned, up.settled, up.stops, up.finals⟩, trivial⟩,
      ⟨alive.running, alive.callback, alive.exited, alive.cancel, alive.stop⟩, created,
      up.commonStarting, up.finals, ?_, started, committed, fun _ => interrupts⟩
    · simp [OwnLabels, StreamLabel.session]
    · simp [observe, up.returned, up.stops]
  case h_10 =>
    obtain ⟨created, up, interrupts, announced⟩ := consistent
    split at taken
    · rename_i requested
      simp only [Option.some.injEq, Prod.mk.injEq] at taken
      obtain ⟨rfl, rfl, rfl⟩ := taken
      refine .silent alive ⟨created, up, interrupts, announced, ?_⟩
      rcases Bool.or_eq_true_iff.mp requested with stop | cancel
      · exact alive.stop stop
      · exact .inl (alive.cancel.symm.trans cancel)
    · simp only [Option.some.injEq, Prod.mk.injEq] at taken
      obtain ⟨rfl, rfl, rfl⟩ := taken
      exact .silent alive ⟨created, up, interrupts, announced⟩
  case h_11 =>
    simp only [Option.some.injEq, Prod.mk.injEq] at taken
    obtain ⟨rfl, rfl, rfl⟩ := taken
    obtain ⟨created, up, interrupts, announced, ending⟩ := consistent
    refine ⟨?_, ⟨⟨up.returned, up.settled, up.stops, up.finals⟩, trivial⟩,
      ⟨alive.running, alive.callback, alive.exited, alive.cancel, alive.stop⟩, created,
      up.commonStarting, up.mayStop interrupts announced ending session⟩
    simp [OwnLabels, StreamLabel.session]
  case h_12 =>
    simp only [Option.some.injEq, Prod.mk.injEq] at taken
    obtain ⟨rfl, rfl, rfl⟩ := taken
    exact .silent alive consistent
  case h_13 event result =>
    simp only [Option.some.injEq, Prod.mk.injEq] at taken
    obtain ⟨rfl, rfl, rfl⟩ := taken
    obtain ⟨created, commonStarting, ending⟩ := consistent
    exact .silent ⟨alive.running, alive.callback, alive.exited, alive.cancel, alive.stop⟩
      ⟨created, commonStarting, ending, rfl⟩
  case h_14 callback event result =>
    simp only [Option.some.injEq, Prod.mk.injEq] at taken
    obtain ⟨rfl, rfl, rfl⟩ := taken
    obtain ⟨created, commonStarting, ending, rfl⟩ := consistent
    obtain ⟨permitted, observed, ended⟩ := ending.ended session result
    rw [alive.callback, announce_some]
    refine ⟨?_, ⟨permitted, trivial⟩, ?_, ?_⟩
    · simp [OwnLabels, StreamLabel.session]
    all_goals rw [List.foldl_cons, List.foldl_nil, observed]
    · exact ⟨alive.running, alive.callback, alive.exited, alive.cancel, alive.stop⟩
    · exact ⟨created, commonStarting, ended⟩
  case h_15 => simp at taken
  case h_16 => contradiction
/-- The last critical section of the owner leaves the session over. -/
theorem ownerStep_exits {session : Nat} {flags after : StreamFlags} {past : SessionHistory}
    {point : OwnerPoint} {action : OwnerAction} {labels : List StreamLabel}
    (alive : Alive flags session past) (consistent : Consistent flags past point)
    (taken : ownerStep session flags point action = some (after, none, labels))
    : labels = [.exited session]
      ∧ past.Permits (.exited session)
      ∧ (past.observe (.exited session)).Over
      ∧ after
        = { flags with
            stopRequested := false
            cancelRequested := false
            threadRunning := false } := by
  unfold ownerStep at taken
  split at taken
  case h_15 =>
    simp only [Option.some.injEq, Prod.mk.injEq, true_and] at taken
    obtain ⟨rfl, rfl⟩ := taken
    obtain ⟨created, commonStarting, ended⟩ := consistent
    exact ⟨rfl, ⟨ended.1, alive.exited⟩, .inl ⟨created, rfl, ended⟩, rfl⟩
  all_goals
    first
    | contradiction
    | (repeat' split at taken) <;> simp at taken

end VitaMoonlight
