import VitaMoonlight.Stream.OwnerSteps

/-! What a stop and the library's termination callback do to a session, wherever its owner
is. During the startup a stop also has to reach the library, once.
-/

namespace VitaMoonlight

open Library SessionHistory

-----------------------------------------------------------------------------------------
-- Stops and terminations
-----------------------------------------------------------------------------------------

/-- Outside the startup there is nothing to interrupt. -/
theorem stop_of_quiet {flags : StreamFlags} {session : Nat}
    (running : flags.threadRunning = true) (quiet : flags.commonStarting = false)
    : flags.stop session
      = ({ flags with cancelRequested := true, stopRequested := true }, [.stop session]) := by
  simp [StreamFlags.stop, StreamFlags.interruptCommonStartupLocked, running, quiet]

/-- A stop during the startup. -/
theorem stop_of_unsettled {session : Nat} {flags : StreamFlags} {past : SessionHistory}
    (alive : Alive flags session past) (unsettled : Unsettled flags past)
    : ∃ sent count labels,
        flags.stop session
          = ({ flags with
                cancelRequested := true
                stopRequested := true
                startInterruptSent := sent },
              .stop session :: labels)
        ∧ Interrupted session { flags with cancelRequested := true, stopRequested := true }
            { past with stopped := true } sent count labels := by
  have stopped_alive
      : Alive { flags with cancelRequested := true, stopRequested := true } session
          { past with stopped := true } :=
    ⟨alive.running, alive.callback, alive.exited, rfl, fun _ => .inl rfl⟩
  obtain ⟨sent, count, labels, interrupted⟩ := exists_interrupted stopped_alive
    ⟨unsettled.settled, unsettled.libraryStops, unsettled.finals, unsettled.committed,
      unsettled.interrupts, fun _ => rfl, unsettled.quiet, unsettled.staged, unsettled.refused⟩
  refine ⟨sent, count, labels, ?_, interrupted⟩
  rw [StreamFlags.stop, if_pos alive.running, interrupted.outcome]

theorem Untouched.stopped {flags : StreamFlags} {past : SessionHistory}
    (untouched : Untouched flags past)
    : Untouched { flags with cancelRequested := true, stopRequested := true }
        { past with stopped := true } := by
  refine ⟨?_, untouched.started, untouched.commonStarting, untouched.sent⟩
  conv_lhs => rw [untouched.history]

theorem SessionHistory.MayEndWith.stopped {past : SessionHistory} {event : StreamEvent}
    (ending : past.MayEndWith event)
    : { past with stopped := true }.MayEndWith event := by
  obtain ⟨finals, stops, reason⟩ := ending
  cases event with
  | started => exact absurd reason id
  | stopped =>
      obtain ⟨returned, interrupts, announced, -⟩ := reason
      exact ⟨finals, stops, returned, interrupts, announced, .inl rfl⟩
  | failed => exact ⟨finals, stops, reason⟩

/-- A stop during the startup keeps what holds at a point, if the point allows the interrupt. -/
theorem stop_of_startup {session : Nat} {flags : StreamFlags} {past : SessionHistory}
    {point : OwnerPoint} (alive : Alive flags session past) (unsettled : Unsettled flags past)
    (next
      : ∀ sent count,
        Unsettled
          { flags with
            cancelRequested := true
            stopRequested := true
            startInterruptSent := sent }
          { past with stopped := true, interrupts := count }
        → (flags.commonStarting = true → flags.started = false → sent = true)
        → Consistent
            { flags with
              cancelRequested := true
              stopRequested := true
              startInterruptSent := sent }
            { past with stopped := true, interrupts := count } point)
    : StepKeeps session past (flags.stop session).1 (flags.stop session).2 point := by
  obtain ⟨sent, count, labels, outcome, interrupted⟩ := stop_of_unsettled alive unsettled
  rw [outcome]
  refine ⟨interrupted.own.cons rfl (fun _ => by simp), ⟨alive.exited, interrupted.permitted⟩,
    ?_, ?_⟩
  all_goals rw [List.foldl_cons, observe, interrupted.history]
  · exact ⟨alive.running, alive.callback, alive.exited, rfl, fun _ => .inl rfl⟩
  · exact next sent count interrupted.unsettled fun starting => interrupted.passed_on starting rfl

/-- A stop while the library is being called is passed on from the first stage on. -/
theorem Calling.stopped {flags : StreamFlags} {past : SessionHistory} {stage ready : Bool}
    (calling : Calling flags past stage ready) {sent : Bool} {count : Nat}
    (unsettled
      : Unsettled
          { flags with
            cancelRequested := true
            stopRequested := true
            startInterruptSent := sent }
          { past with stopped := true, interrupts := count })
    (passed_on : flags.commonStarting = true → flags.started = false → sent = true)
    : Calling
        { flags with cancelRequested := true, stopRequested := true, startInterruptSent := sent }
        { past with stopped := true, interrupts := count } stage ready := by
  refine ⟨unsettled, calling.returned, calling.is_stage, calling.is_ready, ?_⟩
  intro is_stage unready
  have starting := (calling.publishes is_stage unready).1
  refine ⟨starting, fun _ => passed_on starting ?_⟩
  by_contra was_started
  have is_ready := (calling.quiet (by simpa using was_started)).2
  exact absurd (calling.is_ready.symm.trans is_ready) (by simp [unready])

/-- A stop keeps what holds at every point of the owner. -/
theorem stop_keeps {session : Nat} {flags : StreamFlags} {past : SessionHistory}
    {point : OwnerPoint} (alive : Alive flags session past)
    (consistent : Consistent flags past point)
    : StepKeeps session past (flags.stop session).1 (flags.stop session).2 point := by
  have quiet
      : flags.commonStarting = false
        → Consistent { flags with cancelRequested := true, stopRequested := true }
            { past with stopped := true } point
        → StepKeeps session past (flags.stop session).1 (flags.stop session).2 point := by
    intro quiet next
    rw [stop_of_quiet alive.running quiet]
    exact ⟨by simp [OwnLabels, StreamLabel.session], ⟨alive.exited, trivial⟩,
      ⟨alive.running, alive.callback, alive.exited, rfl, fun _ => .inl rfl⟩, next⟩
  cases point with
  | setup checks =>
      obtain ⟨created, untouched⟩ := consistent
      exact quiet untouched.commonStarting ⟨created, untouched.stopped⟩
  | calling stage ready =>
      obtain ⟨created, calling, started⟩ := consistent
      exact stop_of_startup alive calling.toUnsettled fun sent count unsettled passed_on =>
        ⟨created, calling.stopped unsettled passed_on, started⟩
  | committed =>
      obtain ⟨created, calling, started, unannounced⟩ := consistent
      exact stop_of_startup alive calling.toUnsettled fun sent count unsettled passed_on =>
        ⟨created, calling.stopped unsettled passed_on, started, unannounced⟩
  | announcing callback =>
      obtain ⟨created, calling, started, unannounced, same⟩ := consistent
      exact stop_of_startup alive calling.toUnsettled fun sent count unsettled passed_on =>
        ⟨created, calling.stopped unsettled passed_on, started, unannounced, same⟩
  | returned code =>
      obtain ⟨created, startup, returned, succeeds, started⟩ := consistent
      exact stop_of_startup alive startup fun sent count unsettled _ =>
        ⟨created, unsettled, returned, succeeds, started⟩
  | abandoning =>
      obtain ⟨created, up, rest⟩ := consistent
      exact quiet up.commonStarting
        ⟨created, ⟨up.returned, up.settled, up.finals, up.commonStarting, up.stops⟩, rest⟩
  | active =>
      obtain ⟨created, up, rest⟩ := consistent
      exact quiet up.commonStarting
        ⟨created, ⟨up.returned, up.settled, up.finals, up.commonStarting, up.stops⟩, rest⟩
  | stopping =>
      obtain ⟨created, up, interrupts, announced, -⟩ := consistent
      exact quiet up.commonStarting
        ⟨created, ⟨up.returned, up.settled, up.finals, up.commonStarting, up.stops⟩, interrupts,
          announced, .inl rfl⟩
  | stopped =>
      obtain ⟨created, commonStarting, ending⟩ := consistent
      exact quiet commonStarting ⟨created, commonStarting, ending.stopped⟩
  | finishing event result =>
      obtain ⟨created, commonStarting, ending⟩ := consistent
      exact quiet commonStarting ⟨created, commonStarting, ending.stopped⟩
  | publishing callback event result =>
      obtain ⟨created, commonStarting, ending, same⟩ := consistent
      exact quiet commonStarting ⟨created, commonStarting, ending.stopped, same⟩
  | closing =>
      obtain ⟨created, commonStarting, ended⟩ := consistent
      exact quiet commonStarting ⟨created, commonStarting, ended⟩

theorem SessionHistory.MayEndWith.terminated {past : SessionHistory} {event : StreamEvent}
    (ending : past.MayEndWith event)
    : { past with terminated := true }.MayEndWith event := by
  obtain ⟨finals, stops, reason⟩ := ending
  cases event with
  | started => exact absurd reason id
  | stopped =>
      obtain ⟨returned, interrupts, announced, -⟩ := reason
      exact ⟨finals, stops, returned, interrupts, announced, .inr rfl⟩
  | failed => exact ⟨finals, stops, reason⟩

/-- The library's termination callback keeps what holds at every point of the owner. -/
theorem terminated_keeps {session : Nat} {flags : StreamFlags} {past : SessionHistory}
    {point : OwnerPoint} (alive : Alive flags session past)
    (consistent : Consistent flags past point) (result : Int)
    : StepKeeps session past (flags.onConnectionTerminated result) [.terminated session]
        point := by
  rw [StreamFlags.onConnectionTerminated, if_pos alive.running]
  refine ⟨by simp [OwnLabels, StreamLabel.session], ⟨alive.exited, trivial⟩,
    ⟨alive.running, alive.callback, alive.exited, alive.cancel, fun _ => .inr rfl⟩, ?_⟩
  cases point with
  | setup checks =>
      obtain ⟨created, untouched⟩ := consistent
      refine ⟨created, ?_, untouched.started, untouched.commonStarting, untouched.sent⟩
      conv_lhs => rw [List.foldl_cons, List.foldl_nil, observe, untouched.history]
      rfl
  | calling stage ready =>
      obtain ⟨created, calling, started⟩ := consistent
      exact ⟨created, ⟨calling.toUnsettled.observed rfl rfl, calling.returned, calling.is_stage,
        calling.is_ready, calling.publishes⟩, started⟩
  | committed =>
      obtain ⟨created, calling, started⟩ := consistent
      exact ⟨created, ⟨calling.toUnsettled.observed rfl rfl, calling.returned, calling.is_stage,
        calling.is_ready, calling.publishes⟩, started⟩
  | announcing callback =>
      obtain ⟨created, calling, started⟩ := consistent
      exact ⟨created, ⟨calling.toUnsettled.observed rfl rfl, calling.returned, calling.is_stage,
        calling.is_ready, calling.publishes⟩, started⟩
  | returned code =>
      obtain ⟨created, unsettled, rest⟩ := consistent
      exact ⟨created, unsettled.observed rfl rfl, rest⟩
  | abandoning =>
      obtain ⟨created, up, rest⟩ := consistent
      exact ⟨created, ⟨up.returned, up.settled, up.finals, up.commonStarting, up.stops⟩, rest⟩
  | active =>
      obtain ⟨created, up, rest⟩ := consistent
      exact ⟨created, ⟨up.returned, up.settled, up.finals, up.commonStarting, up.stops⟩, rest⟩
  | stopping =>
      obtain ⟨created, up, interrupts, announced, -⟩ := consistent
      exact ⟨created, ⟨up.returned, up.settled, up.finals, up.commonStarting, up.stops⟩,
        interrupts, announced, .inr rfl⟩
  | stopped =>
      obtain ⟨created, commonStarting, ending⟩ := consistent
      exact ⟨created, commonStarting, ending.terminated⟩
  | finishing event result =>
      obtain ⟨created, commonStarting, ending⟩ := consistent
      exact ⟨created, commonStarting, ending.terminated⟩
  | publishing callback event result =>
      obtain ⟨created, commonStarting, ending, same⟩ := consistent
      exact ⟨created, commonStarting, ending.terminated, same⟩
  | closing =>
      obtain ⟨created, commonStarting, ended⟩ := consistent
      exact ⟨created, commonStarting, ended⟩

end VitaMoonlight
