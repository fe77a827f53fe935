import VitaMoonlight.Stream.StopSteps

/-! The life of every stream session over every interleaving of its parties.
At most one session holds the flags at a time: it is being launched, or has an owner, and
every earlier session is over.
-/

namespace VitaMoonlight

open Library SessionHistory

-----------------------------------------------------------------------------------------
-- The invariant
-----------------------------------------------------------------------------------------

/-- Who holds the flags, and what the last admitted session looks like then. -/
inductive StreamPhase (state : StreamState) (past : SessionHistory) : Prop
  | idle (free : state.flags.threadRunning = false) (launching : state.launching = [])
    (owners : state.owners = []) (finished : past.Over)
  | launching (alive : Alive state.flags state.sessions past)
    (launching : state.launching = [state.sessions]) (owners : state.owners = [])
    (uncreated : past.created = false) (untouched : Untouched state.flags past)
  | owned (point : OwnerPoint) (alive : Alive state.flags state.sessions past)
    (launching : state.launching = []) (owners : state.owners = [⟨state.sessions, point⟩])
    (consistent : Consistent state.flags past point)

/-- What holds of every run. -/
structure StreamInvariant (trace : List StreamLabel) (state : StreamState) : Prop where
  permitted : Guarded StreamAllowed trace
  future : ∀ session, state.sessions < session → history session trace = {}
  finished : ∀ session < state.sessions, (history session trace).Over
  phase : StreamPhase state (history state.sessions trace)

/-- Labels that the last admitted session permits keep the invariant if its phase does. -/
theorem StreamInvariant.emit {trace labels : List StreamLabel} {state after : StreamState}
    (invariant : StreamInvariant trace state) (sessions : after.sessions = state.sessions)
    (own : OwnLabels state.sessions labels)
    (permitted : (history state.sessions trace).PermitsAll labels)
    (phase : StreamPhase after (labels.foldl observe (history state.sessions trace)))
    : StreamInvariant (trace ++ labels) after := by
  have same : ∀ label ∈ labels, label.session = state.sessions :=
    fun label member => (own label member).1
  have others
      : ∀ session, session ≠ state.sessions → history session (trace ++ labels) = history session trace := by
    intro session other
    exact history_append_other trace fun label member =>
      (same label member).trans_ne (Ne.symm other)
  constructor
  · refine invariant.permitted.append (allowedAfter_of_permitsAll same ?_ permitted)
    exact fun number member => (own _ member).2 number rfl
  · intro session later
    rw [sessions] at later
    rw [others session (by omega)]
    exact invariant.future session later
  · intro session earlier
    rw [sessions] at earlier
    rw [others session (by omega)]
    exact invariant.finished session earlier
  · rw [sessions, history_append_same trace same]
    exact phase

/-- Nothing shown and nothing changed. -/
theorem StreamInvariant.unchanged {trace : List StreamLabel} {state : StreamState}
    (invariant : StreamInvariant trace state)
    : StreamInvariant (trace ++ []) state := by
  rwa [List.append_nil]

theorem streamInvariant_initial : StreamInvariant [] {} := by
  refine ⟨.nil _, fun _ _ => rfl, ?_, .idle rfl rfl rfl (.inr rfl)⟩
  exact fun session earlier => absurd earlier (Nat.not_lt_zero session)

/-- The only element of a one-element list is the first one. -/
theorem eq_of_getElem?_singleton {α : Type} {index : Nat} {value found : α}
    (at_index : [value][index]? = some found)
    : index = 0 ∧ found = value := by
  cases index with
  | zero => exact ⟨rfl, (Option.some.inj at_index).symm⟩
  | succ index => simp at at_index

-----------------------------------------------------------------------------------------
-- One step of the machine
-----------------------------------------------------------------------------------------

theorem StreamInvariant.start {trace labels : List StreamLabel} {state after : StreamState}
    (invariant : StreamInvariant trace state)
    (taken : streamStep state .start = some (after, labels))
    : StreamInvariant (trace ++ labels) after := by
  cases running : state.flags.threadRunning with
  | true =>
      simp only [streamStep, StreamFlags.start, running, if_true, Option.some.injEq,
        Prod.mk.injEq] at taken
      obtain ⟨rfl, rfl⟩ := taken
      exact invariant.unchanged
  | false =>
      simp only [streamStep, StreamFlags.start, running, Bool.false_eq_true, if_false,
        Option.some.injEq, Prod.mk.injEq] at taken
      obtain ⟨rfl, rfl⟩ := taken
      have fresh := invariant.future (state.sessions + 1) (Nat.lt_succ_self _)
      cases invariant.phase with
      | idle free launching owners finished =>
          have all_over : ∀ session < state.sessions + 1, (history session trace).Over := by
            intro session earlier
            rcases Nat.lt_succ_iff_lt_or_eq.mp earlier with earlier | rfl
            · exact invariant.finished session earlier
            · exact finished
          constructor
          · refine invariant.permitted.snoc ⟨fresh, ?_⟩
            rintro session same
            obtain rfl := StreamLabel.admitted.inj same
            exact all_over
          · intro session later
            have later : state.sessions + 1 < session := later
            rw [history_snoc_other trace _ (by simp only [StreamLabel.session]; omega)]
            exact invariant.future session (by omega)
          · intro session earlier
            have earlier : session < state.sessions + 1 := earlier
            rw [history_snoc_other trace _ (by simp only [StreamLabel.session]; omega)]
            exact all_over session earlier
          · have admitted
                : history (state.sessions + 1) (trace ++ [.admitted (state.sessions + 1)])
                  = {} :=
              (history_snoc_same trace (.admitted (state.sessions + 1)) rfl).trans fresh
            dsimp only
            rw [admitted]
            refine .launching ⟨rfl, rfl, rfl, rfl, by simp⟩ ?_ owners rfl ⟨rfl, rfl, rfl, rfl⟩
            simp [launching]
      | launching alive => exact absurd (running.symm.trans alive.running) (by decide)
      | owned point alive => exact absurd (running.symm.trans alive.running) (by decide)

/-- An owner is created, or not, only while the last admitted session has none. -/
theorem StreamInvariant.create_cases {trace labels : List StreamLabel}
    {state after : StreamState} {index : Nat} {succeeds : Bool}
    (invariant : StreamInvariant trace state)
    (taken : streamStep state (.create index succeeds) = some (after, labels))
    : Alive state.flags state.sessions (history state.sessions trace)
      ∧ state.owners = []
      ∧ (history state.sessions trace).created = false
      ∧ Untouched state.flags (history state.sessions trace)
      ∧ (after, labels)
        = if succeeds then
            ({ state with launching := [], owners := [⟨state.sessions, .setup 0⟩] },
              [.created state.sessions])
          else
            ({ state with launching := [], flags := state.flags.notCreated },
              [.notCreated state.sessions]) := by
  simp only [streamStep] at taken
  cases invariant.phase with
  | idle free launching owners finished => simp [launching] at taken
  | owned point alive launching owners consistent => simp [launching] at taken
  | launching alive launching owners uncreated untouched =>
      rw [launching] at taken
      split at taken
      · contradiction
      · rename_i session found
        obtain ⟨rfl, rfl⟩ := eq_of_getElem?_singleton found
        refine ⟨alive, owners, uncreated, untouched, ?_⟩
        cases succeeds with
        | true =>
            rw [owners] at taken
            exact (Option.some.inj taken).symm
        | false => exact (Option.some.inj taken).symm

theorem StreamInvariant.create {trace labels : List StreamLabel} {state after : StreamState}
    {index : Nat} {succeeds : Bool} (invariant : StreamInvariant trace state)
    (taken : streamStep state (.create index succeeds) = some (after, labels))
    : StreamInvariant (trace ++ labels) after := by
  obtain ⟨alive, owners, uncreated, untouched, done⟩ := invariant.create_cases taken
  cases succeeds with
  | true =>
      obtain ⟨rfl, rfl⟩ := Prod.mk.inj done
      refine invariant.emit rfl (by simp [OwnLabels, StreamLabel.session])
        ⟨uncreated, trivial⟩ (.owned (.setup 0) ?_ rfl rfl ⟨rfl, ?_⟩)
      · exact ⟨alive.running, alive.callback, alive.exited, alive.cancel, alive.stop⟩
      · refine ⟨?_, untouched.started, untouched.commonStarting, untouched.sent⟩
        conv_lhs => rw [List.foldl_cons, List.foldl_nil, observe, untouched.history]
        rfl
  | false =>
      obtain ⟨rfl, rfl⟩ := Prod.mk.inj done
      refine invariant.emit rfl (by simp [OwnLabels, StreamLabel.session])
        ⟨uncreated, trivial⟩ (.idle rfl rfl owners (.inr ?_))
      have history := untouched.history
      rw [uncreated] at history
      exact history

theorem StreamInvariant.stop {trace labels : List StreamLabel} {state after : StreamState}
    (invariant : StreamInvariant trace state)
    (taken : streamStep state .stop = some (after, labels))
    : StreamInvariant (trace ++ labels) after := by
  simp only [streamStep, Option.some.injEq, Prod.mk.injEq] at taken
  obtain ⟨rfl, rfl⟩ := taken
  cases invariant.phase with
  | idle free launching owners finished =>
      have ignored : state.flags.stop state.sessions = (state.flags, []) := by
        simp [StreamFlags.stop, free]
      rw [ignored]
      exact invariant.unchanged
  | launching alive launching owners uncreated untouched =>
      rw [stop_of_quiet alive.running untouched.commonStarting]
      exact invariant.emit rfl (by simp [OwnLabels, StreamLabel.session])
        ⟨alive.exited, trivial⟩
        (.launching ⟨alive.running, alive.callback, alive.exited, rfl, fun _ => .inl rfl⟩
          launching owners uncreated untouched.stopped)
  | owned point alive launching owners consistent =>
      have keeps := stop_keeps alive consistent
      exact invariant.emit rfl keeps.own keeps.permitted
        (.owned point keeps.alive launching owners keeps.consistent)

theorem StreamInvariant.terminated {trace labels : List StreamLabel}
    {state after : StreamState} {result : Int} (invariant : StreamInvariant trace state)
    (taken : streamStep state (.terminated result) = some (after, labels))
    : StreamInvariant (trace ++ labels) after := by
  simp only [streamStep, Option.some.injEq, Prod.mk.injEq] at taken
  obtain ⟨rfl, rfl⟩ := taken
  cases invariant.phase with
  | idle free launching owners finished =>
      have ignored : state.flags.onConnectionTerminated result = state.flags := by
        simp [StreamFlags.onConnectionTerminated, free]
      rw [ignored, free]
      exact invariant.unchanged
  | launching alive launching owners uncreated untouched =>
      rw [StreamFlags.onConnectionTerminated, if_pos alive.running, if_pos alive.running]
      refine invariant.emit rfl (by simp [OwnLabels, StreamLabel.session])
        ⟨alive.exited, trivial⟩ (.launching ?_ launching owners uncreated ?_)
      · exact ⟨alive.running, alive.callback, alive.exited, alive.cancel, fun _ => .inr rfl⟩
      · refine ⟨?_, untouched.started, untouched.commonStarting, untouched.sent⟩
        conv_lhs => rw [List.foldl_cons, List.foldl_nil, observe, untouched.history]
        rfl
  | owned point alive launching owners consistent =>
      have keeps := terminated_keeps alive consistent result
      rw [if_pos alive.running]
      exact invariant.emit rfl keeps.own keeps.permitted
        (.owned point keeps.alive launching owners keeps.consistent)

/-- An owner's step is one of the last admitted session's owner, which goes on or exits. -/
theorem StreamInvariant.owner_cases {trace labels : List StreamLabel} {state after : StreamState}
    {index : Nat} {action : OwnerAction} (invariant : StreamInvariant trace state)
    (taken : streamStep state (.owner index action) = some (after, labels))
    : ∃ point flags left,
        ownerStep state.sessions state.flags point action = some (flags, left, labels)
        ∧ state.owners = [⟨state.sessions, point⟩]
        ∧ state.launching = []
        ∧ Alive state.flags state.sessions (history state.sessions trace)
        ∧ Consistent state.flags (history state.sessions trace) point
        ∧ after
          = { state with
              flags
              owners := (left.map (StreamOwner.mk state.sessions)).toList } := by
  simp only [streamStep] at taken
  cases invariant.phase with
  | idle free launching owners finished => simp [owners] at taken
  | launching alive launching owners uncreated untouched => simp [owners] at taken
  | owned point alive launching owners consistent =>
      rw [owners] at taken
      split at taken
      · contradiction
      · rename_i owner found
        obtain ⟨rfl, rfl⟩ := eq_of_getElem?_singleton found
        split at taken
        · contradiction
        · rename_i flags next shown stepped
          obtain ⟨rfl, rfl⟩ := Prod.mk.inj (Option.some.inj taken)
          exact ⟨point, flags, some next, stepped, owners, launching, alive, consistent, rfl⟩
        · rename_i flags shown stepped
          obtain ⟨rfl, rfl⟩ := Prod.mk.inj (Option.some.inj taken)
          exact ⟨point, flags, none, stepped, owners, launching, alive, consistent, rfl⟩

theorem StreamInvariant.owner {trace labels : List StreamLabel} {state after : StreamState}
    {index : Nat} {action : OwnerAction} (invariant : StreamInvariant trace state)
    (taken : streamStep state (.owner index action) = some (after, labels))
    : StreamInvariant (trace ++ labels) after := by
  obtain ⟨point, flags, left, stepped, -, launching, alive, consistent, rfl⟩ :=
    invariant.owner_cases taken
  cases left with
  | some next =>
      have keeps := ownerStep_keeps alive consistent stepped
      exact invariant.emit rfl keeps.own keeps.permitted
        (.owned next keeps.alive launching rfl keeps.consistent)
  | none =>
      obtain ⟨rfl, permitted, finished, rfl⟩ := ownerStep_exits alive consistent stepped
      exact invariant.emit rfl (by simp [OwnLabels, StreamLabel.session])
        ⟨permitted, trivial⟩ (.idle rfl launching rfl finished)

/-- Every step of every party keeps the invariant. -/
theorem StreamInvariant.step {trace labels : List StreamLabel} {state after : StreamState}
    {choice : StreamChoice} (invariant : StreamInvariant trace state)
    (taken : streamStep state choice = some (after, labels))
    : StreamInvariant (trace ++ labels) after := by
  cases choice with
  | start => exact invariant.start taken
  | create index succeeds => exact invariant.create taken
  | stop => exact invariant.stop taken
  | terminated result => exact invariant.terminated taken
  | owner index action => exact invariant.owner taken

/-- The invariant holds of every run, by induction on the run. -/
theorem streamInvariant_of_reaches {trace : List StreamLabel} {state : StreamState}
    (reached : streamMachine.Reaches trace state)
    : StreamInvariant trace state := by
  refine reached.invariant StreamInvariant ?_ ?_
  · rintro state rfl
    exact streamInvariant_initial
  · exact fun trace state choice after emitted invariant taken => invariant.step taken

-----------------------------------------------------------------------------------------
-- Every session can be brought to its end
-----------------------------------------------------------------------------------------

/-- How far a point is from the end of the thread. -/
def OwnerPoint.rank : OwnerPoint → Nat
  | setup checks => 12 + (7 - checks)
  | committed => 11
  | announcing _ => 10
  | calling _ _ => 9
  | returned _ => 8
  | abandoning => 7
  | active => 7
  | stopping => 6
  | stopped => 5
  | finishing _ _ => 4
  | publishing _ _ _ => 3
  | closing => 2

theorem OwnerPoint.rank_pos (point : OwnerPoint) : 0 < point.rank := by
  cases point <;> simp only [rank] <;> omega

/-- Once a stop is requested, each point has a step towards the end: one of the owner, or the
return of `LiStartConnection`.
-/
theorem ownerStep_progresses (session : Nat) {flags : StreamFlags} (point : OwnerPoint)
    (stopping : flags.stopRequested = true)
    : ∃ action after next labels,
        ownerStep session flags point action = some (after, next, labels)
        ∧ ∀ later, next = some later → after.stopRequested = true ∧ later.rank < point.rank := by
  cases point with
  | setup checks =>
      by_cases left : checks < 7
      · cases cancelled : flags.cancelRequested with
        | true =>
            refine ⟨.proceed, flags, some (.finishing .failed (-7)), [],
              by simp [ownerStep, left, cancelled], ?_⟩
            rintro later ⟨⟩
            exact ⟨stopping, by simp only [OwnerPoint.rank]; omega⟩
        | false =>
            refine ⟨.proceed, flags, some (.setup (checks + 1)), [],
              by simp [ownerStep, left, cancelled], ?_⟩
            rintro later ⟨⟩
            exact ⟨stopping, by simp only [OwnerPoint.rank]; omega⟩
      · refine ⟨.proceed, flags, some (.calling false false), [.libraryCalled session],
          by simp [ownerStep, left], ?_⟩
        rintro later ⟨⟩
        exact ⟨stopping, by simp only [OwnerPoint.rank]; omega⟩
  | calling stage ready =>
      refine ⟨.returns 0, flags, some (.returned 0), [.libraryReturned session 0],
        by simp [ownerStep], ?_⟩
      rintro later ⟨⟩
      exact ⟨stopping, by simp [OwnerPoint.rank]⟩
  | returned code =>
      refine ⟨.proceed, _, _, _, rfl, ?_⟩
      rintro later ⟨⟩
      refine ⟨stopping, ?_⟩
      repeat' split
      all_goals simp [OwnerPoint.rank]
  | active =>
      refine ⟨.proceed, flags, some .stopping, [], by simp [ownerStep, stopping], ?_⟩
      rintro later ⟨⟩
      exact ⟨stopping, by simp [OwnerPoint.rank]⟩
  | closing => exact ⟨.proceed, _, _, _, rfl, nofun⟩
  | committed | announcing | abandoning | stopping | stopped | finishing | publishing =>
      refine ⟨.proceed, _, _, _, rfl, ?_⟩
      rintro later ⟨⟩
      exact ⟨stopping, by simp [OwnerPoint.rank]⟩

/-- A state whose only thread is the owner of a stopped session can run until that owner has
exited, by induction on how far it is from its end.
-/
theorem owner_can_end {state : StreamState} {owner : StreamOwner}
    (owners : state.owners = [owner]) (stopping : state.flags.stopRequested = true)
    : ∃ choices final emitted,
        streamMachine.run state choices = some (final, emitted) ∧ final.owners = [] := by
  induction distance : owner.point.rank using Nat.strongRecOn
    generalizing state owner with
  | _ rank ih =>
      obtain ⟨action, flags, next, labels, stepped, nearer⟩ :=
        ownerStep_progresses owner.session owner.point stopping
      cases next with
      | none =>
          have taken
              : streamMachine.step state (.owner 0 action)
                = some ({ state with flags, owners := [] }, labels) := by
            simp [streamMachine, streamStep, owners, stepped]
          exact ⟨[.owner 0 action], _, _, by simp only [Machine.run, taken]; rfl, rfl⟩
      | some point =>
          obtain ⟨still, closer⟩ := nearer point rfl
          have taken
              : streamMachine.step state (.owner 0 action)
                = some ({ state with flags, owners := [⟨owner.session, point⟩] }, labels) := by
            simp [streamMachine, streamStep, owners, stepped]
          obtain ⟨choices, final, emitted, ran, ended⟩ :=
            @ih point.rank (distance ▸ closer)
              { state with flags, owners := [⟨owner.session, point⟩] } ⟨owner.session, point⟩
              rfl still rfl
          exact ⟨.owner 0 action :: choices, final, _, by simp only [Machine.run, taken, ran]; rfl,
            ended⟩
-----------------------------------------------------------------------------------------
-- The contract
-----------------------------------------------------------------------------------------

/-- What every run of the stream sessions keeps. Each label is one its session permits, so
the order and number of events, interrupts and stops are those of `SessionHistory.Permits`;
a session that got its owner thread has ended when that thread is gone, which it can always
reach.
-/
structure StreamContract (trace : List StreamLabel) (state : StreamState) : Prop where
  one_owner : state.owners.length ≤ 1
  permitted : Guarded StreamAllowed trace
  ended
    : ∀ session,
        (history session trace).created = true
        → (∀ owner ∈ state.owners, owner.session ≠ session)
        → (history session trace).Ended
  can_end
    : ∃ choices final emitted,
        streamMachine.run state choices = some (final, emitted) ∧ final.owners = []

/-- A session that is over has ended if it ever had an owner. -/
theorem SessionHistory.Over.ended {past : SessionHistory} (finished : past.Over)
    (created : past.created = true)
    : past.Ended := by
  rcases finished with ⟨-, -, ended⟩ | untouched
  · exact ended
  · rw [untouched] at created
    contradiction

theorem StreamInvariant.ended {trace : List StreamLabel} {state : StreamState}
    (invariant : StreamInvariant trace state) {session : Nat}
    (created : (history session trace).created = true)
    (gone : ∀ owner ∈ state.owners, owner.session ≠ session)
    : (history session trace).Ended := by
  rcases Nat.lt_trichotomy session state.sessions with earlier | rfl | later
  · exact (invariant.finished session earlier).ended created
  · cases invariant.phase with
    | idle free launching owners finished => exact finished.ended created
    | launching alive launching owners uncreated untouched =>
        exact absurd (created.symm.trans uncreated) (by decide)
    | owned point alive launching owners consistent =>
        exact absurd rfl (gone ⟨state.sessions, point⟩ (by simp [owners]))
  · rw [invariant.future session later] at created
    contradiction

/-- From every state the last session can be brought to its end: a stop, then the owner's own
steps and the return of `LiStartConnection`.
-/
theorem StreamInvariant.can_end {trace : List StreamLabel} {state : StreamState}
    (invariant : StreamInvariant trace state)
    : ∃ choices final emitted,
        streamMachine.run state choices = some (final, emitted) ∧ final.owners = [] := by
  cases invariant.phase with
  | idle free launching owners finished => exact ⟨[], state, [], rfl, owners⟩
  | launching alive launching owners uncreated untouched => exact ⟨[], state, [], rfl, owners⟩
  | owned point alive launching owners consistent =>
      let stopped : StreamState := { state with flags := (state.flags.stop state.sessions).1 }
      have stopping : stopped.flags.stopRequested = true := by
        simp only [stopped, StreamFlags.stop, alive.running, if_true,
          StreamFlags.interruptCommonStartupLocked]
        split <;> rfl
      obtain ⟨choices, final, emitted, ran, ended⟩ := @owner_can_end stopped _ owners stopping
      have taken
          : streamMachine.step state .stop
            = some (stopped, (state.flags.stop state.sessions).2) := rfl
      exact ⟨.stop :: choices, final, _, by simp only [Machine.run, taken, ran]; rfl, ended⟩

/-- The stream sessions keep their contract over every interleaving of starts, stops, library
callbacks and owner steps.
-/
theorem stream_session_keeps_contract {trace : List StreamLabel} {state : StreamState}
    (reached : streamMachine.Reaches trace state)
    : StreamContract trace state := by
  have invariant := streamInvariant_of_reaches reached
  refine ⟨?_, invariant.permitted, fun _ => invariant.ended, invariant.can_end⟩
  cases invariant.phase with
  | idle free launching owners finished => simp [owners]
  | launching alive launching owners uncreated untouched => simp [owners]
  | owned point alive launching owners consistent => simp [owners]

/-- The choices of a session from its start to the call of `LiStartConnection`. -/
def startupChoices : List StreamChoice :=
  [.start, .create 0 true] ++ List.replicate 8 (.owner 0 .proceed)

/-- A session that starts, is stopped and stops. -/
theorem stream_session_keeps_contract_when_stopped
    : ∃ trace state,
        .event 1 .stopped 0 ∈ trace ∧ StreamContract trace state := by
  have ran
      : streamMachine.run {}
          (startupChoices
            ++ [.owner 0 .stageStarting, .owner 0 .connectionStarted, .owner 0 .proceed,
              .owner 0 .proceed, .owner 0 (.returns 0), .owner 0 .proceed, .stop]
            ++ List.replicate 6 (.owner 0 .proceed))
        = some
          ({ flags := { callback := some 1 }, sessions := 1 },
            [.admitted 1, .created 1, .libraryCalled 1, .stageStarting 1,
              .connectionStarted 1 true, .event 1 .started 0, .libraryReturned 1 0, .settled 1,
              .stop 1, .libraryStop 1, .event 1 .stopped 0, .exited 1]) := rfl
  exact ⟨_, _, by simp, stream_session_keeps_contract (Machine.reaches_run streamMachine rfl _ ran)⟩

/-- Interrupts come only while `LiStartConnection` has not returned. -/
def InterruptsCallOnly (before : List StreamLabel) (label : StreamLabel) : Prop :=
  ∀ session, label = .interrupt session → (history session before).returned = none

/-- STOPPED is published only for a session whose start was announced. -/
def StopsAnnouncedOnly (before : List StreamLabel) (label : StreamLabel) : Prop :=
  ∀ session result, label = .event session .stopped result → (history session before).started = 1

/-- A stop between the return of `LiStartConnection` and its settling still interrupts the
library, and a transport that comes up without `connectionStarted` is stopped silently.
-/
theorem stream_session_stricter_contract_fails
    : (¬∀ trace state,
          streamMachine.Reaches trace state → Guarded InterruptsCallOnly trace)
      ∧ ¬∀ trace state,
          streamMachine.Reaches trace state → Guarded StopsAnnouncedOnly trace := by
  constructor
  · intro strict
    have ran
        : ∃ final,
            streamMachine.run {}
                (startupChoices ++ [.owner 0 .stageStarting, .owner 0 (.returns (-1)), .stop])
              = some
                (final,
                  [.admitted 1, .created 1, .libraryCalled 1, .stageStarting 1,
                    .libraryReturned 1 (-1), .stop 1]
                    ++ .interrupt 1 :: []) := ⟨_, rfl⟩
    obtain ⟨final, ran⟩ := ran
    have guarded := strict _ _ (Machine.reaches_run streamMachine rfl _ ran)
    exact absurd (guarded _ _ _ rfl 1 rfl) (by decide)
  · intro strict
    have ran
        : ∃ final,
            streamMachine.run {}
                (startupChoices
                  ++ [.owner 0 .stageStarting, .owner 0 (.returns 0), .owner 0 .proceed, .stop]
                  ++ List.replicate 5 (.owner 0 .proceed))
              = some
                (final,
                  [.admitted 1, .created 1, .libraryCalled 1, .stageStarting 1,
                    .libraryReturned 1 0, .settled 1, .stop 1, .libraryStop 1]
                    ++ .event 1 .stopped 0 :: []) := ⟨_, rfl⟩
    obtain ⟨final, ran⟩ := ran
    have guarded := strict _ _ (Machine.reaches_run streamMachine rfl _ ran)
    exact absurd (guarded _ _ _ rfl 1 0 rfl) (by decide)

end VitaMoonlight
