import VitaMoonlight.Stream.SessionLifecycle

/-! When a session is up, read off its history and off the flags. The flags say so exactly between
the commit of the start and the first sign of the end.
-/

namespace VitaMoonlight

open Library SessionHistory

-----------------------------------------------------------------------------------------
-- Both readings
-----------------------------------------------------------------------------------------

/-- The session has been started, and nothing has happened that ends it. -/
structure SessionHistory.Up (past : SessionHistory) : Prop where
  committed : past.committed = true
  stopped : past.stopped = false
  terminated : past.terminated = false
  finals : past.finals = []

instance (past : SessionHistory) : Decidable past.Up :=
  decidable_of_iff
    (past.committed = true ∧ past.stopped = false ∧ past.terminated = false ∧ past.finals = [])
    ⟨fun ⟨committed, stopped, terminated, finals⟩ => ⟨committed, stopped, terminated, finals⟩,
      fun up => ⟨up.committed, up.stopped, up.terminated, up.finals⟩⟩

/-- A session has the flags, and nothing has asked it to end. -/
def StreamFlags.hears (flags : StreamFlags) : Bool :=
  flags.threadRunning && !flags.stopRequested && !flags.cancelRequested

/-- The flags of a session that is up. -/
def StreamFlags.isUp (flags : StreamFlags) : Bool := flags.hears && flags.started

/-- What a point of the owner says of the mark that the session was started. -/
def StartedAt (flags : StreamFlags) (past : SessionHistory) : OwnerPoint → Prop
  | .active | .stopping | .stopped => flags.started = past.committed
  | .abandoning | .finishing .failed _ | .publishing _ _ _ | .closing => flags.started = false
  | _ => True

/-- A termination shows in the flags of a running session, and its owner's point tells whether it was
started.
-/
structure UpKept (trace : List StreamLabel) (state : StreamState) : Prop where
  terminated
    : state.flags.threadRunning = true
      → (history state.sessions trace).terminated = true
      → state.flags.stopRequested = true
  started
    : ∀ owner ∈ state.owners, StartedAt state.flags (history state.sessions trace) owner.point

-----------------------------------------------------------------------------------------
-- Steps
-----------------------------------------------------------------------------------------

/-- What no label of a list changes stays, by induction on the labels. -/
theorem history_append_kept {α : Type} (view : SessionHistory → α) {session : Nat}
    {trace labels : List StreamLabel}
    (kept : ∀ label ∈ labels, ∀ past : SessionHistory, view (past.observe label) = view past)
    : view (history session (trace ++ labels)) = view (history session trace) := by
  induction labels generalizing trace with
  | nil => rw [List.append_nil]
  | cons label rest ih =>
      rw [List.forall_mem_cons] at kept
      rw [List.append_cons, ih kept.2]
      by_cases same : label.session = session
      · rw [history_snoc_same trace label same]
        exact kept.1 _
      · rw [history_snoc_other trace label same]

theorem StartedAt.along {flags after : StreamFlags} {past later : SessionHistory}
    {point : OwnerPoint} (holds : StartedAt flags past point) (started : after.started = flags.started)
    (committed : later.committed = past.committed)
    : StartedAt after later point := by
  unfold StartedAt at holds ⊢
  split at holds <;> simp_all

/-- A startup that failed or was cancelled was not committed. -/
theorem finishCommonStartup_startedAt {flags : StreamFlags} {past : SessionHistory} {code : Int}
    (consistent : Consistent flags past (.returned code)) (session : Nat)
    : StartedAt flags.finishCommonStartup.1 (past.observe (.settled session))
        (if flags.finishCommonStartup.2 then
          if code = 0 then .abandoning else .finishing .failed (-7)
        else if code = 0 then .active
        else .finishing .failed code) := by
  obtain ⟨-, unsettled, -, succeeds, -⟩ := consistent
  cases cancelled : flags.finishCommonStartup.2 with
  | true =>
      have unstarted : flags.started = false := by
        rw [StreamFlags.finishCommonStartup, Bool.and_eq_true] at cancelled
        simpa using cancelled.2
      rw [if_pos rfl]
      split <;> exact unstarted
  | false =>
      rw [if_neg Bool.false_ne_true]
      split
      · exact unsettled.committed.symm
      · rename_i failure
        refine Bool.eq_false_iff.mpr fun started =>
          failure (succeeds (unsettled.quiet started).2)

/-- A step of an owner that goes on tells whether the session was started. -/
theorem ownerStep_startedAt {session : Nat} {flags after : StreamFlags} {past : SessionHistory}
    {point next : OwnerPoint} {action : OwnerAction} {labels : List StreamLabel}
    (consistent : Consistent flags past point) (holds : StartedAt flags past point)
    (taken : ownerStep session flags point action = some (after, some next, labels))
    : StartedAt after (labels.foldl observe past) next
      ∧ after.stopRequested = flags.stopRequested
      ∧ (labels.foldl observe past).terminated = past.terminated := by
  unfold ownerStep at taken
  split at taken
  case h_1 checks =>
    obtain ⟨-, untouched⟩ := consistent
    split at taken
    · split at taken
      all_goals
        obtain ⟨rfl, rfl, rfl⟩ : _ ∧ _ ∧ _ := by simpa using taken
      · exact ⟨untouched.started, rfl, rfl⟩
      · exact ⟨trivial, rfl, rfl⟩
    · obtain ⟨rfl, rfl, rfl⟩ : _ ∧ _ ∧ _ := by simpa using taken
      exact ⟨trivial, rfl, rfl⟩
  case h_2 checks result =>
    obtain ⟨-, untouched⟩ := consistent
    split at taken
    · obtain ⟨rfl, rfl, rfl⟩ : _ ∧ _ ∧ _ := by simpa using taken
      exact ⟨untouched.started, rfl, rfl⟩
    · contradiction
  case h_3 =>
    obtain ⟨rfl, rfl, rfl⟩ : _ ∧ _ ∧ _ := by simpa using taken
    rw [StreamFlags.publishCommonStartup, StreamFlags.interruptCommonStartupLocked]
    split <;> exact ⟨trivial, rfl, rfl⟩
  case h_4 =>
    obtain ⟨rfl, rfl, rfl⟩ : _ ∧ _ ∧ _ := by simpa using taken
    refine ⟨?_, rfl, rfl⟩
    split <;> trivial
  case h_5 =>
    obtain ⟨rfl, rfl, rfl⟩ : _ ∧ _ ∧ _ := by simpa using taken
    exact ⟨trivial, rfl, rfl⟩
  case h_6 callback =>
    obtain ⟨rfl, rfl, rfl⟩ : _ ∧ _ ∧ _ := by simpa using taken
    cases callback <;> exact ⟨trivial, rfl, rfl⟩
  case h_7 =>
    split at taken
    · contradiction
    · obtain ⟨rfl, rfl, rfl⟩ : _ ∧ _ ∧ _ := by simpa using taken
      exact ⟨trivial, rfl, rfl⟩
  case h_8 =>
    simp only [Option.some.injEq, Prod.mk.injEq] at taken
    obtain ⟨rfl, rfl, rfl⟩ := taken
    exact ⟨finishCommonStartup_startedAt consistent session, rfl, rfl⟩
  case h_9 | h_11 =>
    obtain ⟨rfl, rfl, rfl⟩ : _ ∧ _ ∧ _ := by simpa using taken
    exact ⟨holds, rfl, rfl⟩
  case h_10 =>
    split at taken
    all_goals
      obtain ⟨rfl, rfl, rfl⟩ : _ ∧ _ ∧ _ := by simpa using taken
      exact ⟨holds, rfl, rfl⟩
  case h_12 =>
    obtain ⟨rfl, rfl, rfl⟩ : _ ∧ _ ∧ _ := by simpa using taken
    exact ⟨trivial, rfl, rfl⟩
  case h_13 =>
    obtain ⟨rfl, rfl, rfl⟩ : _ ∧ _ ∧ _ := by simpa using taken
    exact ⟨rfl, rfl, rfl⟩
  case h_14 callback event result =>
    obtain ⟨rfl, rfl, rfl⟩ : _ ∧ _ ∧ _ := by simpa using taken
    refine ⟨holds, rfl, ?_⟩
    cases callback
    · rfl
    · cases event <;> rfl
  case h_15 => simp at taken
  case h_16 => contradiction

namespace UpKept

variable {trace labels : List StreamLabel} {state after : StreamState}

/-- A stop and a termination ask the session to end, and leave the start as it is. -/
theorem asked (kept : UpKept trace state) (sessions : after.sessions = state.sessions)
    (owners : after.owners = state.owners) (started : after.flags.started = state.flags.started)
    (asks : after.flags.threadRunning = true → after.flags.stopRequested = true)
    (committed
      : ∀ label ∈ labels, ∀ past : SessionHistory, (past.observe label).committed = past.committed)
    : UpKept (trace ++ labels) after where
  terminated running _ := asks running
  started owner member := by
    rw [owners] at member
    rw [sessions]
    exact (kept.started owner member).along started (history_append_kept (·.committed) committed)

/-- Every step keeps it. -/
theorem step (kept : UpKept trace state) (invariant : StreamInvariant trace state)
    {choice : StreamChoice} (taken : streamStep state choice = some (after, labels))
    : UpKept (trace ++ labels) after := by
  cases choice with
  | start =>
      cases running : state.flags.threadRunning with
      | true =>
          obtain ⟨rfl, rfl⟩ : _ ∧ _ := by
            simpa [streamStep, StreamFlags.start, running] using taken
          rwa [List.append_nil]
      | false =>
          obtain ⟨rfl, rfl⟩ : _ ∧ _ := by
            simpa [streamStep, StreamFlags.start, running] using taken
          have fresh := invariant.future (state.sessions + 1) (Nat.lt_succ_self _)
          constructor
          · intro _ terminated
            have history := history_snoc_same trace (.admitted (state.sessions + 1)) rfl
            dsimp only [StreamLabel.session] at history
            rw [history, fresh] at terminated
            cases terminated
          · intro owner member
            cases invariant.phase with
            | idle _ _ owners => exact absurd (owners ▸ member) List.not_mem_nil
            | launching alive => cases running.symm.trans alive.running
            | owned _ alive => cases running.symm.trans alive.running
  | create index succeeds =>
      obtain ⟨alive, owners, -, untouched, done⟩ := invariant.create_cases taken
      cases succeeds with
      | true =>
          obtain ⟨rfl, rfl⟩ := Prod.mk.inj done
          constructor
          · intro running terminated
            have history := history_snoc_same trace (.created state.sessions) rfl
            dsimp only [StreamLabel.session] at history
            rw [history] at terminated
            exact kept.terminated running terminated
          · intro owner member
            rw [List.mem_singleton.mp member]
            trivial
      | false =>
          obtain ⟨rfl, rfl⟩ := Prod.mk.inj done
          constructor
          · intro running
            cases running
          · intro owner member
            exact absurd (owners ▸ member) List.not_mem_nil
  | stop =>
      obtain ⟨rfl, rfl⟩ : _ ∧ _ := by simpa [streamStep] using taken
      refine kept.asked rfl rfl ?_ ?_ ?_
      · simp only [StreamFlags.stop, StreamFlags.interruptCommonStartupLocked]
        split <;> [skip; rfl]
        split <;> rfl
      · simp only [StreamFlags.stop, StreamFlags.interruptCommonStartupLocked]
        split <;> [skip; exact fun running => absurd running ‹_›]
        split <;> exact fun _ => rfl
      · simp only [StreamFlags.stop, StreamFlags.interruptCommonStartupLocked]
        split <;> [split; skip] <;> simp [observe]
  | terminated result =>
      obtain ⟨rfl, rfl⟩ : _ ∧ _ := by simpa [streamStep] using taken
      refine kept.asked rfl rfl ?_ ?_ ?_
      · simp only [StreamFlags.onConnectionTerminated]
        split <;> rfl
      · simp only [StreamFlags.onConnectionTerminated]
        split
        · exact fun _ => rfl
        · exact fun running => absurd running ‹_›
      · split <;> simp [observe]
  | owner index action =>
      obtain ⟨point, flags, left, stepped, owners, -, alive, consistent, rfl⟩ :=
        invariant.owner_cases taken
      cases left with
      | none =>
          obtain ⟨-, -, -, rfl⟩ := ownerStep_exits alive consistent stepped
          exact ⟨fun running => (by cases running), fun owner member => (by cases member)⟩
      | some next =>
          have own := (ownerStep_keeps alive consistent stepped).own
          have holds := kept.started ⟨state.sessions, point⟩ (owners ▸ List.mem_singleton_self _)
          obtain ⟨starts, stop, terminated⟩ := ownerStep_startedAt consistent holds stepped
          have later := history_append_same trace fun label member => (own label member).1
          constructor
          · intro running ended
            dsimp only at ended
            rw [later, terminated] at ended
            exact stop.trans (kept.terminated alive.running ended)
          · intro owner member
            dsimp only
            rw [later, List.mem_singleton.mp member]
            exact starts

end UpKept

-----------------------------------------------------------------------------------------
-- The flags tell it
-----------------------------------------------------------------------------------------

/-- While a session runs, its flags hear unless a stop or a termination came. -/
theorem hears_iff {trace : List StreamLabel} {state : StreamState}
    (kept : UpKept trace state)
    (alive : Alive state.flags state.sessions (history state.sessions trace))
    : state.flags.hears = true
      ↔ (history state.sessions trace).stopped = false
        ∧ (history state.sessions trace).terminated = false := by
  rw [StreamFlags.hears, alive.running, Bool.true_and, alive.cancel, Bool.and_eq_true,
    Bool.not_eq_true', Bool.not_eq_true']
  constructor
  · rintro ⟨unasked, unstopped⟩
    refine ⟨unstopped, Bool.eq_false_iff.mpr fun terminated => ?_⟩
    cases unasked.symm.trans (kept.terminated alive.running terminated)
  · rintro ⟨unstopped, unterminated⟩
    refine ⟨Bool.eq_false_iff.mpr fun asked => ?_, unstopped⟩
    obtain stopped | terminated := alive.stop asked
    · cases unstopped.symm.trans stopped
    · cases unterminated.symm.trans terminated

/-- Where nothing has asked the owner to end, its session is marked as started from the commit of the
start to the terminal event.
-/
theorem started_iff {flags : StreamFlags} {past : SessionHistory} {point : OwnerPoint}
    (consistent : Consistent flags past point) (holds : StartedAt flags past point)
    (stopped : past.stopped = false) (terminated : past.terminated = false)
    : flags.started = true ↔ past.committed = true ∧ past.finals = [] := by
  have early (unsettled : Unsettled flags past)
      : flags.started = true ↔ past.committed = true ∧ past.finals = [] := by
    rw [unsettled.committed]
    exact ⟨fun started => ⟨started, unsettled.finals⟩, And.left⟩
  have late (started : flags.started = past.committed) (finals : past.finals = [])
      : flags.started = true ↔ past.committed = true ∧ past.finals = [] := by
    rw [started]
    exact ⟨fun committed => ⟨committed, finals⟩, And.left⟩
  have unstarted (started : flags.started = false) (settled : past.committed = false ∨ past.finals ≠ [])
      : flags.started = true ↔ past.committed = true ∧ past.finals = [] := by
    obtain uncommitted | published := settled
    · simp [started, uncommitted]
    · simp [started, published]
  have ends {event : StreamEvent} (ending : past.MayEndWith event) : event = .failed := by
    cases event with
    | started => exact absurd ending.2.2 id
    | stopped =>
        obtain ⟨-, -, -, -, -, asked⟩ := ending
        simp [stopped, terminated] at asked
    | failed => rfl
  cases point with
  | setup checks =>
      refine unstarted consistent.2.started (.inl ?_)
      rw [consistent.2.history]
  | calling stage ready => exact early consistent.2.1.toUnsettled
  | committed => exact early consistent.2.1.toUnsettled
  | announcing callback => exact early consistent.2.1.toUnsettled
  | returned code => exact early consistent.2.1
  | abandoning => exact unstarted holds (.inl consistent.2.2.2.2)
  | active => exact late holds consistent.2.1.finals
  | stopping => exact late holds consistent.2.1.finals
  | stopped => exact late holds consistent.2.2.1
  | finishing event result =>
      obtain ⟨-, -, ending⟩ := consistent
      cases ends ending
      exact unstarted holds (.inl ending.2.2.2.1)
  | publishing callback event result =>
      obtain ⟨-, -, ending, -⟩ := consistent
      cases ends ending
      exact unstarted holds (.inl ending.2.2.2.1)
  | closing =>
      refine unstarted holds (.inr fun none => ?_)
      have one := consistent.2.2.1
      rw [none] at one
      cases one

/-- The flags say that the last session is up exactly while it is. -/
theorem isUp_iff {trace : List StreamLabel} {state : StreamState}
    (invariant : StreamInvariant trace state) (kept : UpKept trace state)
    : state.flags.isUp = true
      ↔ state.flags.threadRunning = true ∧ (history state.sessions trace).Up := by
  have split (past : SessionHistory)
      : past.Up
        ↔ (past.stopped = false ∧ past.terminated = false)
          ∧ (past.committed = true ∧ past.finals = []) :=
    ⟨fun up => ⟨⟨up.stopped, up.terminated⟩, up.committed, up.finals⟩,
      fun ⟨⟨stopped, terminated⟩, committed, finals⟩ =>
        ⟨committed, stopped, terminated, finals⟩⟩
  cases invariant.phase with
  | idle free => simp [StreamFlags.isUp, StreamFlags.hears, free]
  | launching alive _ _ _ untouched =>
      have uncommitted : (history state.sessions trace).committed = false := by
        rw [untouched.history]
      simp [StreamFlags.isUp, untouched.started, split, uncommitted]
  | owned point alive _ owners consistent =>
      have holds := kept.started ⟨state.sessions, point⟩ (owners ▸ List.mem_singleton_self _)
      rw [StreamFlags.isUp, Bool.and_eq_true, hears_iff kept alive, split, alive.running]
      simp only [true_and]
      exact and_congr_right fun ⟨stopped, terminated⟩ =>
        started_iff consistent holds stopped terminated

end VitaMoonlight
