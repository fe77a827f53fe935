import VitaMoonlight.Backend.DiscoveryExpiry

/-! The lease of the background search: a generation lives through an unbroken chain of starts, and
healthy time is credited only inside one.
-/

namespace VitaMoonlight

open Library

-----------------------------------------------------------------------------------------
-- Calls
-----------------------------------------------------------------------------------------

/-- A call that began or renewed a lease, with its time and the generation it handed out, or one
that ended it.
-/
inductive LeaseCall
  | started (time : Nat) (generation : UInt32)
  | stopped

/-- What a step shows, and the call that it was. -/
structure LeaseView where
  call : Option LeaseCall
  label : DiscoveryLabel

/-- The call that a step is. -/
def DiscoveryState.leaseCall (state : DiscoveryState) (choice : DiscoveryChoice) (time : Nat)
    : Option LeaseCall :=
  match choice with
  | .start created => (state.startedGeneration created).map (.started time)
  | .stop | .shutdown => some .stopped
  | _ => none

/-- The search with its calls. -/
def leaseMachine : Machine DiscoveryState DiscoveryChoice LeaseView :=
  discoveryMachine.watched fun state choice labels =>
    labels.map fun label => { call := state.leaseCall choice label.clock, label }

/-- The calls so far, the last one first, and what the labels have shown. -/
structure LeaseHistory where
  calls : List LeaseCall := []
  search : DiscoveryHistory := {}

/-- The history after one more step. -/
def LeaseHistory.observe (past : LeaseHistory) (view : LeaseView) : LeaseHistory where
  calls := view.call.toList ++ past.calls
  search := past.search.observe view.label

/-- The history of a trace. -/
def leaseHistory (trace : List LeaseView) : LeaseHistory :=
  trace.foldl LeaseHistory.observe {}

/-- The time and the generation of the last start. -/
def previousStart : List LeaseCall → Option (Nat × UInt32)
  | [] => none
  | .started time generation :: _ => some (time, generation)
  | .stopped :: rest => previousStart rest

/-- The last calls are starts that handed out the generation, each within the lease of the one
before: the last at `last`, and at `first` the one that began the generation.
-/
inductive UnbrokenLease (generation : UInt32) : List LeaseCall → Nat → Nat → Prop
  | begun {time rest} (fresh : ∀ earlier, rest.head? ≠ some (.started earlier generation))
    : UnbrokenLease generation (.started time generation :: rest) time time
  | renewed {time calls last first} (before : UnbrokenLease generation calls last first)
    (soon : time < last + discoveryLeaseUsec)
    : UnbrokenLease generation (.started time generation :: calls) time first

namespace LeaseHistory

/-- A start hands out a generation that is not zero, and the one before exactly when the lease of
that has neither been stopped nor run out.
-/
def RenewsLease (past : LeaseHistory) (view : LeaseView) : Prop :=
  ∀ time generation,
    view.call = some (.started time generation)
    → generation ≠ 0
      ∧ ∀ earlier previous,
          previousStart past.calls = some (earlier, previous)
          → (generation = previous
              ↔ past.calls.head? ≠ some .stopped ∧ time < earlier + discoveryLeaseUsec)

/-- The time between two ticks lies inside one unbroken lease of the worker's generation. -/
def CoversSpan (past : LeaseHistory) (view : LeaseView) : Prop :=
  ∀ lastTick now,
    view.label.event = .ticked lastTick now
    → ∃ last first,
        UnbrokenLease past.search.serving past.calls last first
        ∧ first ≤ lastTick
        ∧ lastTick ≤ now
        ∧ now ≤ view.label.clock
        ∧ view.label.clock < last + discoveryLeaseUsec

/-- What a lease promises of one step, with healthy time credited while fewer generations have begun
since the worker took up its own than there are numbers.
-/
def KeepsLease (past : LeaseHistory) (view : LeaseView) : Prop :=
  past.RenewsLease view ∧ (past.search.changes < 2 ^ 32 - 1 → past.CoversSpan view)

end LeaseHistory

/-- A generation is active at a time only within an unbroken lease. -/
def ActiveWithinLease (past : LeaseHistory) (state : DiscoveryState) : Prop :=
  ∀ generation time,
    state.control.active generation time = true
    → ∃ last first,
        UnbrokenLease generation past.calls last first ∧ time < last + discoveryLeaseUsec

-----------------------------------------------------------------------------------------
-- The invariant
-----------------------------------------------------------------------------------------

/-- What the calls say of the control variables: the last start set the generation and the lease, the
search is enabled while no stop came behind it, and then the lease is unbroken since before the
worker took its generation up, as long as no other one has begun.
-/
structure LeaseInvariant (past : LeaseHistory) (state : DiscoveryState) : Prop where
  search : DiscoveryInvariant past.search state
  previous
    : ∀ time generation,
        previousStart past.calls = some (time, generation)
        → state.control.generation = generation
          ∧ generation ≠ 0
          ∧ state.control.leaseUntil = time + discoveryLeaseUsec
          ∧ time ≤ state.clock
  enabled
    : state.control.enabled = true
      ↔ ∃ time generation, past.calls.head? = some (.started time generation)
  shutdown : state.control.shutdown = true → state.control.enabled = false
  lease
    : state.control.enabled = true
      → ∃ last first,
          UnbrokenLease state.control.generation past.calls last first
          ∧ state.control.leaseUntil = last + discoveryLeaseUsec
          ∧ first ≤ state.clock
          ∧ (past.search.serving ≠ 0 → past.search.changes = 0 → first ≤ past.search.since)

section

variable {past : LeaseHistory} {state after : DiscoveryState}

/-- A generation that is active is so within an unbroken lease. -/
theorem LeaseInvariant.active (invariant : LeaseInvariant past state)
    : ActiveWithinLease past state := by
  intro generation time active
  obtain ⟨enabled, -, rfl, within⟩ := DiscoveryControl.active_iff.1 active
  obtain ⟨last, first, unbroken, ends, -⟩ := invariant.lease enabled
  exact ⟨last, first, unbroken, ends ▸ within⟩

/-- The worker leaves the control variables and the clock as they are and begins no generation, and
changes the table only when it lets hosts expire.
-/
theorem work_frame {event : DiscoveryEvent} (taken : state.work = some (after, event))
    : after.control = state.control
      ∧ after.clock = state.clock
      ∧ event ≠ .began
      ∧ (after.table = state.table
          ∨ ∃ healthyTime, after.table = { state.table with healthyTime }.expireHosts) := by
  unfold DiscoveryState.work at taken
  cases here : state.worker with
  | absent | querying loop | polling loop | exited => simp [here] at taken
  | waiting =>
      rw [here] at taken
      dsimp only at taken
      split at taken
      · obtain ⟨rfl, rfl⟩ := Prod.ext_iff.1 (Option.some.inj taken)
        exact ⟨rfl, rfl, nofun, .inl rfl⟩
      · split at taken
        · obtain ⟨rfl, rfl⟩ := Prod.ext_iff.1 (Option.some.inj taken)
          exact ⟨rfl, rfl, nofun, .inl rfl⟩
        · cases taken
  | checking loop now =>
      rw [here] at taken
      dsimp only at taken
      split at taken
      · obtain ⟨rfl, rfl⟩ := Prod.ext_iff.1 (Option.some.inj taken)
        exact ⟨rfl, rfl, nofun, .inl rfl⟩
      · split at taken
        · obtain ⟨rfl, rfl⟩ := Prod.ext_iff.1 (Option.some.inj taken)
          exact ⟨rfl, rfl, nofun, .inl rfl⟩
        · split at taken <;>
          · obtain ⟨rfl, rfl⟩ := Prod.ext_iff.1 (Option.some.inj taken)
            exact ⟨rfl, rfl, nofun, .inl rfl⟩
  | ticking loop now =>
      rw [here] at taken
      obtain ⟨rfl, rfl⟩ := Prod.ext_iff.1 (Option.some.inj taken)
      unfold DiscoveryState.tick
      dsimp only
      split
      · exact ⟨rfl, rfl, nofun, .inr ⟨_, rfl⟩⟩
      · exact ⟨rfl, rfl, nofun, .inl rfl⟩
  | preparing _ | top _ | scheduling _ | stamping _ | polled _ | leaving =>
      rw [here] at taken
      obtain ⟨rfl, rfl⟩ := Prod.ext_iff.1 (Option.some.inj taken)
      exact ⟨rfl, rfl, nofun, .inl rfl⟩

/-- A step that is neither a start nor a stop leaves the control variables as they are. -/
theorem step_control {choice : DiscoveryChoice} {event : DiscoveryEvent}
    (taken : state.step choice = some (after, event)) (notStart : ∀ created, choice ≠ .start created)
    (notStop : choice ≠ .stop) (notShutdown : choice ≠ .shutdown)
    : after.control = state.control
      ∧ state.clock ≤ after.clock
      ∧ event ≠ .began
      ∧ ∀ time, state.leaseCall choice time = none := by
  cases choice with
  | pass span =>
      obtain ⟨rfl, rfl⟩ := Prod.ext_iff.1 (Option.some.inj taken)
      exact ⟨rfl, Nat.le_add_right _ _, by simp, fun _ => rfl⟩
  | start created => exact absurd rfl (notStart created)
  | stop => exact absurd rfl notStop
  | shutdown => exact absurd rfl notShutdown
  | worker =>
      obtain ⟨control, clock, event, -⟩ := work_frame taken
      exact ⟨control, Nat.le_of_eq clock.symm, event, fun _ => rfl⟩
  | query sent =>
      simp only [DiscoveryState.step] at taken
      split at taken
      · obtain ⟨rfl, rfl⟩ := Prod.ext_iff.1 (Option.some.inj taken)
        exact ⟨rfl, Nat.le_refl _, by simp, fun _ => rfl⟩
      · cases taken
  | observe name ip port =>
      simp only [DiscoveryState.step, DiscoveryState.onMdnsHost] at taken
      split at taken
      · obtain ⟨rfl, rfl⟩ := Prod.ext_iff.1 (Option.some.inj taken)
        split
        · exact ⟨rfl, Nat.le_refl _, by simp, fun _ => rfl⟩
        · split <;> exact ⟨rfl, Nat.le_refl _, by simp, fun _ => rfl⟩
      · cases taken
  | poll succeeds =>
      simp only [DiscoveryState.step] at taken
      split at taken
      · obtain ⟨rfl, rfl⟩ := Prod.ext_iff.1 (Option.some.inj taken)
        exact ⟨rfl, Nat.le_refl _, by simp, fun _ => rfl⟩
      · cases taken

/-- What a start does: it fails and changes nothing, renews the lease, or begins a generation. -/
inductive StartStep (state : DiscoveryState)
    : Option UInt32 → DiscoveryState × DiscoveryEvent → Prop
  | fails : StartStep state none (state, .quiet)
  | renews {after : DiscoveryState} (running : state.control.shutdown = false)
    (enabled : state.control.enabled = true) (within : state.clock < state.control.leaseUntil)
    (control
      : after.control = { state.control with leaseUntil := state.clock + discoveryLeaseUsec })
    (clock : after.clock = state.clock) (table : after.table = state.table)
    : StartStep state (some state.control.generation) (after, .quiet)
  | begins {after : DiscoveryState} (running : state.control.shutdown = false)
    (lapsed : state.control.enabled = true → state.control.leaseUntil ≤ state.clock)
    (control
      : after.control
        = { state.control with
            enabled := true
            generation := nextGeneration state.control.generation
            leaseUntil := state.clock + discoveryLeaseUsec })
    (clock : after.clock = state.clock)
    (snapshot
      : after.table.snapshot
        = { state.table.snapshot with
            generation := nextGeneration state.control.generation
            revision := state.table.snapshot.revision + 1 })
    : StartStep state (some (nextGeneration state.control.generation)) (after, .began)

theorem startStep (state : DiscoveryState) (created : Bool)
    : StartStep state (state.startedGeneration created) (state.start created) := by
  unfold DiscoveryState.startedGeneration DiscoveryState.start
  by_cases shutdown : state.control.shutdown = true
  · rw [if_pos shutdown, shutdown, Bool.true_or, if_pos rfl]
    exact .fails
  · rw [if_neg shutdown, Bool.eq_false_iff.2 shutdown, Bool.false_or]
    by_cases missing : (!state.threadCreated && !created) = true
    · rw [if_pos missing, if_pos missing]
      exact .fails
    · rw [if_neg missing, if_neg missing]
      have same
          : ∀ ready : DiscoveryState,
              ready = (if state.threadCreated then state
                else { state with threadCreated := true, worker := .waiting })
              → ready.control = state.control
                ∧ ready.clock = state.clock
                ∧ ready.table = state.table := by
        rintro _ rfl
        split <;> exact ⟨rfl, rfl, rfl⟩
      generalize (if state.threadCreated then state
        else { state with threadCreated := true, worker := .waiting }) = ready at *
      obtain ⟨control, clock, table⟩ := same ready rfl
      dsimp only
      rw [control, clock]
      have running := Bool.eq_false_iff.2 shutdown
      by_cases fresh
          : (!state.control.enabled || decide (state.clock ≥ state.control.leaseUntil)) = true
      · rw [if_pos fresh]
        refine .begins running (fun enabled => ?_) rfl rfl ?_
        · simpa [enabled] using fresh
        · rw [table]
          rfl
      · rw [if_neg fresh]
        simp only [Bool.or_eq_true, not_or, Bool.not_eq_true, Bool.not_eq_false',
          decide_eq_false_iff_not, Nat.not_le] at fresh
        refine .renews running fresh.1 fresh.2 ?_ rfl table
        rw [← fresh.1]

/-- The history of the search forgets nothing of the worker's generation at an event that neither takes
one up nor begins one.
-/
theorem DiscoveryHistory.observe_same (search : DiscoveryHistory) {label : DiscoveryLabel}
    (taken : ∀ generation, label.event ≠ .took generation) (begun : label.event ≠ .began)
    : (search.observe label).serving = search.serving
      ∧ (search.observe label).changes = search.changes
      ∧ (search.observe label).since = search.since := by
  obtain ⟨event, clock, control⟩ := label
  cases event with
  | began => exact absurd rfl begun
  | took generation => exact absurd rfl (taken generation)
  | quiet | queried _ | polled _ | observed _ | ticked _ _ => exact ⟨rfl, rfl, rfl⟩

/-- A lease that began before now began before the worker took up its generation, when it did so in
this step or no generation has begun since it did.
-/
theorem LeaseHistory.since {first : Nat}
    {label : DiscoveryLabel} (passed : state.clock ≤ label.clock) (begun : label.event ≠ .began)
    (before : first ≤ state.clock)
    (lease : past.search.serving ≠ 0 → past.search.changes = 0 → first ≤ past.search.since)
    : (past.search.observe label).serving ≠ 0
      → (past.search.observe label).changes = 0
      → first ≤ (past.search.observe label).since := by
  by_cases took : ∃ generation, label.event = .took generation
  · obtain ⟨generation, took⟩ := took
    intro _ _
    have since : (past.search.observe label).since = label.clock := by
      rw [DiscoveryHistory.observe, took]
    rw [since]
    exact Nat.le_trans before passed
  · obtain ⟨serving, changes, since⟩ :=
      past.search.observe_same (fun generation same => took ⟨generation, same⟩) begun
    rw [serving, changes, since]
    exact lease

/-- A step that is no call keeps the invariant. -/
theorem LeaseInvariant.quiet (invariant : LeaseInvariant past state) {event : DiscoveryEvent}
    (search : DiscoveryInvariant (past.search.observe (after.label event)) after)
    (control : after.control = state.control) (passed : state.clock ≤ after.clock)
    (begun : event ≠ .began)
    : LeaseInvariant (past.observe { call := none, label := after.label event }) after where
  search := search
  previous := by
    intro time generation started
    obtain ⟨same, nonzero, expires, before⟩ := invariant.previous time generation started
    rw [control]
    exact ⟨same, nonzero, expires, Nat.le_trans before passed⟩
  enabled := by
    rw [control]
    exact invariant.enabled
  shutdown := by
    rw [control]
    exact invariant.shutdown
  lease := by
    rw [control]
    intro enabled
    obtain ⟨last, first, unbroken, ends, before, since⟩ := invariant.lease enabled
    exact
      ⟨last, first, unbroken, ends, Nat.le_trans before passed,
        LeaseHistory.since passed begun before since⟩

/-- A stop keeps the invariant, and ends the lease. -/
theorem LeaseInvariant.stopped (invariant : LeaseInvariant past state)
    (search : DiscoveryInvariant (past.search.observe (after.label .quiet)) after)
    (clock : after.clock = state.clock) (disabled : after.control.enabled = false)
    (generation : after.control.generation = state.control.generation)
    (ends : after.control.leaseUntil = state.control.leaseUntil)
    : LeaseInvariant (past.observe { call := some .stopped, label := after.label .quiet })
        after where
  search := search
  previous := by
    intro time handed started
    obtain ⟨same, nonzero, expires, before⟩ := invariant.previous time handed started
    rw [generation, ends, clock]
    exact ⟨same, nonzero, expires, before⟩
  enabled := by
    rw [disabled]
    exact iff_of_false Bool.false_ne_true (by rintro ⟨time, handed, ⟨⟩⟩)
  shutdown := fun _ => disabled
  lease := by
    rw [disabled]
    exact fun enabled => absurd enabled Bool.false_ne_true

/-- The start before this one handed out another generation, when this one begins one. -/
theorem LeaseInvariant.fresh (invariant : LeaseInvariant past state) (earlier : Nat)
    : past.calls.head?
      ≠ some (.started earlier (nextGeneration state.control.generation)) := by
  intro head
  cases calls : past.calls with
  | nil => simp [calls] at head
  | cons call rest =>
      rw [calls] at head
      obtain rfl := Option.some.inj head
      have previous := invariant.previous earlier _ (by rw [calls, previousStart])
      exact nextGeneration_ne_self _ previous.1.symm

/-- A start keeps the invariant, and renews just the lease that goes on. -/
theorem LeaseInvariant.started (invariant : LeaseInvariant past state) (created : Bool)
    : let next := state.start created
      let view : LeaseView :=
        { call := (state.startedGeneration created).map (.started next.1.clock)
          label := next.1.label next.2 }
      past.RenewsLease view ∧ LeaseInvariant (past.observe view) next.1 := by
  have search := invariant.search.start created
  have done := startStep state created
  generalize state.startedGeneration created = handed at *
  generalize state.start created = next at *
  cases done with
  | fails => exact ⟨nofun, invariant.quiet search rfl (Nat.le_refl _) nofun⟩
  | @renews after running enabled within control clock table =>
      obtain ⟨last, first, unbroken, ends, before, since⟩ := invariant.lease enabled
      obtain ⟨time, generation, head⟩ := invariant.enabled.1 enabled
      have nonzero := invariant.search.control.started enabled
      refine ⟨?_, ?_⟩
      · intro now number same
        obtain ⟨rfl, rfl⟩ := LeaseCall.started.inj (Option.some.inj same)
        refine ⟨nonzero, fun earlier previous started => ?_⟩
        obtain ⟨same, -, expires, -⟩ := invariant.previous earlier previous started
        refine iff_of_true same ⟨by rw [head]; nofun, ?_⟩
        rw [← expires, clock]
        exact within
      · refine
          { search
            previous := ?_
            enabled := ?_
            shutdown := ?_
            lease := fun _ => ?_ }
        · intro now number same
          obtain ⟨rfl, rfl⟩ := Prod.ext_iff.1 (Option.some.inj same)
          rw [control, clock]
          exact ⟨rfl, nonzero, rfl, Nat.le_refl _⟩
        · rw [control]
          exact iff_of_true enabled ⟨_, _, rfl⟩
        · rw [control]
          exact fun ended => absurd (ended.symm.trans running) Bool.true_eq_false.mp
        · rw [control]
          refine ⟨after.clock, first, .renewed unbroken ?_, by rw [clock], ?_, ?_⟩
          · rw [← ends, clock]
            exact within
          · rw [clock]
            exact before
          · exact LeaseHistory.since (Nat.le_of_eq clock.symm) nofun before since
  | @begins after running lapsed control clock snapshot =>
      have nonzero := nextGeneration_ne_zero state.control.generation
      refine ⟨?_, ?_⟩
      · intro now number same
        obtain ⟨rfl, rfl⟩ := LeaseCall.started.inj (Option.some.inj same)
        refine ⟨nonzero, fun earlier previous started => ?_⟩
        obtain ⟨same, -, expires, -⟩ := invariant.previous earlier previous started
        refine iff_of_false (fun again => nextGeneration_ne_self _ (again.trans same.symm)) ?_
        rintro ⟨unstopped, soon⟩
        -- the last call is the start before, so the search is enabled
        have enabled : state.control.enabled = true := by
          rw [invariant.enabled]
          cases calls : past.calls with
          | nil => simp [calls, previousStart] at started
          | cons call rest =>
              cases call with
              | started time generation => exact ⟨time, generation, rfl⟩
              | stopped => exact absurd (by rw [calls]; rfl) unstopped
        rw [← expires, clock] at soon
        exact Nat.lt_irrefl _ (Nat.lt_of_lt_of_le soon (lapsed enabled))
      · refine
          { search
            previous := ?_
            enabled := ?_
            shutdown := ?_
            lease := fun _ => ?_ }
        · intro now number same
          obtain ⟨rfl, rfl⟩ := Prod.ext_iff.1 (Option.some.inj same)
          rw [control, clock]
          exact ⟨rfl, nonzero, rfl, Nat.le_refl _⟩
        · rw [control]
          exact iff_of_true rfl ⟨_, _, rfl⟩
        · rw [control]
          exact fun ended => absurd (ended.symm.trans running) Bool.true_eq_false.mp
        · rw [control]
          refine ⟨after.clock, after.clock, .begun invariant.fresh, by rw [clock], Nat.le_refl _, ?_⟩
          exact fun _ none => absurd none (Nat.succ_ne_zero _)

/-- A tick credits time within the lease, unless the numbers repeat. -/
theorem LeaseInvariant.covers (invariant : LeaseInvariant past state) {event : DiscoveryEvent}
    {call : Option LeaseCall} (control : after.control = state.control)
    (passed : state.clock ≤ after.clock)
    (healthily : past.search.AdvancesHealthily (after.label event))
    (few : past.search.changes < 2 ^ 32 - 1)
    : past.CoversSpan { call, label := after.label event } := by
  intro lastTick now ticked
  have span := healthily lastTick now ticked
  have active : after.control.active past.search.serving after.clock = true := span.active
  obtain ⟨enabled, running, same, within⟩ := DiscoveryControl.active_iff.1 active
  rw [control] at enabled running same within
  have serving : past.search.serving ≠ 0 := by
    rw [same]
    exact invariant.search.control.started enabled
  have unchanged
      := invariant.search.control.unchanged serving
        (DiscoveryControl.active_iff.2
          ⟨enabled, running, same, Nat.lt_of_le_of_lt passed within⟩)
        few
  obtain ⟨last, first, unbroken, ends, -, since⟩ := invariant.lease enabled
  refine ⟨last, first, same ▸ unbroken, ?_, span.ordered, span.reached, ends ▸ within⟩
  exact Nat.le_trans (since serving unchanged) span.since

/-- One step keeps the promises of the lease and the invariant, case by case over the choices. -/
theorem LeaseInvariant.step (invariant : LeaseInvariant past state) {choice : DiscoveryChoice}
    {event : DiscoveryEvent} (taken : state.step choice = some (after, event))
    : let view : LeaseView :=
        { call := state.leaseCall choice after.clock, label := after.label event }
      past.KeepsLease view ∧ LeaseInvariant (past.observe view) after := by
  obtain ⟨healthily, search⟩ := invariant.search.step taken
  cases choice with
  | start created =>
      obtain ⟨rfl, rfl⟩ := Prod.ext_iff.1 (Option.some.inj taken)
      obtain ⟨renews, kept⟩ := invariant.started created
      refine ⟨⟨renews, fun _ lastTick now ticked => ?_⟩, kept⟩
      exact absurd ticked (state.start_ne_ticked created lastTick now)
  | stop =>
      obtain ⟨rfl, rfl⟩ := Prod.ext_iff.1 (Option.some.inj taken)
      exact ⟨⟨nofun, fun _ => nofun⟩, invariant.stopped search rfl rfl rfl rfl⟩
  | shutdown =>
      obtain ⟨rfl, rfl⟩ := Prod.ext_iff.1 (Option.some.inj taken)
      exact ⟨⟨nofun, fun _ => nofun⟩, invariant.stopped search rfl rfl rfl rfl⟩
  | pass _ | worker | query _ | observe _ _ _ | poll _ =>
      obtain ⟨control, passed, begun, noCall⟩ := step_control taken nofun nofun nofun
      rw [noCall]
      refine ⟨⟨nofun, ?_⟩, invariant.quiet search control passed begun⟩
      exact invariant.covers control passed healthily

end

/-- The invariant and the promises of every run, by induction on the run. -/
theorem leaseInvariant_of_reaches {trace : List LeaseView} {state : DiscoveryState}
    (reached : leaseMachine.Reaches trace state)
    : LeaseInvariant (leaseHistory trace) state
      ∧ Guarded (fun before view => (leaseHistory before).KeepsLease view) trace := by
  refine
    reached.invariant
      (fun trace state =>
        LeaseInvariant (leaseHistory trace) state
        ∧ Guarded (fun before view => (leaseHistory before).KeepsLease view) trace)
      ?_ ?_
  · rintro state initial
    refine ⟨?_, .nil _⟩
    have search := (DiscoveryInvariant.of_reaches (.start initial)).1
    obtain ⟨clock, leaseUntil, rfl⟩ := initial
    exact
      { search
        previous := nofun
        enabled := iff_of_false Bool.false_ne_true nofun
        shutdown := fun _ => rfl
        lease := nofun }
  · rintro trace state choice after emitted ⟨invariant, guarded⟩ taken
    obtain ⟨⟨next, labels⟩, stepped, same⟩ := Option.map_eq_some_iff.1 taken
    obtain ⟨⟨last, event⟩, step, shown⟩ := Option.map_eq_some_iff.1 stepped
    obtain ⟨rfl, rfl⟩ := Prod.ext_iff.1 shown
    obtain ⟨rfl, rfl⟩ := Prod.ext_iff.1 same
    obtain ⟨keeps, kept⟩ := invariant.step step
    refine ⟨?_, guarded.snoc keeps⟩
    rw [leaseHistory, List.foldl_append]
    exact kept

/-- In every run a generation is active only within an unbroken lease, each start hands out a number
that is not zero, and the one before exactly when that lease goes on, and time is credited as
healthy only inside one lease, as long as fewer generations than there are numbers have begun since
the worker took up its own.
-/
theorem discovery_leases_hold {trace : List LeaseView} {state : DiscoveryState}
    (reached : leaseMachine.Reaches trace state)
    : ActiveWithinLease (leaseHistory trace) state
      ∧ Guarded (fun before view => (leaseHistory before).KeepsLease view) trace := by
  obtain ⟨invariant, guarded⟩ := leaseInvariant_of_reaches reached
  exact ⟨invariant.active, guarded⟩

/-- A lease that is renewed, runs out and is begun anew. -/
theorem lapsed_lease_begins_anew
    : ∃ trace state,
        previousStart (leaseHistory trace).calls = some (300000, 2)
        ∧ ActiveWithinLease (leaseHistory trace) state
        ∧ Guarded (fun before view => (leaseHistory before).KeepsLease view) trace := by
  have reached
      := leaseMachine.reaches_run ⟨0, 0, rfl⟩
        [.start true, .pass 10000, .start true, .pass 290000, .start true] rfl
  exact ⟨_, _, rfl, discovery_leases_hold reached⟩

/-- A search between a poll and the tick behind it, in which the current generation may be another
one than the worker's.
-/
def polledState (clock : Nat) (generation : UInt32) (leaseUntil : Nat) (table : DiscoveryTable)
    : DiscoveryState where
  clock
  control := { enabled := true, generation, leaseUntil }
  threadCreated := true
  activeGeneration := 1
  table
  worker := .polled { generation := 1, nextQuery := 5000000, lastTick := 0, healthy := true }

/-- Between the poll and the tick the search is stopped and started again some times, by induction on
how many.
-/
theorem polled_restarts_reach (count : Nat)
    : ∃ trace leaseUntil table,
        leaseMachine.Reaches trace
          (polledState 1 (nextGeneration^[count] 1) leaseUntil table)
        ∧ 2 < leaseUntil
        ∧ (leaseHistory trace).search.serving = 1
        ∧ (0 < count
            → ∃ generation rest,
                (leaseHistory trace).calls
                = .started 1 generation :: .stopped :: rest) := by
  induction count with
  | zero =>
      have reached
          := leaseMachine.reaches_run ⟨0, 0, rfl⟩
            [.start true, .worker, .worker, .worker, .worker, .query true, .worker, .worker,
              .poll true, .pass 1]
            rfl
      exact ⟨_, 250000, _, reached, by decide, rfl, fun none => absurd none (Nat.lt_irrefl 0)⟩
  | succ count ih =>
      obtain ⟨trace, leaseUntil, table, reached, -, serving, -⟩ := ih
      rw [Function.iterate_succ_apply']
      have leased : 2 < 1 + discoveryLeaseUsec := by decide
      have again := reached.run [.stop, .start true] rfl
      refine ⟨_, 1 + discoveryLeaseUsec, _, again, leased, ?_, fun _ => ?_⟩
      · rw [leaseHistory, List.foldl_append]
        exact serving
      · rw [leaseHistory, List.foldl_append]
        exact ⟨_, _, rfl⟩

/-- Healthy time can be credited across a stop, when so many generations have begun behind it that
the worker's number is current again.
-/
theorem stopped_lease_credits
    : ¬ ∀ trace state,
          leaseMachine.Reaches trace state
          → Guarded (fun before view => (leaseHistory before).CoversSpan view) trace := by
  intro always
  obtain ⟨trace, leaseUntil, table, reached, leased, serving, calls⟩
      := polled_restarts_reach (2 ^ 32 - 1)
  rw [generations_return] at reached
  obtain ⟨generation, rest, calls⟩ := calls (by decide)
  -- a microsecond passes, and the worker reads the time
  have read := reached.run [.pass 1, .worker] rfl
  let now := { polledState 2 1 leaseUntil table with
    worker := .ticking { generation := 1, nextQuery := 5000000, lastTick := 0, healthy := true } 2 }
  let loop : DiscoveryLoop :=
    { generation := 1, nextQuery := 5000000, lastTick := 0, healthy := true }
  have active : now.control.active 1 2 = true :=
    DiscoveryControl.active_iff.2 ⟨rfl, rfl, rfl, leased⟩
  have ticked : (now.tick loop 2).2 = .ticked 0 2 := congrArg Prod.snd (if_pos active)
  have taken
      : leaseMachine.step now .worker
        = some
            ((now.tick loop 2).1,
              [{ call := none, label := (now.tick loop 2).1.label (now.tick loop 2).2 }]) := rfl
  obtain ⟨last, first, unbroken, early, -⟩
      := always _ _ (read.next taken) _ _ [] rfl 0 2 ticked
  rw [leaseHistory, List.foldl_append] at unbroken
  change UnbrokenLease _ (leaseHistory trace).calls _ _ at unbroken
  -- the one start behind the stop came at time 1
  rw [calls] at unbroken
  cases unbroken with
  | begun _ => exact absurd early (by decide)
  | renewed before _ => cases before

end VitaMoonlight
