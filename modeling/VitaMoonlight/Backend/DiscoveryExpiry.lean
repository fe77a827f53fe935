import VitaMoonlight.Backend.DiscoveryTable
import Mathlib.Logic.Function.Iterate

/-! What holds of the discovered hosts in every run of the background search: healthy time advances
only while the worker's generation is active and the network is polled, and a host leaves the table
when enough of it has passed since the host was last seen.
-/

namespace VitaMoonlight

open Library

-----------------------------------------------------------------------------------------
-- The history of a run
-----------------------------------------------------------------------------------------

/-- What the labels have shown: the generation that the worker took up last, since when, whether it
has been active in every state since, and how many new generations have begun since; since when
queries and polls have succeeded in this generation; how long ticks say the search was healthy; and
how much of this had passed when a host was last seen.
-/
structure DiscoveryHistory where
  serving : UInt32 := 0
  since : Nat := 0
  stayed : Bool := false
  changes : Nat := 0
  pollingSince : Option Nat := none
  healthy : Nat := 0
  seen : DiscoveryKey → Option Nat := fun _ => none

namespace DiscoveryHistory

/-- The history of the network and of the hosts after one more event. -/
def record (past : DiscoveryHistory) (clock : Nat) : DiscoveryEvent → DiscoveryHistory
  | .began => { past with changes := past.changes + 1 }
  | .queried sent =>
      { past with pollingSince := if sent then some (past.pollingSince.getD clock) else none }
  | .polled succeeds =>
      { past with pollingSince := if succeeds then past.pollingSince else none }
  | .observed key => { past with seen := Function.update past.seen key (some past.healthy) }
  | .ticked lastTick now => { past with healthy := past.healthy + (now - lastTick) }
  | .quiet | .took _ => past

/-- The history after one more label. -/
def observe (past : DiscoveryHistory) (label : DiscoveryLabel) : DiscoveryHistory :=
  match label.event with
  | .took generation =>
      { past with
        serving := generation
        since := label.clock
        stayed := label.control.active generation label.clock
        changes := 0
        pollingSince := none }
  | event =>
      { past.record label.clock event with
        stayed := past.stayed && label.control.active past.serving label.clock }

/-- Healthy time may advance over the time between two ticks: it lies behind the moment at which the
worker took up its generation, all queries and polls in it succeeded, and the generation was active
all along, unless so many generations have begun since that their 32-bit numbers repeat.
-/
structure HealthySpan (past : DiscoveryHistory) (label : DiscoveryLabel) (lastTick now : Nat)
    : Prop where
  since : past.since ≤ lastTick
  ordered : lastTick ≤ now
  reached : now ≤ label.clock
  polled : ∃ start, past.pollingSince = some start ∧ start ≤ lastTick
  active : label.control.active past.serving label.clock = true
  stayed : past.changes < 2 ^ 32 - 1 → past.stayed = true

/-- A tick over which healthy time may advance, or another label. -/
def AdvancesHealthily (past : DiscoveryHistory) (label : DiscoveryLabel) : Prop :=
  ∀ lastTick now, label.event = .ticked lastTick now → past.HealthySpan label lastTick now

end DiscoveryHistory

/-- The history of a trace. -/
def discoveryHistory (trace : List DiscoveryLabel) : DiscoveryHistory :=
  trace.foldl DiscoveryHistory.observe {}

-----------------------------------------------------------------------------------------
-- Generations
-----------------------------------------------------------------------------------------

/-- What the history says of the control variables: the current generation is as many turns behind
the one the worker took up as have begun since, and while none has, a generation that was not always
active is not active now.
-/
structure FollowsControl (past : DiscoveryHistory) (control : DiscoveryControl) (clock : Nat)
    : Prop where
  started : control.enabled = true → control.generation ≠ 0
  nonzero : past.serving ≠ 0 → control.generation ≠ 0
  turns
    : past.serving ≠ 0
      → generationIndex control.generation
        = (generationIndex past.serving + past.changes) % (2 ^ 32 - 1)
  lapsed
    : past.serving ≠ 0
      → past.changes = 0
      → past.stayed = false
      → control.active past.serving clock = false

section

variable {past : DiscoveryHistory} {control after : DiscoveryControl} {clock later : Nat}

theorem DiscoveryControl.active_iff {generation : UInt32}
    : control.active generation clock = true
      ↔ control.enabled = true ∧ control.shutdown = false ∧ generation = control.generation
        ∧ clock < control.leaseUntil := by
  simp [active, and_assoc]

/-- No generation has begun since the worker took up the active one, unless the numbers repeat. -/
theorem FollowsControl.unchanged (follows : FollowsControl past control clock)
    (serving : past.serving ≠ 0) (active : control.active past.serving clock = true)
    (few : past.changes < 2 ^ 32 - 1)
    : past.changes = 0 := by
  have same := (DiscoveryControl.active_iff.1 active).2.2.1
  have turns := follows.turns serving
  have below := past.serving.toNat_lt
  rw [← same] at turns
  unfold generationIndex at turns
  omega

/-- A generation that is active was active since the worker took it up, unless the numbers repeat. -/
theorem FollowsControl.stayed (follows : FollowsControl past control clock)
    (serving : past.serving ≠ 0) (active : control.active past.serving clock = true)
    (few : past.changes < 2 ^ 32 - 1)
    : past.stayed = true := by
  have none := follows.unchanged serving active few
  by_contra lost
  have lapsed := follows.lapsed serving none (Bool.eq_false_iff.2 lost)
  exact Bool.false_ne_true (lapsed.symm.trans active)

/-- A step that begins no generation and activates none keeps to the history. -/
theorem FollowsControl.keep (follows : FollowsControl past control clock) {next : DiscoveryHistory}
    (serving : next.serving = past.serving) (changes : next.changes = past.changes)
    (stayed : next.stayed = (past.stayed && after.active past.serving later))
    (generation : after.generation = control.generation)
    (started : after.enabled = true → control.generation ≠ 0)
    (shrinks
      : ∀ generation, after.active generation later = true → control.active generation clock = true)
    : FollowsControl next after later where
  started := fun enabled => generation ▸ started enabled
  nonzero := fun some => generation ▸ follows.nonzero (serving ▸ some)
  turns := by
    rw [serving, changes, generation]
    exact follows.turns
  lapsed := by
    rw [serving, changes, stayed, Bool.and_eq_false_iff]
    rintro some none (lost | lost)
    · rw [Bool.eq_false_iff]
      intro active
      have lapsed := follows.lapsed some none lost
      exact Bool.false_ne_true (lapsed.symm.trans (shrinks _ active))
    · exact lost

/-- A new generation is one more turn. -/
theorem FollowsControl.begin (follows : FollowsControl past control clock)
    {next : DiscoveryHistory} (serving : next.serving = past.serving)
    (changes : next.changes = past.changes + 1)
    (generation : after.generation = nextGeneration control.generation)
    : FollowsControl next after later where
  started := fun _ => generation ▸ nextGeneration_ne_zero _
  nonzero := fun _ => generation ▸ nextGeneration_ne_zero _
  turns := by
    rw [serving, changes, generation]
    intro some
    rw [generationIndex_next (follows.nonzero some), follows.turns some]
    omega
  lapsed := by
    rw [changes]
    intro _ none
    omega

/-- The worker takes up the current generation. -/
theorem FollowsControl.take (started : control.enabled = true → control.generation ≠ 0)
    {next : DiscoveryHistory} (enabled : control.enabled = true)
    (serving : next.serving = control.generation) (changes : next.changes = 0)
    (stayed : next.stayed = control.active control.generation clock)
    : FollowsControl next control clock where
  started := started
  nonzero := fun _ => started enabled
  turns := by
    intro _
    have below := control.generation.toNat_lt
    rw [serving, changes]
    unfold generationIndex
    omega
  lapsed := by
    rw [serving, stayed]
    exact fun _ _ lost => lost

end

-----------------------------------------------------------------------------------------
-- The worker and the table
-----------------------------------------------------------------------------------------

/-- The worker works for the generation it took up last. -/
structure Serves (past : DiscoveryHistory) (active generation : UInt32) : Prop where
  serving : generation = past.serving
  nonzero : past.serving ≠ 0
  active : active = past.serving

/-- The last tick of the loop lies behind the moment at which the generation was taken up, and
polling succeeds since.
-/
structure FollowsLoop (past : DiscoveryHistory) (clock : Nat) (loop : DiscoveryLoop) : Prop where
  since : past.since ≤ loop.lastTick
  reached : loop.lastTick ≤ clock
  started : ∀ start ∈ past.pollingSince, start ≤ loop.lastTick
  polled : loop.healthy = true → past.pollingSince.isSome = true

theorem FollowsLoop.polling {past : DiscoveryHistory} {clock : Nat} {loop : DiscoveryLoop}
    (follows : FollowsLoop past clock loop) (healthy : loop.healthy = true)
    : ∃ start, past.pollingSince = some start ∧ start ≤ loop.lastTick := by
  obtain ⟨start, known⟩ := Option.isSome_iff_exists.1 (follows.polled healthy)
  exact ⟨start, known, follows.started start known⟩

/-- What the history says of the worker. -/
def FollowsWorker (past : DiscoveryHistory) (active : UInt32) (clock : Nat)
    : DiscoveryWorker → Prop
  | .absent | .waiting | .leaving | .exited => True
  | .preparing generation =>
      Serves past active generation ∧ past.since ≤ clock ∧ past.pollingSince = none
  | .top loop | .checking loop _ | .querying loop | .polled loop =>
      Serves past active loop.generation ∧ FollowsLoop past clock loop
  | .polling loop =>
      Serves past active loop.generation ∧ FollowsLoop past clock loop ∧ loop.healthy = true
  | .scheduling loop | .stamping loop =>
      Serves past active loop.generation
      ∧ past.since ≤ clock
      ∧ (∀ start ∈ past.pollingSince, start ≤ clock)
      ∧ (loop.healthy = true → past.pollingSince.isSome = true)
  | .ticking loop now =>
      Serves past active loop.generation
      ∧ FollowsLoop past clock loop
      ∧ loop.lastTick ≤ now
      ∧ now ≤ clock

/-- A worker that stands still keeps to the history while time passes. -/
theorem FollowsWorker.keep {past next : DiscoveryHistory} {active : UInt32} {clock later : Nat}
    {worker : DiscoveryWorker} (follows : FollowsWorker past active clock worker)
    (serving : next.serving = past.serving) (since : next.since = past.since)
    (polling : next.pollingSince = past.pollingSince) (passed : clock ≤ later)
    : FollowsWorker next active later worker := by
  have serves
      : ∀ {generation}, Serves past active generation → Serves next active generation := by
    rintro generation ⟨same, nonzero, held⟩
    exact ⟨same.trans serving.symm, serving ▸ nonzero, held.trans serving.symm⟩
  have loops : ∀ {loop}, FollowsLoop past clock loop → FollowsLoop next later loop := by
    rintro loop ⟨first, reached, started, polled⟩
    exact ⟨since ▸ first, le_trans reached passed, polling ▸ started, polling ▸ polled⟩
  cases worker with
  | absent | waiting | leaving | exited => trivial
  | preparing generation =>
      exact ⟨serves follows.1, since ▸ le_trans follows.2.1 passed, polling ▸ follows.2.2⟩
  | top loop | checking loop now | querying loop | polled loop =>
      exact ⟨serves follows.1, loops follows.2⟩
  | polling loop => exact ⟨serves follows.1, loops follows.2.1, follows.2.2⟩
  | scheduling loop | stamping loop =>
      refine ⟨serves follows.1, since ▸ le_trans follows.2.1 passed, ?_, ?_⟩
      · rw [polling]
        exact fun start known => le_trans (follows.2.2.1 start known) passed
      · rw [polling]
        exact follows.2.2.2
  | ticking loop now =>
      exact ⟨serves follows.1, loops follows.2.1, follows.2.2.1, le_trans follows.2.2.2 passed⟩

/-- What the history says of the table. -/
structure FollowsTable (past : DiscoveryHistory) (table : DiscoveryTable) : Prop where
  sound : table.Sound
  healthy : table.healthyTime = past.healthy
  seen : ∀ entry ∈ table.entries, past.seen entry.1 = some entry.2

/-- What the history says of the search. -/
structure DiscoveryInvariant (past : DiscoveryHistory) (state : DiscoveryState) : Prop where
  control : FollowsControl past state.control state.clock
  worker : FollowsWorker past state.activeGeneration state.clock state.worker
  table : FollowsTable past state.table

section

variable {past : DiscoveryHistory} {state after : DiscoveryState} {event : DiscoveryEvent}

theorem FollowsTable.of_eq {next : DiscoveryHistory} {table after : DiscoveryTable}
    (follows : FollowsTable past table) (healthy : next.healthy = past.healthy)
    (seen : next.seen = past.seen) (hosts : after.snapshot.hosts = table.snapshot.hosts)
    (time : after.healthyTime = table.healthyTime) (times : after.seen = table.seen)
    : FollowsTable next after := by
  have entries : after.entries = table.entries := by
    rw [DiscoveryTable.entries, DiscoveryTable.keys, hosts, times]
    rfl
  refine ⟨⟨?_, ?_, ?_, ?_⟩, ?_, ?_⟩
  · exact hosts ▸ follows.sound.room
  · rw [DiscoveryTable.keys, hosts]
    exact follows.sound.distinct
  · rw [DiscoveryTable.Parallel, times, hosts]
    exact follows.sound.parallel
  · rw [times, time]
    exact follows.sound.past
  · rw [time, healthy]
    exact follows.healthy
  · rw [entries, seen]
    exact follows.seen

/-- Healthy time advances in the table as it does in the history. -/
theorem FollowsTable.advance {table : DiscoveryTable} (follows : FollowsTable past table)
    (span : Nat) {next : DiscoveryHistory} (healthy : next.healthy = past.healthy + span)
    (seen : next.seen = past.seen)
    : FollowsTable next { table with healthyTime := table.healthyTime + span }.expireHosts := by
  have sound := follows.sound.advance (Nat.le_add_right table.healthyTime span)
  obtain ⟨-, time, entries⟩ := DiscoveryTable.expireHosts_spec sound.parallel
  refine ⟨DiscoveryTable.expireHosts_sound sound, ?_, ?_⟩
  · rw [time, healthy, ← follows.healthy]
  · rw [entries, seen]
    intro entry member
    exact follows.seen entry (List.mem_filter.1 member).1

/-- A quiet step that activates no generation and leaves the worker and the table as they are keeps
to the history.
-/
theorem DiscoveryInvariant.still (invariant : DiscoveryInvariant past state)
    (generation : after.control.generation = state.control.generation)
    (started : after.control.enabled = true → state.control.generation ≠ 0)
    (shrinks
      : ∀ generation,
          after.control.active generation after.clock = true
          → state.control.active generation state.clock = true)
    (passed : state.clock ≤ after.clock) (worker : after.worker = state.worker)
    (active : after.activeGeneration = state.activeGeneration)
    (table : after.table = state.table)
    : DiscoveryInvariant (past.observe (after.label .quiet)) after where
  control := invariant.control.keep rfl rfl rfl generation started shrinks
  worker := by
    rw [worker, active]
    exact invariant.worker.keep rfl rfl rfl passed
  table := by
    rw [table]
    exact invariant.table.of_eq rfl rfl rfl rfl rfl

/-- A quiet step that disables the discovery keeps to the history. -/
theorem DiscoveryInvariant.disabled (invariant : DiscoveryInvariant past state)
    (generation : after.control.generation = state.control.generation)
    (disabled : after.control.enabled = false) (clock : after.clock = state.clock)
    (worker : after.worker = state.worker)
    (active : after.activeGeneration = state.activeGeneration)
    (table : after.table = state.table)
    : DiscoveryInvariant (past.observe (after.label .quiet)) after := by
  refine
    invariant.still generation (fun enabled => ?_) (fun generation served => ?_) clock.ge worker
      active table
  · rw [disabled] at enabled
    cases enabled
  · obtain ⟨enabled, -⟩ := DiscoveryControl.active_iff.1 served
    rw [disabled] at enabled
    cases enabled

/-- A step of the worker that shows something of the network, or nothing, and leaves the control
variables and the table as they are.
-/
theorem DiscoveryInvariant.moved (invariant : DiscoveryInvariant past state)
    {next : DiscoveryHistory} (control : after.control = state.control)
    (clock : after.clock = state.clock) (table : after.table = state.table)
    (serving : next.serving = past.serving) (changes : next.changes = past.changes)
    (stayed : next.stayed = (past.stayed && after.control.active past.serving after.clock))
    (healthy : next.healthy = past.healthy) (seen : next.seen = past.seen)
    (worker : FollowsWorker next after.activeGeneration after.clock after.worker)
    : DiscoveryInvariant next after where
  control := by
    refine invariant.control.keep serving changes stayed (congrArg _ control) ?_ ?_
    · rw [control]
      exact invariant.control.started
    · rw [control, clock]
      exact fun _ active => active
  worker := worker
  table := by
    rw [table]
    exact invariant.table.of_eq healthy seen rfl rfl rfl

/-- `legacy_host_discovery_start` keeps to the history. -/
theorem DiscoveryInvariant.start (invariant : DiscoveryInvariant past state) (created : Bool)
    : DiscoveryInvariant (past.observe ((state.start created).1.label (state.start created).2))
        (state.start created).1 := by
  have unchanged : DiscoveryInvariant (past.observe (state.label .quiet)) state :=
    invariant.still rfl invariant.control.started (fun _ active => active) le_rfl rfl rfl rfl
  unfold DiscoveryState.start
  split
  · exact unchanged
  · rename_i running
    split
    · exact unchanged
    · -- The thread may be created here; it has taken up no generation then.
      generalize creation
        : (if state.threadCreated then state
          else { state with threadCreated := true, worker := .waiting }) = ready
      have control : ready.control = state.control := by
        rw [← creation]
        split <;> rfl
      have clock : ready.clock = state.clock := by
        rw [← creation]
        split <;> rfl
      have table : ready.table = state.table := by
        rw [← creation]
        split <;> rfl
      have worker
          : ∀ next : DiscoveryHistory,
              next.serving = past.serving
              → next.since = past.since
              → next.pollingSince = past.pollingSince
              → FollowsWorker next ready.activeGeneration ready.clock ready.worker := by
        rw [← creation]
        intro next serving since polling
        split
        · exact invariant.worker.keep serving since polling le_rfl
        · trivial
      dsimp only
      split
      · refine ⟨?_, worker _ rfl rfl rfl, ?_⟩
        · refine invariant.control.begin rfl rfl ?_
          exact congrArg (fun control => nextGeneration control.generation) control
        · exact
            invariant.table.of_eq rfl rfl (congrArg (·.snapshot.hosts) table)
              (congrArg (·.healthyTime) table) (congrArg (·.seen) table)
      · rename_i renewed
        rw [control, clock] at renewed
        simp only [Bool.or_eq_true, Bool.not_eq_true', decide_eq_true_eq, not_or,
          Bool.not_eq_false, not_le] at renewed
        refine ⟨?_, worker _ rfl rfl rfl, ?_⟩
        · refine
            invariant.control.keep rfl rfl rfl (congrArg (·.generation) control)
              (fun _ => invariant.control.started renewed.1) ?_
          intro generation active
          have parts := DiscoveryControl.active_iff.1 active
          rw [control] at parts
          exact
            DiscoveryControl.active_iff.2 ⟨renewed.1, parts.2.1, parts.2.2.1, renewed.2⟩
        · exact
            invariant.table.of_eq rfl rfl (congrArg (·.snapshot.hosts) table)
              (congrArg (·.healthyTime) table) (congrArg (·.seen) table)

/-- The worker's critical section behind a poll keeps to the history. -/
theorem DiscoveryInvariant.tick (invariant : DiscoveryInvariant past state) {loop : DiscoveryLoop}
    {now : Nat} (here : state.worker = .ticking loop now)
    : past.AdvancesHealthily ((state.tick loop now).1.label (state.tick loop now).2)
      ∧ DiscoveryInvariant
          (past.observe ((state.tick loop now).1.label (state.tick loop now).2))
          (state.tick loop now).1 := by
  have worker := invariant.worker
  rw [here] at worker
  obtain ⟨serves, follows, ordered, reached⟩ := worker
  have worker
      : ∀ next : DiscoveryHistory,
          next.serving = past.serving
          → next.since = past.since
          → next.pollingSince = past.pollingSince
          → FollowsWorker next state.activeGeneration state.clock
              (.top { loop with lastTick := now }) := by
    rintro next serving since polling
    have now : FollowsWorker past state.activeGeneration state.clock
        (.top { loop with lastTick := now }) := by
      refine ⟨serves, le_trans follows.since ordered, reached, ?_, follows.polled⟩
      exact fun start known => le_trans (follows.started start known) ordered
    exact now.keep serving since polling le_rfl
  have advanced
      : (if now ≥ loop.lastTick then now - loop.lastTick else 0) = now - loop.lastTick :=
    if_pos ordered
  simp only [DiscoveryState.tick, advanced]
  split
  · rename_i passes
    obtain ⟨healthy, active⟩ := Bool.and_eq_true_iff.1 passes
    rw [serves.serving] at active
    refine ⟨?_, ?_, ?_, invariant.table.advance _ rfl rfl⟩
    · intro lastTick last ticked
      obtain ⟨rfl, rfl⟩ := DiscoveryEvent.ticked.inj ticked
      exact
        { since := follows.since
          ordered := ordered
          reached := reached
          polled := follows.polling healthy
          active := active
          stayed := invariant.control.stayed serves.nonzero active }
    · exact
        invariant.control.keep rfl rfl rfl rfl invariant.control.started fun _ active => active
    · exact worker _ rfl rfl rfl
  · refine ⟨fun _ _ other => (by cases other), ?_⟩
    exact invariant.moved rfl rfl rfl rfl rfl rfl rfl rfl (worker _ rfl rfl rfl)

/-- The steps of the worker keep to the history, by cases on where it is. -/
theorem DiscoveryInvariant.work (invariant : DiscoveryInvariant past state)
    (taken : state.work = some (after, event))
    : past.AdvancesHealthily (after.label event)
      ∧ DiscoveryInvariant (past.observe (after.label event)) after := by
  have quiet
      : ∀ worker : DiscoveryWorker,
          FollowsWorker past state.activeGeneration state.clock worker
          → past.AdvancesHealthily ({ state with worker }.label .quiet)
            ∧ DiscoveryInvariant (past.observe ({ state with worker }.label .quiet))
                { state with worker } := by
    refine fun worker follows => ⟨fun _ _ other => (by cases other), ?_⟩
    exact
      invariant.moved rfl rfl rfl rfl rfl rfl rfl rfl (follows.keep rfl rfl rfl le_rfl)
  have follows := invariant.worker
  unfold DiscoveryState.work at taken
  cases here : state.worker with
  | absent | querying loop | polling loop | exited => simp [here] at taken
  | waiting =>
      rw [here] at taken
      dsimp only at taken
      split at taken
      · obtain ⟨rfl, rfl⟩ := Prod.ext_iff.1 (Option.some.inj taken)
        exact quiet .exited trivial
      · split at taken
        · rename_i ready
          simp only [Bool.and_eq_true, decide_eq_true_eq] at ready
          obtain ⟨rfl, rfl⟩ := Prod.ext_iff.1 (Option.some.inj taken)
          refine ⟨fun _ _ other => (by cases other), ?_, ?_, ?_⟩
          · exact .take invariant.control.started ready.1 rfl rfl rfl
          · exact ⟨⟨rfl, invariant.control.started ready.1, rfl⟩, le_rfl, rfl⟩
          · exact invariant.table.of_eq rfl rfl rfl rfl rfl
        · contradiction
  | preparing generation =>
      rw [here] at taken follows
      obtain ⟨rfl, rfl⟩ := Prod.ext_iff.1 (Option.some.inj taken)
      refine quiet _ ⟨follows.1, follows.2.1, le_rfl, ?_, fun healthy => (by cases healthy)⟩
      rw [follows.2.2]
      exact fun start known => (by cases known)
  | top loop =>
      rw [here] at taken follows
      obtain ⟨rfl, rfl⟩ := Prod.ext_iff.1 (Option.some.inj taken)
      exact quiet _ follows
  | checking loop now =>
      rw [here] at taken follows
      dsimp only at taken
      split at taken
      · obtain ⟨rfl, rfl⟩ := Prod.ext_iff.1 (Option.some.inj taken)
        exact quiet _ trivial
      · split at taken
        · obtain ⟨rfl, rfl⟩ := Prod.ext_iff.1 (Option.some.inj taken)
          exact quiet _ follows
        · split at taken
          · rename_i healthy
            obtain ⟨rfl, rfl⟩ := Prod.ext_iff.1 (Option.some.inj taken)
            exact quiet _ ⟨follows.1, follows.2, healthy⟩
          · obtain ⟨rfl, rfl⟩ := Prod.ext_iff.1 (Option.some.inj taken)
            exact quiet _ follows
  | scheduling loop =>
      rw [here] at taken follows
      obtain ⟨rfl, rfl⟩ := Prod.ext_iff.1 (Option.some.inj taken)
      exact quiet _ follows
  | stamping loop =>
      rw [here] at taken follows
      obtain ⟨serves, since, started, polled⟩ := follows
      have stamped : FollowsLoop past state.clock { loop with lastTick := state.clock } :=
        ⟨since, le_rfl, started, polled⟩
      obtain ⟨rfl, rfl⟩ := Prod.ext_iff.1 (Option.some.inj taken)
      dsimp only
      split
      · rename_i healthy
        exact quiet _ ⟨serves, stamped, healthy⟩
      · exact quiet _ ⟨serves, stamped⟩
  | polled loop =>
      rw [here] at taken follows
      obtain ⟨rfl, rfl⟩ := Prod.ext_iff.1 (Option.some.inj taken)
      exact quiet _ ⟨follows.1, follows.2, follows.2.reached, le_rfl⟩
  | ticking loop now =>
      rw [here] at taken
      obtain ⟨rfl, rfl⟩ := Prod.ext_iff.1 (Option.some.inj taken)
      exact invariant.tick here
  | leaving =>
      rw [here] at taken
      obtain ⟨rfl, rfl⟩ := Prod.ext_iff.1 (Option.some.inj taken)
      exact
        ⟨fun _ _ other => (by cases other),
          invariant.moved rfl rfl rfl rfl rfl rfl rfl rfl trivial⟩

theorem DiscoveryTable.ValidHost.of_passed {name : CharArray 256} {ip : CharArray 16} {port : Int}
    (passed
      : ¬ (name.isEmpty || ip.isEmpty || decide (port ≤ 0) || decide (port > 65535)) = true)
    : ValidHost name ip port := by
  simp only [Bool.or_eq_true, decide_eq_true_eq, not_or, Bool.not_eq_true] at passed
  exact ⟨passed.1.1.1, passed.1.1.2, by omega, by omega⟩

/-- A report keeps to the history. -/
theorem DiscoveryInvariant.onMdnsHost (invariant : DiscoveryInvariant past state)
    (name : CharArray 256) (ip : CharArray 16) (port : Int)
    : DiscoveryInvariant
        (past.observe
          ((state.onMdnsHost name ip port).1.label (state.onMdnsHost name ip port).2))
        (state.onMdnsHost name ip port).1 := by
  have unchanged : DiscoveryInvariant (past.observe (state.label .quiet)) state :=
    invariant.still rfl invariant.control.started (fun _ active => active) le_rfl rfl rfl rfl
  unfold DiscoveryState.onMdnsHost
  split
  · exact unchanged
  · rename_i valid
    split
    · exact unchanged
    · obtain ⟨sound, time, -, entries⟩ :=
        DiscoveryTable.upsert_spec invariant.table.sound (.of_passed valid)
      refine ⟨?_, invariant.worker.keep rfl rfl rfl le_rfl, sound, ?_, ?_⟩
      · exact
          invariant.control.keep rfl rfl rfl rfl invariant.control.started fun _ active => active
      · exact time.trans invariant.table.healthy
      · intro entry member
        change
          Function.update past.seen (DiscoveryTable.reportedKey ip port) (some past.healthy) entry.1
          = _
        obtain rfl | ⟨old, other⟩ := entries entry member
        · rw [Function.update_self, invariant.table.healthy]
        · rw [Function.update_of_ne other]
          exact invariant.table.seen entry old

theorem DiscoveryState.start_ne_ticked (state : DiscoveryState) (created : Bool)
    (lastTick now : Nat)
    : (state.start created).2 ≠ .ticked lastTick now := by
  unfold DiscoveryState.start
  split
  · simp
  · split
    · simp
    · dsimp only
      split
      · split <;> simp
      · split <;> simp

theorem DiscoveryState.onMdnsHost_ne_ticked (state : DiscoveryState) (name : CharArray 256)
    (ip : CharArray 16) (port : Int) (lastTick now : Nat)
    : (state.onMdnsHost name ip port).2 ≠ .ticked lastTick now := by
  unfold DiscoveryState.onMdnsHost
  split
  · simp
  · split <;> simp

/-- Every step keeps to the history, and healthy time advances over healthy spans only. -/
theorem DiscoveryInvariant.step (invariant : DiscoveryInvariant past state)
    {choice : DiscoveryChoice} (taken : state.step choice = some (after, event))
    : past.AdvancesHealthily (after.label event)
      ∧ DiscoveryInvariant (past.observe (after.label event)) after := by
  cases choice with
  | pass span =>
      obtain ⟨rfl, rfl⟩ := Prod.ext_iff.1 (Option.some.inj taken)
      refine ⟨fun _ _ other => (by cases other), ?_⟩
      refine
        invariant.still rfl invariant.control.started (fun generation active => ?_)
          (Nat.le_add_right _ _) rfl rfl rfl
      obtain ⟨enabled, running, same, leased⟩ := DiscoveryControl.active_iff.1 active
      exact
        DiscoveryControl.active_iff.2
          ⟨enabled, running, same, lt_of_le_of_lt (Nat.le_add_right _ _) leased⟩
  | start created =>
      obtain ⟨rfl, rfl⟩ := Prod.ext_iff.1 (Option.some.inj taken)
      refine ⟨fun lastTick now ticked => ?_, invariant.start created⟩
      exact absurd ticked (state.start_ne_ticked created lastTick now)
  | stop =>
      obtain ⟨rfl, rfl⟩ := Prod.ext_iff.1 (Option.some.inj taken)
      refine ⟨fun _ _ other => (by cases other), ?_⟩
      exact invariant.disabled rfl rfl rfl rfl rfl rfl
  | shutdown =>
      obtain ⟨rfl, rfl⟩ := Prod.ext_iff.1 (Option.some.inj taken)
      refine ⟨fun _ _ other => (by cases other), ?_⟩
      exact invariant.disabled rfl rfl rfl rfl rfl rfl
  | worker => exact invariant.work taken
  | query sent =>
      simp only [DiscoveryState.step] at taken
      split at taken
      · rename_i loop here
        have follows := invariant.worker
        rw [here] at follows
        obtain ⟨serves, since, reached, started, -⟩ := follows
        obtain ⟨rfl, rfl⟩ := Prod.ext_iff.1 (Option.some.inj taken)
        refine ⟨fun _ _ other => (by cases other), ?_⟩
        refine invariant.moved rfl rfl rfl rfl rfl rfl rfl rfl ?_
        refine
          ⟨⟨serves.serving, serves.nonzero, serves.active⟩, le_trans since reached, ?_, ?_⟩
        · intro start known
          cases sent with
          | false => cases known
          | true =>
              obtain rfl := Option.some.inj known
              cases polling : past.pollingSince with
              | none => exact le_rfl
              | some first => exact le_trans (started first polling) reached
        · rintro rfl
          rfl
      · contradiction
  | observe name ip port =>
      simp only [DiscoveryState.step] at taken
      split at taken
      · obtain ⟨rfl, rfl⟩ := Prod.ext_iff.1 (Option.some.inj taken)
        refine ⟨fun lastTick now ticked => ?_, invariant.onMdnsHost name ip port⟩
        exact absurd ticked (state.onMdnsHost_ne_ticked name ip port lastTick now)
      · contradiction
  | poll succeeds =>
      simp only [DiscoveryState.step] at taken
      split at taken
      · rename_i loop here
        have follows := invariant.worker
        rw [here] at follows
        obtain ⟨serves, ⟨since, reached, started, polled⟩, healthy⟩ := follows
        obtain ⟨rfl, rfl⟩ := Prod.ext_iff.1 (Option.some.inj taken)
        refine ⟨fun _ _ other => (by cases other), ?_⟩
        refine invariant.moved rfl rfl rfl rfl rfl rfl rfl rfl ?_
        refine ⟨⟨serves.serving, serves.nonzero, serves.active⟩, since, reached, ?_, ?_⟩
        · intro start known
          cases succeeds with
          | false => cases known
          | true => exact started start known
        · rintro rfl
          exact polled healthy
      · contradiction

/-- What a step does to the table: a tick lets hosts expire, any other step at most adds one. -/
def TableStep (table after : DiscoveryTable) (event : DiscoveryEvent) : Prop :=
  match event with
  | .ticked lastTick now =>
      after = { table with healthyTime := table.healthyTime + (now - lastTick) }.expireHosts
  | _ => ∃ added, after.keys = table.keys ++ added ∧ ∀ key ∈ added, key ∉ table.keys

theorem TableStep.unchanged {table after : DiscoveryTable} {event : DiscoveryEvent}
    (keys : after.keys = table.keys) (other : ∀ lastTick now, event ≠ .ticked lastTick now)
    : TableStep table after event := by
  unfold TableStep
  split
  · exact absurd rfl (other _ _)
  · exact ⟨[], by rw [keys, List.append_nil], by simp⟩

theorem TableStep.grows {table after : DiscoveryTable} {event : DiscoveryEvent}
    (changed : TableStep table after event) (other : ∀ lastTick now, event ≠ .ticked lastTick now)
    : ∃ added, after.keys = table.keys ++ added ∧ ∀ key ∈ added, key ∉ table.keys := by
  unfold TableStep at changed
  split at changed
  · exact absurd rfl (other _ _)
  · exact changed

/-- A host leaves the table when the expiry time has passed since it was seen, and the others stay
in order.
-/
theorem FollowsTable.expires {table : DiscoveryTable} (follows : FollowsTable past table)
    (span : Nat)
    : List.Sublist { table with healthyTime := table.healthyTime + span }.expireHosts.keys
        table.keys
      ∧ ∀ key ∈ table.keys,
          key ∉ { table with healthyTime := table.healthyTime + span }.expireHosts.keys
          ↔ ∃ time,
              past.seen key = some time
              ∧ time + discoveryExpiryUsec ≤ table.healthyTime + span := by
  have sound := follows.sound.advance (Nat.le_add_right table.healthyTime span)
  obtain ⟨parallel, -, entries⟩ := DiscoveryTable.expireHosts_spec sound.parallel
  rw [← DiscoveryTable.map_fst_entries parallel, entries]
  refine ⟨?_, fun key member => ?_⟩
  · rw [← DiscoveryTable.map_fst_entries follows.sound.parallel]
    exact List.filter_sublist.map Prod.fst
  · rw [← DiscoveryTable.map_fst_entries follows.sound.parallel] at member
    obtain ⟨⟨_, time⟩, known, rfl⟩ := List.mem_map.1 member
    have seen := follows.seen _ known
    have young := DiscoveryTable.fresh_iff sound known
    dsimp only at seen young ⊢
    constructor
    · intro gone
      refine ⟨time, seen, not_lt.1 fun fresh => gone ?_⟩
      exact List.mem_map.2 ⟨_, List.mem_filter.2 ⟨known, young.2 fresh⟩, rfl⟩
    · rintro ⟨other, same, old⟩ stays
      obtain rfl := Option.some.inj (seen.symm.trans same)
      obtain ⟨⟨_, again⟩, kept, rfl⟩ := List.mem_map.1 stays
      obtain ⟨present, fresh⟩ := List.mem_filter.1 kept
      obtain rfl := Option.some.inj ((follows.seen _ present).symm.trans same)
      exact absurd ((DiscoveryTable.fresh_iff sound present).1 fresh) (not_lt.2 old)

/-- The step of the worker that ticks is the only one at which the table changes. -/
theorem tableStep_work (invariant : DiscoveryInvariant past state)
    (taken : state.work = some (after, event))
    : TableStep state.table after.table event := by
  have follows := invariant.worker
  unfold DiscoveryState.work at taken
  cases here : state.worker with
  | ticking loop now =>
      rw [here] at taken follows
      obtain ⟨rfl, rfl⟩ := Prod.ext_iff.1 (Option.some.inj taken)
      have advanced
          : (if now ≥ loop.lastTick then now - loop.lastTick else 0) = now - loop.lastTick :=
        if_pos follows.2.2.1
      simp only [DiscoveryState.tick, advanced]
      split
      · exact rfl
      · exact .unchanged rfl (by simp)
  | absent | querying loop | polling loop | exited => simp [here] at taken
  | waiting =>
      rw [here] at taken
      dsimp only at taken
      split at taken
      · obtain ⟨rfl, rfl⟩ := Prod.ext_iff.1 (Option.some.inj taken)
        exact .unchanged rfl (by simp)
      · split at taken
        · obtain ⟨rfl, rfl⟩ := Prod.ext_iff.1 (Option.some.inj taken)
          exact .unchanged rfl (by simp)
        · contradiction
  | checking loop now =>
      rw [here] at taken
      dsimp only at taken
      split at taken
      case isTrue =>
        obtain ⟨rfl, rfl⟩ := Prod.ext_iff.1 (Option.some.inj taken)
        exact .unchanged rfl (by simp)
      split at taken
      case isTrue =>
        obtain ⟨rfl, rfl⟩ := Prod.ext_iff.1 (Option.some.inj taken)
        exact .unchanged rfl (by simp)
      split at taken
      all_goals
        obtain ⟨rfl, rfl⟩ := Prod.ext_iff.1 (Option.some.inj taken)
        exact .unchanged rfl (by simp)
  | preparing generation | top loop | scheduling loop | stamping loop | polled loop | leaving =>
      rw [here] at taken
      obtain ⟨rfl, rfl⟩ := Prod.ext_iff.1 (Option.some.inj taken)
      exact .unchanged rfl (by simp)

theorem tableStep (invariant : DiscoveryInvariant past state) {choice : DiscoveryChoice}
    (taken : state.step choice = some (after, event))
    : TableStep state.table after.table event := by
  cases choice with
  | worker => exact tableStep_work invariant taken
  | pass span | stop | shutdown =>
      obtain ⟨rfl, rfl⟩ := Prod.ext_iff.1 (Option.some.inj taken)
      exact .unchanged rfl (by simp)
  | start created =>
      obtain ⟨rfl, rfl⟩ := Prod.ext_iff.1 (Option.some.inj taken)
      refine .unchanged ?_ (state.start_ne_ticked created)
      unfold DiscoveryState.start
      dsimp only
      split_ifs <;> rfl
  | query sent | poll succeeds =>
      simp only [DiscoveryState.step] at taken
      split at taken
      · obtain ⟨rfl, rfl⟩ := Prod.ext_iff.1 (Option.some.inj taken)
        exact .unchanged rfl (by simp)
      · contradiction
  | observe name ip port =>
      simp only [DiscoveryState.step] at taken
      split at taken
      · obtain ⟨rfl, rfl⟩ := Prod.ext_iff.1 (Option.some.inj taken)
        unfold DiscoveryState.onMdnsHost
        split
        · exact .unchanged rfl (by simp)
        · rename_i valid
          split
          · exact .unchanged rfl (by simp)
          · obtain ⟨-, -, keys, -⟩ :=
              DiscoveryTable.upsert_spec invariant.table.sound (.of_passed valid)
            dsimp only [TableStep]
            rw [keys]
            split
            · exact ⟨[], (List.append_nil _).symm, by simp⟩
            · rename_i new
              refine ⟨_, rfl, fun key member known => new (.inl ?_)⟩
              rwa [← List.mem_singleton.1 member]
      · contradiction

end

-----------------------------------------------------------------------------------------
-- Runs
-----------------------------------------------------------------------------------------

/-- Every run keeps to its history, by induction on the run. -/
theorem DiscoveryInvariant.of_reaches {trace : List DiscoveryLabel} {state : DiscoveryState}
    (reached : discoveryMachine.Reaches trace state)
    : DiscoveryInvariant (discoveryHistory trace) state
      ∧ Guarded (fun before label => (discoveryHistory before).AdvancesHealthily label) trace := by
  refine
    reached.invariant
      (fun trace state =>
        DiscoveryInvariant (discoveryHistory trace) state
        ∧ Guarded (fun before label => (discoveryHistory before).AdvancesHealthily label) trace)
      ?_ ?_
  · rintro _ ⟨clock, leaseUntil, rfl⟩
    refine ⟨⟨⟨?_, ?_, ?_, ?_⟩, trivial, ⟨⟨?_, ?_, rfl, ?_⟩, rfl, ?_⟩⟩, .nil _⟩
    all_goals
      simp [discoveryHistory, DiscoveryTable.keys, DiscoveryTable.entries]
  · rintro trace state choice after emitted ⟨invariant, guarded⟩ taken
    obtain ⟨⟨next, event⟩, step, same⟩ := Option.map_eq_some_iff.1 taken
    obtain ⟨rfl, rfl⟩ := Prod.ext_iff.1 same
    obtain ⟨advances, kept⟩ := invariant.step step
    refine ⟨?_, guarded.snoc advances⟩
    rw [discoveryHistory, List.foldl_append]
    exact kept

/-- The hosts of one state that are in the table of the next are in the same order, and new ones
come behind them.
-/
def KeepsOrder (before after : List DiscoveryKey) : Prop :=
  ∃ kept added,
    after = kept ++ added ∧ kept.Sublist before ∧ ∀ key ∈ added, key ∉ before

/-- A run between two states in which some hosts are in the table all the time. -/
inductive Remain (keys : List DiscoveryKey) : DiscoveryState → DiscoveryState → Prop
  | start {state} (present : keys ⊆ state.table.keys) : Remain keys state state
  | next {first state choice after labels} (before : Remain keys first state)
    (taken : discoveryMachine.step state choice = some (after, labels))
    (present : keys ⊆ after.table.keys)
    : Remain keys first after

/-- Each step keeps the hosts in order, and one leaves exactly at a tick at which the healthy time is
the expiry time past the one at which it was last seen.
-/
theorem step_keepsOrder_expires {past : DiscoveryHistory} {state after : DiscoveryState}
    {event : DiscoveryEvent} {choice : DiscoveryChoice}
    (invariant : DiscoveryInvariant past state) (taken : state.step choice = some (after, event))
    : KeepsOrder state.table.keys after.table.keys
      ∧ ∀ key ∈ state.table.keys,
          key ∉ after.table.keys
          ↔ ∃ lastTick now time,
              event = .ticked lastTick now
              ∧ past.seen key = some time
              ∧ time + discoveryExpiryUsec ≤ (past.observe (after.label event)).healthy := by
  have changed := tableStep invariant taken
  by_cases tick : ∃ lastTick now, event = .ticked lastTick now
  · obtain ⟨lastTick, now, rfl⟩ := tick
    have shown
        : (past.observe (after.label (.ticked lastTick now))).healthy
          = state.table.healthyTime + (now - lastTick) := by
      rw [invariant.table.healthy]
      rfl
    obtain ⟨order, expires⟩ := invariant.table.expires (now - lastTick)
    rw [shown, show after.table = _ from changed]
    refine ⟨⟨_, [], (List.append_nil _).symm, order, by simp⟩, fun key member => ?_⟩
    rw [expires key member]
    constructor
    · rintro ⟨time, seen, old⟩
      exact ⟨lastTick, now, time, rfl, seen, old⟩
    · rintro ⟨_, _, time, -, seen, old⟩
      exact ⟨time, seen, old⟩
  · obtain ⟨added, keys, new⟩ := changed.grows fun lastTick now same => tick ⟨lastTick, now, same⟩
    refine ⟨⟨_, added, keys, .refl _, new⟩, fun key member => ?_⟩
    refine iff_of_false (fun gone => gone ?_) fun ⟨lastTick, now, _, same, _⟩ => ?_
    · rw [keys]
      exact List.mem_append_left _ member
    · exact tick ⟨lastTick, now, same⟩

/-- Hosts that remain in the table keep their order, by induction on the run. -/
theorem Remain.order {keys : List DiscoveryKey} {first last : DiscoveryState}
    (remain : Remain keys first last) {trace : List DiscoveryLabel}
    (reached : discoveryMachine.Reaches trace first) (ordered : keys.Sublist first.table.keys)
    : (∃ later, discoveryMachine.Reaches later last) ∧ keys.Sublist last.table.keys := by
  induction remain with
  | start present => exact ⟨⟨trace, reached⟩, ordered⟩
  | @next state choice after labels before taken present ih =>
      obtain ⟨⟨later, here⟩, inOrder⟩ := ih
      refine ⟨⟨_, here.next taken⟩, ?_⟩
      obtain ⟨invariant, -⟩ := DiscoveryInvariant.of_reaches here
      obtain ⟨⟨next, event⟩, step, same⟩ := Option.map_eq_some_iff.1 taken
      obtain ⟨rfl, rfl⟩ := Prod.ext_iff.1 same
      obtain ⟨⟨kept, added, all, sub, new⟩, -⟩ := step_keepsOrder_expires invariant step
      have inside : keys ⊆ kept := by
        intro key member
        have known := present member
        rw [show next.table.keys = _ from all] at known
        obtain old | fresh := List.mem_append.1 known
        · exact old
        · exact absurd (inOrder.subset member) (new key fresh)
      have still := sublist_of_subset invariant.table.sound.distinct inOrder sub inside
      rw [show next.table.keys = _ from all]
      exact still.trans (List.sublist_append_left kept added)

/-- In every run the table has at most 16 hosts, with distinct addresses and ports, each last seen
at a healthy time that has passed. Healthy time is what the ticks say, and each advances it over a
healthy span. A host leaves exactly at a tick at which 15 seconds of it have passed since the host
was last seen, all others stay in order, and a report to a worker whose generation is not active
changes nothing.
-/
theorem discovered_hosts_age_healthily {trace : List DiscoveryLabel} {state : DiscoveryState}
    (reached : discoveryMachine.Reaches trace state)
    : state.table.Sound
      ∧ state.table.healthyTime = (discoveryHistory trace).healthy
      ∧ Guarded (fun before label => (discoveryHistory before).AdvancesHealthily label) trace
      ∧ (∀ choice after labels,
          discoveryMachine.step state choice = some (after, labels)
          → KeepsOrder state.table.keys after.table.keys
            ∧ ∀ key ∈ state.table.keys,
                key ∉ after.table.keys
                ↔ ∃ label ∈ labels, ∃ lastTick now time,
                    label.event = .ticked lastTick now
                    ∧ (discoveryHistory trace).seen key = some time
                    ∧ time + discoveryExpiryUsec
                      ≤ (discoveryHistory (trace ++ labels)).healthy)
      ∧ (∀ keys last,
          Remain keys state last
          → keys.Sublist state.table.keys
          → keys.Sublist last.table.keys)
      ∧ ∀ loop name ip port after labels,
          state.worker = .polling loop
          → state.control.active loop.generation state.clock = false
          → discoveryMachine.step state (.observe name ip port) = some (after, labels)
          → after = state := by
  obtain ⟨invariant, guarded⟩ := DiscoveryInvariant.of_reaches reached
  refine ⟨invariant.table.sound, invariant.table.healthy, guarded, ?_, ?_, ?_⟩
  · intro choice after labels taken
    obtain ⟨⟨next, event⟩, step, same⟩ := Option.map_eq_some_iff.1 taken
    obtain ⟨rfl, rfl⟩ := Prod.ext_iff.1 same
    obtain ⟨order, expires⟩ := step_keepsOrder_expires invariant step
    refine ⟨order, fun key member => ?_⟩
    rw [expires key member, discoveryHistory, discoveryHistory, List.foldl_append]
    simp [DiscoveryState.label]
  · exact fun keys last remain ordered => (remain.order reached ordered).2
  · intro loop name ip port after labels here inactive taken
    have follows := invariant.worker
    rw [here] at follows
    obtain ⟨⟨next, event⟩, step, same⟩ := Option.map_eq_some_iff.1 taken
    obtain ⟨rfl, -⟩ := Prod.ext_iff.1 same
    simp only [DiscoveryState.step, here, Option.some.injEq, DiscoveryState.onMdnsHost] at step
    have refused : state.control.active state.activeGeneration state.clock = false := by
      rw [follows.1.active, ← follows.1.serving]
      exact inactive
    rw [refused] at step
    split at step
    · exact (Prod.ext_iff.1 step).1.symm
    · exact (Prod.ext_iff.1 step).1.symm

/-- The search is started, sends its query and polls once, and time passes before it reads the time
again.
-/
def firstSpan : List DiscoveryChoice :=
  [.start true, .worker, .worker, .worker, .worker, .query true, .worker, .worker,
    .observe (.copy 256 (.ofLiteral "den")) (.copy 16 (.ofLiteral "10.0.0.2")) 47989,
    .poll true, .pass 1, .worker]

/-- A search before its first tick, in which the current generation may be another one than the
worker's.
-/
def spanState (generation : UInt32) (leaseUntil : Nat) (table : DiscoveryTable)
    : DiscoveryState where
  clock := 1
  control := { enabled := true, generation, leaseUntil }
  threadCreated := true
  activeGeneration := 1
  table
  worker := .ticking { generation := 1, nextQuery := 5000000, lastTick := 0, healthy := true } 1

theorem firstSpan_reaches
    : ∃ trace table,
        discoveryMachine.Reaches trace (spanState 1 250000 table)
        ∧ table.keys = [(.ofLiteral "10.0.0.2", 47989)] :=
  ⟨_, _, discoveryMachine.reaches_run ⟨0, 0, rfl⟩ firstSpan rfl, rfl⟩

/-- The host of the first poll is in a sound table. -/
theorem firstSpan_sound
    : ∃ trace table,
        discoveryMachine.Reaches trace (spanState 1 250000 table)
        ∧ table.keys = [(.ofLiteral "10.0.0.2", 47989)]
        ∧ table.Sound := by
  obtain ⟨trace, table, reached, keys⟩ := firstSpan_reaches
  exact ⟨trace, table, reached, keys, (discovered_hosts_age_healthily reached).1⟩

/-- The search is stopped and started again before the tick. -/
theorem restart_reaches {trace : List DiscoveryLabel} {generation : UInt32} {leaseUntil : Nat}
    {table : DiscoveryTable}
    (reached : discoveryMachine.Reaches trace (spanState generation leaseUntil table))
    : ∃ later leaseUntil table,
        discoveryMachine.Reaches later (spanState (nextGeneration generation) leaseUntil table)
        ∧ 1 < leaseUntil
        ∧ (discoveryHistory later).stayed = false := by
  have leased : 1 < 1 + discoveryLeaseUsec := Nat.lt_add_of_pos_right (by decide)
  refine ⟨_, 1 + discoveryLeaseUsec, _, reached.run [.stop, .start true] rfl, leased, ?_⟩
  rw [discoveryHistory, List.foldl_append]
  simp [DiscoveryHistory.observe, DiscoveryHistory.record, DiscoveryState.label, spanState,
    DiscoveryControl.active]

/-- The search is stopped and started again some times, by induction on how many. -/
theorem restarts_reach (count : Nat)
    : ∃ trace leaseUntil table,
        discoveryMachine.Reaches trace (spanState (nextGeneration^[count] 1) leaseUntil table)
        ∧ 1 < leaseUntil
        ∧ (0 < count → (discoveryHistory trace).stayed = false) := by
  induction count with
  | zero =>
      obtain ⟨trace, table, reached, -⟩ := firstSpan_reaches
      exact ⟨trace, 250000, table, reached, by decide, fun none => absurd none (lt_irrefl 0)⟩
  | succ count ih =>
      obtain ⟨trace, leaseUntil, table, reached, -⟩ := ih
      rw [Function.iterate_succ_apply']
      obtain ⟨later, lease, hosts, here, leased, lost⟩ := restart_reaches reached
      exact ⟨later, lease, hosts, here, leased, fun _ => lost⟩

/-- After 4294967295 new generations the first number is current again. -/
theorem generations_return : nextGeneration^[2 ^ 32 - 1] 1 = 1 := by
  obtain ⟨nonzero, index⟩ := generationIndex_turns (2 ^ 32 - 1)
  rw [Nat.mod_self, generationIndex] at index
  have positive : (nextGeneration^[2 ^ 32 - 1] 1).toNat ≠ 0 := by
    intro zero
    exact nonzero (UInt32.toNat_inj.1 zero)
  refine UInt32.toNat_inj.1 ?_
  change _ = 1
  omega

/-- Healthy time can advance over a span in which the search was stopped, when so many generations
have begun in it that the worker's number is current again.
-/
theorem stopped_span_advances
    : ¬ ∀ trace state,
          discoveryMachine.Reaches trace state
          → Guarded
              (fun before label =>
                ∀ lastTick now,
                  label.event = .ticked lastTick now
                  → lastTick < now
                  → (discoveryHistory before).stayed = true)
              trace := by
  intro always
  obtain ⟨trace, leaseUntil, table, reached, leased, lost⟩ := restarts_reach (2 ^ 32 - 1)
  rw [generations_return] at reached
  have active : (spanState 1 leaseUntil table).control.active 1 1 = true :=
    DiscoveryControl.active_iff.2 ⟨rfl, rfl, rfl, leased⟩
  let loop : DiscoveryLoop :=
    { generation := 1, nextQuery := 5000000, lastTick := 0, healthy := true }
  have ticked : ((spanState 1 leaseUntil table).tick loop 1).2 = .ticked 0 1 :=
    congrArg Prod.snd (if_pos active)
  have taken
      : discoveryMachine.step (spanState 1 leaseUntil table) .worker
        = some
            (((spanState 1 leaseUntil table).tick loop 1).1,
              [((spanState 1 leaseUntil table).tick loop 1).1.label
                ((spanState 1 leaseUntil table).tick loop 1).2]) := rfl
  have stayed := always _ _ (reached.next taken) trace _ [] rfl 0 1 ticked (by decide)
  exact Bool.false_ne_true ((lost (by decide)).symm.trans stayed)

end VitaMoonlight
