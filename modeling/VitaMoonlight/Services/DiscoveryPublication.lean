import VitaMoonlight.Backend.DiscoveryLease
import VitaMoonlight.Services.HostDiscoveryService

/-! What the reader of the background search sees: every change of the published list has a revision
of its own, a poll finds just the changes, and an event of a stopped search is never accepted.
-/

namespace VitaMoonlight

open Library

-----------------------------------------------------------------------------------------
-- Revisions
-----------------------------------------------------------------------------------------

/-- The list went through so many revisions in its generation, and is the same after none. -/
structure Revised (before after : MoonlightDiscoverySnapshot) (count : Nat) : Prop where
  generation : after.generation = before.generation
  revision : after.revision = before.revision + UInt32.ofNat count
  same : count = 0 → after = before

theorem Revised.refl (snapshot : MoonlightDiscoverySnapshot) : Revised snapshot snapshot 0 :=
  ⟨rfl, (UInt32.add_zero _).symm, fun _ => rfl⟩

theorem Revised.trans {first second third : MoonlightDiscoverySnapshot} {more count : Nat}
    (earlier : Revised first second count) (later : Revised second third more)
    : Revised first third (count + more) where
  generation := later.generation.trans earlier.generation
  revision := by
    rw [later.revision, earlier.revision, UInt32.ofNat_add, UInt32.add_assoc]
  same := by
    intro none
    rw [later.same (Nat.eq_zero_of_add_eq_zero_left none),
      earlier.same (Nat.eq_zero_of_add_eq_zero_right none)]

namespace DiscoveryTable

variable (table : DiscoveryTable)

theorem revise_revised (hosts : List MoonlightHost)
    : Revised table.snapshot (table.revise hosts).snapshot 1 :=
  ⟨rfl, rfl, nofun⟩

/-- A change that may not be due revises the list at most once more. -/
theorem ite_revised {before : MoonlightDiscoverySnapshot} {table : DiscoveryTable} {count bound : Nat}
    (earlier : Revised before table.snapshot count) (atMost : count ≤ bound) (due : Prop)
    [Decidable due] (hosts : List MoonlightHost)
    : ∃ more ≤ bound + 1,
        Revised before (if due then table.revise hosts else table).snapshot more := by
  split
  · exact ⟨count + 1, Nat.succ_le_succ atMost, earlier.trans (table.revise_revised hosts)⟩
  · exact ⟨count, Nat.le_succ_of_le atMost, earlier⟩

/-- A report revises the list for a host that is added and for a name that changes. -/
theorem upsert_revised (name : CharArray 256) (ip : CharArray 16) (port : Int)
    : ∃ count ≤ 2, Revised table.snapshot (table.upsert name ip port).snapshot count := by
  unfold upsert
  dsimp only
  split
  · by_cases new : table.find ip port = table.snapshot.hosts.length
    · rw [if_pos new]
      exact ite_revised (table.revise_revised _) (Nat.le_refl 1) _ _
    · rw [if_neg new]
      exact ite_revised (.refl table.snapshot) (Nat.zero_le 1) _ _
  · exact ⟨0, Nat.zero_le _, .refl _⟩

/-- Expiry at one position revises the list at most once. -/
theorem expireAt_revised (index : Nat)
    : ∃ count ≤ 1, Revised table.snapshot (table.expireAt index).snapshot count := by
  unfold expireAt
  split
  · exact ⟨1, Nat.le_refl _, table.revise_revised _⟩
  · exact ⟨0, Nat.zero_le _, .refl _⟩

/-- Expiry revises the list at most once for each position, by induction on these. -/
theorem expireFrom_revised (positions : Nat)
    : ∃ count ≤ positions, Revised table.snapshot (table.expireFrom positions).snapshot count := by
  induction positions generalizing table with
  | zero => exact ⟨0, Nat.le_refl _, .refl _⟩
  | succ positions ih =>
      obtain ⟨first, atMost, earlier⟩ := table.expireAt_revised positions
      obtain ⟨rest, few, later⟩ := ih (table.expireAt positions)
      exact ⟨first + rest, by omega, earlier.trans later⟩

end DiscoveryTable

/-- Letting hosts expire revises the list at most once for each. -/
theorem expireHosts_revised {table : DiscoveryTable} (sound : table.Sound) (healthyTime : Nat)
    : ∃ count ≤ maxDiscoveredHosts,
        Revised table.snapshot { table with healthyTime }.expireHosts.snapshot count := by
  obtain ⟨count, few, revised⟩
      := DiscoveryTable.expireFrom_revised { table with healthyTime } table.snapshot.hosts.length
  exact ⟨count, Nat.le_trans few sound.room, revised⟩

/-- A step of the search that starts none keeps its generation, enables nothing, and revises the list
for what it changes.
-/
theorem search_revised {state after : DiscoveryState} {event : DiscoveryEvent}
    {choice : DiscoveryChoice} (sound : state.table.Sound)
    (notStart : ∀ created, choice ≠ .start created)
    (taken : state.step choice = some (after, event))
    : (∃ count ≤ maxDiscoveredHosts,
          Revised state.table.snapshot after.table.snapshot count)
      ∧ after.control.generation = state.control.generation
      ∧ (after.control.enabled = true → state.control.enabled = true) := by
  have none : ∃ count ≤ maxDiscoveredHosts, Revised state.table.snapshot state.table.snapshot count :=
    ⟨0, Nat.zero_le _, .refl _⟩
  cases choice with
  | start created => exact absurd rfl (notStart created)
  | stop | shutdown =>
      obtain ⟨rfl, rfl⟩ := Prod.ext_iff.1 (Option.some.inj taken)
      exact ⟨none, rfl, nofun⟩
  | pass _ =>
      obtain ⟨rfl, rfl⟩ := Prod.ext_iff.1 (Option.some.inj taken)
      exact ⟨none, rfl, id⟩
  | worker =>
      obtain ⟨control, -, -, table | ⟨healthyTime, table⟩⟩ := work_frame taken
      · rw [control, table]
        exact ⟨none, rfl, id⟩
      · rw [control, table]
        exact ⟨expireHosts_revised sound healthyTime, rfl, id⟩
  | query sent =>
      simp only [DiscoveryState.step] at taken
      split at taken
      · obtain ⟨rfl, rfl⟩ := Prod.ext_iff.1 (Option.some.inj taken)
        exact ⟨none, rfl, id⟩
      · cases taken
  | observe name ip port =>
      simp only [DiscoveryState.step, DiscoveryState.onMdnsHost] at taken
      split at taken
      · obtain ⟨rfl, rfl⟩ := Prod.ext_iff.1 (Option.some.inj taken)
        split
        · exact ⟨none, rfl, id⟩
        · split
          · exact ⟨none, rfl, id⟩
          · obtain ⟨count, few, revised⟩ := state.table.upsert_revised name ip port
            exact ⟨⟨count, Nat.le_trans few (by decide), revised⟩, rfl, id⟩
      · cases taken
  | poll succeeds =>
      simp only [DiscoveryState.step] at taken
      split at taken
      · obtain ⟨rfl, rfl⟩ := Prod.ext_iff.1 (Option.some.inj taken)
        exact ⟨none, rfl, id⟩
      · cases taken

-----------------------------------------------------------------------------------------
-- The history of a run
-----------------------------------------------------------------------------------------

/-- What the labels show: the published list, how many revisions it went through, all lists
published so far with the revisions before each, how many generations have begun, and the
generations of the events queued since the last stop of the service and before it.
-/
structure PublicationHistory where
  current : MoonlightDiscoverySnapshot := {}
  revisions : Nat := 0
  published : List (Nat × MoonlightDiscoverySnapshot) := [(0, {})]
  begun : Nat := 0
  queued : List UInt32 := []
  retired : List UInt32 := []

namespace PublicationHistory

/-- The history of the list after one more label, whose revisions are told by their numbers. -/
def publish (past : PublicationHistory) (list : MoonlightDiscoverySnapshot) : PublicationHistory :=
  let revisions := past.revisions + (list.revision - past.current.revision).toNat
  { past with
    current := list
    revisions
    published := past.published ++ [(revisions, list)] }

/-- The history of the events after one more of them. -/
def record (past : PublicationHistory) : PublicationEvent → PublicationHistory
  | .quiet => past
  | .began => { past with begun := past.begun + 1 }
  | .stopped => { past with retired := past.retired ++ past.queued, queued := [] }
  | .polled event => { past with queued := past.queued ++ event.toList }

/-- The history after one more label. -/
def observe (past : PublicationHistory) (label : PublicationLabel) : PublicationHistory :=
  (past.publish label.published).record label.event

/-- A list that changes has at least one revision more, and not so many that none shows. -/
def RevisesChanges (past : PublicationHistory) (label : PublicationLabel) : Prop :=
  label.published.hosts ≠ past.current.hosts
  → ∃ count,
      0 < count
      ∧ count ≤ maxDiscoveredHosts
      ∧ label.published.revision = past.current.revision + UInt32.ofNat count

end PublicationHistory

/-- The history of a trace. -/
def publicationHistory (trace : List PublicationLabel) : PublicationHistory :=
  trace.foldl PublicationHistory.observe {}

/-- What the reader may rely on: lists with equal numbers are equal, a poll finds a list exactly when
the search is active and the numbers differ, and has it then, and no event that was queued before a
stop is accepted behind it. Lists and generations are told apart by 32-bit numbers.
-/
structure SeesPublications (past : PublicationHistory) (state : PublicationState) : Prop where
  distinct
    : past.revisions < 2 ^ 32
      → ∀ first ∈ past.published,
          ∀ second ∈ past.published,
            first.2.generation = second.2.generation
            → first.2.revision = second.2.revision
            → first.2 = second.2
  polls
    : (state.service.poll state.search).2.isSome = true
      ↔ state.search.control.active state.search.control.generation state.search.clock = true
        ∧ (state.service.snapshot.generation, state.service.snapshot.revision)
          ≠ (state.search.table.snapshot.generation, state.search.table.snapshot.revision)
  copies
    : (state.service.poll state.search).2.isSome = true
      → (state.service.poll state.search).1.snapshot = state.search.table.snapshot
  stale
    : past.revisions < 2 ^ 32
      → ∀ generation ∈ past.retired, state.service.accepts generation = false

-----------------------------------------------------------------------------------------
-- The invariant
-----------------------------------------------------------------------------------------

/-- What the history says of the published list: it is the last one, and lists with the same number of
revisions before them are equal.
-/
structure FollowsList (past : PublicationHistory) (list : MoonlightDiscoverySnapshot) : Prop where
  current : past.current = list
  last : list.revision = UInt32.ofNat past.revisions
  published
    : ∀ entry ∈ past.published,
        entry.1 ≤ past.revisions
        ∧ entry.2.revision = UInt32.ofNat entry.1
        ∧ (entry.1 = past.revisions → entry.2 = list)
  agree
    : ∀ first ∈ past.published,
        ∀ second ∈ past.published, first.1 = second.1 → first.2 = second.2

/-- What the history says of the generations: they are those begun so far, the service has the
current one unless it was stopped, and then the search is not enabled.
-/
structure FollowsGenerations (past : PublicationHistory) (control : DiscoveryControl)
    (service : HostDiscoveryService) : Prop where
  begun : past.begun ≤ past.revisions
  generation : control.generation = nextGeneration^[past.begun] 0
  serving : service.generation ≠ 0 → service.generation = control.generation
  enabled : control.enabled = true → service.generation ≠ 0
  queued
    : ∀ generation ∈ past.queued,
        ∃ turn, 0 < turn ∧ turn ≤ past.begun ∧ generation = nextGeneration^[turn] 0
  retired
    : ∀ generation ∈ past.retired,
        ∃ turn,
          0 < turn
          ∧ turn ≤ past.begun
          ∧ (service.generation ≠ 0 → turn < past.begun)
          ∧ generation = nextGeneration^[turn] 0

/-- What the history says of the search and its reader. -/
structure PublicationInvariant (past : PublicationHistory) (state : PublicationState) : Prop where
  search : ∃ trace, discoveryMachine.Reaches trace state.search
  list : FollowsList past state.search.table.snapshot
  listed : state.search.table.snapshot.generation = state.search.control.generation
  generations : FollowsGenerations past state.search.control state.service

section

variable {past : PublicationHistory} {before after : MoonlightDiscoverySnapshot}
  {control : DiscoveryControl} {service : HostDiscoveryService} {state : PublicationState}

/-- Publishing a list that went through some revisions counts them. -/
theorem FollowsList.publish (follows : FollowsList past before) {count : Nat}
    (revision : after.revision = before.revision + UInt32.ofNat count)
    (same : count = 0 → after = before) (few : count < 2 ^ 32)
    : (past.publish after).revisions = past.revisions + count
      ∧ FollowsList (past.publish after) after := by
  have counted : (past.publish after).revisions = past.revisions + count := by
    rw [PublicationHistory.publish, follows.current, revision, UInt32.add_comm,
      UInt32.add_sub_cancel]
    exact congrArg _ (Nat.mod_eq_of_lt few)
  have last : after.revision = UInt32.ofNat (past.revisions + count) := by
    rw [revision, follows.last, UInt32.ofNat_add]
  have entries
      : (past.publish after).published = past.published ++ [(past.revisions + count, after)] := by
    rw [← counted]
    rfl
  -- an earlier list with as many revisions before it is the same list
  have old
      : ∀ entry ∈ past.published, entry.1 = past.revisions + count → entry.2 = after := by
    intro entry member equal
    obtain ⟨atMost, -, isLast⟩ := follows.published entry member
    have none : count = 0 := by omega
    rw [same none]
    exact isLast (by omega)
  refine ⟨counted, rfl, counted ▸ last, ?_, ?_⟩
  · rw [entries, counted]
    intro entry member
    rcases List.mem_append.1 member with earlier | latest
    · obtain ⟨atMost, numbered, -⟩ := follows.published entry earlier
      exact ⟨Nat.le_add_right_of_le atMost, numbered, old entry earlier⟩
    · obtain rfl := List.mem_singleton.1 latest
      exact ⟨Nat.le_refl _, last, fun _ => rfl⟩
  · rw [entries]
    intro first one second other equal
    rcases List.mem_append.1 one with earlier | latest
    · rcases List.mem_append.1 other with also | latest
      · exact follows.agree first earlier second also equal
      · obtain rfl := List.mem_singleton.1 latest
        exact old first earlier equal
    · obtain rfl := List.mem_singleton.1 latest
      rcases List.mem_append.1 other with earlier | latest
      · exact (old second earlier equal.symm).symm
      · obtain rfl := List.mem_singleton.1 latest
        rfl

theorem FollowsList.record (follows : FollowsList past after) (event : PublicationEvent)
    : FollowsList (past.record event) after := by
  cases event with
  | quiet | began | stopped | polled _ =>
      exact ⟨follows.current, follows.last, follows.published, follows.agree⟩

/-- Lists with equal numbers are equal, unless the numbers repeat. -/
theorem FollowsList.distinct (follows : FollowsList past after) (few : past.revisions < 2 ^ 32)
    : ∀ first ∈ past.published,
        ∀ second ∈ past.published,
          first.2.revision = second.2.revision → first.2 = second.2 := by
  intro first one second other equal
  obtain ⟨atMost, numbered, -⟩ := follows.published first one
  obtain ⟨also, counted, -⟩ := follows.published second other
  rw [numbered, counted] at equal
  have numbers := congrArg UInt32.toNat equal
  rw [UInt32.toNat_ofNat_of_lt' (Nat.lt_of_le_of_lt atMost few),
    UInt32.toNat_ofNat_of_lt' (Nat.lt_of_le_of_lt also few)] at numbers
  exact follows.agree first one second other numbers

/-- A generation that was retired is not the one of the service, unless the numbers repeat. -/
theorem FollowsGenerations.stale (follows : FollowsGenerations past control service)
    (few : past.revisions < 2 ^ 32)
    : ∀ generation ∈ past.retired, service.accepts generation = false := by
  intro generation retired
  obtain ⟨turn, positive, atMost, earlier, rfl⟩ := follows.retired generation retired
  by_cases idle : service.generation = 0
  · simp [HostDiscoveryService.accepts, idle]
  · have less := earlier idle
    have begun := follows.begun
    rw [HostDiscoveryService.accepts, follows.serving idle, follows.generation, Bool.and_eq_false_iff]
    refine .inr (beq_eq_false_iff_ne.2 fun same => ?_)
    have turns := generation_returns atMost same.symm
    omega

/-- Nothing that was queued or retired is lost when revisions are counted. -/
theorem FollowsGenerations.publish (follows : FollowsGenerations past control service)
    (list : MoonlightDiscoverySnapshot)
    : FollowsGenerations (past.publish list) control service :=
  { follows with begun := Nat.le_add_right_of_le follows.begun }

/-- Control variables of the same generation that enable nothing. -/
theorem FollowsGenerations.keep (follows : FollowsGenerations past control service)
    {later : DiscoveryControl} (generation : later.generation = control.generation)
    (shrinks : later.enabled = true → control.enabled = true)
    : FollowsGenerations past later service where
  begun := follows.begun
  generation := generation.trans follows.generation
  serving := fun busy => (follows.serving busy).trans generation.symm
  enabled := fun enabled => follows.enabled (shrinks enabled)
  queued := follows.queued
  retired := follows.retired

/-- The service takes up the generation that begins. -/
theorem FollowsGenerations.began (follows : FollowsGenerations past control service)
    {later : DiscoveryControl} (room : past.begun < past.revisions)
    (generation : later.generation = nextGeneration control.generation)
    : FollowsGenerations (past.record .began) later (service.start (some later.generation)) where
  begun := room
  generation := by
    rw [generation, follows.generation]
    exact (Function.iterate_succ_apply' _ _ _).symm
  serving := fun _ => rfl
  enabled := fun _ => generation ▸ nextGeneration_ne_zero _
  queued := by
    intro number queued
    obtain ⟨turn, positive, atMost, same⟩ := follows.queued number queued
    exact ⟨turn, positive, Nat.le_succ_of_le atMost, same⟩
  retired := by
    intro number retired
    obtain ⟨turn, positive, atMost, -, same⟩ := follows.retired number retired
    exact ⟨turn, positive, Nat.le_succ_of_le atMost, fun _ => Nat.lt_succ_of_le atMost, same⟩

/-- A start that renews hands out the generation that the service has. -/
theorem FollowsGenerations.renewed (follows : FollowsGenerations past control service)
    (enabled : control.enabled = true)
    : service.start (some control.generation) = service := by
  rw [HostDiscoveryService.start, Option.getD_some, ← follows.serving (follows.enabled enabled)]

/-- A stop of the service retires what was queued. -/
theorem FollowsGenerations.stopped (follows : FollowsGenerations past control service)
    : FollowsGenerations (past.record .stopped) { control with enabled := false } service.stop where
  begun := follows.begun
  generation := follows.generation
  serving := fun busy => absurd rfl busy
  enabled := nofun
  queued := nofun
  retired := by
    intro generation retired
    rcases List.mem_append.1 retired with before | queued
    · obtain ⟨turn, positive, atMost, -, same⟩ := follows.retired generation before
      exact ⟨turn, positive, atMost, fun busy => absurd rfl busy, same⟩
    · obtain ⟨turn, positive, atMost, same⟩ := follows.queued generation queued
      exact ⟨turn, positive, atMost, fun busy => absurd rfl busy, same⟩

/-- A poll queues at most an event of the current generation. -/
theorem FollowsGenerations.polled (follows : FollowsGenerations past control service)
    {later : HostDiscoveryService} {event : Option UInt32}
    (same : later.generation = service.generation)
    (current : ∀ generation ∈ event, generation ≠ 0 ∧ generation = service.generation)
    : FollowsGenerations (past.record (.polled event)) control later where
  begun := follows.begun
  generation := follows.generation
  serving := by
    rw [same]
    exact follows.serving
  enabled := by
    rw [same]
    exact follows.enabled
  queued := by
    intro generation queued
    rcases List.mem_append.1 queued with before | new
    · exact follows.queued generation before
    · obtain ⟨nonzero, serving⟩ := current generation (Option.mem_toList.1 new)
      have latest : generation = nextGeneration^[past.begun] 0 := by
        rw [← follows.generation, serving]
        exact follows.serving (serving ▸ nonzero)
      refine ⟨past.begun, Nat.pos_of_ne_zero fun none => ?_, Nat.le_refl _, latest⟩
      rw [none] at latest
      exact nonzero latest
  retired := by
    rw [same]
    exact follows.retired

/-- A poll leaves the service its generation, and an event is of that generation. -/
theorem poll_generation (service : HostDiscoveryService) (search : DiscoveryState)
    : (service.poll search).1.generation = service.generation
      ∧ ∀ generation ∈ (service.poll search).2,
          generation ≠ 0 ∧ generation = service.generation := by
  unfold HostDiscoveryService.poll
  split
  · exact ⟨rfl, nofun⟩
  · rename_i busy
    split
    · refine ⟨rfl, fun generation event => ?_⟩
      split at event
      · obtain rfl := Option.some.inj event
        exact ⟨busy, rfl⟩
      · cases event
    · exact ⟨rfl, nofun⟩
    · exact ⟨rfl, nofun⟩

/-- A read copies the list when the search is active and the numbers differ. -/
theorem read_cases (search : DiscoveryState) (reader : MoonlightDiscoverySnapshot)
    : search.control.active search.control.generation search.clock = true
        ∧ (reader.generation, reader.revision)
          ≠ (search.table.snapshot.generation, search.table.snapshot.revision)
        ∧ search.read reader = .changed search.table.snapshot
      ∨ ¬ (search.control.active search.control.generation search.clock = true
            ∧ (reader.generation, reader.revision)
              ≠ (search.table.snapshot.generation, search.table.snapshot.revision))
        ∧ ∀ copy, search.read reader ≠ .changed copy := by
  unfold DiscoveryState.read
  by_cases active
      : search.control.active search.control.generation search.clock = true
  · rw [if_pos active]
    by_cases differ
        : reader.generation ≠ search.table.snapshot.generation
          ∨ reader.revision ≠ search.table.snapshot.revision
    · rw [if_pos differ]
      refine .inl ⟨active, fun same => ?_, rfl⟩
      obtain ⟨generation, revision⟩ := Prod.ext_iff.1 same
      exact differ.elim (fun other => other generation) fun other => other revision
    · rw [if_neg differ]
      refine .inr ⟨fun ⟨_, other⟩ => other ?_, nofun⟩
      simp only [not_or, Decidable.not_not] at differ
      rw [differ.1, differ.2]
  · rw [if_neg active]
    exact .inr ⟨fun ⟨also, _⟩ => active also, nofun⟩

/-- A poll finds a list when the search is active and the numbers differ. -/
theorem PublicationInvariant.sees (invariant : PublicationInvariant past state)
    : SeesPublications past state where
  distinct := fun few first one second other _ => invariant.list.distinct few first one second other
  stale := invariant.generations.stale
  polls := by
    unfold HostDiscoveryService.poll
    rcases read_cases state.search state.service.snapshot
      with ⟨active, differ, changed⟩ | ⟨idle, unchanged⟩
    · have busy := invariant.generations.enabled (DiscoveryControl.active_iff.1 active).1
      have serving := invariant.generations.serving busy
      rw [if_neg busy, changed]
      dsimp only
      rw [if_pos (invariant.listed.trans serving.symm)]
      exact iff_of_true rfl ⟨active, differ⟩
    · refine iff_of_false ?_ idle
      split
      · exact Bool.false_ne_true
      · split
        · rename_i copy changed
          exact absurd changed (unchanged copy)
        · exact Bool.false_ne_true
        · exact Bool.false_ne_true
  copies := by
    unfold HostDiscoveryService.poll
    rcases read_cases state.search state.service.snapshot
      with ⟨-, -, changed⟩ | ⟨-, unchanged⟩
    · split
      · nofun
      · rw [changed]
        exact fun _ => rfl
    · split
      · nofun
      · split
        · rename_i copy changed
          exact absurd changed (unchanged copy)
        · nofun
        · nofun

/-- A step that takes the list through some revisions shows what it changes. -/
theorem PublicationInvariant.next (invariant : PublicationInvariant past state)
    {after : PublicationState} {event : PublicationEvent} {count : Nat}
    (search : ∃ trace, discoveryMachine.Reaches trace after.search)
    (few : count ≤ maxDiscoveredHosts)
    (revision
      : after.search.table.snapshot.revision
        = state.search.table.snapshot.revision + UInt32.ofNat count)
    (same : count = 0 → after.search.table.snapshot = state.search.table.snapshot)
    (listed : after.search.table.snapshot.generation = after.search.control.generation)
    (generations
      : (past.publish after.search.table.snapshot).revisions = past.revisions + count
        → FollowsGenerations ((past.publish after.search.table.snapshot).record event)
            after.search.control after.service)
    : let label : PublicationLabel := { event, published := after.search.table.snapshot }
      past.RevisesChanges label ∧ PublicationInvariant (past.observe label) after := by
  obtain ⟨counted, list⟩
      := invariant.list.publish revision same (Nat.lt_of_le_of_lt few (by decide))
  refine ⟨fun changed => ?_, search, list.record event, listed, generations counted⟩
  rw [invariant.list.current] at changed ⊢
  refine ⟨count, Nat.pos_of_ne_zero fun none => changed ?_, few, revision⟩
  exact congrArg _ (same none)

/-- One step revises the list for what it changes and keeps the invariant, case by case over the
choices.
-/
theorem PublicationInvariant.step (invariant : PublicationInvariant past state)
    {after : PublicationState} {choice : PublicationChoice} {event : PublicationEvent}
    (taken : state.step choice = some (after, event))
    : let label : PublicationLabel := { event, published := after.search.table.snapshot }
      past.RevisesChanges label ∧ PublicationInvariant (past.observe label) after := by
  obtain ⟨trace, reached⟩ := invariant.search
  have ran
      : ∀ {choice search} {shown : DiscoveryEvent},
          state.search.step choice = some (search, shown)
          → ∃ trace, discoveryMachine.Reaches trace search :=
    fun step => ⟨_, reached.next (Option.map_eq_some_iff.2 ⟨_, step, rfl⟩)⟩
  have unrevised {revision : UInt32} : revision = revision + UInt32.ofNat 0 :=
    (UInt32.add_zero _).symm
  cases choice with
  | search choice =>
      by_cases start : ∃ created, choice = .start created
      · obtain ⟨created, rfl⟩ := start
        cases taken
      · have notStart : ∀ created, choice ≠ .start created :=
          fun created same => start ⟨created, same⟩
        have taken
            : (state.search.step choice).map
                (fun searched => ({ state with search := searched.1 }, PublicationEvent.quiet))
              = some (after, event) := by
          cases choice with
          | start created => exact absurd rfl (notStart created)
          | pass _ | stop | shutdown | worker | query _ | observe _ _ _ | poll _ => exact taken
        obtain ⟨⟨search, shown⟩, step, same⟩ := Option.map_eq_some_iff.1 taken
        obtain ⟨rfl, rfl⟩ := Prod.ext_iff.1 same
        have sound := (DiscoveryInvariant.of_reaches reached).1.table.sound
        obtain ⟨⟨count, few, revised⟩, generation, shrinks⟩ := search_revised sound notStart step
        refine invariant.next (ran step) few revised.revision revised.same ?_ fun _ => ?_
        · exact (revised.generation.trans invariant.listed).trans generation.symm
        · exact (invariant.generations.publish _).keep generation shrinks
  | start created =>
      have step : ∃ trace, discoveryMachine.Reaches trace (state.search.start created).1 :=
        @ran (.start created) _ _ rfl
      have done := startStep state.search created
      simp only [PublicationState.step] at taken
      generalize state.search.startedGeneration created = handed at *
      generalize state.search.start created = next at *
      cases done with
      | fails =>
          obtain ⟨rfl, rfl⟩ := Prod.ext_iff.1 (Option.some.inj taken)
          exact
            invariant.next ⟨trace, reached⟩ (Nat.zero_le _) unrevised (fun _ => rfl)
              invariant.listed fun _ => invariant.generations.publish _
      | @renews search running enabled within control clock table =>
          obtain ⟨rfl, rfl⟩ := Prod.ext_iff.1 (Option.some.inj taken)
          have generation : search.control.generation = state.search.control.generation := by
            rw [control]
          refine
            invariant.next step (Nat.zero_le _) (table ▸ unrevised) (fun _ => by rw [table]) ?_
              fun _ => ?_
          · exact (table ▸ invariant.listed).trans generation.symm
          · change FollowsGenerations (past.publish _) search.control (state.service.start _)
            rw [invariant.generations.renewed enabled]
            exact (invariant.generations.publish _).keep generation fun _ => enabled
      | @begins search running lapsed control clock snapshot =>
          obtain ⟨rfl, rfl⟩ := Prod.ext_iff.1 (Option.some.inj taken)
          have generation
              : search.control.generation = nextGeneration state.search.control.generation := by
            rw [control]
          refine
            invariant.next step (show 1 ≤ maxDiscoveredHosts by decide) (by rw [snapshot]; rfl)
              (by simp) (by rw [snapshot, generation]) fun counted => ?_
          rw [← generation]
          refine (invariant.generations.publish _).began ?_ generation
          rw [counted]
          exact Nat.lt_succ_of_le invariant.generations.begun
  | stop =>
      obtain ⟨rfl, rfl⟩ := Prod.ext_iff.1 (Option.some.inj taken)
      exact
        invariant.next (@ran .stop _ _ rfl) (Nat.zero_le _) unrevised (fun _ => rfl)
          invariant.listed fun _ => (invariant.generations.publish _).stopped
  | poll =>
      obtain ⟨rfl, rfl⟩ := Prod.ext_iff.1 (Option.some.inj taken)
      obtain ⟨same, current⟩ := poll_generation state.service state.search
      exact
        invariant.next ⟨trace, reached⟩ (Nat.zero_le _) unrevised (fun _ => rfl)
          invariant.listed fun _ => (invariant.generations.publish _).polled same current

end

/-- In every run each change of the published list has its revisions, and the reader sees the lists
as it may rely on.
-/
theorem discovery_publications_seen {trace : List PublicationLabel} {state : PublicationState}
    (reached : publicationMachine.Reaches trace state)
    : SeesPublications (publicationHistory trace) state
      ∧ Guarded (fun before label => (publicationHistory before).RevisesChanges label) trace := by
  have holds
      : PublicationInvariant (publicationHistory trace) state
        ∧ Guarded (fun before label => (publicationHistory before).RevisesChanges label)
            trace := by
    refine
      reached.invariant
        (fun trace state =>
          PublicationInvariant (publicationHistory trace) state
          ∧ Guarded (fun before label => (publicationHistory before).RevisesChanges label) trace)
        ?_ ?_
    · rintro _ ⟨clock, leaseUntil, rfl⟩
      refine ⟨⟨⟨[], .start ⟨clock, leaseUntil, rfl⟩⟩, ⟨rfl, rfl, ?_, ?_⟩, rfl, ?_⟩, .nil _⟩
      · intro entry member
        obtain rfl := List.mem_singleton.1 member
        exact ⟨Nat.le_refl _, rfl, fun _ => rfl⟩
      · intro first one second other _
        rw [List.mem_singleton.1 one, List.mem_singleton.1 other]
      · exact ⟨Nat.le_refl _, rfl, fun busy => absurd rfl busy, nofun, nofun, nofun⟩
    · rintro trace state choice after emitted ⟨invariant, guarded⟩ taken
      obtain ⟨⟨next, event⟩, step, same⟩ := Option.map_eq_some_iff.1 taken
      obtain ⟨rfl, rfl⟩ := Prod.ext_iff.1 same
      obtain ⟨revises, kept⟩ := invariant.step step
      refine ⟨?_, guarded.snoc revises⟩
      rw [publicationHistory, List.foldl_append]
      exact kept
  exact ⟨holds.1.sees, holds.2⟩

/-- A host that is found in a search is polled once, and its event is stale behind the stop, also when
the search is started again.
-/
theorem found_host_is_published
    : ∃ trace state,
        (publicationHistory trace).revisions = 4
        ∧ state.service.snapshot.hosts.map (·.internal.text) = [.ofLiteral "10.0.0.2"]
        ∧ (publicationHistory trace).retired = [1]
        ∧ state.service.generation = 2
        ∧ SeesPublications (publicationHistory trace) state
        ∧ Guarded (fun before label => (publicationHistory before).RevisesChanges label) trace := by
  have reached
      := publicationMachine.reaches_run ⟨0, 0, rfl⟩
        [.start true, .search .worker, .search .worker, .search .worker, .search .worker,
          .search (.query true), .search .worker, .search .worker,
          .search (.observe (.copy 256 (.ofLiteral "den")) (.copy 16 (.ofLiteral "10.0.0.2")) 47989),
          .poll, .poll, .stop, .start true]
        rfl
  exact ⟨_, _, rfl, rfl, rfl, rfl, discovery_publications_seen reached⟩

end VitaMoonlight
