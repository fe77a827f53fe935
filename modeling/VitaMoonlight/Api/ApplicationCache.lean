import VitaMoonlight.Api.HostControl
import VitaMoonlight.GameStream.Response

/-! The list of applications that `moonlight_api_get_applications` keeps (`moonlight/api.cpp`). One
of its calls fills the list from the server's answer, others only read it, and a new connection, a
disconnect and the shutdown give it up.
-/

namespace VitaMoonlight

open Library

-----------------------------------------------------------------------------------------
-- The cache
-----------------------------------------------------------------------------------------

/-- `MOONLIGHT_MAX_APPLICATIONS`. -/
def maxApplications : Nat := 64

/-- `s_applications`, `s_application_count` and `s_applications_valid`. -/
structure ApplicationCache where
  applications : List MoonlightApplication := List.replicate maxApplications {}
  count : Nat := 0
  valid : Bool := false

namespace ApplicationCache

/-- `invalidate_applications`. -/
def invalidate (cache : ApplicationCache) : ApplicationCache :=
  { cache with valid := false, count := 0 }

/-- A read into an array of some capacity; `none` stands for -1. -/
def read (cache : ApplicationCache) (capacity : Nat) : Option (List MoonlightApplication) :=
  if cache.valid then some (cache.applications.take (min cache.count capacity)) else none

/-- The parser writes its output straight into the cache. -/
def store (cache : ApplicationCache) (output : ApplicationsOutput) : ApplicationCache :=
  { cache with
    applications := output.apps ++ cache.applications.drop output.apps.length
    count := output.count }

end ApplicationCache

/-- The flags of the API and the cache. -/
structure ApiState where
  control : ControlState := {}
  cache : ApplicationCache := {}

/-- The body of the server's answer as the parser meets it. -/
structure ListAnswer where
  document : XmlDocument
  fault : Option ParserFault
deriving DecidableEq

/-- The list in an answer. -/
def ListAnswer.output (answer : ListAnswer) : ApplicationsOutput :=
  parseApplications answer.document answer.fault maxApplications

-----------------------------------------------------------------------------------------
-- Steps
-----------------------------------------------------------------------------------------

/-- A step of the API. An admitted call for applications reads the cache or begins a refresh, which
ends with the server's answer or without one.
-/
inductive ApiChoice
  | control (choice : ControlChoice)
  | read (capacity : Nat)
  | refresh
  | answer (answered : Option ListAnswer)

/-- What a run shows: what the flags show, reads, refreshes and how they end, connections that go as
far as to tear down the session before, disconnects that find a current host, and shutdowns.
-/
inductive ApiLabel
  | control (label : ControlLabel)
  | read (capacity : Nat) (result : Option (List MoonlightApplication))
  | refreshRefused
  | refreshStarted
  | refreshFailed
  | refreshed (answer : ListAnswer)
  | tornDown
  | disconnectRequested
  | shutDown
deriving DecidableEq

/-- A connection passes its checks. -/
def ControlState.connects (state : ControlState) (outcome : RequestOutcome) : Bool :=
  outcome.succeeds && !state.disconnectPending && !state.workerRunning && !state.streamRunning

/-- The step of the flags gives up the cache. -/
def ControlState.invalidates (state : ControlState) : ControlChoice → Bool
  | .request outcome =>
      match state.holder with
      | some (.request (.connectHost _) .entered) => state.connects outcome
      | some (.request .disconnectHost .entered) =>
          state.hasCurrentHost && !state.disconnectPending
      | _ => false
  | .shutdown => state.holder == some (.shutdown .waiting) && !state.streamRunning
  | _ => false

/-- What a step of the flags means for the cache. -/
def ControlState.shown (state : ControlState) : ControlChoice → List ApiLabel
  | .request outcome =>
      match state.holder with
      | some (.request (.connectHost _) .entered) =>
          if state.connects outcome then [.tornDown] else []
      | some (.request .disconnectHost .entered) =>
          if state.hasCurrentHost then [.disconnectRequested] else []
      | _ => []
  | .shutdown =>
      if state.holder = some (.shutdown .waiting) ∧ ¬ state.streamRunning then [.shutDown] else []
  | _ => []

/-- A step that belongs to a call for applications. -/
def ControlState.lists (state : ControlState) : ControlChoice → Bool
  | .request _ =>
      state.holder == some (.request .getApplications .entered)
        || state.holder == some (.request .getApplications .working)
  | _ => false

namespace ApiState

/-- The flags take a step, and the cache becomes another. -/
def move (state : ApiState) (choice : ControlChoice) (cache : ApplicationCache)
    (labels : List ApiLabel) : Option (ApiState × List ApiLabel) :=
  (controlStep state.control choice).map fun step =>
    ({ control := step.1, cache }, step.2.map .control ++ labels)

/-- The end of a refresh in `moonlight_api_get_applications`. -/
def finish (state : ApiState) (answered : Option ListAnswer) : ApplicationCache × ApiLabel :=
  match answered with
  | none => (state.cache.invalidate, .refreshFailed)
  | some answer =>
      let stored := state.cache.store answer.output
      if answer.output.result = .ok () ∧ state.control.disconnectPending = false
          ∧ state.control.connectionState = .paired then
        ({ stored with valid := true }, .refreshed answer)
      else (stored.invalidate, .refreshFailed)

end ApiState

/-- One step of the machine. -/
def apiStep (state : ApiState) : ApiChoice → Option (ApiState × List ApiLabel)
  | .control choice =>
      if state.control.lists choice then none
      else
        state.move choice
          (if state.control.invalidates choice then state.cache.invalidate else state.cache)
          (state.control.shown choice)
  | .read capacity =>
      if state.control.holder = some (.request .getApplications .entered) ∧ 0 < capacity then
        state.move (.request { succeeds := false, paired := false }) state.cache
          [.read capacity (state.cache.read capacity)]
      else none
  | .refresh =>
      if state.control.holder = some (.request .getApplications .entered) then
        if (state.control.enter { succeeds := true, paired := false } .getApplications).1.holder
            = some (.request .getApplications .working) then
          state.move (.request { succeeds := true, paired := false }) state.cache.invalidate
            [.refreshStarted]
        else
          state.move (.request { succeeds := true, paired := false }) state.cache [.refreshRefused]
      else none
  | .answer answered =>
      if state.control.holder = some (.request .getApplications .working) then
        state.move (.request { succeeds := true, paired := false }) (state.finish answered).1
          [(state.finish answered).2]
      else none

/-- The machine of the API with its cache, from the state of a fresh process. -/
def apiMachine : Machine ApiState ApiChoice ApiLabel where
  initial state := state = {}
  step := apiStep

/-- The labels of the flags. -/
def ApiLabel.ofControl : ApiLabel → Option ControlLabel
  | .control label => some label
  | _ => none

theorem move_control {state after : ApiState} {choice : ControlChoice} {cache : ApplicationCache}
    {labels emitted : List ApiLabel} (own : labels.filterMap ApiLabel.ofControl = [])
    (taken : state.move choice cache labels = some (after, emitted))
    : controlStep state.control choice
      = some (after.control, emitted.filterMap ApiLabel.ofControl) := by
  obtain ⟨⟨control, flags⟩, stepped, same⟩ := Option.map_eq_some_iff.1 taken
  obtain ⟨rfl, rfl⟩ := Prod.mk.inj same
  have back : (flags.map ApiLabel.control).filterMap ApiLabel.ofControl = flags := by
    rw [List.filterMap_map]
    exact List.filterMap_some
  rw [List.filterMap_append, own, back, List.append_nil]
  exact stepped

theorem filterMap_shown (state : ControlState) (choice : ControlChoice)
    : (state.shown choice).filterMap ApiLabel.ofControl = [] := by
  unfold ControlState.shown
  repeat' split
  all_goals rfl

/-- The flags of a run with the cache are those of a run without it, by induction on the run. -/
theorem reaches_control {trace : List ApiLabel} {state : ApiState}
    (reached : apiMachine.Reaches trace state)
    : controlMachine.Reaches (trace.filterMap ApiLabel.ofControl) state.control := by
  induction reached with
  | start initial =>
      obtain rfl := initial
      exact .start rfl
  | @next _ state choice after emitted _ taken ih =>
      have stepped
          : ∃ flags,
              controlStep state.control flags
              = some (after.control, emitted.filterMap ApiLabel.ofControl) := by
        change apiStep state choice = _ at taken
        cases choice with
        | control choice =>
            simp only [apiStep] at taken
            split at taken
            · contradiction
            · exact ⟨_, move_control (filterMap_shown _ _) taken⟩
        | read capacity =>
            simp only [apiStep] at taken
            split at taken
            · exact ⟨_, move_control rfl taken⟩
            · contradiction
        | refresh =>
            simp only [apiStep] at taken
            repeat' split at taken
            · exact ⟨_, move_control rfl taken⟩
            · exact ⟨_, move_control rfl taken⟩
            · contradiction
        | answer answered =>
            simp only [apiStep] at taken
            split at taken
            · refine ⟨_, move_control ?_ taken⟩
              unfold ApiState.finish
              repeat' split
              all_goals rfl
            · contradiction
      obtain ⟨flags, step⟩ := stepped
      rw [List.filterMap_append]
      exact ih.next step

-----------------------------------------------------------------------------------------
-- What the flags do
-----------------------------------------------------------------------------------------

/-- A disconnect that found a current host is under way. -/
def RequestPoint.closes : RequestPoint → Bool
  | .stopped | .scheduling | .scheduled | .notScheduled => true
  | _ => false

/-- A disconnect is pending or under way. -/
def ControlState.Closing (state : ControlState) : Prop :=
  state.disconnectPending = true
  ∨ ∃ request point, state.holder = some (.request request point) ∧ point.closes = true

theorem streamStep_keeps_holder {state after : ControlState} {choice : StreamChoice}
    {labels : List ControlLabel} (taken : state.streamStep choice = some (after, labels))
    : after.holder = state.holder ∧ after.disconnectPending = state.disconnectPending := by
  unfold ControlState.streamStep at taken
  split at taken
  · contradiction
  · obtain ⟨rfl, -⟩ := Prod.mk.inj (Option.some.inj taken)
    exact ⟨rfl, rfl⟩

theorem sessionStep_keeps_holder {state after : ControlState} {choice : StreamChoice}
    {labels : List ControlLabel} (taken : state.sessionStep choice = some (after, labels))
    : after.holder = state.holder ∧ after.disconnectPending = state.disconnectPending := by
  have told (state : ControlState) (event : StreamEvent)
      : (state.onStreamEvent event).holder = state.holder
        ∧ (state.onStreamEvent event).disconnectPending = state.disconnectPending := by
    cases event <;> exact ⟨rfl, rfl⟩
  unfold ControlState.sessionStep at taken
  dsimp only at taken
  repeat' split at taken
  all_goals first | contradiction | obtain ⟨rfl, -⟩ := Prod.mk.inj (Option.some.inj taken)
  all_goals first | exact ⟨rfl, rfl⟩ | exact told _ _

/-- Nothing but pending disconnects counts outside the requests that disconnect. -/
theorem ControlState.Closing.pending {state : ControlState} (closing : state.Closing)
    (elsewhere
      : ∀ request point, state.holder = some (.request request point) → point.closes = false)
    : state.disconnectPending = true := by
  obtain pending | ⟨request, point, holder, closes⟩ := closing
  · exact pending
  · exact absurd ((elsewhere request point holder).symm.trans closes) Bool.false_ne_true

/-- A request that was just admitted begins to close only what it gives up. -/
theorem enter_closing {state : ControlState} {request : HostRequest} {outcome : RequestOutcome}
    (holder : state.holder = some (.request request .entered))
    (closing : (state.enter outcome request).1.Closing)
    : state.Closing ∨ state.invalidates (.request outcome) = true := by
  cases request with
  | disconnectHost =>
      unfold ControlState.enter at closing
      dsimp only at closing
      split at closing
      · refine .inl (.inl (closing.pending fun request point same => ?_))
        obtain ⟨rfl, rfl⟩ := by simpa [ControlState.moveTo] using same
        rfl
      · rename_i found
        refine .inr ?_
        simp only [ControlState.invalidates, holder]
        simpa using found
  | connectHost | preparePairing | pairCurrentHost | getApplications | startApplication
  | stopApplication =>
      unfold ControlState.enter at closing
      dsimp only at closing
      refine .inl (.inl ?_)
      split at closing
      all_goals
        refine closing.pending fun request point same => ?_
        obtain ⟨rfl, rfl⟩ := by simpa [ControlState.moveTo] using same
        rfl

/-- A step that leaves the holder and the pending disconnect alone closes nothing new. -/
theorem ControlState.Closing.of_same {state after : ControlState} (closing : after.Closing)
    (holder : after.holder = state.holder)
    (pending : after.disconnectPending = state.disconnectPending)
    : state.Closing := by
  obtain due | ⟨request, point, held, closes⟩ := closing
  · exact .inl (pending.symm.trans due)
  · exact .inr ⟨request, point, holder.symm.trans held, closes⟩

/-- A step that leaves the requests that disconnect closes only what is pending. -/
theorem ControlState.Closing.of_left {state after : ControlState} (closing : after.Closing)
    (elsewhere
      : ∀ request point, after.holder = some (.request request point) → point.closes = false)
    (pending : after.disconnectPending = state.disconnectPending)
    : state.Closing :=
  .inl (pending.symm.trans (closing.pending elsewhere))

/-- A step beside the requests: it waits, or leaves no request that holds the mutex and no new pending
disconnect.
-/
def ControlState.Aside (state after : ControlState) : Prop :=
  after.holder = state.holder ∧ after.disconnectPending = state.disconnectPending
  ∨ (∀ request point, after.holder ≠ some (.request request point))
    ∧ (after.disconnectPending = true → state.disconnectPending = true)

theorem ControlState.Closing.of_aside {state after : ControlState} (closing : after.Closing)
    (aside : state.Aside after)
    : state.Closing := by
  obtain ⟨holder, pending⟩ | ⟨free, pending⟩ := aside
  · exact closing.of_same holder pending
  · exact .inl (pending (closing.pending fun request point held => absurd held (free request point)))

theorem workerStep_aside {state after : ControlState} {labels : List ControlLabel}
    (taken : state.workerStep = some (after, labels))
    : state.Aside after := by
  unfold ControlState.workerStep at taken
  repeat' split at taken
  all_goals first | contradiction | obtain ⟨rfl, -⟩ := Prod.mk.inj (Option.some.inj taken)
  all_goals first | exact .inl ⟨rfl, rfl⟩ | exact .inr ⟨by simp, by simp⟩

theorem shutdownStep_aside {state after : ControlState} {labels : List ControlLabel}
    (taken : state.shutdownStep = some (after, labels))
    : state.Aside after := by
  unfold ControlState.shutdownStep at taken
  dsimp only at taken
  repeat' split at taken
  all_goals first | contradiction | obtain ⟨rfl, -⟩ := Prod.ext_iff.1 (Option.some.inj taken)
  all_goals first | exact .inl ⟨rfl, rfl⟩ | exact .inr ⟨by simp [ControlState.streamStop], by
    simp [ControlState.streamStop]⟩

/-- A step of an admitted request begins to close only what it gives up. -/
theorem requestStep_closing {state after : ControlState} {request : HostRequest}
    {outcome : RequestOutcome} {point : RequestPoint} {labels : List ControlLabel}
    (holder : state.holder = some (.request request point))
    (taken : state.requestStep request outcome point = some (after, labels))
    (closing : after.Closing)
    : state.Closing ∨ state.invalidates (.request outcome) = true := by
  have moved {inner : ControlState} {target : RequestPoint}
      (closes : target.closes = false)
      : ∀ other place,
          (inner.moveTo request target).holder = some (.request other place)
          → place.closes = false := by
    intro other place same
    obtain ⟨rfl, rfl⟩ := by simpa [ControlState.moveTo] using same
    exact closes
  cases point with
  | entered =>
      obtain ⟨rfl, -⟩ := Prod.ext_iff.1 (Option.some.inj taken)
      exact enter_closing holder closing
  | stopped | scheduling | scheduled | notScheduled => exact .inl (.inr ⟨request, _, holder, rfl⟩)
  | working =>
      obtain ⟨rfl, -⟩ := Prod.mk.inj (Option.some.inj taken)
      refine .inl (closing.of_left (moved rfl) ?_)
      unfold ControlState.finishWork
      repeat' split
      all_goals rfl
  | starting =>
      simp only [ControlState.requestStep] at taken
      split at taken
      · obtain ⟨rfl, -⟩ := Prod.mk.inj (Option.some.inj taken)
        exact .inl (closing.of_left (moved rfl) rfl)
      · obtain ⟨held, pending⟩ := streamStep_keeps_holder taken
        refine .inl (closing.of_left (fun other place same => ?_) pending)
        exact moved (rfl : RequestPoint.creating.closes = false) other place (held.symm.trans same)
  | creating =>
      obtain ⟨held, pending⟩ := streamStep_keeps_holder taken
      refine .inl (closing.of_left (fun other place same => ?_) pending)
      refine moved ?_ other place (held.symm.trans same)
      split <;> rfl
  | startFailed =>
      obtain ⟨rfl, -⟩ := Prod.mk.inj (Option.some.inj taken)
      exact .inl (closing.of_left (moved rfl) rfl)
  | leaving =>
      obtain ⟨rfl, -⟩ := Prod.mk.inj (Option.some.inj taken)
      exact .inl (closing.of_left (fun _ _ free => by contradiction) rfl)

/-- A step begins to close only what it gives up: a disconnect is not pending before it has found a
current host.
-/
theorem controlStep_closing {state after : ControlState} {choice : ControlChoice}
    {labels : List ControlLabel} (taken : controlStep state choice = some (after, labels))
    (closing : after.Closing)
    : state.Closing ∨ state.invalidates choice = true := by
  cases choice with
  | call request =>
      obtain ⟨rfl, -⟩ := Prod.ext_iff.1 (Option.some.inj taken)
      refine .inl ?_
      unfold ControlState.call at closing
      split at closing
      · exact closing
      · split at closing
        · exact closing
        · refine closing.of_left (fun request point same => ?_) rfl
          obtain ⟨rfl, rfl⟩ := by simpa [ControlState.moveTo] using same
          rfl
  | request outcome =>
      simp only [controlStep] at taken
      split at taken
      · rename_i request point holder
        exact requestStep_closing holder taken closing
      · contradiction
  | worker => exact .inl (closing.of_aside (workerStep_aside taken))
  | shutdown => exact .inl (closing.of_aside (shutdownStep_aside taken))
  | session choice =>
      obtain ⟨holder, pending⟩ := sessionStep_keeps_holder taken
      exact .inl (closing.of_same holder pending)
  | handler =>
      simp only [controlStep] at taken
      split at taken
      · rename_i event _
        obtain ⟨rfl, -⟩ := Prod.mk.inj (Option.some.inj taken)
        refine .inl (closing.of_same ?_ ?_) <;> cases event <;> rfl
      · contradiction

-----------------------------------------------------------------------------------------
-- What a read may return
-----------------------------------------------------------------------------------------

/-- The list that a read may return after one more label. -/
def ApiLabel.current (past : Option (List MoonlightApplication))
    : ApiLabel → Option (List MoonlightApplication)
  | .refreshed answer => some answer.output.apps
  | .refreshStarted | .refreshFailed | .tornDown | .disconnectRequested | .shutDown => none
  | .control _ | .read _ _ | .refreshRefused => past

/-- The list of the last refresh that started, as long as it succeeded and no connection has torn
down its session, no disconnect has found its host and no shutdown has come since.
-/
def currentList (trace : List ApiLabel) : Option (List MoonlightApplication) :=
  trace.foldl ApiLabel.current none

/-- A read returns as much of the current list as fits and as there is, in order; it fails when
there is none.
-/
def ApiLabel.ReadsFrom (past : Option (List MoonlightApplication)) : ApiLabel → Prop
  | .read capacity result => result = past.map fun apps => apps.take (min capacity apps.length)
  | _ => True

/-- Every read returns what is current. -/
def ReadsCurrent (before : List ApiLabel) (label : ApiLabel) : Prop :=
  label.ReadsFrom (currentList before)

/-- The cache holds the current list. -/
def ApplicationCache.Holds (cache : ApplicationCache) : Option (List MoonlightApplication) → Prop
  | some apps =>
      cache.valid = true ∧ cache.count = apps.length ∧ cache.applications.take apps.length = apps
  | none => cache.valid = false

theorem ApplicationCache.Holds.read {cache : ApplicationCache}
    {current : Option (List MoonlightApplication)} (holds : cache.Holds current) (capacity : Nat)
    : cache.read capacity = current.map fun apps => apps.take (min capacity apps.length) := by
  cases current with
  | none =>
      have invalid : ¬ cache.valid = true := Bool.eq_false_iff.1 holds
      exact if_neg invalid
  | some apps =>
      obtain ⟨valid, count, stored⟩ := holds
      rw [ApplicationCache.read, if_pos valid, Option.map_some, count]
      refine congrArg some ?_
      calc
        cache.applications.take (min apps.length capacity)
          = (cache.applications.take apps.length).take (min capacity apps.length) := by
            rw [List.take_take, Nat.min_assoc, Nat.min_self, Nat.min_comm]
        _ = apps.take (min capacity apps.length) := by rw [stored]

/-- An accepted list is counted. -/
theorem ListAnswer.count_eq {answer : ListAnswer} (accepted : answer.output.result = .ok ())
    : answer.output.count = answer.output.apps.length := by
  unfold ListAnswer.output parseApplications at *
  dsimp only at *
  rw [accepted]

/-- The cache and the flags agree with what the run has shown. -/
structure CacheInvariant (state : ApiState) (current : Option (List MoonlightApplication)) : Prop where
  holds : state.cache.Holds current
  closing : state.control.Closing → state.cache.valid = false

/-- The labels of the flags say nothing about the list. -/
theorem control_labels (flags : List ControlLabel) (past : Option (List MoonlightApplication))
    : AllPermitted ApiLabel.current ApiLabel.ReadsFrom past (flags.map .control)
      ∧ (flags.map .control).foldl ApiLabel.current past = past := by
  induction flags with
  | nil => exact ⟨trivial, rfl⟩
  | cons label rest ih => exact ⟨⟨trivial, ih.1⟩, ih.2⟩

variable {state after : ApiState} {current : Option (List MoonlightApplication)}

/-- A step of the flags together with what it does to the cache and shows of it. -/
theorem CacheInvariant.move {choice : ControlChoice} {cache : ApplicationCache}
    {labels emitted : List ApiLabel}
    (taken : state.move choice cache labels = some (after, emitted))
    (permitted : AllPermitted ApiLabel.current ApiLabel.ReadsFrom current labels)
    (holds : cache.Holds (labels.foldl ApiLabel.current current))
    (closing
      : state.control.Closing ∨ state.control.invalidates choice = true → cache.valid = false)
    : AllPermitted ApiLabel.current ApiLabel.ReadsFrom current emitted
      ∧ CacheInvariant after (emitted.foldl ApiLabel.current current) := by
  obtain ⟨⟨control, flags⟩, stepped, same⟩ := Option.map_eq_some_iff.1 taken
  obtain ⟨rfl, rfl⟩ := Prod.mk.inj same
  obtain ⟨silent, unchanged⟩ := control_labels flags current
  rw [List.foldl_append, unchanged]
  refine ⟨silent.append ?_, holds, fun closes => closing (controlStep_closing stepped closes)⟩
  rwa [unchanged]

/-- A step of the flags either leaves the list alone or ends it, and gives up the cache unless a
disconnect is pending already.
-/
theorem shown_cases (state : ControlState) (choice : ControlChoice)
    : state.shown choice = [] ∧ state.invalidates choice = false
      ∨ ∃ label,
          state.shown choice = [label]
          ∧ (∀ past, label.current past = none ∧ label.ReadsFrom past)
          ∧ (state.invalidates choice = true ∨ state.disconnectPending = true) := by
  cases choice with
  | request outcome =>
      simp only [ControlState.shown, ControlState.invalidates]
      split
      · cases state.connects outcome with
        | true => exact .inr ⟨.tornDown, rfl, fun _ => ⟨rfl, trivial⟩, .inl rfl⟩
        | false => exact .inl ⟨rfl, rfl⟩
      · cases state.hasCurrentHost with
        | true =>
            refine .inr ⟨.disconnectRequested, rfl, fun _ => ⟨rfl, trivial⟩, ?_⟩
            cases state.disconnectPending <;> simp
        | false => exact .inl ⟨rfl, rfl⟩
      · exact .inl ⟨rfl, rfl⟩
  | shutdown =>
      simp only [ControlState.shown, ControlState.invalidates]
      by_cases ended : state.holder = some (.shutdown .waiting) ∧ ¬ state.streamRunning = true
      · refine .inr ⟨.shutDown, if_pos ended, fun _ => ⟨rfl, trivial⟩, .inl ?_⟩
        simp [ended.1, ended.2]
      · refine .inl ⟨if_neg ended, ?_⟩
        simpa using ended
  | call | worker | session | handler => exact .inl ⟨rfl, rfl⟩

/-- A call for applications gives up the cache only by itself. -/
theorem listing_keeps {state : ControlState} {point : RequestPoint}
    (holder : state.holder = some (.request .getApplications point)) (outcome : RequestOutcome)
    : state.invalidates (.request outcome) = false := by
  simp only [ControlState.invalidates, holder]

/-- A step that gives up nothing needs an invalid cache only where one is given up already. -/
theorem CacheInvariant.closes (invariant : CacheInvariant state current) {choice : ControlChoice}
    (keeps : state.control.invalidates choice = false)
    : state.control.Closing ∨ state.control.invalidates choice = true
      → state.cache.valid = false := by
  intro closes
  obtain closing | gone := closes
  · exact invariant.closing closing
  · exact absurd (keeps.symm.trans gone) Bool.false_ne_true

/-- A refresh ends with the list of its answer, or gives up the cache. -/
theorem finish_cases (state : ApiState) (answered : Option ListAnswer)
    : (∃ answer,
        (state.finish answered).2 = .refreshed answer
        ∧ (state.finish answered).1.Holds (some answer.output.apps)
        ∧ state.control.disconnectPending = false)
      ∨ (state.finish answered).2 = .refreshFailed
        ∧ (state.finish answered).1.valid = false := by
  cases answered with
  | none => exact .inr ⟨rfl, rfl⟩
  | some answer =>
      unfold ApiState.finish
      dsimp only
      split
      · rename_i accepted
        refine .inl ⟨answer, rfl, ⟨rfl, ListAnswer.count_eq accepted.1, ?_⟩, accepted.2.1⟩
        exact List.take_left
      · exact .inr ⟨rfl, rfl⟩

/-- Every step reads what is current and keeps the cache up to date. -/
theorem CacheInvariant.step (invariant : CacheInvariant state current) {choice : ApiChoice}
    {emitted : List ApiLabel} (taken : apiStep state choice = some (after, emitted))
    : AllPermitted ApiLabel.current ApiLabel.ReadsFrom current emitted
      ∧ CacheInvariant after (emitted.foldl ApiLabel.current current) := by
  have holds := invariant.holds
  cases choice with
  | control choice =>
      simp only [apiStep] at taken
      split at taken
      · contradiction
      · obtain ⟨nothing, keeps⟩ | ⟨label, shows, ends, gone⟩ := shown_cases state.control choice
        · rw [nothing, keeps, if_neg Bool.false_ne_true] at taken
          exact CacheInvariant.move taken trivial holds (invariant.closes keeps)
        · have invalid
              : (if state.control.invalidates choice then state.cache.invalidate
                else state.cache).valid = false := by
            split
            · rfl
            · rename_i kept
              exact invariant.closing (.inl (gone.resolve_left kept))
          rw [shows] at taken
          refine CacheInvariant.move taken ⟨(ends _).2, trivial⟩ ?_ fun _ => invalid
          rw [List.foldl_cons, (ends _).1]
          exact invalid
  | read capacity =>
      simp only [apiStep] at taken
      split at taken
      · rename_i admitted
        exact CacheInvariant.move taken ⟨holds.read capacity, trivial⟩ holds
          (invariant.closes (listing_keeps admitted.1 _))
      · contradiction
  | refresh =>
      simp only [apiStep] at taken
      split at taken
      · rename_i admitted
        split at taken
        · exact CacheInvariant.move taken ⟨trivial, trivial⟩ rfl fun _ => rfl
        · exact CacheInvariant.move taken ⟨trivial, trivial⟩ holds
            (invariant.closes (listing_keeps admitted _))
      · contradiction
  | answer answered =>
      simp only [apiStep] at taken
      split at taken
      · rename_i working
        obtain ⟨answer, shows, stored, clear⟩ | ⟨failed, invalid⟩ := finish_cases state answered
        · rw [shows] at taken
          refine CacheInvariant.move taken ⟨trivial, trivial⟩ stored fun closes => ?_
          obtain closes | gone := closes
          · refine absurd (closes.pending fun request point held => ?_) (Bool.eq_false_iff.1 clear)
            obtain ⟨rfl, rfl⟩ := by simpa [working] using held
            rfl
          · exact absurd ((listing_keeps working _).symm.trans gone) Bool.false_ne_true
        · rw [failed] at taken
          exact CacheInvariant.move taken ⟨trivial, trivial⟩ invalid fun _ => invalid
      · contradiction

-----------------------------------------------------------------------------------------
-- Runs
-----------------------------------------------------------------------------------------

/-- What a run has shown is current in the cache, and all its reads were, by induction on the run. -/
theorem cacheInvariant_of_reaches {trace : List ApiLabel} {state : ApiState}
    (reached : apiMachine.Reaches trace state)
    : Guarded ReadsCurrent trace ∧ CacheInvariant state (currentList trace) := by
  induction reached with
  | start initial =>
      obtain rfl := initial
      refine ⟨.nil _, rfl, fun closes => ?_⟩
      rfl
  | next _ taken ih =>
      obtain ⟨reads, invariant⟩ := ih
      obtain ⟨permitted, after⟩ := invariant.step taken
      refine ⟨reads.append permitted.allowedAfter, ?_⟩
      rw [currentList, List.foldl_append]
      exact after

/-- In every run, a read of the kept list fails, or it returns the first applications of the last
refresh that started, as many as fit and as there are, in their order; that refresh succeeded, and
since then no connection has torn down the session, no disconnect has found a current host and no
shutdown has come.
-/
theorem reads_return_current_list {trace : List ApiLabel} {state : ApiState}
    (reached : apiMachine.Reaches trace state)
    : Guarded ReadsCurrent trace :=
  (cacheInvariant_of_reaches reached).1

/-- An answer that lists application 1 without a title. -/
def oneApplication : ListAnswer where
  document :=
    { events :=
        [.startElement (.ofLiteral "root") [(.ofLiteral "status_code", .ofLiteral "200")],
          .startElement (.ofLiteral "App") [], .startElement (.ofLiteral "ID") [],
          .characterData [49], .endElement (.ofLiteral "ID"),
          .startElement (.ofLiteral "AppTitle") [], .endElement (.ofLiteral "AppTitle"),
          .endElement (.ofLiteral "App"), .endElement (.ofLiteral "root")]
      wellFormed := true }
  fault := none

/-- The next step of a request that meets no failure. -/
def goesOn : ApiChoice := .control (.request { succeeds := true, paired := true })

/-- A host is connected and its list refreshed. -/
def connectAndList : List ApiChoice :=
  [.control (.call (.connectHost 1)), goesOn, goesOn, goesOn, .control (.call .getApplications),
    .refresh, .answer (some oneApplication), goesOn]

/-- While one caller reads the list, others ask for a refresh and for a disconnect. -/
def readWhileRefused : List ApiChoice :=
  [.control (.call .getApplications), .control (.call .getApplications),
    .control (.call .disconnectHost), .read 1, goesOn, .control (.call .getApplications), .read 1]

/-- A stream is started, and a refresh is refused because of it. -/
def readWhileStreaming : List ApiChoice :=
  [.control (.call (.startApplication 1)), goesOn, goesOn, goesOn, goesOn,
    .control (.call .getApplications), .refresh, goesOn, .control (.call .getApplications), .read 1]

theorem connectAndList_reads
    : ∃ state trace,
        apiMachine.run {} (connectAndList ++ readWhileRefused) = some (state, trace)
        ∧ Guarded ReadsCurrent trace :=
  ⟨_, _, rfl,
    reads_return_current_list
      (apiMachine.reaches_run rfl (connectAndList ++ readWhileRefused) rfl)⟩

/-- The list that a read may return if a refresh or a disconnect counts although it was refused. -/
def ApiLabel.counted (past : Option (List MoonlightApplication))
    : ApiLabel → Option (List MoonlightApplication)
  | .refreshRefused | .control (.refused .getApplications) | .control (.refused .disconnectHost) =>
      none
  | label => label.current past

/-- A read fails or returns the list of a refresh after which nothing was even asked for. -/
def ReadsUnlessAsked (before : List ApiLabel) : ApiLabel → Prop
  | .read capacity result =>
      result = none
      ∨ result
        = (before.foldl ApiLabel.counted none).map fun apps => apps.take (min capacity apps.length)
  | _ => True

/-- What a host shows that is connected and lists one application. -/
def connectedAndListed : List ApiLabel :=
  [.control (.admitted (.connectHost 1) ⟨false, false, false, 0⟩), .tornDown,
    .control (.admitted .getApplications ⟨false, false, true, 1⟩), .refreshStarted,
    .refreshed oneApplication]

/-- Reads go on returning the list after a refresh and a disconnect of the host that were refused
because the mutex was taken, and after a refresh that was refused because of a stream.
-/
theorem refused_requests_keep_list
    : (∃ state before,
        apiMachine.Reaches
            (connectedAndListed ++ before ++ [.read 1 (some oneApplication.output.apps)]) state
        ∧ before.count (.control (.refused .getApplications)) = 1
        ∧ before.count (.control (.refused .disconnectHost)) = 1
        ∧ ¬ ReadsUnlessAsked (connectedAndListed ++ before)
              (.read 1 (some oneApplication.output.apps)))
      ∧ ∃ state before,
          apiMachine.Reaches
              (connectedAndListed ++ before ++ [.read 1 (some oneApplication.output.apps)]) state
          ∧ before.count .refreshRefused = 1
          ∧ ¬ ReadsUnlessAsked (connectedAndListed ++ before)
                (.read 1 (some oneApplication.output.apps)) := by
  have refused
      : apiMachine.Reaches
          (connectedAndListed
            ++ [.control (.admitted .getApplications ⟨false, false, true, 1⟩),
              .control (.refused .getApplications), .control (.refused .disconnectHost),
              .read 1 (some oneApplication.output.apps),
              .control (.admitted .getApplications ⟨false, false, true, 1⟩)]
            ++ [.read 1 (some oneApplication.output.apps)])
          _ :=
    apiMachine.reaches_run rfl (connectAndList ++ readWhileRefused) rfl
  have streaming
      : apiMachine.Reaches
          (connectedAndListed
            ++ [.control (.admitted (.startApplication 1) ⟨false, false, true, 1⟩),
              .control (.stream (.admitted 1)), .control (.stream (.created 1)),
              .control (.admitted .getApplications ⟨false, false, true, 1⟩), .refreshRefused,
              .control (.admitted .getApplications ⟨false, false, true, 1⟩)]
            ++ [.read 1 (some oneApplication.output.apps)])
          _ :=
    apiMachine.reaches_run rfl (connectAndList ++ readWhileStreaming) rfl
  refine ⟨⟨_, _, refused, rfl, rfl, ?_⟩, ⟨_, _, streaming, rfl, ?_⟩⟩
  · rintro (failed | read)
    · contradiction
    · contradiction
  · rintro (failed | read)
    · contradiction
    · contradiction

end VitaMoonlight
