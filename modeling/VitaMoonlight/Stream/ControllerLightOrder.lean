import VitaMoonlight.Library.KeptCalls
import VitaMoonlight.Stream.ControllerLight

/-! What the lamps of the stream page show over whole runs: the last colour that the host gave to the
session that the page was opened for, as long as that session is up.
-/

namespace VitaMoonlight

open Library

-----------------------------------------------------------------------------------------
-- What a run tells
-----------------------------------------------------------------------------------------

/-- The labels of the sessions so far, the last admitted session and whether it still runs, its mode
and the colour it was given, and the page that is open with the session it was opened for.
-/
structure LightHistory where
  stream : List StreamLabel := []
  session : Nat := 0
  running : Bool := false
  mode : ControllerLightMode := .off
  color : LightColor := {}
  page : Option (LampPlanes × Option Nat) := none

namespace LightHistory

/-- What the labels have shown of the last session. -/
def current (past : LightHistory) : SessionHistory := history past.session past.stream

/-- The session takes colours: it runs, and no stop and no termination has come. -/
def Hears (past : LightHistory) : Prop :=
  past.running = true ∧ past.current.stopped = false ∧ past.current.terminated = false

/-- The session runs and is up. -/
def IsUp (past : LightHistory) : Prop := past.running = true ∧ past.current.Up

instance (past : LightHistory) : Decidable past.Hears := inferInstanceAs (Decidable (_ ∧ _ ∧ _))

instance (past : LightHistory) : Decidable past.IsUp := inferInstanceAs (Decidable (_ ∧ _))

def observeStream (past : LightHistory) (label : StreamLabel) : LightHistory :=
  let past := { past with stream := past.stream ++ [label] }
  match label with
  | .admitted session => { past with session, running := true }
  | .notCreated _ | .exited _ => { past with running := false }
  | _ => past

def observe (past : LightHistory) : LightLabel → LightHistory
  | .stream label => past.observeStream label
  | .configured mode => { past with mode, color := {} }
  | .led controller color =>
      if controller = 0 ∧ past.Hears ∧ past.mode ≠ .off then { past with color } else past
  | .opened planes =>
      let owner := if past.IsUp ∧ past.mode ≠ .off then some past.session else none
      { past with page := some (planes, owner) }
  | .shown _ => past
  | .closed => { past with page := none }

/-- The last session has the page that was opened for an earlier one, or cannot be told from it by
its generation.
-/
def Owns (past : LightHistory) (owner : Option Nat) : Prop :=
  ∃ session, owner = some session ∧ past.session ≡ session [MOD 2 ^ 32 - 1]

/-- A page that shows its lamps shows the colour of the last session if that session is up and has the
page, and hides them otherwise.
-/
def Permits (past : LightHistory) : LightLabel → Prop
  | .shown lamps =>
      ∃ planes owner,
        past.page = some (planes, owner)
        ∧ (past.Owns owner ∧ past.IsUp → lamps = planes.lamps past.mode past.color)
        ∧ (¬ (past.Owns owner ∧ past.IsUp) → lamps = {})
  | _ => True

end LightHistory

-----------------------------------------------------------------------------------------
-- What is kept
-----------------------------------------------------------------------------------------

/-- What an open page holds, by the session it was opened for. -/
structure LampPageKept (session : Nat) (planes : LampPlanes) (owner : Option Nat) (page : LampPage)
    : Prop where
  same : page.planes = planes
  lamps : page.lamps = planes.lamps page.light.mode page.light.color
  unowned : owner = none → page.generation = 0 ∧ page.light = {}
  owned
    : ∀ number,
        owner = some number
        → page.generation = nextGeneration^[number] 0 ∧ 0 < number ∧ number ≤ session

namespace LampPageKept

variable {session : Nat} {planes : LampPlanes} {owner : Option Nat} {page : LampPage}

/-- Taking a light shows it. -/
theorem take (kept : LampPageKept session planes owner page) (owned : owner ≠ none)
    (light : ControllerLight)
    : LampPageKept session planes owner (page.take light)
      ∧ (page.take light).lamps = planes.lamps light.mode light.color := by
  rw [LampPage.take]
  split
  · rename_i same
    exact ⟨kept, same.1 ▸ same.2 ▸ kept.lamps⟩
  · have lamps : page.planes.lamps light.mode light.color = planes.lamps light.mode light.color := by
      rw [kept.same]
    exact ⟨{ kept with lamps := lamps, unowned := fun none => absurd none owned }, lamps⟩

/-- A page of its own session takes the light that it reads, any other one turns its lamps off. -/
theorem update (kept : LampPageKept session planes owner page) {light : ControllerLight}
    (generation : light.generation = nextGeneration^[session] 0)
    : LampPageKept session planes owner (page.update light)
      ∧ ((∃ number, owner = some number ∧ session ≡ number [MOD 2 ^ 32 - 1])
        → (page.update light).lamps = planes.lamps light.mode light.color)
      ∧ ((¬ ∃ number, owner = some number ∧ session ≡ number [MOD 2 ^ 32 - 1])
        → (page.update light).lamps = {}) := by
  cases owner with
  | none =>
      obtain ⟨zero, dark⟩ := kept.unowned rfl
      rw [LampPage.update, if_pos zero]
      refine ⟨kept, fun ⟨_, same, _⟩ => (by cases same), fun _ => ?_⟩
      rw [kept.lamps, dark]
      rfl
  | some number =>
      obtain ⟨owned, positive, earlier⟩ := kept.owned number rfl
      have nonzero : page.generation ≠ 0 := by
        rw [owned, ← Nat.succ_pred_eq_of_pos positive, Function.iterate_succ_apply']
        exact nextGeneration_ne_zero _
      have round : light.generation = page.generation ↔ session ≡ number [MOD 2 ^ 32 - 1] := by
        rw [generation, owned]
        exact generation_eq_iff positive earlier
      rw [LampPage.update, if_neg nonzero]
      by_cases same : session ≡ number [MOD 2 ^ 32 - 1]
      · rw [if_neg (not_not_intro (round.mpr same))]
        obtain ⟨taken, lamps⟩ := kept.take (Option.some_ne_none number) light
        exact ⟨taken, fun _ => lamps, fun none => absurd ⟨number, rfl, same⟩ none⟩
      · rw [if_pos (mt round.mp same)]
        obtain ⟨taken, lamps⟩ := kept.take (Option.some_ne_none number) {}
        refine ⟨taken, fun ⟨other, equal, still⟩ => ?_, fun _ => lamps⟩
        exact absurd (Option.some.inj equal ▸ still) same

end LampPageKept

/-- What the code holds is what the history tells. -/
structure LightKept (past : LightHistory) (state : LightState) : Prop where
  invariant : StreamInvariant past.stream state.stream
  up : UpKept past.stream state.stream
  session : past.session = state.stream.sessions
  running : past.running = state.stream.flags.threadRunning
  positive : past.running = true → 0 < past.session
  generation : state.light.generation = nextGeneration^[past.session] 0
  mode : past.mode = state.light.mode
  color : past.color = state.light.color
  page
    : match past.page, state.page with
      | none, none => True
      | some (planes, owner), some page => LampPageKept past.session planes owner page
      | _, _ => False

/-- A step that keeps it. -/
abbrev LightCallKept (past : LightHistory) (outcome : LightState × List LightLabel) : Prop :=
  CallKept LightHistory.observe LightHistory.Permits LightKept past outcome

namespace LightKept

variable {past : LightHistory} {state : LightState}

/-- The flags hear while the session takes colours. -/
theorem hears_iff (kept : LightKept past state)
    : state.stream.flags.hears = true ↔ past.Hears := by
  rw [LightHistory.Hears, LightHistory.current, kept.session, kept.running]
  cases running : state.stream.flags.threadRunning with
  | false => simp [StreamFlags.hears, running]
  | true =>
      rw [VitaMoonlight.hears_iff kept.up, and_iff_right rfl]
      cases kept.invariant.phase with
      | idle free => cases running.symm.trans free
      | launching alive => exact alive
      | owned _ alive => exact alive

theorem isUp_iff (kept : LightKept past state)
    : state.stream.flags.isUp = true ↔ past.IsUp := by
  rw [LightHistory.IsUp, LightHistory.current, kept.session, kept.running]
  exact VitaMoonlight.isUp_iff kept.invariant kept.up

/-- The light that is read: off, unless the session is up. -/
theorem read_eq (kept : LightKept past state)
    : state.light.read state.stream.flags
      = {
          generation := nextGeneration^[past.session] 0
          mode := if past.IsUp then past.mode else .off
          color := past.color
        } := by
  rw [ControllerLight.read, kept.mode, kept.color, ← kept.generation]
  by_cases up : past.IsUp
  · rw [if_pos (kept.isUp_iff.mpr up), if_pos up]
  · rw [if_neg (mt kept.isUp_iff.mp up), if_neg up]

-----------------------------------------------------------------------------------------
-- The main thread and the library
-----------------------------------------------------------------------------------------

theorem led (kept : LightKept past state) (controller : UInt16) (color : LightColor)
    : LightCallKept past
        ({ state with light := state.light.onControllerLed state.stream.flags controller color },
          [.led controller color]) := by
  refine .single trivial ?_
  rw [LightHistory.observe, ControllerLight.onControllerLed, kept.mode]
  have same
      : controller = 0 ∧ state.stream.flags.hears = true ∧ state.light.mode ≠ .off
        ↔ controller = 0 ∧ past.Hears ∧ state.light.mode ≠ .off := by
    rw [kept.hears_iff]
  by_cases taken : controller = 0 ∧ past.Hears ∧ state.light.mode ≠ .off
  · rw [if_pos taken, if_pos (same.mpr taken)]
    exact { kept with mode := rfl, color := rfl }
  · rw [if_neg taken, if_neg (mt same.mp taken)]
    exact kept

theorem openPage (kept : LightKept past state) (planes : LampPlanes)
    : LightCallKept past
        ({ state with page := some (.opened planes (state.light.read state.stream.flags)) },
          [.opened planes]) := by
  refine .single trivial ?_
  rw [kept.read_eq]
  refine { kept with page := ?_ }
  dsimp only [LightHistory.observe]
  by_cases lit : past.IsUp ∧ past.mode ≠ .off
  · rw [if_pos lit, if_pos lit.1]
    exact
      {
        same := rfl
        lamps := rfl
        unowned := fun none => (by cases none)
        owned := fun number same => by
          cases same
          exact ⟨if_pos lit.2, kept.positive lit.1.1, le_rfl⟩
      }
  · rw [if_neg lit]
    refine
      { same := rfl, lamps := rfl, unowned := fun _ => ⟨?_, rfl⟩, owned := fun _ same => by cases same }
    refine if_neg (not_not_intro ?_)
    split
    · rename_i up
      by_contra on
      exact lit ⟨up, on⟩
    · rfl

/-- An update shows what the history permits. -/
theorem update (kept : LightKept past state) {page : LampPage} (isOpen : state.page = some page)
    : LightCallKept past
        ({ state with page := some (page.update (state.light.read state.stream.flags)) },
          [.shown (page.update (state.light.read state.stream.flags)).lamps]) := by
  have held := kept.page
  rw [isOpen] at held
  cases opened : past.page with
  | none =>
      rw [opened] at held
      exact held.elim
  | some pair =>
      obtain ⟨planes, owner⟩ := pair
      rw [opened] at held
      have generation
          : (state.light.read state.stream.flags).generation = nextGeneration^[past.session] 0 := by
        rw [kept.read_eq]
      obtain ⟨after, own, other⟩ := held.update generation
      refine .single ⟨planes, owner, opened, fun ⟨owns, up⟩ => ?_, fun dark => ?_⟩ ?_
      · rw [own owns, kept.read_eq, if_pos up]
      · by_cases owns : past.Owns owner
        · rw [own owns, kept.read_eq, if_neg fun up => dark ⟨owns, up⟩]
          rw [LampPlanes.lamps, if_pos (Or.inl rfl)]
        · exact other owns
      · refine { kept with page := ?_ }
        dsimp only [LightHistory.observe]
        rw [opened]
        exact after

theorem closePage (kept : LightKept past state)
    : LightCallKept past ({ state with page := none }, [.closed]) :=
  .single trivial { kept with page := trivial }

-----------------------------------------------------------------------------------------
-- The session
-----------------------------------------------------------------------------------------

end LightKept

/-- The label ends the session for good. -/
def StreamLabel.closes : StreamLabel → Bool
  | .notCreated _ | .exited _ => true
  | _ => false

/-- Labels that admit no session, read as a whole, by induction on them. -/
theorem LightHistory.observe_stream {labels : List StreamLabel}
    (later : ∀ label ∈ labels, ∀ number, label ≠ .admitted number) (past : LightHistory)
    : (labels.map LightLabel.stream).foldl LightHistory.observe past
      = { past with
          stream := past.stream ++ labels
          running := past.running && !labels.any StreamLabel.closes } := by
  induction labels generalizing past with
  | nil => simp
  | cons label rest ih =>
      rw [List.forall_mem_cons] at later
      rw [List.map_cons, List.foldl_cons, ih later.2, List.any_cons]
      cases label with
      | admitted number => exact absurd rfl (later.1 number)
      | notCreated _ | exited _ =>
          dsimp only [LightHistory.observe, LightHistory.observeStream, StreamLabel.closes]
          rw [Bool.true_or, Bool.not_true, Bool.and_false, Bool.false_and, List.append_assoc,
            List.singleton_append]
      | created _ | libraryCalled _ | stageStarting _ | connectionStarted _ _
      | libraryReturned _ _ | settled _ | interrupt _ | libraryStop _ | event _ _ _
      | stop _ | terminated _ =>
          dsimp only [LightHistory.observe, LightHistory.observeStream, StreamLabel.closes]
          rw [Bool.false_or, List.append_assoc, List.singleton_append]

/-- A step of an owner that goes on leaves the flags to its session. -/
theorem ownerStep_later {session : Nat} {flags after : StreamFlags} {point next : OwnerPoint}
    {action : OwnerAction} {labels : List StreamLabel}
    (taken : ownerStep session flags point action = some (after, some next, labels))
    : after.threadRunning = flags.threadRunning ∧ labels.any StreamLabel.closes = false := by
  unfold ownerStep at taken
  split at taken
  case h_3 =>
    obtain ⟨rfl, rfl, rfl⟩ : _ ∧ _ ∧ _ := by simpa using taken
    rw [StreamFlags.publishCommonStartup, StreamFlags.interruptCommonStartupLocked]
    split <;> exact ⟨rfl, rfl⟩
  case h_6 callback | h_14 callback _ _ =>
    obtain ⟨rfl, rfl, rfl⟩ : _ ∧ _ ∧ _ := by simpa using taken
    cases callback <;> exact ⟨rfl, rfl⟩
  case h_1 | h_2 | h_7 | h_10 =>
    (repeat' split at taken) <;> first
      | contradiction
      | (simp only [Option.some.injEq, Prod.mk.injEq] at taken
         obtain ⟨rfl, -, rfl⟩ := taken
         exact ⟨rfl, rfl⟩)
  case h_4 | h_5 | h_8 | h_9 | h_11 | h_12 | h_13 =>
    simp only [Option.some.injEq, Prod.mk.injEq] at taken
    obtain ⟨rfl, -, rfl⟩ := taken
    exact ⟨rfl, rfl⟩
  case h_15 => simp at taken
  case h_16 => contradiction

/-- A step of a session other than a start admits none, and gives up the flags with its last label.
-/
theorem streamStep_later {trace labels : List StreamLabel} {state after : StreamState}
    {choice : StreamChoice} (invariant : StreamInvariant trace state) (later : choice ≠ .start)
    (taken : streamStep state choice = some (after, labels))
    : (∀ label ∈ labels, ∀ number, label ≠ .admitted number)
      ∧ after.sessions = state.sessions
      ∧ after.flags.threadRunning
        = (state.flags.threadRunning && !labels.any StreamLabel.closes) := by
  cases choice with
  | start => exact absurd rfl later
  | create index succeeds =>
      obtain ⟨alive, -, -, -, done⟩ := invariant.create_cases taken
      cases succeeds with
      | true =>
          obtain ⟨rfl, rfl⟩ := Prod.mk.inj done
          exact ⟨by simp, rfl, (Bool.and_true _).symm⟩
      | false =>
          obtain ⟨rfl, rfl⟩ := Prod.mk.inj done
          exact ⟨by simp, rfl, (Bool.and_false _).symm⟩
  | stop =>
      obtain ⟨rfl, rfl⟩ : _ ∧ _ := by simpa [streamStep] using taken
      refine ⟨?_, rfl, ?_⟩ <;>
        simp only [StreamFlags.stop, StreamFlags.interruptCommonStartupLocked] <;>
        split <;> [split; skip; split; skip] <;> simp [StreamLabel.closes]
  | terminated result =>
      obtain ⟨rfl, rfl⟩ : _ ∧ _ := by simpa [streamStep] using taken
      refine ⟨?_, rfl, ?_⟩
      · split <;> simp
      · simp only [StreamFlags.onConnectionTerminated]
        split <;> simp [StreamLabel.closes]
  | owner index action =>
      obtain ⟨point, flags, left, stepped, -, -, alive, consistent, rfl⟩ :=
        invariant.owner_cases taken
      cases left with
      | none =>
          obtain ⟨rfl, -, -, rfl⟩ := ownerStep_exits alive consistent stepped
          exact ⟨by simp, rfl, (Bool.and_false _).symm⟩
      | some next =>
          obtain ⟨running, opened⟩ := ownerStep_later stepped
          refine ⟨fun label member => ?_, rfl, ?_⟩
          · exact ((ownerStep_keeps alive consistent stepped).own label member).2
          · rw [opened, running]
            exact (Bool.and_true _).symm

namespace LightKept

variable {past : LightHistory} {state : LightState}

/-- A page stays the page of its session when another one is admitted. -/
theorem page_later (kept : LightKept past state) {session : Nat} (later : past.session ≤ session)
    : match past.page, state.page with
      | none, none => True
      | some (planes, owner), some page => LampPageKept session planes owner page
      | _, _ => False := by
  have held := kept.page
  revert held
  cases past.page <;> cases state.page
  · exact id
  · exact id
  · exact id
  · intro held
    refine { held with owned := fun number same => ?_ }
    obtain ⟨generation, positive, earlier⟩ := held.owned number same
    exact ⟨generation, positive, earlier.trans later⟩

/-- A session goes on. -/
theorem advance (kept : LightKept past state) {choice : StreamChoice} (later : choice ≠ .start)
    {outcome : LightState × List LightLabel} (taken : state.advance choice = some outcome)
    : LightCallKept past outcome := by
  obtain ⟨⟨after, labels⟩, stepped, rfl⟩ := Option.map_eq_some_iff.mp taken
  obtain ⟨quiet, sessions, running⟩ := streamStep_later kept.invariant later stepped
  constructor
  · exact .of_forall fun label member now => by
      obtain ⟨stream, -, rfl⟩ := List.mem_map.mp member
      trivial
  · dsimp only
    rw [LightHistory.observe_stream quiet]
    exact
      {
        kept with
        invariant := kept.invariant.step stepped
        up := kept.up.step kept.invariant stepped
        session := kept.session.trans sessions.symm
        running := by rw [running, kept.running]
        positive := fun still => kept.positive (Bool.and_eq_true_iff.mp still).1
      }

/-- A session is admitted, or refused while another one runs. -/
theorem start (kept : LightKept past state) (setting : Int) {outcome : LightState × List LightLabel}
    (taken : lightStep state (.start setting) = some outcome)
    : LightCallKept past outcome := by
  cases running : state.stream.flags.threadRunning with
  | true =>
      have refused : outcome = (state, []) := by
        simpa [lightStep, running, LightState.advance, streamStep, StreamFlags.start] using taken.symm
      exact refused ▸ .silent kept
  | false =>
      rw [lightStep, if_neg (by simp [running])] at taken
      obtain ⟨⟨advanced, labels⟩, moved, rfl⟩ := Option.map_eq_some_iff.mp taken
      obtain ⟨⟨after, own⟩, stepped, same⟩ := Option.map_eq_some_iff.mp moved
      obtain ⟨rfl, rfl⟩ := Prod.mk.inj same
      have invariant := kept.invariant.step stepped
      have up := kept.up.step kept.invariant stepped
      obtain ⟨rfl, rfl⟩ : _ ∧ _ := by
        simpa [streamStep, StreamFlags.start, running] using stepped
      refine .precede trivial (.single trivial ?_)
      exact
        {
          invariant := invariant
          up := up
          session := rfl
          running := rfl
          positive := fun _ => Nat.succ_pos _
          generation := by
            dsimp only [LightHistory.observe, LightHistory.observeStream, ControllerLight.start]
            rw [Function.iterate_succ_apply', kept.generation, kept.session]
          mode := rfl
          color := rfl
          page := kept.page_later (Nat.le_succ_of_le (Nat.le_of_eq kept.session))
        }

theorem step (kept : LightKept past state) {choice : LightChoice}
    {outcome : LightState × List LightLabel} (taken : lightStep state choice = some outcome)
    : LightCallKept past outcome := by
  cases choice with
  | start setting => exact kept.start setting taken
  | stream choice =>
      cases choice with
      | start => cases taken
      | create _ _ | stop | terminated _ | owner _ _ => exact kept.advance (by simp) taken
  | led controller color =>
      cases taken
      exact kept.led controller color
  | openPage planes =>
      cases opened : state.page with
      | some page => simp [lightStep, opened] at taken
      | none =>
          simp only [lightStep, opened, Option.some.injEq] at taken
          exact taken ▸ kept.openPage planes
  | update =>
      cases opened : state.page with
      | none => simp [lightStep, opened] at taken
      | some page =>
          simp only [lightStep, opened, Option.some.injEq] at taken
          exact taken ▸ kept.update opened
  | closePage =>
      cases opened : state.page with
      | none => simp [lightStep, opened] at taken
      | some page =>
          simp only [lightStep, opened, Option.some.injEq] at taken
          exact taken ▸ kept.closePage

end LightKept

-----------------------------------------------------------------------------------------
-- Runs
-----------------------------------------------------------------------------------------

/-- The history of a trace. -/
def lightHistory (trace : List LightLabel) : LightHistory := trace.foldl LightHistory.observe {}

/-- Over every interleaving of the sessions, of the library's calls and of the main thread, a page that
updates its lamps shows the last colour that the host gave to the session of the page, and none as soon
as a stop, a termination or the end of that session came, or another session is admitted.
-/
theorem lamps_follow_session {trace : List LightLabel} {state : LightState}
    (reached : lightMachine.Reaches trace state)
    : Guarded (fun before label => (lightHistory before).Permits label) trace := by
  have base (state : LightState) (initial : lightMachine.initial state) : LightKept {} state := by
    cases initial
    exact
      {
        invariant := streamInvariant_initial
        up := ⟨fun running => (by cases running), fun owner member => (by cases member)⟩
        session := rfl
        running := rfl
        positive := fun running => (by cases running)
        generation := rfl
        mode := rfl
        color := rfl
        page := trivial
      }
  exact (reached.keeps base fun past state choice outcome kept taken => kept.step taken).1

/-- A page that is opened for a started session, a colour, a stop, and a colour that comes too late. -/
theorem lamps_follow_session_stopped
    : Guarded (fun before label => (lightHistory before).Permits label)
        [.stream (.admitted 1), .configured .dualsense, .stream (.created 1),
          .stream (.libraryCalled 1), .stream (.stageStarting 1),
          .stream (.connectionStarted 1 true), .stream (.event 1 .started 0), .opened {},
          .led 0 ⟨200, 0, 30⟩, .shown { left := some ⟨200, 0, 30⟩, right := some ⟨200, 0, 30⟩ },
          .stream (.stop 1), .led 0 ⟨0, 255, 0⟩, .shown {}] :=
  let proceed : LightChoice := .stream (.owner 0 .proceed)
  lamps_follow_session
    (lightMachine.reaches_run rfl
      ([.start 2, .stream (.create 0 true)] ++ List.replicate 8 proceed
        ++ [.stream (.owner 0 .stageStarting), .stream (.owner 0 .connectionStarted), proceed,
          proceed, .openPage {}, .led 0 ⟨200, 0, 30⟩, .update, .stream .stop, .led 0 ⟨0, 255, 0⟩,
          .update])
      rfl)

end VitaMoonlight
