import VitaMoonlight.Services.RemoteQuit
import VitaMoonlight.Stream.SessionLifecycle

/-! Consent to a remote quit.
A session is started by the user or by an answer YES. An answer is taken by the start of one
session, and that session's launch may spend it on one cancel request. The history of a run keeps
the answer, the session's consent and the last serverinfo apart; every start and every request has to
be permitted by the history before it.
-/

namespace VitaMoonlight

open Library

-----------------------------------------------------------------------------------------
-- The history of a run
-----------------------------------------------------------------------------------------

/-- What a run has shown: what the open dialog asks, the answer YES and the user's start that are
neither taken nor refused, and of the newest session its application, whether it may still make
requests, its unspent consent, its last authenticated serverinfo, whether a stop took effect and what
it decided.
-/
structure QuitHistory where
  dialog : Option (Int × Int) := none
  answered : Option (Int × Int) := none
  requested : Option Int := none
  selected : Int := 0
  live : Bool := false
  consent : Option (Int × Int) := none
  snapshot : Option Int := none
  stopped : Bool := false
  decided : Option Bool := none
deriving DecidableEq

namespace QuitHistory

/-- The history after one more label. -/
def observe (past : QuitHistory) : RemoteQuitLabel → QuitHistory
  | .dialogOpened _ asked => { past with dialog := asked }
  | .dialogClosed yes =>
      { past with dialog := none, answered := if yes then past.dialog else past.answered }
  | .requested application => { past with requested := some application }
  | .refused => { past with answered := none, requested := none }
  | .started application quit =>
      { past with
        answered := none
        requested := none
        selected := application
        live := true
        consent := if past.answered = some (application, quit) then past.answered else none
        snapshot := none
        stopped := false
        decided := none }
  | .launch (.serverInfo authenticated currentGame) =>
      if authenticated then { past with snapshot := some currentGame } else past
  | .launch .cancel => { past with consent := none, snapshot := none }
  | .launch (.decided resume) => { past with decided := some resume }
  | .launch .launch | .launch .resume | .launch (.failed _) => { past with live := false }
  | .stream (.stop _) => { past with stopped := true }
  | .stream _ => past

/-- A session is started as the user has asked, who quits nothing, or as an answer YES has. -/
def MayStart (past : QuitHistory) (application quit : Int) : Prop :=
  past.requested = some application ∧ quit = 0 ∨ past.answered = some (application, quit)

/-- The label may follow this history. -/
def Permits (past : QuitHistory) : RemoteQuitLabel → Prop
  | .dialogOpened message asked => asked ≠ none → message = .copy 512 quitQuestion
  | .dialogClosed yes => yes = true → past.dialog ≠ none
  | .started application quit => past.MayStart application quit
  | .launch (.serverInfo authenticated _) => authenticated = true
  | .launch .cancel =>
      past.live = true
      ∧ ∃ running,
          past.snapshot = some running
          ∧ running ≠ 0
          ∧ running ≠ past.selected
          ∧ past.consent = some (past.selected, running)
  | .launch (.decided resume) =>
      past.live = true
      ∧ past.stopped = false
      ∧ if resume then past.snapshot = some past.selected ∧ past.selected ≠ 0
        else past.snapshot = some 0
  | .launch .launch =>
      past.live = true ∧ past.decided = some false ∧ past.snapshot = some 0
  | .launch .resume =>
      past.live = true ∧ past.decided = some true ∧ past.snapshot = some past.selected
  | .requested _ | .refused | .launch (.failed _) | .stream _ => True

end QuitHistory

/-- The history of a trace. -/
def quitHistory (trace : List RemoteQuitLabel) : QuitHistory :=
  trace.foldl QuitHistory.observe {}

/-- A label may follow a trace. -/
def QuitAllowed (before : List RemoteQuitLabel) (label : RemoteQuitLabel) : Prop :=
  (quitHistory before).Permits label

/-- The labels of the stream sessions. -/
def quitStreamTrace (trace : List RemoteQuitLabel) : List StreamLabel :=
  trace.filterMap fun label =>
    match label with
    | .stream label => some label
    | _ => none

theorem quitStreamTrace_append (trace labels : List RemoteQuitLabel)
    : quitStreamTrace (trace ++ labels) = quitStreamTrace trace ++ quitStreamTrace labels :=
  List.filterMap_append

theorem quitStreamTrace_stream (labels : List StreamLabel)
    : quitStreamTrace (labels.map .stream) = labels := by
  simp [quitStreamTrace, List.filterMap_map]

theorem quitStreamTrace_launch (labels : List LaunchLabel)
    : quitStreamTrace (labels.map .launch) = [] := by
  simp [quitStreamTrace]

/-- Labels of the sessions are permitted and change only whether a stop took effect, by
induction on the labels.
-/
theorem observe_stream (past : QuitHistory) (labels : List StreamLabel)
    : AllPermitted QuitHistory.observe QuitHistory.Permits past (labels.map .stream)
      ∧ ∃ stopped,
          (labels.map RemoteQuitLabel.stream).foldl QuitHistory.observe past
          = { past with stopped } := by
  induction labels generalizing past with
  | nil => exact ⟨trivial, past.stopped, rfl⟩
  | cons label rest ih =>
      obtain ⟨permitted, stopped, same⟩ := ih (past.observe (.stream label))
      refine ⟨⟨trivial, permitted⟩, stopped, ?_⟩
      rw [List.map_cons, List.foldl_cons, same]
      cases label <;> rfl

-----------------------------------------------------------------------------------------
-- What holds in every state
-----------------------------------------------------------------------------------------

/-- The service asks the quit question whenever it holds ids to confirm, and an open dialog
asks for these.
-/
structure DialogConsistent (service : ConnectionService) (past : QuitHistory) : Prop where
  quiet
    : service.errorPending = false
      → service.errorDialogOpen = false
      → service.confirmApplicationId = 0
  question
    : 0 < service.confirmApplicationId → service.errorMessage = .copy 512 quitQuestion
  opened : service.errorDialogOpen = true → past.dialog = service.asked

/-- A start in progress is one that the user or an answer has asked for. -/
def ThreadConsistent {Certificate : Type} (state : RemoteQuitState Certificate)
    (past : QuitHistory)
    : MainThread → Prop
  | .idle => True
  | .calling application quit _ | .admitting application quit _ => past.MayStart application quit
  | .creating _ => state.stream.launching ≠ [] ∧ state.launch.point = .created

/-- What the newest session may spend on quitting. -/
def Consented (launch : LaunchFrame) (past : QuitHistory) : Prop :=
  launch.quit ≠ 0 → past.consent = some (launch.application, launch.quit)

/-- What a launch knows at each point. -/
def PointConsistent (currentGame : Int) (launch : LaunchFrame) (past : QuitHistory)
    : LaunchPoint → Prop
  | .created | .entered | .checking | .refreshing => Consented launch past
  | .refreshed | .comparing => Consented launch past ∧ past.snapshot = some currentGame
  | .quitting =>
      past.snapshot = some currentGame
      ∧ currentGame ≠ 0
      ∧ currentGame ≠ launch.application
      ∧ past.consent = some (launch.application, currentGame)
  | .verifying => True
  | .unconflicted =>
      past.snapshot = some currentGame ∧ (currentGame ≠ 0 → currentGame = launch.application)
  | .generating resume | .requesting resume =>
      past.decided = some resume
      ∧ past.snapshot = some (if resume then launch.application else 0)
  | .returned => True

/-- A launch in progress belongs to the running session, whose owner is in its setup. -/
structure LaunchConsistent {Certificate : Type} (state : RemoteQuitState Certificate)
    (past : QuitHistory) : Prop where
  running : state.stream.flags.threadRunning = true
  owners
    : ∀ owner ∈ state.stream.owners, owner.point = .setup state.launch.point.checks
  live : past.live = true
  selected : past.selected = state.launch.application
  cancelled : past.stopped = true → state.stream.flags.cancelRequested = true
  point : PointConsistent state.server.currentGame state.launch past state.launch.point

/-- What the state is after a history. -/
structure QuitConsistent {Certificate : Type} (state : RemoteQuitState Certificate)
    (past : QuitHistory) : Prop where
  dialog : DialogConsistent state.service past
  thread : ThreadConsistent state past state.thread
  launch : state.launch.point ≠ .returned → LaunchConsistent state past

/-- What holds of every run. -/
structure QuitInvariant {Certificate : Type} (trace : List RemoteQuitLabel)
    (state : RemoteQuitState Certificate) : Prop where
  permitted : Guarded QuitAllowed trace
  stream : StreamInvariant (quitStreamTrace trace) state.stream
  consistent : QuitConsistent state (quitHistory trace)

/-- What a step establishes. -/
structure QuitKeeps {Certificate : Type} (past : QuitHistory) (labels : List RemoteQuitLabel)
    (after : RemoteQuitState Certificate) : Prop where
  permitted : AllPermitted QuitHistory.observe QuitHistory.Permits past labels
  consistent : QuitConsistent after (labels.foldl QuitHistory.observe past)

variable {Certificate : Type} {state after : RemoteQuitState Certificate} {past : QuitHistory}

/-- Permitted labels keep the invariant if the sessions keep theirs. -/
theorem QuitInvariant.emit {trace labels : List RemoteQuitLabel}
    (invariant : QuitInvariant trace state) (keeps : QuitKeeps (quitHistory trace) labels after)
    (stream : StreamInvariant (quitStreamTrace trace ++ quitStreamTrace labels) after.stream)
    : QuitInvariant (trace ++ labels) after := by
  refine ⟨invariant.permitted.append keeps.permitted.allowedAfter, ?_, ?_⟩
  · rwa [quitStreamTrace_append]
  · rw [quitHistory, List.foldl_append]
    exact keeps.consistent

/-- A step that shows nothing has only to be consistent. -/
theorem QuitKeeps.silent (consistent : QuitConsistent after past) : QuitKeeps past [] after :=
  ⟨trivial, consistent⟩

-----------------------------------------------------------------------------------------
-- The dialogs
-----------------------------------------------------------------------------------------

namespace DialogConsistent

variable {service : ConnectionService}

theorem showError (consistent : DialogConsistent service past) (message : CString) (result : Int)
    : DialogConsistent (service.showError message result) past := by
  unfold ConnectionService.showError
  split
  · exact consistent
  · rename_i quiet
    simp only [Bool.or_eq_true, not_or, Bool.not_eq_true] at quiet
    have none := consistent.quiet quiet.1 quiet.2
    refine ⟨fun pending => absurd pending (by simp), fun positive => ?_, consistent.opened⟩
    exact absurd none (ne_of_gt positive)

theorem beginOperation (consistent : DialogConsistent service past)
    (operation : ForegroundOperation) (slot : Int)
    : DialogConsistent (service.beginOperation operation slot).1 past := by
  unfold ConnectionService.beginOperation
  repeat' split
  all_goals exact ⟨consistent.quiet, consistent.question, consistent.opened⟩

theorem finishUnstartedOperation (consistent : DialogConsistent service past)
    : DialogConsistent service.finishUnstartedOperation past := by
  have closed : DialogConsistent { service.closeWaitDialog with operation := .none } past :=
    ⟨consistent.quiet, consistent.question, consistent.opened⟩
  unfold ConnectionService.finishUnstartedOperation
  dsimp only
  split
  · exact closed.showError _ _
  · exact closed

/-- Only the quit question comes with ids to confirm. -/
theorem confirmQuitAndStart (consistent : DialogConsistent service past)
    (application running : Int)
    : DialogConsistent (service.confirmQuitAndStart application running) past := by
  unfold ConnectionService.confirmQuitAndStart
  split
  · exact consistent.showError _ _
  · rename_i free
    simp only [ConnectionService.isBusy, not_or, Bool.or_eq_true, Bool.not_eq_true] at free
    obtain ⟨-, -, -, ⟨-, closed⟩, unasked⟩ := free
    have shown
        : service.showError quitQuestion 0
          = { service with
              errorMessage := .copy 512 quitQuestion
              errorPending := true
              dialogTaskRegistered := true } := by
      simp [ConnectionService.showError, closed, unasked]
    rw [shown]
    refine ⟨fun pending => absurd pending (by simp), fun _ => rfl, fun opened => ?_⟩
    exact absurd (closed.symm.trans opened) (by decide)

theorem prepareCompletion {Address : Type} (consistent : DialogConsistent service past)
    (event : MoonlightEvent Address)
    : DialogConsistent (service.prepareCompletion event).1 past := by
  have finished : DialogConsistent { service.closeWaitDialog with operation := .none } past :=
    ⟨consistent.quiet, consistent.question, consistent.opened⟩
  unfold ConnectionService.prepareCompletion
  repeat' split
  case isTrue | isTrue => exact consistent
  all_goals dsimp only
  all_goals
    first
    | exact consistent
    | exact finished
    | exact finished.showError _ _
    | exact finished.confirmQuitAndStart _ _

theorem connect (consistent : DialogConsistent service past) (host : MoonlightHost) (slot : Int)
    (enqueued : Bool)
    : DialogConsistent (service.connect host slot enqueued) past := by
  have begun := consistent.beginOperation .connect slot
  unfold ConnectionService.connect
  split
  · exact consistent.showError _ _
  · split
    · rename_i started same
      rw [same] at begun
      split
      · exact begun
      · exact begun.finishUnstartedOperation
    · rename_i idle result _ same
      rw [same] at begun
      split
      · exact begun
      · exact begun.showError _ _

theorem unregisterIdle (consistent : DialogConsistent service past)
    : DialogConsistent service.unregisterIdle past := by
  unfold ConnectionService.unregisterIdle
  split <;> exact ⟨consistent.quiet, consistent.question, consistent.opened⟩

theorem startReturned (consistent : DialogConsistent service past) (result : Int)
    : DialogConsistent (service.startReturned result) past := by
  unfold ConnectionService.startReturned
  split
  · exact consistent.finishUnstartedOperation
  · exact consistent

theorem confirmedReturned (consistent : DialogConsistent service past) (result : Int)
    : DialogConsistent (service.confirmedReturned result) past := by
  unfold ConnectionService.confirmedReturned
  dsimp only
  split
  · exact (consistent.showError _ _).unregisterIdle
  · exact consistent.unregisterIdle

/-- Without a dialog nothing is left to confirm. -/
theorem of_closed (closed : service.errorDialogOpen = false)
    (cleared : service.confirmApplicationId = 0)
    : DialogConsistent service past := by
  refine ⟨fun _ _ => cleared, fun positive => ?_, fun opened => ?_⟩
  · exact absurd cleared (ne_of_gt positive)
  · exact absurd (closed.symm.trans opened) (by decide)

/-- A dialog that opens shows the quit question if it asks for ids. -/
theorem tryShowError (consistent : DialogConsistent service past) (init : DialogInit)
    {after : ConnectionService} {opened : Bool}
    (tried : service.tryShowError init = (after, opened))
    : (opened = true → after.asked ≠ none → after.errorMessage = .copy 512 quitQuestion)
      ∧ DialogConsistent after
          (if opened then past.observe (.dialogOpened after.errorMessage after.asked) else past) := by
  simp only [ConnectionService.tryShowError] at tried
  split at tried
  · obtain ⟨rfl, rfl⟩ := tried
    exact ⟨fun opens => absurd opens (by decide), consistent⟩
  · rename_i free
    cases init with
    | opened =>
        obtain ⟨rfl, rfl⟩ := tried
        refine ⟨fun _ asks => ?_, fun _ closed => absurd closed (by simp), consistent.question,
          fun _ => rfl⟩
        simp only [ConnectionService.asked, ne_eq, ite_eq_right_iff, reduceCtorEq, imp_false,
          not_not] at asks
        exact consistent.question asks
    | busy =>
        obtain ⟨rfl, rfl⟩ := tried
        exact ⟨fun opens => absurd opens (by decide), consistent⟩
    | failed =>
        obtain ⟨rfl, rfl⟩ := tried
        simp only [Bool.or_eq_true, not_or, Bool.not_eq_true] at free
        exact ⟨fun opens => absurd opens (by decide), of_closed free.2 rfl⟩

end DialogConsistent

end VitaMoonlight
