import VitaMoonlight.Services.QuitSteps
import VitaMoonlight.GameStream.ServerIdentity
import Mathlib.Data.List.Induction

/-! The contract of remote quits over every interleaving of dialogs, events, sessions, stops
and answers of the server.
-/

namespace VitaMoonlight

open Library

variable {Certificate : Type} {state after : RemoteQuitState Certificate}

-----------------------------------------------------------------------------------------
-- Every run
-----------------------------------------------------------------------------------------

/-- Every step of every party keeps the invariant. -/
theorem QuitInvariant.step {trace labels : List RemoteQuitLabel}
    {choice : RemoteQuitChoice Certificate} (invariant : QuitInvariant trace state)
    (taken : remoteQuitStep state choice = some (after, labels))
    : QuitInvariant (trace ++ labels) after := by
  have consistent := invariant.consistent
  cases choice with
  | screen action =>
      simp only [remoteQuitStep] at taken
      split at taken
      · rename_i idle
        obtain ⟨keeps, silent, same⟩ := screenStep_keeps consistent idle taken
        refine invariant.emit keeps ?_
        rw [silent, same]
        exact invariant.stream.unchanged
      · contradiction
  | thread action =>
      obtain ⟨keeps, stream⟩ := threadStep_keeps consistent invariant.stream taken
      exact invariant.emit keeps stream
  | host host server =>
      simp only [remoteQuitStep] at taken
      split at taken
      · contradiction
      · rename_i ended
        obtain ⟨rfl, rfl⟩ := taken
        refine invariant.emit
          (.silent ⟨consistent.dialog, consistent.thread.congr rfl rfl rfl rfl, ?_⟩)
          invariant.stream.unchanged
        exact fun running => absurd (consistent.launch running).running ended
  | launch action =>
      obtain ⟨keeps, stream⟩ := remoteLaunchStep_keeps consistent invariant.stream taken
      exact invariant.emit keeps stream
  | stream choice =>
      obtain ⟨keeps, stream⟩ := sessionStep_keeps consistent invariant.stream taken
      exact invariant.emit keeps stream
  | posted event =>
      simp only [remoteQuitStep] at taken
      split at taken
      · contradiction
      · obtain ⟨rfl, rfl⟩ := taken
        exact invariant.emit (.silent (consistent.frame rfl rfl rfl rfl rfl))
          invariant.stream.unchanged
  | workerDone result =>
      obtain ⟨rfl, rfl⟩ := taken
      have dialog : DialogConsistent (state.service.recordWorkerResult result) _ :=
        ⟨consistent.dialog.quiet, consistent.dialog.question, consistent.dialog.opened⟩
      exact invariant.emit (.silent (consistent.main state.events dialog consistent.thread))
        invariant.stream.unchanged

/-- The invariant holds of every run, by induction on the run. -/
theorem quitInvariant_of_reaches {trace : List RemoteQuitLabel}
    (reached : (remoteQuitMachine Certificate).Reaches trace state)
    : QuitInvariant trace state := by
  refine reached.invariant QuitInvariant ?_ ?_
  · rintro state ⟨memory, server, rfl⟩
    refine ⟨.nil _, streamInvariant_initial, .of_closed rfl rfl, trivial, ?_⟩
    exact fun running => absurd rfl running
  · exact fun trace state choice after emitted invariant taken => invariant.step taken

/-- Every cancel request uses up an answer YES of its own, by induction on the trace: an answer
waits for its start, then for the one request of that session.
-/
theorem cancel_count {trace : List RemoteQuitLabel} (permitted : Guarded QuitAllowed trace)
    : trace.count (.launch .cancel) + (quitHistory trace).answered.isSome.toNat
        + (quitHistory trace).consent.isSome.toNat
      ≤ trace.count (.dialogClosed true) := by
  induction trace using List.reverseRecOn with
  | nil => exact Nat.le_refl _
  | append_singleton trace label ih =>
      have before := ih permitted.left
      have allowed := permitted trace label [] rfl
      have same : quitHistory (trace ++ [label]) = (quitHistory trace).observe label := by
        simp [quitHistory]
      rw [same, List.count_append, List.count_append]
      cases label with
      | dialogOpened message asked => simpa [QuitHistory.observe] using before
      | dialogClosed yes =>
          cases yes with
          | true =>
              have waiting := (quitHistory trace).dialog.isSome.toNat_le
              simp only [QuitHistory.observe, if_true, List.count_singleton, beq_iff_eq,
                reduceCtorEq, if_false]
              omega
          | false => simpa [QuitHistory.observe] using before
      | requested application => simpa [QuitHistory.observe] using before
      | refused =>
          simp only [QuitHistory.observe, List.count_singleton, beq_iff_eq, reduceCtorEq, if_false,
            Option.isSome_none, Bool.toNat_false]
          omega
      | started application quit =>
          simp only [QuitHistory.observe, List.count_singleton, beq_iff_eq, reduceCtorEq, if_false,
            Option.isSome_none, Bool.toNat_false]
          split
          · omega
          · rw [Option.isSome_none, Bool.toNat_false]
            omega
      | launch label =>
          cases label with
          | serverInfo authenticated currentGame =>
              cases authenticated <;> simpa [QuitHistory.observe] using before
          | cancel =>
              obtain ⟨-, running, -, -, -, consent⟩ := allowed
              rw [consent] at before
              simp only [QuitHistory.observe, List.count_singleton, beq_iff_eq, if_true,
                reduceCtorEq, if_false, Option.isSome_none, Bool.toNat_false]
              simp only [Option.isSome_some, Bool.toNat_true] at before
              omega
          | decided | launch | resume | failed => simpa [QuitHistory.observe] using before
      | stream label =>
          cases label <;> simpa [QuitHistory.observe] using before

/-- What every run keeps. Each label is permitted by the history before it: the start of a session by
a start of the user or an answer YES that none was started for before, a cancel request by
the answer YES of a dialog that asked for its session's application and the one running
according to the last authenticated serverinfo, a launch or resume request by such a serverinfo
behind every cancel request, and neither by a session that failed or decided after a stop.
-/
structure RemoteQuitContract (trace : List RemoteQuitLabel) : Prop where
  permitted : Guarded QuitAllowed trace
  once : trace.count (.launch .cancel) ≤ trace.count (.dialogClosed true)

/-- Remote quits keep to the consent of the user over every interleaving of dialogs, events,
sessions, stops and answers of the server.
-/
theorem remote_quit_keeps_consent {trace : List RemoteQuitLabel}
    (reached : (remoteQuitMachine Certificate).Reaches trace state)
    : RemoteQuitContract trace := by
  have permitted := (quitInvariant_of_reaches reached).permitted
  have counted := cancel_count permitted
  exact ⟨permitted, by omega⟩

-----------------------------------------------------------------------------------------
-- A run
-----------------------------------------------------------------------------------------

/-- A serverinfo of a paired server. -/
def runningAnswer (state game : String) : Exchange where
  outcome := .received (xmlBody [("currentgame", game), ("PairStatus", "1"),
    ("appversion", "7.1.431.0"), ("state", state)])

/-- An answer that states one result. -/
def resultAnswer (field : String) : Exchange where
  outcome := .received (xmlBody [(field, "1")])

/-- The steps of a session up to its comparison with the running application. -/
def comparisonChoices : List (RemoteQuitChoice Nat) :=
  let checks : RemoteQuitChoice Nat := .stream (.owner 0 .proceed)
  [.thread .proceed, .thread .proceed, .thread .proceed, checks, .launch .proceed, checks,
    .launch (.exchange (runningAnswer "SUNSHINE_SERVER_BUSY" "7")), checks, .launch .proceed]

/-- A paired server behind a queue that was never used. -/
def pairedQuitState : RemoteQuitState Nat where
  events := MoonlightEventQueue.reset {
    ordered := fun _ => ⟨{ type := .none }, .empty, 0⟩
    snapshots := fun _ => ⟨{ type := .none }, .empty, 0⟩
    snapshotPending := fun _ => false
    head := 0
    tail := 0
    count := 0
    sequence := 0
    pending := ⟨{ type := .none }, .empty, 0⟩
    pendingValid := false }
  server := { httpsPort := 47984, paired := true, serverCertificate := some 1 }

/-- Application 5 is started while 7 runs, the user agrees to quit 7, and 5 is launched. -/
def quitChoices : List (RemoteQuitChoice Nat) :=
  let owns : RemoteQuitChoice Nat := .stream (.owner 0 .proceed)
  [.screen (.start 5 0)] ++ comparisonChoices ++ [owns, owns, owns, .screen (.processEvent .empty),
    .screen (.poll { finished := true, answer := some true } 0)] ++ comparisonChoices
    ++ [.launch (.exchange (resultAnswer "cancel")),
      .launch (.exchange (runningAnswer "SUNSHINE_SERVER_FREE" "0")), owns,
      .launch (.random true), .launch (.request (resultAnswer "gamesession") true)]

/-- Everything that run shows. -/
theorem quitChoices_shown
    : ((remoteQuitMachine Nat).run pairedQuitState quitChoices).map Prod.snd
      = some [.requested 5, .stream (.admitted 1), .started 5 0, .stream (.created 1),
          .launch (.serverInfo true 7), .launch (.failed (-8)), .stream (.event 1 .failed (-8)),
          .stream (.exited 1), .dialogOpened (.copy 512 quitQuestion) (some (5, 7)),
          .dialogClosed true, .stream (.admitted 2), .started 5 7, .stream (.created 2),
          .launch (.serverInfo true 7), .launch .cancel, .launch (.serverInfo true 0),
          .launch (.decided false), .launch .launch] := by
  decide +kernel

/-- A run with a confirmed quit keeps the contract. -/
theorem remote_quit_keeps_consent_when_confirmed
    : ∃ trace, .launch .cancel ∈ trace ∧ .launch .launch ∈ trace ∧ RemoteQuitContract trace := by
  obtain ⟨⟨final, trace⟩, ran, rfl⟩ := Option.map_eq_some_iff.mp quitChoices_shown
  have initial : (remoteQuitMachine Nat).initial pairedQuitState := ⟨_, _, rfl⟩
  exact ⟨_, by simp, by simp,
    remote_quit_keeps_consent (Machine.reaches_run (remoteQuitMachine Nat) initial _ ran)⟩

end VitaMoonlight
