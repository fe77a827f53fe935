import VitaMoonlight.Input.TouchProtocol
import VitaMoonlight.Input.ControllerInput

/-! What the host holds while the system overlay is up: nothing, if no finger was down when the
overlay came.
-/

namespace VitaMoonlight

open Library

-----------------------------------------------------------------------------------------
-- The history of a run
-----------------------------------------------------------------------------------------

/-- What the labels have shown: whether the last tick saw the overlay, how many reports the ticks
of the current overlay period sent, and what the host holds.
-/
structure InputHistory where
  ticking : Bool := false
  overlaid : Bool := false
  reports : Nat := 0
  report : ControllerReport := {}
  rightButton : Bool := false
  touch : TouchHistory := {}

namespace InputHistory

/-- The history after one more label. -/
def observe (past : InputHistory) : InputLabel → InputHistory
  | .tick overlaid =>
      { past with
        ticking := true
        overlaid
        reports := if past.overlaid = overlaid then past.reports else 0 }
  | .report report =>
      { past with report, reports := if past.ticking then past.reports + 1 else past.reports }
  | .rightButton press => { past with rightButton := press }
  | .touch label => { past with touch := past.touch.observe label }
  | .done => { past with ticking := false }
  | .observed _ _ | .streamStop | .arrival | .stopped => past

/-- No pointer of the touch panel is down, and neither is the left mouse button. -/
def TouchUp (past : InputHistory) : Prop :=
  (∀ pointer, past.touch.held pointer = none) ∧ past.touch.button = false

/-- The host holds nothing, and one report has said so since the overlay came. -/
structure Released (past : InputHistory) : Prop where
  flags : past.report.flags = []
  leftTrigger : past.report.leftTrigger = 0
  rightTrigger : past.report.rightTrigger = 0
  rightButton : past.rightButton = false
  touch : past.TouchUp
  once : past.reports = 1

/-- While the overlay is up the label presses nothing. -/
def PressesNothing (past : InputHistory) (label : InputLabel) : Prop :=
  past.overlaid = true
  → match label with
    | .report report =>
        report.flags = [] ∧ report.leftTrigger = 0 ∧ report.rightTrigger = 0
        ∧ (past.ticking = true → report = VitaInput.neutralReport)
    | .rightButton press => press = false
    | .touch (.touch _ kind _ _ _ _) => kind = .up
    | .touch (.leftButton press) => press = false
    | _ => True

/-- The overlay comes while no finger and no left button is down. -/
def ComesUntouched (past : InputHistory) : InputLabel → Prop
  | .tick overlaid => overlaid = true → past.overlaid = false → past.TouchUp
  | _ => True

end InputHistory

/-- The history of a trace. -/
def inputHistory (trace : List InputLabel) : InputHistory :=
  trace.foldl InputHistory.observe {}

/-- A label may follow a trace when it presses nothing under the overlay. -/
def PressesNothing (before : List InputLabel) (label : InputLabel) : Prop :=
  (inputHistory before).PressesNothing label

/-- Every overlay of the trace comes while no finger and no left button is down. -/
def ComesUntouched (before : List InputLabel) (label : InputLabel) : Prop :=
  (inputHistory before).ComesUntouched label

-----------------------------------------------------------------------------------------
-- What holds in every state
-----------------------------------------------------------------------------------------

/-- The touch panel is consistent with its part of the history, and the overlay's report is sent
when the last tick saw the overlay.
-/
structure InputConsistent (input : VitaInput) (past : InputHistory) : Prop where
  touch : TouchConsistent input.touch past.touch
  active : input.touch.active = input.active
  idle : past.ticking = false
  rightButton : past.rightButton = false
  sent : input.overlayReleaseSent = past.overlaid

variable {input : VitaInput} {past : InputHistory}

/-- The labels of the touch panel change only its part of the history, by induction on them. -/
theorem observe_touch (labels : List TouchLabel) (past : InputHistory)
    : (labels.map InputLabel.touch).foldl InputHistory.observe past
      = { past with touch := labels.foldl TouchHistory.observe past.touch } := by
  induction labels generalizing past with
  | nil => rfl
  | cons label rest ih => exact ih _

/-- A label of a tick that is none of the touch panel and neither begins nor ends the tick. -/
def InputLabel.Plain : InputLabel → Prop
  | .report _ | .rightButton _ | .observed _ _ | .streamStop => True
  | _ => False

/-- What a tick sends by itself: plain labels that leave the right mouse button up. -/
structure TickLabels (labels : List InputLabel) : Prop where
  plain : ∀ label ∈ labels, label.Plain
  paired
    : ∀ past : InputHistory,
        past.rightButton = false
        → (labels.foldl InputHistory.observe past).rightButton = false

theorem TickLabels.append {first second : List InputLabel} (now : TickLabels first)
    (later : TickLabels second)
    : TickLabels (first ++ second) where
  plain := List.forall_mem_append.2 ⟨now.plain, later.plain⟩
  paired past up := by
    rw [List.foldl_append]
    exact later.paired _ (now.paired past up)

theorem TickLabels.nil : TickLabels [] := ⟨fun _ member => absurd member List.not_mem_nil, fun _ => id⟩

theorem TickLabels.report (report : ControllerReport) : TickLabels [.report report] :=
  ⟨by simp [InputLabel.Plain], fun _ => id⟩

/-- Plain labels leave alone what the touch panel has shown and whether the overlay is up, by
induction on them.
-/
theorem TickLabels.observed {labels : List InputLabel} (sent : TickLabels labels)
    (past : InputHistory)
    : (labels.foldl InputHistory.observe past).touch = past.touch
      ∧ (labels.foldl InputHistory.observe past).overlaid = past.overlaid := by
  obtain ⟨plain, -⟩ := sent
  induction labels generalizing past with
  | nil => exact ⟨rfl, rfl⟩
  | cons label rest ih =>
      rw [List.forall_mem_cons] at plain
      obtain ⟨touch, overlaid⟩ := ih (past.observe label) plain.2
      rw [List.foldl_cons, touch, overlaid]
      cases label with
      | report _ | rightButton _ | observed _ _ | streamStop => exact ⟨rfl, rfl⟩
      | _ => exact absurd plain.1 id

/-- Without an overlay any label but a tick may follow, by induction on the labels. -/
theorem presses_nothing_without_overlay (past : InputHistory) (labels : List InputLabel)
    (ticks : ∀ label ∈ labels, ∀ overlaid, label ≠ .tick overlaid)
    (clear : past.overlaid = false)
    : AllPermitted InputHistory.observe InputHistory.PressesNothing past labels := by
  induction labels generalizing past with
  | nil => trivial
  | cons label rest ih =>
      rw [List.forall_mem_cons] at ticks
      refine
        ⟨fun overlaid => absurd (clear.symm.trans overlaid) Bool.false_ne_true, ih _ ticks.2 ?_⟩
      cases label with
      | tick overlaid => exact absurd rfl (ticks.1 overlaid)
      | _ => exact clear

-----------------------------------------------------------------------------------------
-- Ticks
-----------------------------------------------------------------------------------------

namespace VitaInput

theorem touchZones_labels (input : VitaInput) (front : Option TouchFrame)
    : TickLabels (input.touchZones front).2 := by
  unfold touchZones
  dsimp only
  split
  · cases front with
    | none => exact .nil
    | some front =>
        dsimp only
        split
        · split
          · exact .nil
          · split
            · exact .nil
            · split
              · exact ⟨by simp [InputLabel.Plain], fun _ _ => rfl⟩
              · split
                · exact .report _
                · split
                  · exact .report _
                  · exact .nil
        · exact .nil
  · exact .nil

theorem sendChanges_labels (input : VitaInput) (now : Nat)
    : TickLabels (input.sendChanges now).2 := by
  unfold sendChanges
  dsimp only
  split
  · exact .report _
  · exact .nil

theorem forward_labels (input : VitaInput) (sample : InputSample)
    : ∃ plain,
        (input.forward sample).2
          = plain ++ (input.touch.process sample.front).2.map InputLabel.touch
        ∧ TickLabels plain
        ∧ (input.forward sample).1.touch = (input.touch.process sample.front).1
        ∧ (input.forward sample).1.active = input.active
        ∧ (input.forward sample).1.overlayReleaseSent = input.overlayReleaseSent := by
  have kept := input.sendChanges_keeps sample.sendTime
  refine ⟨_, ?_, input.sendChanges_labels sample.sendTime, ?_, kept.active, kept.sent⟩
  · rw [← kept.touch]
    rfl
  · rw [← kept.touch]
    rfl

theorem processPs_labels (input : VitaInput) (sample : InputSample) (pressed : Bool)
    : ∃ plain touched,
        (input.processPs sample pressed).2 = plain ++ touched.map InputLabel.touch
        ∧ TickLabels plain
        ∧ ((input.processPs sample pressed).1.touch = input.touch ∧ touched = []
          ∨ (input.processPs sample pressed).1.touch = (input.touch.process sample.front).1
            ∧ touched = (input.touch.process sample.front).2)
        ∧ (input.processPs sample pressed).1.active = input.active
        ∧ (input.processPs sample pressed).1.overlayReleaseSent = input.overlayReleaseSent := by
  unfold processPs
  dsimp only
  split
  · split
    · refine ⟨[.observed sample.now pressed, .streamStop], [], rfl, ?_, .inl ⟨rfl, rfl⟩, rfl, rfl⟩
      exact ⟨by simp [InputLabel.Plain], fun _ => id⟩
    · obtain ⟨plain, shown, all, touch, active, sent⟩ :=
        (input.classified sample.now pressed).forward_labels sample
      refine ⟨.observed sample.now pressed :: plain, _, ?_, ?_, .inr ⟨touch, rfl⟩, active, sent⟩
      · dsimp only
        rw [shown]
        rfl
      · have observed : TickLabels [.observed sample.now pressed] :=
          ⟨by simp [InputLabel.Plain], fun _ => id⟩
        exact observed.append all
  · obtain ⟨plain, shown, all, touch, active, sent⟩ :=
      ({ input with ps := { input.ps with physicalOld := pressed } } : VitaInput).forward_labels
        sample
    exact ⟨plain, _, shown, all, .inr ⟨touch, rfl⟩, active, sent⟩

/-- What a tick outside an overlay shows: plain labels, and what the touch panel sends unless the
stream is to be stopped.
-/
theorem process_labels (input : VitaInput) (sample : InputSample)
    (clear : (input.pollSystemUi sample).overlaid = false)
    : ∃ plain touched,
        (input.process sample).2
          = .tick false :: (plain ++ touched.map InputLabel.touch) ++ [.done]
        ∧ TickLabels plain
        ∧ ((input.process sample).1.touch = input.touch ∧ touched = []
          ∨ (input.process sample).1.touch = (input.touch.process sample.front).1
            ∧ touched = (input.touch.process sample.front).2)
        ∧ (input.process sample).1.active = input.active
        ∧ (input.process sample).1.overlayReleaseSent = false := by
  obtain ⟨active, -, sent, touch⟩ := input.begun_keeps sample
  rcases pad : (input.begun sample).samplePad sample with ⟨sampled, pressed⟩
  rcases front : sampled.touchZones sample.zones with ⟨zoned, zones⟩
  have sampledKeeps := (input.begun sample).samplePad_keeps sample
  have zonedKeeps := sampled.touchZones_keeps sample.zones
  have zonesLabels := sampled.touchZones_labels sample.zones
  rw [pad] at sampledKeeps
  rw [front] at zonedKeeps zonesLabels
  obtain ⟨plain, touched, shown, all, moved, stays, unsent⟩ := zoned.processPs_labels sample pressed
  rw [input.process_of_clear sample clear pad front]
  refine ⟨zones ++ plain, touched, ?_, zonesLabels.append all, ?_, ?_, ?_⟩
  · simp [shown]
  · rwa [zonedKeeps.touch, sampledKeeps.touch, touch] at moved
  · exact stays.trans (zonedKeeps.active.trans (sampledKeeps.active.trans active))
  · exact unsent.trans (zonedKeeps.sent.trans (sampledKeeps.sent.trans sent))

end VitaInput

-----------------------------------------------------------------------------------------
-- One step
-----------------------------------------------------------------------------------------

/-- A release presses nothing. -/
theorem release_presses_nothing (touch : VitaTouch)
    : ∀ label ∈ touch.releaseTouchState.2,
        ∀ now : InputHistory, now.PressesNothing (.touch label) := by
  intro label member now overlaid
  simp only [VitaTouch.releaseTouchState, VitaTouch.releasePointers, VitaTouch.releaseLeftMouse,
    VitaTouch.sendTouchEvent, List.cons_append, List.mem_cons, List.mem_append] at member
  cases label with
  | touch controller kind pointer x y pressure => grind
  | leftButton press => grind
  | _ => trivial

theorem stop_presses_nothing (touch : VitaTouch)
    : ∀ label ∈ touch.stop.2, ∀ now : InputHistory, now.PressesNothing (.touch label) := by
  rw [VitaTouch.stop_labels]
  refine List.forall_mem_append.2 ⟨?_, ?_⟩
  · split
    · exact release_presses_nothing touch
    · simp
  · intro label member now overlaid
    rw [List.mem_singleton.1 member]
    trivial

/-- What a stop of the touch panel leaves down. -/
theorem TouchConsistent.stop_up {touch : VitaTouch} {past : TouchHistory}
    (consistent : TouchConsistent touch past)
    : (∀ pointer, (touch.stop.2.foldl TouchHistory.observe past).held pointer = none)
      ∧ (touch.stop.2.foldl TouchHistory.observe past).button = false := by
  have after := consistent.stop.2
  obtain ⟨up, lifted⟩ := after.idle touch.stop_idle
  exact ⟨fun pointer => by rw [after.held, up]; rfl, after.button.trans lifted⟩

theorem start_observed (input : VitaInput) (past : InputHistory)
    : input.start.2.foldl InputHistory.observe past
      = { past with touch := input.touch.start.2.foldl TouchHistory.observe past.touch } := by
  change ((input.touch.start.2.map InputLabel.touch).foldl InputHistory.observe past) = _
  rw [observe_touch]

theorem stop_observed (input : VitaInput) (idle : past.ticking = false)
    : input.stop.2.foldl InputHistory.observe past
      = { past with
          report := {}
          touch := input.touch.stop.2.foldl TouchHistory.observe past.touch } := by
  change
    (input.touch.stop.2.map InputLabel.touch ++ [InputLabel.report {}, .stopped]).foldl
      InputHistory.observe past = _
  rw [List.foldl_append, observe_touch]
  simp [InputHistory.observe, idle]

/-- What a tick under the overlay leaves behind. -/
theorem overlaid_tick_observed (sent : Bool) (past : InputHistory)
    : (InputLabel.tick true :: (if sent then [] else [.report VitaInput.neutralReport])
          ++ [InputLabel.done]).foldl InputHistory.observe past
      = { past with
          ticking := false
          overlaid := true
          report := if sent then past.report else VitaInput.neutralReport
          reports :=
            (if past.overlaid then past.reports else 0) + if sent then 0 else 1 } := by
  cases sent <;> rfl

/-- What a tick without the overlay leaves behind of the touch panel. -/
theorem clear_tick_observed (plain : List InputLabel) (touched : List TouchLabel)
    (all : TickLabels plain) (past : InputHistory)
    : let after :=
        (InputLabel.tick false :: (plain ++ touched.map InputLabel.touch)
          ++ [InputLabel.done]).foldl InputHistory.observe past
      after.touch = touched.foldl TouchHistory.observe past.touch
      ∧ after.overlaid = false
      ∧ after.ticking = false
      ∧ (past.rightButton = false → after.rightButton = false) := by
  obtain ⟨touch, overlaid⟩ := all.observed (past.observe (.tick false))
  simp only [List.cons_append, List.foldl_cons, List.foldl_append, observe_touch, List.foldl_nil]
  rw [touch]
  exact ⟨rfl, overlaid, rfl, all.paired (past.observe (.tick false))⟩

/-- The steps keep the history true of the state. -/
theorem InputConsistent.step {choice : InputChoice} {after : VitaInput}
    {emitted : List InputLabel} (consistent : InputConsistent input past)
    (taken : inputStep input choice = some (after, emitted))
    : InputConsistent after (emitted.foldl InputHistory.observe past) := by
  cases choice with
  | configure swap capture mode scale zone =>
      simp only [inputStep] at taken
      split at taken
      · contradiction
      · rename_i stopped
        cases taken
        have idle : input.touch.active = false := by
          rw [consistent.active]
          exact Bool.eq_false_iff.2 stopped
        exact { consistent with touch := consistent.touch.configure idle mode scale }
  | setRuntime zones sprint ms mapping =>
      cases taken
      exact { consistent with }
  | start =>
      simp only [inputStep] at taken
      split at taken
      · contradiction
      · obtain ⟨rfl, rfl⟩ := Prod.ext_iff.1 (Option.some.inj taken)
        rw [start_observed]
        exact
          { touch := consistent.touch.start.2
            active := rfl
            idle := consistent.idle
            rightButton := consistent.rightButton
            sent := consistent.sent }
  | stop =>
      obtain ⟨rfl, rfl⟩ := Prod.ext_iff.1 (Option.some.inj taken)
      rw [stop_observed input consistent.idle]
      exact
        { touch := consistent.touch.stop.2
          active := input.touch.stop_idle
          idle := consistent.idle
          rightButton := consistent.rightButton
          sent := consistent.sent }
  | shellEvent psButton =>
      cases taken
      unfold VitaInput.shellEvent
      split <;> exact { consistent with }
  | tick sample =>
      simp only [inputStep] at taken
      split at taken
      · obtain ⟨rfl, rfl⟩ := Prod.ext_iff.1 (Option.some.inj taken)
        cases now : (input.pollSystemUi sample).overlaid with
        | true =>
            have kept := input.pollSystemUi_keeps sample
            rw [input.process_of_overlaid sample now, overlaid_tick_observed]
            constructor
            · change TouchConsistent (input.pollSystemUi sample).touch past.touch
              rw [kept.touch]
              exact consistent.touch
            · change (input.pollSystemUi sample).touch.active = (input.pollSystemUi sample).active
              rw [kept.touch, kept.active]
              exact consistent.active
            · rfl
            · exact consistent.rightButton
            · rfl
        | false =>
            obtain ⟨plain, touched, shown, all, touch, active, sent⟩ :=
              input.process_labels sample now
            obtain ⟨observed, clear, idle, lifted⟩ := clear_tick_observed plain touched all past
            have touching
                : TouchConsistent (input.process sample).1.touch
                      (touched.foldl TouchHistory.observe past.touch)
                  ∧ (input.process sample).1.touch.active = input.touch.active := by
              obtain ⟨same, rfl⟩ | ⟨same, rfl⟩ := touch
              · rw [same]
                exact ⟨consistent.touch, rfl⟩
              · rw [same]
                exact ⟨consistent.touch.process sample.front, process_active _ _⟩
            rw [shown]
            exact
              { touch := observed ▸ touching.1
                active := touching.2.trans (consistent.active.trans active.symm)
                idle := idle
                rightButton := lifted consistent.rightButton
                sent := sent.trans clear.symm }
      · contradiction

/-- A label that is no report and moves no button presses nothing. -/
theorem touch_labels_permitted {labels : List TouchLabel}
    (lifts : ∀ label ∈ labels, ∀ now : InputHistory, now.PressesNothing (.touch label))
    (past : InputHistory)
    : AllPermitted InputHistory.observe InputHistory.PressesNothing past
        (labels.map InputLabel.touch) := by
  refine .of_forall fun label member now => ?_
  obtain ⟨touched, here, rfl⟩ := List.mem_map.1 member
  exact lifts touched here now

/-- Under the overlay the steps press nothing, and when it comes untouched they leave the host
holding nothing.
-/
theorem InputConsistent.step_released {choice : InputChoice} {after : VitaInput}
    {emitted : List InputLabel} (consistent : InputConsistent input past)
    (released : past.overlaid = true → past.Released)
    (taken : inputStep input choice = some (after, emitted))
    (untouched : AllPermitted InputHistory.observe InputHistory.ComesUntouched past emitted)
    : AllPermitted InputHistory.observe InputHistory.PressesNothing past emitted
      ∧ ((emitted.foldl InputHistory.observe past).overlaid = true
        → (emitted.foldl InputHistory.observe past).Released) := by
  cases choice with
  | configure swap capture mode scale zone =>
      simp only [inputStep] at taken
      split at taken
      · contradiction
      · cases taken
        exact ⟨trivial, released⟩
  | setRuntime zones sprint ms mapping =>
      cases taken
      exact ⟨trivial, released⟩
  | start =>
      simp only [inputStep] at taken
      split at taken
      · contradiction
      · obtain ⟨rfl, rfl⟩ := Prod.ext_iff.1 (Option.some.inj taken)
        constructor
        · exact ⟨fun _ => trivial, touch_labels_permitted (release_presses_nothing _) _⟩
        · rw [start_observed]
          intro overlaid
          refine { released overlaid with touch := ?_ }
          have nothing := consistent.touch.init.releaseTouchState.2
          change input.touch.start.2.foldl TouchHistory.observe past.touch = _ at nothing
          unfold InputHistory.TouchUp
          rw [nothing]
          exact ⟨fun _ => rfl, rfl⟩
  | stop =>
      obtain ⟨rfl, rfl⟩ := Prod.ext_iff.1 (Option.some.inj taken)
      constructor
      · refine AllPermitted.append (touch_labels_permitted (stop_presses_nothing _) past) ?_
        rw [observe_touch]
        refine ⟨fun _ => ⟨rfl, rfl, rfl, fun ticking => ?_⟩, fun _ => trivial, trivial⟩
        exact absurd (consistent.idle.symm.trans ticking) Bool.false_ne_true
      · rw [stop_observed input consistent.idle]
        intro overlaid
        exact
          { released overlaid with
            flags := rfl
            leftTrigger := rfl
            rightTrigger := rfl
            touch := consistent.touch.stop_up }
  | shellEvent psButton =>
      cases taken
      exact ⟨trivial, released⟩
  | tick sample =>
      simp only [inputStep] at taken
      split at taken
      · obtain ⟨rfl, rfl⟩ := Prod.ext_iff.1 (Option.some.inj taken)
        cases now : (input.pollSystemUi sample).overlaid with
        | true =>
            rw [input.process_of_overlaid sample now] at untouched ⊢
            rw [overlaid_tick_observed]
            have up : past.TouchUp := by
              cases before : past.overlaid with
              | true => exact (released before).touch
              | false => exact untouched.1 rfl before
            rw [consistent.sent]
            cases before : past.overlaid with
            | true =>
                refine ⟨⟨fun _ => trivial, fun _ => trivial, trivial⟩, fun _ => ?_⟩
                exact { released before with }
            | false =>
                constructor
                · exact ⟨fun _ => trivial, fun _ => ⟨rfl, rfl, rfl, fun _ => rfl⟩, fun _ => trivial,
                    trivial⟩
                · intro _
                  exact
                    { flags := rfl
                      leftTrigger := rfl
                      rightTrigger := rfl
                      rightButton := consistent.rightButton
                      touch := up
                      once := rfl }
        | false =>
            obtain ⟨plain, touched, shown, all, -⟩ := input.process_labels sample now
            obtain ⟨-, clear, -⟩ := clear_tick_observed plain touched all past
            rw [shown]
            refine ⟨⟨fun _ => trivial, ?_⟩, fun overlaid => ?_⟩
            · refine
                presses_nothing_without_overlay (past.observe (.tick false))
                  (plain ++ touched.map InputLabel.touch ++ [.done]) ?_ rfl
              rintro label member overlaid rfl
              obtain (here | here) | here := by
                simpa only [List.mem_append] using member
              · exact all.plain _ here
              · obtain ⟨_, -, same⟩ := List.mem_map.1 here
                contradiction
              · exact absurd (List.mem_singleton.1 here) InputLabel.noConfusion
            · exact absurd (clear.symm.trans overlaid) Bool.false_ne_true
      · contradiction

/-- The history of a run is true of its state. -/
theorem input_consistent {trace : List InputLabel} {input : VitaInput}
    (reached : inputMachine.Reaches trace input)
    : InputConsistent input (inputHistory trace) := by
  refine reached.invariant (fun trace input => InputConsistent input (inputHistory trace)) ?_ ?_
  · rintro input ⟨scale, rfl⟩
    exact
      { touch := .released _ (fun _ => rfl) (fun _ => rfl) rfl []
        active := rfl
        idle := rfl
        rightButton := rfl
        sent := rfl }
  · intro trace input choice after emitted consistent taken
    rw [inputHistory, List.foldl_append]
    exact consistent.step taken

/-- While the system overlay is up the host holds nothing, no label presses anything, and one
neutral report has been sent, in every run whose overlays come while no finger and no left
button is down. Witness: induction on the run, with the consistency of every state it passes.
-/
theorem overlay_holds_nothing {trace : List InputLabel} {input : VitaInput}
    (reached : inputMachine.Reaches trace input) (untouched : Guarded ComesUntouched trace)
    : Guarded PressesNothing trace
      ∧ ((inputHistory trace).overlaid = true → (inputHistory trace).Released) := by
  induction reached with
  | start initial => exact ⟨.nil _, fun overlaid => absurd overlaid Bool.false_ne_true⟩
  | next before taken ih =>
      obtain ⟨guarded, released⟩ := ih untouched.left
      obtain ⟨permitted, after⟩ :=
        (input_consistent before).step_released released taken
          (.of_allowedAfter untouched.allowedAfter)
      refine ⟨guarded.append permitted.allowedAfter, ?_⟩
      rw [inputHistory, List.foldl_append]
      exact after

/-- A tick at a time with one finger on the front panel or none, and the overlay up or not. -/
def fingerSample (time : Nat) (overlaid finger : Bool) : InputSample where
  pollTime := time
  now := time
  sendTime := time
  overlaid := some overlaid
  pad := some {}
  probe := some {}
  back := none
  zones := none
  front := some ⟨if finger then 1 else 0, fun _ => ⟨3, 100, 100⟩⟩

/-- What a tap of one finger shows, and the overlay that comes after it. -/
def tapBeforeOverlay : List InputLabel :=
  [.arrival, .touch .released,
    .tick false, .observed 20000 false,
    .touch (.frame ⟨1, fun _ => ⟨3, 100, 100⟩⟩), .touch (.contact 3 3),
    .touch (.touch true .down 3 50 50 1), .done,
    .tick false, .observed 40000 false,
    .touch (.frame ⟨0, fun _ => ⟨3, 100, 100⟩⟩), .touch (.touch true .up 3 50 50 0), .done,
    .tick true, .report VitaInput.neutralReport, .done]

theorem overlay_after_tap_holds_nothing
    : Guarded PressesNothing tapBeforeOverlay
      ∧ ((inputHistory tapBeforeOverlay).overlaid = true
        → (inputHistory tapBeforeOverlay).Released) := by
  have reached : inputMachine.Reaches tapBeforeOverlay _ :=
    inputMachine.reaches_run ⟨id, rfl⟩
      [.configure false true 1 id {}, .start, .tick (fingerSample 20000 false true),
        .tick (fingerSample 40000 false false), .tick (fingerSample 60000 true false)] rfl
  have permitted
      : AllPermitted InputHistory.observe InputHistory.ComesUntouched
          (inputHistory []) tapBeforeOverlay := by
    have up : (inputHistory (tapBeforeOverlay.take 13)).TouchUp :=
      ⟨by decide, rfl⟩
    refine ⟨trivial, trivial, fun overlaid => Bool.noConfusion overlaid, trivial, trivial, trivial,
      trivial, trivial, fun overlaid => Bool.noConfusion overlaid, trivial, trivial, trivial,
      trivial, fun _ _ => up, trivial, trivial, trivial⟩
  have guarded : Guarded ComesUntouched tapBeforeOverlay :=
    (Guarded.nil _).append permitted.allowedAfter
  exact overlay_holds_nothing reached guarded

/-- A finger that is down when the overlay comes stays down on the host. -/
theorem finger_held_under_overlay
    : ¬ ∀ trace input,
          inputMachine.Reaches trace input
          → (inputHistory trace).overlaid = true
          → (inputHistory trace).Released := by
  intro always
  have reached :=
    inputMachine.reaches_run ⟨id, rfl⟩
      [.configure false true 1 id {}, .start, .tick (fingerSample 20000 false true),
        .tick (fingerSample 40000 true true)] rfl
  have held : (some true : Option Bool) = none := (always _ _ reached rfl).touch.1 3
  contradiction

end VitaMoonlight
