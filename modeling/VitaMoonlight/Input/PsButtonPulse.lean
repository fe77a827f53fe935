import VitaMoonlight.Input.ControllerInput

/-! When a press of the PS button reaches the host: once it is released within half a second and
no second press follows it within a quarter of one.
-/

namespace VitaMoonlight

open Library

-----------------------------------------------------------------------------------------
-- The history of a run
-----------------------------------------------------------------------------------------

/-- A press as the ticks observe it: when it begins, and when it is released. -/
structure PsPress where
  began : Nat
  released : Option Nat := none
deriving DecidableEq

/-- What the labels have shown of the PS button: the last observation, the last press and the one
before it, as long as nothing has used or interrupted them, and whether the last report carries
the special button, and carried it when the current tick began.
-/
structure PsHistory where
  time : Nat := 0
  pressed : Bool := false
  edge : Bool := false
  press : Option PsPress := none
  before : Option PsPress := none
  special : Bool := false
  owed : Bool := false

namespace PsHistory

/-- The presses are used up, or interrupted. -/
def forget (past : PsHistory) : PsHistory :=
  { past with pressed := false, edge := false, press := none, before := none }

/-- The history after one more label. -/
def observe (past : PsHistory) : InputLabel → PsHistory
  | .tick overlaid =>
      let began := { past with owed := past.special }
      if overlaid then began.forget else began
  | .observed now pressed =>
      if pressed && !past.pressed then
        { past with
          time := now
          pressed := true
          edge := true
          press := some { began := now }
          before := past.press }
      else if !pressed && past.pressed then
        { past with
          time := now
          pressed := false
          edge := false
          press := past.press.map fun press => { press with released := some now } }
      else { past with time := now, edge := false }
  | .report report =>
      if .special ∈ report.flags then { past with special := true, press := none, before := none }
      else { past with special := false, owed := false }
  | .streamStop => { past with press := none, before := none }
  | .arrival | .stopped => past.forget
  | .rightButton _ | .touch _ | .done => past

/-- The label keeps to the rules of the PS button. A report with the special button belongs to
the last press, which has been released in time and has had its double-press window to itself;
a stream is stopped by the second press of a double press; and no tick and no stop ends before
the special button is up again.
-/
def KeepsPulses (past : PsHistory) : InputLabel → Prop
  | .report report =>
      .special ∈ report.flags
      → past.pressed = false
        ∧ ∃ began released,
            past.press = some { began, released := some released }
            ∧ began ≤ released
            ∧ released < began + 500000
            ∧ released + 250000 < past.time
  | .streamStop =>
      past.edge = true
      ∧ ∃ began released,
          past.before = some { began, released := some released }
          ∧ past.press = some { began := past.time }
          ∧ released ≤ past.time
          ∧ past.time ≤ released + 250000
  | .done => past.owed = false
  | .stopped => past.special = false
  | .tick _ | .observed _ _ | .rightButton _ | .touch _ | .arrival => True

/-- The clock is past its start and does not go back. -/
def ClockForward (past : PsHistory) : InputLabel → Prop
  | .observed now _ => 0 < now ∧ past.time ≤ now
  | _ => True

end PsHistory

/-- The history of a trace. -/
def psHistory (trace : List InputLabel) : PsHistory :=
  trace.foldl PsHistory.observe {}

/-- A label may follow a trace under the rules of the PS button. -/
def PulseAllowed (before : List InputLabel) (label : InputLabel) : Prop :=
  (psHistory before).KeepsPulses label

/-- The clock of the trace is past its start and does not go back. -/
def ClockForward (before : List InputLabel) (label : InputLabel) : Prop :=
  (psHistory before).ClockForward label

variable {past : PsHistory} {ps : PsButtonState}

-----------------------------------------------------------------------------------------
-- A pending press
-----------------------------------------------------------------------------------------

/-- A pending press is the last one observed: still down, or released in time. -/
structure PsPending (ps : PsButtonState) (past : PsHistory) : Prop where
  down
    : ps.singlePending = true
      → ps.releaseTime = 0
      → past.pressed = true
        ∧ past.press = some { began := ps.pressTime }
        ∧ 0 < ps.pressTime
        ∧ ps.pressTime ≤ past.time
  up
    : ps.singlePending = true
      → ps.releaseTime ≠ 0
      → past.pressed = false
        ∧ ∃ began,
            past.press = some { began, released := some ps.releaseTime }
            ∧ began ≤ ps.releaseTime
            ∧ ps.releaseTime < began + 500000
            ∧ ps.releaseTime ≤ past.time

theorem PsPending.none (idle : ps.singlePending = false) : PsPending ps past where
  down pending := absurd (idle.symm.trans pending) Bool.false_ne_true
  up pending := absurd (idle.symm.trans pending) Bool.false_ne_true

/-- Nothing but time passes for a press that is observed again as it was. -/
theorem PsPending.wait (pending : PsPending ps past) {now : Nat} (forward : past.time ≤ now)
    : PsPending ps { past with time := now, edge := false } where
  down single down := by
    obtain ⟨pressed, press, started, time⟩ := pending.down single down
    exact ⟨pressed, press, started, time.trans forward⟩
  up single up := by
    obtain ⟨released, began, press, order, short, time⟩ := pending.up single up
    exact ⟨released, began, press, order, short, time.trans forward⟩

/-- A press that is down becomes pending with its release, unless it was held for too long. -/
theorem PsPending.release (pending : PsPending ps past) (was : past.pressed = true) {now : Nat}
    (started : 0 < now) (forward : past.time ≤ now)
    : PsPending { ps.release now with pressTime := 0 }
        { past with
          time := now
          pressed := false
          edge := false
          press := past.press.map fun press => { press with released := some now } } := by
  unfold PsButtonState.release
  by_cases single : ps.singlePending = true
  · rw [if_pos single]
    have down : ps.releaseTime = 0 := by
      by_contra up
      exact absurd (was.symm.trans (pending.up single up).1) Bool.true_eq_false.mp
    obtain ⟨-, press, pressed, time⟩ := pending.down single down
    split
    · exact .none rfl
    · rename_i short
      refine ⟨fun _ released => ?_, fun _ _ => ⟨rfl, ps.pressTime, ?_, ?_, ?_, le_rfl⟩⟩
      · dsimp only at released
        omega
      · dsimp only
        rw [press]
        rfl
      · exact time.trans forward
      · dsimp only
        omega
  · rw [if_neg single]
    exact .none (Bool.eq_false_iff.2 single)

/-- An observation keeps track of the pending press, by the edge it shows. -/
theorem PsPending.classify (pending : PsPending ps past) (old : ps.physicalOld = past.pressed)
    (now : Nat) (pressed : Bool) (started : 0 < now) (forward : past.time ≤ now)
    : PsPending (ps.classify now pressed) (past.observe (.observed now pressed)) := by
  unfold PsButtonState.classify
  simp only [PsHistory.observe]
  cases pressed with
  | true =>
      cases was : past.pressed with
      | false =>
          rw [was] at old
          simp only [old]
          exact ⟨fun _ _ => ⟨rfl, rfl, started, le_rfl⟩, fun _ released => absurd rfl released⟩
      | true =>
          rw [was] at old
          simp only [old, Bool.not_true, Bool.and_false, Bool.false_eq_true, if_false, Bool.false_and]
          split
          · exact .none rfl
          · simpa only [was] using pending.wait forward
  | false =>
      cases was : past.pressed with
      | true =>
          rw [was] at old
          simp only [old, Bool.false_and, Bool.false_eq_true, if_false, false_and, Bool.not_false,
            Bool.and_true, if_true]
          exact pending.release was started forward
      | false =>
          rw [was] at old
          simp only [old, Bool.false_and, Bool.false_eq_true, if_false, false_and, Bool.and_false]
          simpa only [was] using pending.wait forward

/-- When the window of a released press ends, the press is over and its pulse is due. -/
theorem PsPending.expire (pending : PsPending ps past) (now : Nat) (pressed : Bool)
    (time : past.time = now)
    : PsPending (ps.expire now pressed) past
      ∧ ((ps.expire now pressed).hostPulseState = ps.hostPulseState
          ∧ (ps.expire now pressed).singlePending = ps.singlePending
        ∨ (ps.expire now pressed).hostPulseState = 1
          ∧ (ps.expire now pressed).singlePending = false
          ∧ ps.singlePending = true
          ∧ ps.releaseTime ≠ 0
          ∧ past.pressed = false
          ∧ ∃ began released,
              past.press = some { began, released := some released }
              ∧ began ≤ released
              ∧ released < began + 500000
              ∧ released + 250000 < past.time) := by
  unfold PsButtonState.expire
  split
  · rename_i due
    obtain ⟨single, -, released, order, window⟩ := due
    obtain ⟨lifted, began, press, held, short, -⟩ := pending.up single released
    exact
      ⟨.none rfl,
        .inr
          ⟨rfl, rfl, single, released, lifted, began, ps.releaseTime, press, held, short,
            by omega⟩⟩
  · exact ⟨pending, .inl ⟨rfl, rfl⟩⟩

/-- A classification leaves the pulse alone. -/
theorem classify_pulse (ps : PsButtonState) (now : Nat) (pressed : Bool)
    : (ps.classify now pressed).hostPulseState = ps.hostPulseState := by
  unfold PsButtonState.classify PsButtonState.release
  repeat' split
  all_goals rfl

/-- A press becomes pending only with an edge. -/
theorem classify_single (ps : PsButtonState) (now : Nat) (pressed : Bool)
    (single : (ps.classify now pressed).singlePending = true)
    : ps.singlePending = true ∨ (ps.classify now pressed).releaseTime = 0 := by
  unfold PsButtonState.classify PsButtonState.release at *
  grind

-----------------------------------------------------------------------------------------
-- The parts of a tick
-----------------------------------------------------------------------------------------

/-- A report carries the special button while the pulse is in its first phase. -/
theorem special_mem_send (input : VitaInput) (back : BackButtons) (now : Nat)
    : .special ∈ (input.send back now).2.flags
      ↔ input.psButtonCapture = true ∧ input.ps.hostPulseState = 1 := by
  have flag
      : ∀ (pressed : Bool) (button : HostButton),
          .special ∈ (if pressed then [button] else [])
          ↔ pressed = true ∧ button = .special := by
    intro pressed button
    cases pressed <;> simp [eq_comm]
  unfold VitaInput.send VitaInput.buttonFlags
  dsimp only
  cases input.swapShoulderButtons <;> simp [flag]

/-- A label that neither carries the special button nor shows anything of the PS button. -/
def InputLabel.Quiet : InputLabel → Prop
  | .report sent => .special ∉ sent.flags
  | .rightButton _ | .touch _ => True
  | _ => False

/-- Quiet labels may follow and at most release the special button, by induction on them. -/
theorem quiet_labels (labels : List InputLabel) (quiet : ∀ label ∈ labels, label.Quiet)
    (past : PsHistory)
    : AllPermitted PsHistory.observe PsHistory.KeepsPulses past labels
      ∧ ∃ special owed,
          labels.foldl PsHistory.observe past = { past with special, owed }
          ∧ (special = true → past.special = true)
          ∧ ((past.owed = true → past.special = true) → owed = true → special = true) := by
  induction labels generalizing past with
  | nil => exact ⟨trivial, past.special, past.owed, rfl, id, id⟩
  | cons label rest ih =>
      rw [List.forall_mem_cons] at quiet
      obtain ⟨permitted, special, owed, observed, less, fewer⟩ := ih quiet.2 (past.observe label)
      cases label with
      | report report =>
          have plain : .special ∉ report.flags := quiet.1
          simp only [PsHistory.observe, if_neg plain] at observed less fewer
          refine ⟨⟨fun carried => absurd carried plain, permitted⟩, special, owed, ?_, ?_, ?_⟩
          · simp only [List.foldl_cons, PsHistory.observe, if_neg plain]
            exact observed
          · exact fun carried => absurd (less carried) Bool.false_ne_true
          · exact fun _ => fewer fun carried => Bool.noConfusion carried
      | rightButton _ | touch _ => exact ⟨⟨trivial, permitted⟩, special, owed, observed, less, fewer⟩
      | _ => exact absurd quiet.1 id

theorem touchZones_quiet (input : VitaInput) (front : Option TouchFrame)
    : ∀ label ∈ (input.touchZones front).2, label.Quiet := by
  unfold VitaInput.touchZones
  dsimp only
  repeat' split
  all_goals simp [InputLabel.Quiet, VitaInput.stickReport]

theorem sendChanges_ps (input : VitaInput) (now : Nat)
    : (input.sendChanges now).1.ps = input.ps.reported := by
  unfold VitaInput.sendChanges
  dsimp only
  split
  · dsimp only
    rw [(input.send_keepsPs _ now).ps]
  · rename_i same
    have idle : input.ps.hostPulseState = 0 := by
      by_contra pulse
      exact same (.inr (.inr pulse))
    simp [PsButtonState.reported, idle]

/-- What is sent of the controller: nothing while there is no pulse, or one report that carries
the special button in the pulse's first phase.
-/
theorem sendChanges_reports (input : VitaInput) (now : Nat)
    : (input.sendChanges now).2 = [] ∧ input.ps.hostPulseState = 0
      ∨ ∃ report,
          (input.sendChanges now).2 = [.report report]
          ∧ (.special ∈ report.flags
            ↔ input.psButtonCapture = true ∧ input.ps.hostPulseState = 1) := by
  unfold VitaInput.sendChanges
  dsimp only
  split
  · exact .inr ⟨_, rfl, special_mem_send input _ now⟩
  · rename_i same
    refine .inl ⟨rfl, ?_⟩
    by_contra pulse
    exact same (.inr (.inr pulse))

/-- The PS button between two parts of a tick that leave it alone. -/
structure PsReady (capture : Bool) (ps : PsButtonState) (past : PsHistory) : Prop where
  old : capture = true → ps.physicalOld = past.pressed
  pending : PsPending ps past
  pulse : ps.hostPulseState = 0 ∨ ps.hostPulseState = 2 ∧ ps.singlePending = false
  special : past.special = true → ps.hostPulseState = 2
  free : capture = false → past.pressed = false ∧ ps.singlePending = false ∧ ps.hostPulseState = 0

/-- The PS button stays as it is when at most the special button is released. -/
theorem PsReady.weaken {capture special owed : Bool} (ready : PsReady capture ps past)
    (less : special = true → past.special = true)
    : PsReady capture ps { past with special, owed } :=
  ⟨ready.old, ⟨ready.pending.down, ready.pending.up⟩, ready.pulse,
    fun carried => ready.special (less carried), ready.free⟩

/-- The touch panel shows nothing of the PS button. -/
theorem touch_labels_quiet (labels : List TouchLabel) (past : PsHistory)
    : AllPermitted PsHistory.observe PsHistory.KeepsPulses past (labels.map InputLabel.touch)
      ∧ (labels.map InputLabel.touch).foldl PsHistory.observe past = past := by
  induction labels with
  | nil => exact ⟨trivial, rfl⟩
  | cons label rest ih => exact ⟨⟨trivial, ih.1⟩, ih.2⟩

/-- The end of a tick starts a pulse that is due, ends one that was sent, and otherwise reports
without the special button.
-/
theorem forward_keeps_pulses (input : VitaInput) (sample : InputSample) (past : PsHistory)
    (old : input.psButtonCapture = true → input.ps.physicalOld = past.pressed)
    (pending : PsPending input.ps past)
    (pulse
      : input.ps.hostPulseState = 0
        ∨ input.ps.hostPulseState = 2
        ∨ input.ps.hostPulseState = 1
          ∧ input.psButtonCapture = true
          ∧ input.ps.singlePending = false
          ∧ past.owed = false
          ∧ past.pressed = false
          ∧ ∃ began released,
              past.press = some { began, released := some released }
              ∧ began ≤ released
              ∧ released < began + 500000
              ∧ released + 250000 < past.time)
    (special : past.special = true → input.ps.hostPulseState = 2)
    (owed : past.owed = true → past.special = true)
    (free
      : input.psButtonCapture = false
        → past.pressed = false ∧ input.ps.singlePending = false ∧ input.ps.hostPulseState = 0)
    : AllPermitted PsHistory.observe PsHistory.KeepsPulses past (input.forward sample).2
      ∧ PsReady input.psButtonCapture (input.forward sample).1.ps
          ((input.forward sample).2.foldl PsHistory.observe past)
      ∧ ((input.forward sample).2.foldl PsHistory.observe past).owed = false := by
  have after : (input.forward sample).1.ps = input.ps.reported :=
    sendChanges_ps input sample.sendTime
  have sent : (input.forward sample).2
      = (input.sendChanges sample.sendTime).2
        ++ (((input.sendChanges sample.sendTime).1.touch.process sample.front).2.map
          InputLabel.touch) := rfl
  have quiet :=
    touch_labels_quiet ((input.sendChanges sample.sendTime).1.touch.process sample.front).2
  rw [after, sent, allPermitted_append, List.foldl_append, (quiet _).2,
    and_iff_left (quiet _).1]
  obtain ⟨nothing, idle⟩ | ⟨report, shown, carries⟩ := sendChanges_reports input sample.sendTime
  · have plain : past.special = false := by
      rw [Bool.eq_false_iff]
      intro carried
      have pulsing := special carried
      omega
    have same : input.ps.reported = input.ps := by
      simp [PsButtonState.reported, idle]
    rw [nothing, same]
    refine ⟨trivial, ⟨old, pending, .inl idle, special, free⟩, ?_⟩
    exact Bool.eq_false_iff.2 fun carried => Bool.false_ne_true (plain.symm.trans (owed carried))
  · rw [shown]
    obtain idle | ending | ⟨starting, captured, finished, clear, due⟩ := pulse
    · have plain : .special ∉ report.flags := by
        rw [carries]
        omega
      have same : input.ps.reported = input.ps := by
        simp [PsButtonState.reported, idle]
      rw [same]
      simp only [List.foldl_cons, List.foldl_nil, PsHistory.observe, if_neg plain]
      exact
        ⟨⟨fun carried => absurd carried plain, trivial⟩,
          ⟨old, ⟨pending.down, pending.up⟩, .inl idle, fun carried => Bool.noConfusion carried, free⟩,
          trivial⟩
    · have plain : .special ∉ report.flags := by
        rw [carries]
        omega
      have ended : input.ps.reported = { input.ps with hostPulseState := 0 } := by
        simp [PsButtonState.reported, ending]
      rw [ended]
      simp only [List.foldl_cons, List.foldl_nil, PsHistory.observe, if_neg plain]
      exact
        ⟨⟨fun carried => absurd carried plain, trivial⟩,
          ⟨old, ⟨pending.down, pending.up⟩, .inl rfl, fun carried => Bool.noConfusion carried,
            fun off => ⟨(free off).1, (free off).2.1, rfl⟩⟩,
          trivial⟩
    · have carried : .special ∈ report.flags := carries.2 ⟨captured, starting⟩
      have started : input.ps.reported = { input.ps with hostPulseState := 2 } := by
        simp [PsButtonState.reported, starting]
      rw [started]
      simp only [List.foldl_cons, List.foldl_nil, PsHistory.observe, if_pos carried]
      exact
        ⟨⟨fun _ => due, trivial⟩,
          ⟨old, .none finished, .inr ⟨rfl, finished⟩, fun _ => rfl,
            fun off => absurd (captured.symm.trans off) Bool.true_eq_false.mp⟩,
          clear⟩

/-- A double press is one of two observed presses. -/
theorem double_press_keeps_pulses (input : VitaInput) (now : Nat) (pressed : Bool)
    (ready : PsReady input.psButtonCapture input.ps past)
    (captured : input.psButtonCapture = true)
    (double : (pressed && !input.ps.physicalOld && input.ps.isDoublePress now) = true)
    (owed : past.owed = true → past.special = true)
    : AllPermitted PsHistory.observe PsHistory.KeepsPulses past [.observed now pressed, .streamStop]
      ∧ PsReady input.psButtonCapture (input.doublePressed pressed).ps
          ([InputLabel.observed now pressed, .streamStop].foldl PsHistory.observe past)
      ∧ ([InputLabel.observed now pressed, .streamStop].foldl PsHistory.observe past).owed
        = false := by
  simp only [PsButtonState.isDoublePress, Bool.and_eq_true, Bool.not_eq_true', decide_eq_true_eq]
    at double
  obtain ⟨⟨rfl, was⟩, ⟨⟨single, released⟩, order⟩, window⟩ := double
  have up : past.pressed = false := (ready.old captured).symm.trans was
  obtain ⟨-, began, press, -⟩ := ready.pending.up single released
  have idle : input.ps.hostPulseState = 0 := by
    obtain idle | ⟨-, finished⟩ := ready.pulse
    · exact idle
    · exact absurd (single.symm.trans finished) Bool.true_eq_false.mp
  have plain : past.special = false := by
    rw [Bool.eq_false_iff]
    intro carried
    have pulsing := ready.special carried
    omega
  have shown
      : past.observe (.observed now true)
        = { past with
            time := now
            pressed := true
            edge := true
            press := some { began := now }
            before := past.press } := by
    simp [PsHistory.observe, up]
  simp only [List.foldl_cons, List.foldl_nil, AllPermitted, shown]
  refine ⟨⟨trivial, ⟨rfl, began, input.ps.releaseTime, press, rfl, order, ?_⟩, trivial⟩, ?_, ?_⟩
  · dsimp only
    omega
  · exact
      { old := fun _ => rfl
        pending := .none rfl
        pulse := .inl rfl
        special := fun carried => absurd (plain.symm.trans carried) Bool.false_ne_true
        free := fun off => absurd (captured.symm.trans off) Bool.true_eq_false.mp }
  · exact Bool.eq_false_iff.2 fun late => Bool.false_ne_true (plain.symm.trans (owed late))

/-- What an observation leaves of the history. -/
theorem observe_observed (past : PsHistory) (now : Nat) (pressed : Bool)
    : (past.observe (.observed now pressed)).time = now
      ∧ (past.observe (.observed now pressed)).pressed = pressed
      ∧ (past.observe (.observed now pressed)).special = past.special
      ∧ (past.observe (.observed now pressed)).owed = past.owed := by
  unfold PsHistory.observe
  cases pressed <;> cases past.pressed <;> simp

/-- The classification and the end of a tick keep to the rules of the PS button. -/
theorem processPs_keeps_pulses (input : VitaInput) (sample : InputSample) (pressed : Bool)
    (ready : PsReady input.psButtonCapture input.ps past)
    (owed : past.owed = true → past.special = true)
    (clock
      : AllPermitted PsHistory.observe PsHistory.ClockForward past
          (input.processPs sample pressed).2)
    : AllPermitted PsHistory.observe PsHistory.KeepsPulses past (input.processPs sample pressed).2
      ∧ PsReady input.psButtonCapture (input.processPs sample pressed).1.ps
          ((input.processPs sample pressed).2.foldl PsHistory.observe past)
      ∧ ((input.processPs sample pressed).2.foldl PsHistory.observe past).owed = false := by
  unfold VitaInput.processPs at clock ⊢
  by_cases captured : input.psButtonCapture = true
  · rw [if_pos captured] at clock ⊢
    by_cases double : (pressed && !input.ps.physicalOld && input.ps.isDoublePress sample.now) = true
    · rw [if_pos double]
      exact double_press_keeps_pulses input sample.now pressed ready captured double owed
    · rw [if_neg double] at clock ⊢
      obtain ⟨⟨started, forward⟩, -⟩ := clock
      have pending :=
        ready.pending.classify (ready.old captured) sample.now pressed started forward
      obtain ⟨time, pressed_eq, special, late⟩ := observe_observed past sample.now pressed
      obtain ⟨after, pulse⟩ := pending.expire sample.now pressed time
      rw [classify_pulse] at pulse
      -- A pulse that is still to be ended leaves no press pending.
      have apart
          : (input.ps.classify sample.now pressed).singlePending = true
            → (input.ps.classify sample.now pressed).releaseTime ≠ 0
            → past.special = false := by
        intro single released
        rw [Bool.eq_false_iff]
        intro carried
        have ending := ready.special carried
        obtain idle | ⟨-, finished⟩ := ready.pulse
        · omega
        · obtain before | fresh := classify_single input.ps sample.now pressed single
          · exact absurd (finished.symm.trans before) Bool.false_ne_true
          · exact released fresh
      have step :=
        forward_keeps_pulses (input.classified sample.now pressed) sample
          (past.observe (.observed sample.now pressed)) (fun _ => pressed_eq.symm)
          ⟨after.down, after.up⟩ ?_ ?_ ?_ ?_
      · exact ⟨⟨trivial, step.1⟩, step.2⟩
      · obtain ⟨same, -⟩ | ⟨starting, finished, single, released, due⟩ := pulse
        · rw [VitaInput.classified]
          dsimp only
          rw [same]
          obtain idle | ⟨ending, -⟩ := ready.pulse
          · exact .inl idle
          · exact .inr (.inl ending)
        · refine .inr (.inr ⟨starting, captured, finished, ?_, due⟩)
          rw [late, Bool.eq_false_iff]
          exact fun behind =>
            Bool.false_ne_true ((apart single released).symm.trans (owed behind))
      · intro carried
        rw [special] at carried
        obtain ⟨same, -⟩ | ⟨-, -, single, released, -⟩ := pulse
        · exact same.trans (ready.special carried)
        · exact absurd ((apart single released).symm.trans carried) Bool.false_ne_true
      · rw [late, special]
        exact owed
      · exact fun off => absurd (captured.symm.trans off) Bool.true_eq_false.mp
  · rw [if_neg captured]
    have off := Bool.eq_false_iff.2 captured
    obtain ⟨up, single, idle⟩ := ready.free off
    exact
      forward_keeps_pulses { input with ps := { input.ps with physicalOld := pressed } } sample past
        (fun on => absurd on captured) ⟨ready.pending.down, ready.pending.up⟩ (.inl idle)
        ready.special owed (fun _ => ⟨up, single, idle⟩)

-----------------------------------------------------------------------------------------
-- One step
-----------------------------------------------------------------------------------------

/-- What the input knows of the PS button is what the labels have shown; an overlay makes it
forget both, and an input that is stopped knows nothing.
-/
structure PsConsistent (input : VitaInput) (past : PsHistory) : Prop where
  ready : PsReady input.psButtonCapture input.ps past
  sent : past.special = true → input.overlayReleaseSent = false
  ignoring : input.ignorePsUntilRelease = true → past.pressed = false ∧ past.special = false
  idle : input.active = false → input.ps = {} ∧ past.pressed = false ∧ past.special = false

/-- Nothing is known of the PS button and nothing has been shown. -/
theorem PsReady.cleared (capture : Bool) (up : past.pressed = false) (plain : past.special = false)
    : PsReady capture {} past where
  old _ := up.symm
  pending := .none rfl
  pulse := .inl rfl
  special carried := absurd (plain.symm.trans carried) Bool.false_ne_true
  free _ := ⟨up, rfl, rfl⟩

variable {input : VitaInput}

/-- The sampling keeps track of the PS button, and forgets it after an overlay. -/
theorem samplePad_ready (input : VitaInput) (sample : InputSample)
    (ready : PsReady input.psButtonCapture input.ps past)
    (ignoring : input.ignorePsUntilRelease = true → past.pressed = false ∧ past.special = false)
    : PsReady (input.samplePad sample).1.psButtonCapture (input.samplePad sample).1.ps past := by
  unfold VitaInput.samplePad
  dsimp only
  split
  · rename_i ignored
    exact .cleared _ (ignoring ignored).1 (ignoring ignored).2
  · split
    · exact ⟨ready.old, ⟨ready.pending.down, ready.pending.up⟩, ready.pulse, ready.special,
        ready.free⟩
    · exact ready

theorem samplePad_ignoring (input : VitaInput) (sample : InputSample)
    (ignored : (input.samplePad sample).1.ignorePsUntilRelease = true)
    : (input.samplePad sample).1.ps = {} ∧ (input.samplePad sample).2 = false := by
  unfold VitaInput.samplePad at ignored ⊢
  dsimp only at ignored ⊢
  split at ignored
  · rename_i before
    rw [if_pos before]
    exact ⟨rfl, rfl⟩
  · rename_i heard
    split at ignored
    · exact absurd ignored heard
    · exact absurd ignored heard

/-- While the PS button is ignored after an overlay, a tick makes nothing of it. -/
theorem ignored_process (input : VitaInput) (sample : InputSample) (clear : input.ps = {})
    : (input.processPs sample false).1.ps = {} := by
  have forwarded
      : ∀ input : VitaInput, input.ps = {} → (input.forward sample).1.ps = {} := by
    intro input clear
    change (input.sendChanges sample.sendTime).1.ps = {}
    rw [sendChanges_ps, clear]
    rfl
  unfold VitaInput.processPs
  split
  · rw [if_neg (by simp)]
    refine forwarded _ ?_
    unfold VitaInput.classified
    rw [clear]
    rfl
  · refine forwarded _ ?_
    rw [clear]

/-- A tick without the overlay keeps to the rules of the PS button. -/
theorem PsConsistent.clear_tick (consistent : PsConsistent input past) (sample : InputSample)
    (clear : (input.pollSystemUi sample).overlaid = false)
    (active : input.active = true)
    (clock
      : AllPermitted PsHistory.observe PsHistory.ClockForward past (input.process sample).2)
    : AllPermitted PsHistory.observe PsHistory.KeepsPulses past (input.process sample).2
      ∧ PsConsistent (input.process sample).1
          ((input.process sample).2.foldl PsHistory.observe past) := by
  obtain ⟨stays, capture, unsent, -⟩ := input.begun_keeps sample
  have polled := input.pollSystemUi_keepsPs sample
  rcases pad : (input.begun sample).samplePad sample with ⟨sampled, pressed⟩
  rcases front : sampled.touchZones sample.zones with ⟨zoned, zones⟩
  have sampledKeeps := (input.begun sample).samplePad_keeps sample
  have zonedKeeps := sampled.touchZones_keeps sample.zones
  have zonedPs := sampled.touchZones_keepsPs sample.zones
  have quiet := touchZones_quiet sampled sample.zones
  rw [pad] at sampledKeeps
  rw [front] at zonedKeeps zonedPs quiet
  let began := past.observe (.tick false)
  obtain ⟨zonesPermitted, special, owed, observed, less, fewer⟩ := quiet_labels zones quiet began
  have ready : PsReady zoned.psButtonCapture zoned.ps (zones.foldl PsHistory.observe began) := by
    have before : PsReady sampled.psButtonCapture sampled.ps past := by
      have same := samplePad_ready (input.begun sample) sample
        (capture ▸ polled.ps ▸ consistent.ready) (polled.ignoring ▸ consistent.ignoring)
      rwa [pad] at same
    rw [zonedKeeps.capture, zonedPs.ps, observed]
    exact before.weaken less
  rw [input.process_of_clear sample clear pad front] at clock ⊢
  have sentClock := (allPermitted_append.1 (allPermitted_append.1 clock).1).2
  have behind
      : (zones.foldl PsHistory.observe began).owed = true
        → (zones.foldl PsHistory.observe began).special = true := by
    rw [observed]
    exact fewer id
  obtain ⟨permitted, after, upToDate⟩ :=
    processPs_keeps_pulses zoned sample pressed ready behind sentClock
  obtain ⟨activeKept, captureKept, sentKept, ignoringKept⟩ := zoned.processPs_keeps sample pressed
  have fold
      : (InputLabel.tick false :: zones ++ (zoned.processPs sample pressed).2
            ++ [InputLabel.done]).foldl PsHistory.observe past
        = (zoned.processPs sample pressed).2.foldl PsHistory.observe
            (zones.foldl PsHistory.observe began) := by
    rw [List.foldl_append, List.foldl_append]
    rfl
  rw [fold]
  constructor
  · refine .append (.append ⟨trivial, zonesPermitted⟩ permitted) ⟨?_, trivial⟩
    rw [List.foldl_append]
    exact upToDate
  · rw [← captureKept] at after
    refine ⟨after, fun _ => ?_, fun ignored => ?_, fun stopped => ?_⟩
    · exact sentKept.trans (zonedKeeps.sent.trans (sampledKeeps.sent.trans unsent))
    · rw [ignoringKept, zonedPs.ignoring] at ignored
      have nothing := samplePad_ignoring (input.begun sample) sample
      rw [pad] at nothing
      obtain ⟨forgotten, rfl⟩ := nothing ignored
      have cleared := ignored_process zoned sample (zonedPs.ps.trans forgotten)
      rw [cleared] at after
      refine ⟨?_, Bool.eq_false_iff.2 fun carried => ?_⟩
      · cases captured : (zoned.processPs sample false).1.psButtonCapture with
        | true => exact (after.old captured).symm
        | false => exact (after.free captured).1
      · exact absurd (after.special carried) (by decide)
    · rw [activeKept, zonedKeeps.active, sampledKeeps.active, stays, active] at stopped
      contradiction

/-- A tick under the overlay releases the special button, and makes the input and the history
forget what they know of the PS button.
-/
theorem PsConsistent.overlaid_tick (consistent : PsConsistent input past) (sample : InputSample)
    (overlaid : (input.pollSystemUi sample).overlaid = true)
    (active : input.active = true)
    : AllPermitted PsHistory.observe PsHistory.KeepsPulses past (input.process sample).2
      ∧ PsConsistent (input.process sample).1
          ((input.process sample).2.foldl PsHistory.observe past) := by
  have kept := input.pollSystemUi_keeps sample
  rw [input.process_of_overlaid sample overlaid]
  have forgotten
      : ∀ after : PsHistory,
          after.pressed = false
          → after.special = false
          → PsConsistent ((input.pollSystemUi sample).suppressForSystemUi sample).1 after := by
    intro after up plain
    refine ⟨.cleared _ up plain, fun carried => ?_, fun _ => ⟨up, plain⟩, fun stopped => ?_⟩
    · exact absurd (plain.symm.trans carried) Bool.false_ne_true
    · change (input.pollSystemUi sample).active = false at stopped
      rw [kept.active, active] at stopped
      contradiction
  cases sent : input.overlayReleaseSent with
  | true =>
      have plain : past.special = false := by
        rw [Bool.eq_false_iff]
        intro carried
        exact Bool.true_eq_false.mp (sent.symm.trans (consistent.sent carried))
      exact ⟨⟨trivial, plain, trivial⟩, forgotten _ rfl plain⟩
  | false =>
      refine ⟨⟨trivial, fun carried => ?_, rfl, trivial⟩, forgotten _ rfl rfl⟩
      exact absurd carried List.not_mem_nil

/-- Every step keeps to the rules of the PS button, as long as the clock goes forward. -/
theorem PsConsistent.step {choice : InputChoice} {after : VitaInput} {emitted : List InputLabel}
    (consistent : PsConsistent input past)
    (taken : inputStep input choice = some (after, emitted))
    (clock : AllPermitted PsHistory.observe PsHistory.ClockForward past emitted)
    : AllPermitted PsHistory.observe PsHistory.KeepsPulses past emitted
      ∧ PsConsistent after (emitted.foldl PsHistory.observe past) := by
  cases choice with
  | configure swap capture mode scale zone =>
      simp only [inputStep] at taken
      split at taken
      · contradiction
      · rename_i stopped
        cases taken
        obtain ⟨clear, up, plain⟩ := consistent.idle (Bool.eq_false_iff.2 stopped)
        refine ⟨trivial, { consistent with ready := ?_ }⟩
        change PsReady capture input.ps past
        rw [clear]
        exact .cleared capture up plain
  | setRuntime zones sprint ms mapping =>
      cases taken
      exact ⟨trivial, { consistent with }⟩
  | start =>
      simp only [inputStep] at taken
      split at taken
      · contradiction
      · rename_i stopped
        obtain ⟨rfl, rfl⟩ := Prod.ext_iff.1 (Option.some.inj taken)
        obtain ⟨clear, up, plain⟩ := consistent.idle (Bool.eq_false_iff.2 stopped)
        have quiet := touch_labels_quiet input.touch.start.2 past.forget
        have fold : input.start.2.foldl PsHistory.observe past = past.forget := quiet.2
        rw [fold]
        exact
          ⟨⟨trivial, quiet.1⟩,
            { ready := .cleared _ rfl plain
              sent := consistent.sent
              ignoring := fun ignored => Bool.noConfusion ignored
              idle := fun off => Bool.noConfusion off }⟩
  | stop =>
      obtain ⟨rfl, rfl⟩ := Prod.ext_iff.1 (Option.some.inj taken)
      have quiet := touch_labels_quiet input.touch.stop.2 past
      have released : .special ∉ ({} : ControllerReport).flags := List.not_mem_nil
      have fold
          : input.stop.2.foldl PsHistory.observe past
            = { past.forget with special := false, owed := false } := by
        change
          (input.touch.stop.2.map InputLabel.touch ++ [InputLabel.report {}, .stopped]).foldl
            PsHistory.observe past = _
        rw [List.foldl_append, quiet.2]
        rfl
      rw [fold]
      constructor
      · change
          AllPermitted _ _ past
            (input.touch.stop.2.map InputLabel.touch ++ [InputLabel.report {}, .stopped])
        refine .append quiet.1 ?_
        rw [quiet.2]
        exact ⟨fun carried => absurd carried released, rfl, trivial⟩
      · exact
          { ready := .cleared _ rfl rfl
            sent := fun carried => Bool.noConfusion carried
            ignoring := fun _ => ⟨rfl, rfl⟩
            idle := fun _ => ⟨rfl, rfl, rfl⟩ }
  | shellEvent psButton =>
      cases taken
      unfold VitaInput.shellEvent
      split
      · rename_i heard
        have ready := consistent.ready
        refine
          ⟨trivial,
            { consistent with
              ready :=
                ⟨ready.old, ⟨ready.pending.down, ready.pending.up⟩, ready.pulse, ready.special,
                  ready.free⟩
              idle := fun stopped => ?_ }⟩
        rw [show input.active = false from stopped] at heard
        contradiction
      · exact ⟨trivial, consistent⟩
  | tick sample =>
      simp only [inputStep] at taken
      split at taken
      · rename_i active
        obtain ⟨rfl, rfl⟩ := Prod.ext_iff.1 (Option.some.inj taken)
        cases now : (input.pollSystemUi sample).overlaid with
        | true => exact consistent.overlaid_tick sample now active
        | false => exact consistent.clear_tick sample now active clock
      · contradiction

-----------------------------------------------------------------------------------------
-- Runs
-----------------------------------------------------------------------------------------

/-- What the input knows of the PS button is what the labels have shown, and all of them keep to
its rules, in every run whose clock goes forward. Witness: induction on the run.
-/
theorem pulses_consistent {trace : List InputLabel} {input : VitaInput}
    (reached : inputMachine.Reaches trace input) (clock : Guarded ClockForward trace)
    : Guarded PulseAllowed trace ∧ PsConsistent input (psHistory trace) := by
  induction reached with
  | start initial =>
      obtain ⟨scale, rfl⟩ := initial
      exact
        ⟨.nil _,
          { ready := .cleared _ rfl rfl
            sent := fun carried => Bool.noConfusion carried
            ignoring := fun _ => ⟨rfl, rfl⟩
            idle := fun _ => ⟨rfl, rfl, rfl⟩ }⟩
  | next before taken ih =>
      obtain ⟨guarded, consistent⟩ := ih clock.left
      obtain ⟨permitted, after⟩ := consistent.step taken (.of_allowedAfter clock.allowedAfter)
      refine ⟨guarded.append permitted.allowedAfter, ?_⟩
      rw [psHistory, List.foldl_append]
      exact after

/-- A pulse follows a press that was released in time and had its double-press window to itself,
and is over with the next tick or stop; a stream is stopped by a double press.
-/
theorem ps_pulses_keep_rules {trace : List InputLabel} {input : VitaInput}
    (reached : inputMachine.Reaches trace input) (clock : Guarded ClockForward trace)
    : Guarded PulseAllowed trace :=
  (pulses_consistent reached clock).1

/-- A tick at a time with the PS button down or not, and the overlay up or not. -/
def psSample (time : Nat) (overlaid pressed : Bool) : InputSample where
  pollTime := time
  now := time
  sendTime := time
  overlaid := some overlaid
  pad := some { buttons := { psButton := pressed } }
  probe := none
  back := none
  zones := none
  front := none

/-- A report with the given flags and the sticks at one end. -/
def psReport (flags : List HostButton) : ControllerReport where
  flags := flags
  lx := -32640
  ly := 32640
  rx := -32640
  ry := 32640

/-- What a short press of the PS button shows. -/
def singleTap : List InputLabel :=
  [.arrival, .touch .released,
    .tick false, .observed 1000000 true, .done,
    .tick false, .observed 1010000 false, .done,
    .tick false, .observed 1270000 false, .report (psReport [.special]), .done,
    .tick false, .observed 1280000 false, .report (psReport []), .done]

set_option maxRecDepth 4000 in
theorem singleTap_keeps_rules : Guarded PulseAllowed singleTap := by
  have reached : inputMachine.Reaches singleTap _ :=
    inputMachine.reaches_run ⟨id, rfl⟩
      [.start, .tick (psSample 1000000 false true), .tick (psSample 1010000 false false),
        .tick (psSample 1270000 false false), .tick (psSample 1280000 false false)] rfl
  have forward
      : AllPermitted PsHistory.observe PsHistory.ClockForward (psHistory []) singleTap := by
    simp [singleTap, AllPermitted, PsHistory.ClockForward, PsHistory.observe, psHistory,
      PsHistory.forget, psReport]
  exact ps_pulses_keep_rules reached ((Guarded.nil _).append forward.allowedAfter)

/-- The times at which the labels show presses to begin. -/
def pressEdges : PsHistory → List InputLabel → List Nat
  | _, [] => []
  | past, label :: rest =>
      (match label with
        | .observed now true => if past.pressed then [] else [now]
        | _ => [])
      ++ pressEdges (past.observe label) rest

/-- The times at which the labels show presses to begin and to be released. -/
def taps : PsHistory → List InputLabel → List (Nat × Nat)
  | _, [] => []
  | past, label :: rest =>
      (match label, past.press with
        | .observed now false, some press => if past.pressed then [(press.began, now)] else []
        | _, _ => [])
      ++ taps (past.observe label) rest

/-- A pulse stems from a press of less than half a second without another press that begins within
a quarter of a second of its release, before or after.
-/
def SingleTap (before : List InputLabel) : InputLabel → Prop
  | .report report =>
      .special ∈ report.flags
      → ∃ tap ∈ taps {} before,
          tap.2 < tap.1 + 500000
          ∧ ∀ edge ∈ pressEdges {} before,
              edge = tap.1 ∨ edge + 250000 < tap.2 ∨ tap.2 + 250000 < edge
  | _ => True

/-- What two presses show when the overlay interrupts the first one. -/
def interruptedTap : List InputLabel :=
  [.arrival, .touch .released,
    .tick false, .observed 1000000 true, .done,
    .tick true, .report VitaInput.neutralReport, .done,
    .tick false, .observed 1040000 false, .done,
    .tick false, .observed 1060000 true, .done,
    .tick false, .observed 1080000 false, .done,
    .tick false, .observed 1340000 false, .report (psReport [.special]), .done]

/-- What a press of 600 ms shows that begins at the time 0. -/
def holdFromZero : List InputLabel :=
  [.arrival, .touch .released,
    .tick false, .observed 0 true, .done,
    .tick false, .observed 600000 false, .done,
    .tick false, .observed 860000 false, .report (psReport [.special]), .done]

set_option maxRecDepth 4000 in
/-- A press that follows an interrupted one makes a pulse although another press began within a
quarter of a second of its release, and a press from the time 0 makes one however long it lasts.
-/
theorem pulses_without_single_tap
    : (∃ input, inputMachine.Reaches interruptedTap input)
      ∧ (∃ input, inputMachine.Reaches holdFromZero input)
      ∧ ¬ Guarded SingleTap interruptedTap
      ∧ ¬ Guarded SingleTap holdFromZero := by
  have interrupted : inputMachine.Reaches interruptedTap _ :=
    inputMachine.reaches_run ⟨id, rfl⟩
      [.start, .tick (psSample 1000000 false true), .tick (psSample 1020000 true false),
        .tick (psSample 1040000 false false), .tick (psSample 1060000 false true),
        .tick (psSample 1080000 false false), .tick (psSample 1340000 false false)] rfl
  have held : inputMachine.Reaches holdFromZero _ :=
    inputMachine.reaches_run ⟨id, rfl⟩
      [.start, .tick (psSample 0 false true), .tick (psSample 600000 false false),
        .tick (psSample 860000 false false)] rfl
  refine ⟨⟨_, interrupted⟩, ⟨_, held⟩, fun always => ?_, fun always => ?_⟩
  · have tap :=
      always (interruptedTap.take 19) (.report (psReport [.special])) [.done] rfl (by decide)
    exact absurd tap (by decide)
  · have tap :=
      always (holdFromZero.take 10) (.report (psReport [.special])) [.done] rfl (by decide)
    exact absurd tap (by decide)

end VitaMoonlight
