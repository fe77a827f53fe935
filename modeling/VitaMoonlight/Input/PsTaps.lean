import VitaMoonlight.Input.PsButtonPulse

/-! Which taps of the PS button reach the host. The labels of a run that concern the button are read
by an automaton that knows what has to follow each observation, and from it follows what becomes of
a tap.
-/

namespace VitaMoonlight

open Library

-----------------------------------------------------------------------------------------
-- The labels of the PS button
-----------------------------------------------------------------------------------------

/-- What the input makes of the PS button: a pulse for the host, or a stop of the stream by a double
press.
-/
inductive PsReply
  | pulse
  | streamStop
deriving DecidableEq

/-- What a run shows of the PS button: observations, replies to them, and interruptions by the
overlay, a start or a stop.
-/
inductive PsLabel
  | observed (now : Nat) (pressed : Bool)
  | replied (reply : PsReply)
  | interrupted
deriving DecidableEq

/-- What a label shows of the PS button. -/
def psLabel : InputLabel → Option PsLabel
  | .observed now pressed => some (.observed now pressed)
  | .report report => if .special ∈ report.flags then some (.replied .pulse) else none
  | .streamStop => some (.replied .streamStop)
  | .tick overlaid => if overlaid then some .interrupted else none
  | .arrival | .stopped => some .interrupted
  | .rightButton _ | .touch _ | .done => none

/-- What a trace shows of the PS button. -/
def psView (trace : List InputLabel) : List PsLabel := trace.filterMap psLabel

theorem psView_append (first second : List InputLabel)
    : psView (first ++ second) = psView first ++ psView second :=
  List.filterMap_append

/-- Quiet labels show nothing. -/
theorem psView_quiet {labels : List InputLabel} (quiet : ∀ label ∈ labels, label.Quiet)
    : psView labels = [] := by
  refine List.filterMap_eq_nil_iff.2 fun label member => ?_
  have still := quiet label member
  cases label with
  | report report => exact if_neg still
  | rightButton _ | touch _ => rfl
  | _ => exact absurd still id

theorem psView_touch (labels : List TouchLabel) : psView (labels.map InputLabel.touch) = [] := by
  refine psView_quiet fun label member => ?_
  obtain ⟨touched, -, rfl⟩ := List.mem_map.1 member
  trivial

-----------------------------------------------------------------------------------------
-- The automaton
-----------------------------------------------------------------------------------------

/-- What is known of the PS button, and the reply that has to come next. -/
structure PsAnswer where
  ps : PsButtonState := {}
  due : Option PsReply := none

/-- What decides the answers: not the report that follows a pulse, nor the shell's edge. -/
def PsButtonState.core (ps : PsButtonState) : PsButtonState :=
  { ps with hostPulseState := 0, shellEdge := false }

namespace PsAnswer

/-- The answer to an observation. -/
def observe (ps : PsButtonState) (now : Nat) (pressed : Bool) : PsAnswer :=
  if pressed && !ps.physicalOld && ps.isDoublePress now then
    { ps := { physicalOld := pressed }, due := some .streamStop }
  else
    let next := (ps.classify now pressed).expire now pressed
    { ps := { next with physicalOld := pressed }.core
      due := if next.hostPulseState = 1 then some .pulse else none }

/-- Reading one label; `none` refuses it. -/
def accept (answer : PsAnswer) (label : PsLabel) : Option PsAnswer :=
  match answer.due, label with
  | none, .observed now pressed => some (observe answer.ps now pressed)
  | none, .interrupted => some {}
  | none, .replied _ => none
  | some expected, .replied reply =>
      if reply = expected then some { answer with due := none } else none
  | some _, _ => none

section Accept

variable {answer : PsAnswer} (due : answer.due = none)

include due

theorem accept_observed (now : Nat) (pressed : Bool)
    : answer.accept (.observed now pressed) = some (observe answer.ps now pressed) := by
  simp only [accept, due]

theorem accept_interrupted : answer.accept .interrupted = some {} := by
  simp only [accept, due]

theorem accept_replied (reply : PsReply) : answer.accept (.replied reply) = none := by
  simp only [accept, due]

end Accept

/-- Reading labels. -/
def read (answer : PsAnswer) (labels : List PsLabel) : Option PsAnswer :=
  labels.foldlM accept answer

theorem read_append (answer : PsAnswer) (first second : List PsLabel)
    : answer.read (first ++ second) = (answer.read first).bind fun next => next.read second :=
  List.foldlM_append

theorem read_cons (answer : PsAnswer) (label : PsLabel) (rest : List PsLabel)
    : answer.read (label :: rest) = (answer.accept label).bind fun next => next.read rest :=
  List.foldlM_cons

end PsAnswer

theorem classify_core (ps : PsButtonState) (now : Nat) (pressed : Bool)
    : ps.core.classify now pressed = (ps.classify now pressed).core := by
  unfold PsButtonState.classify PsButtonState.release PsButtonState.core
  dsimp only
  repeat' split
  all_goals rfl

theorem expire_core (ps : PsButtonState) (now : Nat) (pressed : Bool)
    : (ps.core.expire now pressed).core = (ps.expire now pressed).core := by
  unfold PsButtonState.expire PsButtonState.core
  dsimp only
  split <;> rfl

/-- A pulse is due for the same reason in both. -/
theorem expire_core_pulse (ps : PsButtonState) (now : Nat) (pressed : Bool)
    (sent : ps.hostPulseState ≠ 1)
    : (ps.core.expire now pressed).hostPulseState = 1
      ↔ (ps.expire now pressed).hostPulseState = 1 := by
  unfold PsButtonState.expire PsButtonState.core
  dsimp only
  split
  · rfl
  · exact ⟨fun pulse => absurd pulse Nat.zero_ne_one, fun pulse => absurd pulse sent⟩

-----------------------------------------------------------------------------------------
-- Runs are answered
-----------------------------------------------------------------------------------------

/-- The answer is what the input knows of the PS button, as far as it observes it at all. -/
structure Answers (input : VitaInput) (answer : PsAnswer) : Prop where
  due : answer.due = none
  captured : input.psButtonCapture = true → answer.ps = input.ps.core
  free : input.psButtonCapture = false → answer.ps = {}
  sent : input.ps.hostPulseState ≠ 1
  ignoring : input.ignorePsUntilRelease = true → answer.ps = {}
  idle : input.active = false → input.ps = {} ∧ answer.ps = {}

variable {input : VitaInput} {answer : PsAnswer}

theorem reported_core (ps : PsButtonState) : ps.reported.core = ps.core := by
  unfold PsButtonState.reported PsButtonState.core
  repeat' split
  all_goals rfl

theorem reported_sent (ps : PsButtonState) : ps.reported.hostPulseState ≠ 1 := by
  unfold PsButtonState.reported
  grind

/-- The end of a tick shows the pulse that is due. -/
theorem psView_forward (input : VitaInput) (sample : InputSample)
    : psView (input.forward sample).2
      = if input.psButtonCapture = true ∧ input.ps.hostPulseState = 1 then [.replied .pulse] else [] := by
  have parts : (input.forward sample).2
      = (input.sendChanges sample.sendTime).2
        ++ (((input.sendChanges sample.sendTime).1.touch.process sample.front).2.map
          InputLabel.touch) := rfl
  rw [parts, psView_append, psView_touch, List.append_nil]
  obtain ⟨nothing, idle⟩ | ⟨report, shown, carries⟩ := sendChanges_reports input sample.sendTime
  · rw [nothing, if_neg (by omega)]
    rfl
  · rw [shown]
    by_cases carried : .special ∈ report.flags
    · rw [if_pos (carries.1 carried)]
      simp [psView, psLabel, carried]
    · rw [if_neg (mt carries.2 carried)]
      simp [psView, psLabel, carried]

/-- The answer to an observation that is no double press. -/
theorem observe_classified (now : Nat) (pressed : Bool)
    (single : ¬ (pressed && !input.ps.physicalOld && input.ps.isDoublePress now) = true)
    (sent : input.ps.hostPulseState ≠ 1)
    : PsAnswer.observe input.ps.core now pressed
      = { ps := (input.classified now pressed).ps.core
          due :=
            if (input.classified now pressed).ps.hostPulseState = 1 then some .pulse else none } := by
  have pulse :=
    expire_core_pulse (input.ps.classify now pressed) now pressed (by rwa [classify_pulse])
  have same := expire_core (input.ps.classify now pressed) now pressed
  rw [← classify_core] at pulse same
  refine (if_neg single).trans ?_
  exact congrArg₂ PsAnswer.mk
    (congrArg (fun ps : PsButtonState => { ps with physicalOld := pressed }) same)
    (if_congr pulse rfl rfl)

/-- What a tick observes is answered. -/
theorem Answers.processPs (answers : Answers input answer) (sample : InputSample) (pressed : Bool)
    : ∃ next,
        answer.read (psView (input.processPs sample pressed).2) = some next
        ∧ next.due = none
        ∧ (input.psButtonCapture = true → next.ps = (input.processPs sample pressed).1.ps.core)
        ∧ (input.psButtonCapture = false → next.ps = {})
        ∧ (input.processPs sample pressed).1.ps.hostPulseState ≠ 1 := by
  have forwarded (input : VitaInput) : (input.forward sample).1.ps = input.ps.reported :=
    sendChanges_ps input sample.sendTime
  obtain ⟨ps, due⟩ := answer
  obtain rfl : due = none := answers.due
  unfold VitaInput.processPs
  by_cases captured : input.psButtonCapture = true
  · obtain rfl : ps = input.ps.core := answers.captured captured
    rw [if_pos captured]
    by_cases double : (pressed && !input.ps.physicalOld && input.ps.isDoublePress sample.now) = true
    · rw [if_pos double]
      have answered
          : PsAnswer.observe input.ps.core sample.now pressed
            = { ps := { physicalOld := pressed }, due := some .streamStop } :=
        if_pos double
      refine ⟨{ ps := { physicalOld := pressed } }, ?_, rfl, fun _ => rfl, ?_, Nat.zero_ne_one⟩
      · change (PsAnswer.accept _ _).bind _ = _
        simp only [PsAnswer.accept, answered]
        rfl
      · exact fun free => absurd (captured.symm.trans free) Bool.true_eq_false.mp
    · rw [if_neg double]
      dsimp only
      have answered := observe_classified sample.now pressed double answers.sent
      refine ⟨{ ps := (input.classified sample.now pressed).ps.core }, ?_, rfl, fun _ => ?_, ?_, ?_⟩
      · have shown
            : psView
                (.observed sample.now pressed
                  :: ((input.classified sample.now pressed).forward sample).2)
              = .observed sample.now pressed
                  :: psView ((input.classified sample.now pressed).forward sample).2 :=
          rfl
        rw [shown, psView_forward, PsAnswer.read_cons]
        simp only [PsAnswer.accept, answered, Option.bind_some]
        by_cases pulse : (input.classified sample.now pressed).ps.hostPulseState = 1
        · rw [if_pos pulse, if_pos ⟨captured, pulse⟩]
          rfl
        · rw [if_neg pulse, if_neg fun both => pulse both.2]
          rfl
      · rw [forwarded, reported_core]
      · exact fun free => absurd (captured.symm.trans free) Bool.true_eq_false.mp
      · rw [forwarded]
        exact reported_sent _
  · rw [if_neg captured, psView_forward, if_neg fun both => captured both.1, forwarded]
    refine ⟨_, rfl, rfl, fun on => absurd on captured, answers.free, reported_sent _⟩

/-- The sampling keeps the answer, and forgets the button after an overlay. -/
theorem Answers.samplePad (answers : Answers input answer) (sample : InputSample)
    : Answers (input.samplePad sample).1 answer := by
  unfold VitaInput.samplePad
  dsimp only
  split
  · rename_i ignored
    have clear := answers.ignoring ignored
    exact
      { due := answers.due
        captured := fun _ => clear
        free := answers.free
        sent := Nat.zero_ne_one
        ignoring := fun _ => clear
        idle := fun off => ⟨rfl, clear⟩ }
  · split
    · exact
        { answers with
          captured := fun on => answers.captured on
          idle := fun off => ⟨by dsimp only; rw [(answers.idle off).1], (answers.idle off).2⟩ }
    · exact { answers with }

/-- What leaves the PS button alone keeps the answer. -/
theorem Answers.same (answers : Answers input answer) {after : VitaInput}
    (active : after.active = input.active) (capture : after.psButtonCapture = input.psButtonCapture)
    (kept : input.KeepsPs after)
    : Answers after answer where
  due := answers.due
  captured on := by
    rw [kept.ps]
    exact answers.captured (capture.symm.trans on)
  free off := answers.free (capture.symm.trans off)
  sent := by
    rw [kept.ps]
    exact answers.sent
  ignoring ignored := answers.ignoring (kept.ignoring.symm.trans ignored)
  idle off := by
    rw [kept.ps]
    exact answers.idle (active.symm.trans off)

/-- A tick without the overlay is answered. -/
theorem Answers.clear_tick (answers : Answers input answer) (sample : InputSample)
    (clear : (input.pollSystemUi sample).overlaid = false) (active : input.active = true)
    : ∃ next,
        answer.read (psView (input.process sample).2) = some next
        ∧ Answers (input.process sample).1 next := by
  obtain ⟨stays, capture, -, -⟩ := input.begun_keeps sample
  have polled := input.pollSystemUi_keepsPs sample
  have begun : Answers (input.begun sample) answer :=
    answers.same stays capture ⟨polled.ps, polled.ignoring⟩
  have sampledAnswers := begun.samplePad sample
  have sampledKeeps := (input.begun sample).samplePad_keeps sample
  have nothing := samplePad_ignoring (input.begun sample) sample
  rcases pad : (input.begun sample).samplePad sample with ⟨sampled, pressed⟩
  rw [pad] at sampledAnswers sampledKeeps nothing
  have zonedKeeps := sampled.touchZones_keeps sample.zones
  have zonedPs := sampled.touchZones_keepsPs sample.zones
  have quiet := touchZones_quiet sampled sample.zones
  rcases front : sampled.touchZones sample.zones with ⟨zoned, zones⟩
  rw [front] at zonedKeeps zonedPs quiet
  have zonedAnswers : Answers zoned answer :=
    sampledAnswers.same zonedKeeps.active zonedKeeps.capture zonedPs
  obtain ⟨next, read, due, captured, free, sent⟩ := zonedAnswers.processPs sample pressed
  obtain ⟨activeKept, captureKept, -, ignoringKept⟩ := zoned.processPs_keeps sample pressed
  rw [input.process_of_clear sample clear pad front]
  have view
      : psView (.tick false :: zones ++ (zoned.processPs sample pressed).2 ++ [.done])
        = psView (zoned.processPs sample pressed).2 := by
    rw [psView_append, List.cons_append]
    change psView (zones ++ (zoned.processPs sample pressed).2) ++ [] = _
    rw [List.append_nil, psView_append, psView_quiet quiet, List.nil_append]
  refine ⟨next, view.symm ▸ read, ⟨due, ?_, ?_, sent, fun ignored => ?_, fun off => ?_⟩⟩
  · exact fun on => captured (captureKept.symm.trans on)
  · exact fun off => free (captureKept.symm.trans off)
  · rw [ignoringKept, zonedPs.ignoring] at ignored
    obtain ⟨forgotten, rfl⟩ := nothing ignored
    have cleared := ignored_process zoned sample (zonedPs.ps.trans forgotten)
    cases on : zoned.psButtonCapture with
    | true =>
        rw [captured on, cleared]
        rfl
    | false => exact free on
  · rw [activeKept, zonedKeeps.active, sampledKeeps.active, stays, active] at off
    contradiction

/-- Everything about the button is forgotten. -/
theorem Answers.cleared {input : VitaInput} (clear : input.ps = {}) : Answers input {} where
  due := rfl
  captured _ := by
    rw [clear]
    rfl
  free _ := rfl
  sent := by
    rw [clear]
    exact Nat.zero_ne_one
  ignoring _ := rfl
  idle _ := ⟨clear, rfl⟩

theorem read_interrupted (due : answer.due = none) : answer.read [.interrupted] = some {} := by
  rw [PsAnswer.read_cons, PsAnswer.accept_interrupted due]
  rfl

/-- Every step is answered. -/
theorem Answers.step (answers : Answers input answer) {choice : InputChoice} {after : VitaInput}
    {emitted : List InputLabel} (taken : inputStep input choice = some (after, emitted))
    : ∃ next, answer.read (psView emitted) = some next ∧ Answers after next := by
  cases choice with
  | configure swap capture mode scale zone =>
      simp only [inputStep] at taken
      split at taken
      · contradiction
      · rename_i stopped
        cases taken
        obtain ⟨clear, nothing⟩ := answers.idle (Bool.eq_false_iff.2 stopped)
        obtain ⟨ps, due⟩ := answer
        obtain rfl : ps = {} := nothing
        obtain rfl : due = none := answers.due
        exact ⟨_, rfl, .cleared clear⟩
  | setRuntime zones sprint ms mapping =>
      cases taken
      exact ⟨answer, rfl, { answers with }⟩
  | start =>
      simp only [inputStep] at taken
      split at taken
      · contradiction
      · obtain ⟨rfl, rfl⟩ := Prod.ext_iff.1 (Option.some.inj taken)
        have view : psView input.start.2 = [.interrupted] :=
          congrArg (PsLabel.interrupted :: ·) (psView_touch input.touch.start.2)
        exact ⟨_, view.symm ▸ read_interrupted answers.due, .cleared rfl⟩
  | stop =>
      obtain ⟨rfl, rfl⟩ := Prod.ext_iff.1 (Option.some.inj taken)
      have view : psView input.stop.2 = [.interrupted] := by
        change psView (input.touch.stop.2.map .touch ++ [.report {}, .stopped]) = _
        rw [psView_append, psView_touch]
        rfl
      exact ⟨_, view.symm ▸ read_interrupted answers.due, .cleared rfl⟩
  | shellEvent psButton =>
      cases taken
      unfold VitaInput.shellEvent
      split
      · rename_i heard
        refine ⟨answer, rfl, { answers with captured := fun on => answers.captured on, idle := ?_ }⟩
        intro off
        rw [show input.active = false from off] at heard
        contradiction
      · exact ⟨answer, rfl, answers⟩
  | tick sample =>
      simp only [inputStep] at taken
      split at taken
      · rename_i active
        obtain ⟨rfl, rfl⟩ := Prod.ext_iff.1 (Option.some.inj taken)
        cases overlaid : (input.pollSystemUi sample).overlaid with
        | true =>
            rw [input.process_of_overlaid sample overlaid]
            refine ⟨{}, ?_, .cleared rfl⟩
            cases input.overlayReleaseSent <;> exact read_interrupted answers.due
        | false => exact answers.clear_tick sample overlaid active
      · contradiction

/-- What a run shows of the PS button is answered, by induction on the run. -/
theorem reaches_answered {trace : List InputLabel} {input : VitaInput}
    (reached : inputMachine.Reaches trace input)
    : ∃ answer, ({} : PsAnswer).read (psView trace) = some answer ∧ Answers input answer := by
  induction reached with
  | start initial =>
      obtain ⟨scale, rfl⟩ := initial
      exact ⟨{}, rfl, .cleared rfl⟩
  | next _ taken ih =>
      obtain ⟨answer, before, answers⟩ := ih
      obtain ⟨next, now, later⟩ := answers.step taken
      refine ⟨next, ?_, later⟩
      rw [psView_append, PsAnswer.read_append, before]
      exact now

-----------------------------------------------------------------------------------------
-- Taps
-----------------------------------------------------------------------------------------

/-- The button is down after a label. -/
def PsLabel.leaves (pressed : Bool) : PsLabel → Bool
  | .observed _ now => now
  | .interrupted => false
  | .replied _ => pressed

/-- The button is down after the labels. -/
def pressedAfter (labels : List PsLabel) : Bool := labels.foldl PsLabel.leaves false

/-- The time of an observation. -/
def PsLabel.time : PsLabel → Option Nat
  | .observed now _ => some now
  | .interrupted | .replied _ => none

/-- The time never goes back from one observation to the next. -/
def TimeOrdered (labels : List PsLabel) : Prop :=
  (labels.filterMap PsLabel.time).Pairwise (· ≤ ·)

/-- A press begins. -/
def PsLabel.isPress : PsLabel → Bool
  | .observed _ pressed => pressed
  | .interrupted | .replied _ => false

/-- The pulses before the next press. -/
def pulsesBeforePress (labels : List PsLabel) : Nat :=
  (labels.takeWhile fun label => !label.isPress).count (.replied .pulse)

theorem pulses_up (now : Nat) (rest : List PsLabel)
    : pulsesBeforePress (.observed now false :: rest) = pulsesBeforePress rest := by
  simp [pulsesBeforePress, PsLabel.isPress]

theorem pulses_interrupted (rest : List PsLabel)
    : pulsesBeforePress (.interrupted :: rest) = pulsesBeforePress rest := by
  simp [pulsesBeforePress, PsLabel.isPress]

theorem pulses_pulse (rest : List PsLabel)
    : pulsesBeforePress (.replied .pulse :: rest) = pulsesBeforePress rest + 1 := by
  simp [pulsesBeforePress, PsLabel.isPress]

/-- A press that begins after the labels and is down until its release, less than 500 ms later. -/
structure ShortTap (before during : List PsLabel) (began released : Nat) : Prop where
  edge : pressedAfter before = false
  held : ∀ label ∈ during, ∃ now, label = .observed now true
  short : released < began + 500000

/-- The first tick later than 250 ms after the release observes the button up: no press comes before
it and no interruption. A release at the time 0 counts as none.
-/
def WindowEnds (released : Nat) (rest : List PsLabel) : Prop :=
  released ≠ 0
  ∧ ∃ waiting now later,
      rest = waiting ++ .observed now false :: later
      ∧ released + 250000 < now
      ∧ ∀ label ∈ waiting, ∃ time, label = .observed time false

theorem WindowEnds.head {released : Nat} {label : PsLabel} {rest : List PsLabel}
    (ends : WindowEnds released (label :: rest))
    : ∃ time, label = .observed time false := by
  obtain ⟨-, waiting, now, later, split, -, up⟩ := ends
  cases waiting with
  | nil => exact ⟨now, (List.cons.inj split).1⟩
  | cons first others =>
      rw [(List.cons.inj split).1]
      exact up first List.mem_cons_self

/-- A tick within the window does not end it. -/
theorem windowEnds_cons {released now : Nat} {rest : List PsLabel}
    (early : ¬ released + 250000 < now)
    : WindowEnds released (.observed now false :: rest) ↔ WindowEnds released rest := by
  constructor
  · rintro ⟨filled, waiting, later, after, split, late, up⟩
    cases waiting with
    | nil =>
        obtain ⟨same, -⟩ := List.cons.inj split
        injection same with same
        exact absurd (same ▸ late) early
    | cons first others =>
        rw [List.forall_mem_cons] at up
        exact ⟨filled, others, later, after, (List.cons.inj split).2, late, up.2⟩
  · rintro ⟨filled, waiting, later, after, rfl, late, up⟩
    exact ⟨filled, .observed now false :: waiting, later, after, rfl, late,
      List.forall_mem_cons.2 ⟨⟨now, rfl⟩, up⟩⟩

namespace PsAnswer

/-- A press is down that may become a tap. -/
structure Down (answer : PsAnswer) (began : Nat) : Prop where
  due : answer.due = none
  calm : answer.ps.hostPulseState = 0
  single : answer.ps.singlePending = true
  press : answer.ps.pressTime = began
  old : answer.ps.physicalOld = true

/-- A tap waits for the end of its window. -/
structure Up (answer : PsAnswer) (released : Nat) : Prop where
  due : answer.due = none
  calm : answer.ps.hostPulseState = 0
  single : answer.ps.singlePending = true
  release : answer.ps.releaseTime = released
  old : answer.ps.physicalOld = false

/-- No pulse comes before the next press. -/
structure Spent (answer : PsAnswer) : Prop where
  due : answer.due = none
  calm : answer.ps.hostPulseState = 0
  spent
    : answer.ps.singlePending = false
      ∨ answer.ps.releaseTime = 0 ∧ answer.ps.physicalOld = false

theorem accept_pressed {answer next : PsAnswer} {label : PsLabel}
    (read : answer.accept label = some next)
    : next.ps.physicalOld = PsLabel.leaves answer.ps.physicalOld label := by
  obtain ⟨ps, due⟩ := answer
  cases due with
  | none =>
      cases label with
      | observed now pressed =>
          obtain rfl := Option.some.inj read
          unfold observe
          split <;> rfl
      | interrupted =>
          obtain rfl := Option.some.inj read
          rfl
      | replied reply => contradiction
  | some expected =>
      cases label with
      | observed now pressed => contradiction
      | interrupted => contradiction
      | replied reply =>
          simp only [accept] at read
          split at read
          · obtain rfl := Option.some.inj read
            rfl
          · contradiction

/-- The button is known to be down where the labels leave it down, by induction on them. -/
theorem read_pressed {labels : List PsLabel} {answer next : PsAnswer}
    (read : answer.read labels = some next)
    : next.ps.physicalOld = labels.foldl PsLabel.leaves answer.ps.physicalOld := by
  induction labels generalizing answer with
  | nil =>
      obtain rfl := Option.some.inj read
      rfl
  | cons label rest ih =>
      rw [read_cons] at read
      obtain ⟨between, first, later⟩ := Option.bind_eq_some_iff.1 read
      rw [ih later, accept_pressed first, List.foldl_cons]

/-- A new press is down. -/
theorem observe_press {ps : PsButtonState} (edge : ps.physicalOld = false) (now : Nat)
    (single : (observe ps now true).due = none)
    : (observe ps now true).Down now := by
  unfold observe at single ⊢
  split
  · rename_i double
    rw [if_pos double] at single
    contradiction
  · rename_i apart
    rw [if_neg apart] at single
    refine ⟨single, rfl, ?_, ?_, rfl⟩
    · simp [edge, PsButtonState.classify, PsButtonState.expire, PsButtonState.core]
    · simp [edge, PsButtonState.classify, PsButtonState.expire, PsButtonState.core]

/-- A press stays down while it is short. -/
theorem Down.held {answer : PsAnswer} {began now : Nat} (down : answer.Down began)
    (short : now < began + 500000)
    : (observe answer.ps now true).Down began := by
  have kept : answer.ps.classify now true = answer.ps := by
    have early : ¬ now - answer.ps.pressTime ≥ 500000 := by
      rw [down.press]
      omega
    simp [PsButtonState.classify, down.old, early]
  have same
      : observe answer.ps now true = { ps := { answer.ps with physicalOld := true }.core } := by
    unfold observe
    rw [if_neg (by simp [down.old]), kept]
    simp [PsButtonState.expire, down.calm]
  rw [same]
  exact ⟨rfl, rfl, down.single, down.press, rfl⟩

/-- A short press that is released is a tap. -/
theorem Down.released {answer : PsAnswer} {began now : Nat} (down : answer.Down began)
    (short : now < began + 500000)
    : (observe answer.ps now false).Up now := by
  have kept
      : answer.ps.classify now false = { answer.ps with releaseTime := now, pressTime := 0 } := by
    have early : ¬ now - answer.ps.pressTime ≥ 500000 := by
      rw [down.press]
      omega
    simp [PsButtonState.classify, PsButtonState.release, down.old, down.single, early]
  have same
      : observe answer.ps now false
        = { ps :=
              { answer.ps with releaseTime := now, pressTime := 0, physicalOld := false }.core } := by
    unfold observe
    rw [if_neg (by simp), kept]
    simp [PsButtonState.expire, down.calm]
  rw [same]
  exact ⟨rfl, rfl, down.single, rfl, rfl⟩

/-- A tap waits until its window has ended. -/
theorem Up.wait {answer : PsAnswer} {released now : Nat} (up : answer.Up released)
    (early : now ≤ released + 250000)
    : (observe answer.ps now false).Up released := by
  have same : observe answer.ps now false = { ps := answer.ps.core } := by
    have window : ¬ 250000 < now - answer.ps.releaseTime := by
      rw [up.release]
      omega
    have old := up.old
    unfold observe
    rw [if_neg (by simp)]
    simp [PsButtonState.classify, PsButtonState.expire, PsButtonState.core, old, window, up.calm]
  rw [same]
  exact ⟨rfl, rfl, up.single, up.release, up.old⟩

/-- A tap makes a pulse when its window has ended, and is over. -/
theorem Up.expire {answer : PsAnswer} {released now : Nat} (up : answer.Up released)
    (filled : released ≠ 0) (late : released + 250000 < now)
    : (observe answer.ps now false).due = some .pulse
      ∧ ({ observe answer.ps now false with due := none } : PsAnswer).Spent := by
  have ended : answer.ps.releaseTime ≤ now ∧ 250000 < now - answer.ps.releaseTime := by
    rw [up.release]
    omega
  have same
      : observe answer.ps now false
        = { ps := { answer.ps with singlePending := false, releaseTime := 0 }.core
            due := some .pulse } := by
    have old := up.old
    have present : answer.ps.releaseTime ≠ 0 := by rwa [up.release]
    unfold observe
    rw [if_neg (by simp)]
    simp [PsButtonState.classify, PsButtonState.expire, PsButtonState.core, old, ended, present,
      up.single]
  rw [same]
  exact ⟨rfl, rfl, rfl, .inl rfl⟩

/-- Without a tap that waits, the button makes nothing of being up. -/
theorem Spent.observe {answer : PsAnswer} (spent : answer.Spent) (now : Nat)
    : (PsAnswer.observe answer.ps now false).Spent := by
  have classified
      : (answer.ps.classify now false).singlePending = false
        ∨ (answer.ps.classify now false).releaseTime = 0 := by
    obtain idle | ⟨none, up⟩ := spent.spent
    · refine .inl ?_
      unfold PsButtonState.classify PsButtonState.release
      cases answer.ps.physicalOld <;> simp [idle]
    · exact .inr (by simp [PsButtonState.classify, up, none])
  have kept
      : (answer.ps.classify now false).expire now false = answer.ps.classify now false := by
    refine if_neg fun expired => ?_
    obtain idle | none := classified
    · exact Bool.false_ne_true (idle.symm.trans expired.1)
    · exact expired.2.2.1 none
  have calm : (answer.ps.classify now false).hostPulseState ≠ 1 := by
    rw [classify_pulse, spent.calm]
    exact Nat.zero_ne_one
  have same
      : PsAnswer.observe answer.ps now false
        = { ps := { answer.ps.classify now false with physicalOld := false }.core } := by
    unfold PsAnswer.observe
    rw [if_neg (by simp), kept]
    exact congrArg (PsAnswer.mk _) (if_neg calm)
  rw [same]
  exact ⟨rfl, rfl, classified.imp id fun none => ⟨none, rfl⟩⟩

/-- No pulse comes before the next press once the tap is over, by induction on the labels. -/
theorem Spent.no_pulse {labels : List PsLabel} {answer final : PsAnswer} (spent : answer.Spent)
    (read : answer.read labels = some final)
    : pulsesBeforePress labels = 0 := by
  induction labels generalizing answer with
  | nil => rfl
  | cons label rest ih =>
      rw [read_cons] at read
      obtain ⟨next, first, later⟩ := Option.bind_eq_some_iff.1 read
      cases label with
      | observed now pressed =>
          cases pressed with
          | true => rfl
          | false =>
              rw [accept_observed spent.due] at first
              obtain rfl := Option.some.inj first
              rw [pulses_up]
              exact ih (spent.observe now) later
      | interrupted =>
          rw [accept_interrupted spent.due] at first
          obtain rfl := Option.some.inj first
          rw [pulses_interrupted]
          exact ih ⟨rfl, rfl, .inl rfl⟩ later
      | replied reply => exact absurd (first.symm.trans (accept_replied spent.due reply)) (Option.some_ne_none _)

/-- A reply that is due comes next, or nothing comes. -/
theorem read_due {answer final : PsAnswer} {reply : PsReply} {rest : List PsLabel}
    (due : answer.due = some reply) (read : answer.read rest = some final)
    (settled : final.due = none)
    : ∃ later,
        rest = .replied reply :: later
        ∧ ({ answer with due := none } : PsAnswer).read later = some final := by
  obtain ⟨ps, due'⟩ := answer
  obtain rfl : due' = some reply := due
  cases rest with
  | nil =>
      obtain rfl := Option.some.inj read
      contradiction
  | cons label later =>
      rw [read_cons] at read
      obtain ⟨next, first, after⟩ := Option.bind_eq_some_iff.1 read
      cases label with
      | observed now pressed => contradiction
      | interrupted => contradiction
      | replied given =>
          simp only [accept] at first
          split at first
          · rename_i same
            obtain rfl := same
            obtain rfl := Option.some.inj first
            exact ⟨later, rfl, after⟩
          · contradiction

/-- A tap that waits makes one pulse before the next press exactly when its window ends with the
button up, by induction on the labels.
-/
theorem Up.pulse_iff {labels : List PsLabel} {answer final : PsAnswer} {released : Nat}
    (up : answer.Up released) (read : answer.read labels = some final) (settled : final.due = none)
    : pulsesBeforePress labels = 1 ↔ WindowEnds released labels := by
  by_cases filled : released = 0
  · have spent : answer.Spent := ⟨up.due, up.calm, .inr ⟨up.release.trans filled, up.old⟩⟩
    rw [spent.no_pulse read]
    exact ⟨fun none => absurd none Nat.zero_ne_one, fun ends => absurd filled ends.1⟩
  induction labels generalizing answer with
  | nil =>
      refine ⟨fun none => absurd none Nat.zero_ne_one, fun ⟨_, waiting, now, later, split, _⟩ => ?_⟩
      exact absurd split (by simp)
  | cons label rest ih =>
      rw [read_cons] at read
      obtain ⟨next, first, later⟩ := Option.bind_eq_some_iff.1 read
      cases label with
      | observed now pressed =>
          rw [accept_observed up.due] at first
          obtain rfl := Option.some.inj first
          cases pressed with
          | true =>
              refine ⟨fun none => absurd none Nat.zero_ne_one, fun ends => ?_⟩
              obtain ⟨time, pressed⟩ := ends.head
              injection pressed with _ up
              contradiction
          | false =>
              rw [pulses_up]
              by_cases late : released + 250000 < now
              · obtain ⟨due, spent⟩ := up.expire filled late
                obtain ⟨after, rfl, onward⟩ := read_due due later settled
                rw [pulses_pulse, spent.no_pulse onward]
                refine ⟨fun _ => ⟨filled, [], now, _, rfl, late, ?_⟩, fun _ => rfl⟩
                exact fun _ member => absurd member List.not_mem_nil
              · rw [ih (up.wait (Nat.le_of_not_lt late)) later, windowEnds_cons late]
      | interrupted =>
          rw [accept_interrupted up.due] at first
          obtain rfl := Option.some.inj first
          have spent : ({} : PsAnswer).Spent := ⟨rfl, rfl, .inl rfl⟩
          rw [pulses_interrupted, spent.no_pulse later]
          refine ⟨fun none => absurd none Nat.zero_ne_one, fun ends => ?_⟩
          obtain ⟨time, interrupted⟩ := ends.head
          contradiction
      | replied reply => exact absurd (first.symm.trans (accept_replied up.due reply)) (Option.some_ne_none _)

/-- An observation is read only while no reply is due. -/
theorem due_of_accept {answer next : PsAnswer} {now : Nat} {pressed : Bool}
    (read : answer.accept (.observed now pressed) = some next)
    : answer.due = none := by
  obtain ⟨ps, due⟩ := answer
  cases due with
  | none => rfl
  | some reply => contradiction

/-- A press that is held stays down, by induction on the observations. -/
theorem Down.during {labels : List PsLabel} {answer final : PsAnswer} {began released : Nat}
    (down : answer.Down began) (held : ∀ label ∈ labels, ∃ now, label = .observed now true)
    (before : ∀ now ∈ labels.filterMap PsLabel.time, now ≤ released)
    (short : released < began + 500000) (read : answer.read labels = some final)
    : final.Down began := by
  induction labels generalizing answer with
  | nil =>
      obtain rfl := Option.some.inj read
      exact down
  | cons label rest ih =>
      rw [List.forall_mem_cons] at held
      obtain ⟨⟨now, rfl⟩, held⟩ := held
      rw [read_cons, accept_observed down.due, Option.bind_some] at read
      rw [List.filterMap_cons_some (show (PsLabel.observed now true).time = some now from rfl),
        List.forall_mem_cons] at before
      exact ih (down.held (Nat.lt_of_le_of_lt before.1 short)) held before.2 read

end PsAnswer

-----------------------------------------------------------------------------------------
-- Runs
-----------------------------------------------------------------------------------------

/-- In every run whose clock does not go back, a short tap makes exactly one pulse before the next
press if and only if the first tick later than 250 ms after its release observes the button up. A
tick that observes the next press then loses the tap, however late that press is.
-/
theorem tap_makes_one_pulse_iff {trace : List InputLabel} {input : VitaInput}
    (reached : inputMachine.Reaches trace input) {before during rest : List PsLabel}
    {began released : Nat}
    (shown
      : psView trace
        = before ++ .observed began true :: during ++ .observed released false :: rest)
    (ordered : TimeOrdered (psView trace)) (tap : ShortTap before during began released)
    : pulsesBeforePress rest = 1 ↔ WindowEnds released rest := by
  have times : ∀ now ∈ during.filterMap PsLabel.time, now ≤ released := by
    rw [TimeOrdered, shown, List.filterMap_append] at ordered
    intro now member
    refine (List.pairwise_append.1 ordered).2.2 now ?_ released List.mem_cons_self
    rw [List.filterMap_append]
    exact List.mem_append_right _ (List.mem_cons_of_mem _ member)
  obtain ⟨final, read, answers⟩ := reaches_answered reached
  rw [shown, List.append_assoc, PsAnswer.read_append] at read
  obtain ⟨first, readBefore, read⟩ := Option.bind_eq_some_iff.1 read
  have edge : first.ps.physicalOld = false := (PsAnswer.read_pressed readBefore).trans tap.edge
  rw [List.cons_append, PsAnswer.read_cons] at read
  obtain ⟨pressed, accepted, read⟩ := Option.bind_eq_some_iff.1 read
  rw [PsAnswer.accept_observed (PsAnswer.due_of_accept accepted)] at accepted
  obtain rfl := Option.some.inj accepted
  have single : (PsAnswer.observe first.ps began true).due = none := by
    cases reply : (PsAnswer.observe first.ps began true).due with
    | none => rfl
    | some double =>
        obtain ⟨later, replied, -⟩ := PsAnswer.read_due reply read answers.due
        cases during with
        | nil => exact absurd (List.cons.inj replied).1 (by simp)
        | cons label others =>
            obtain ⟨now, rfl⟩ := tap.held label List.mem_cons_self
            exact absurd (List.cons.inj replied).1 (by simp)
  rw [PsAnswer.read_append] at read
  obtain ⟨held, readDuring, read⟩ := Option.bind_eq_some_iff.1 read
  have down : held.Down began :=
    (PsAnswer.observe_press edge began single).during tap.held times tap.short readDuring
  rw [PsAnswer.read_cons, PsAnswer.accept_observed down.due, Option.bind_some] at read
  exact (down.released tap.short).pulse_iff read answers.due

set_option maxRecDepth 4000 in
theorem singleTap_makes_one_pulse
    : let rest : List PsLabel :=
        [.observed 1270000 false, .replied .pulse, .observed 1280000 false]
      pulsesBeforePress rest = 1 ↔ WindowEnds 1010000 rest := by
  have reached : inputMachine.Reaches singleTap _ :=
    inputMachine.reaches_run ⟨id, rfl⟩
      [.start, .tick (psSample 1000000 false true), .tick (psSample 1010000 false false),
        .tick (psSample 1270000 false false), .tick (psSample 1280000 false false)] rfl
  have shown
      : psView singleTap
        = [.interrupted] ++ .observed 1000000 true :: []
          ++ .observed 1010000 false
            :: [.observed 1270000 false, .replied .pulse, .observed 1280000 false] :=
    rfl
  have ordered : TimeOrdered (psView singleTap) :=
    (by decide : [1000000, 1010000, 1270000, 1280000].Pairwise (· ≤ ·))
  exact tap_makes_one_pulse_iff reached shown ordered
    ⟨rfl, fun _ member => absurd member List.not_mem_nil, by decide⟩

/-- What two taps show when the next tick after the first one's window observes the second press. -/
def lostTap : List InputLabel :=
  [.arrival, .touch .released,
    .tick false, .observed 1000000 true, .done,
    .tick false, .observed 1010000 false, .done,
    .tick false, .observed 1300000 true, .done,
    .tick false, .observed 1310000 false, .done,
    .tick false, .observed 1600000 false, .report (psReport [.special]), .done]

set_option maxRecDepth 4000 in
/-- A tap is lost although no other press begins within 250 ms of its release and nothing interrupts
it: the first tick after its window observes the next press.
-/
theorem late_press_loses_tap
    : ¬ ∀ (trace : List InputLabel) (input : VitaInput) (before during rest : List PsLabel)
          (began released : Nat),
        inputMachine.Reaches trace input
        → psView trace
          = before ++ .observed began true :: during ++ .observed released false :: rest
        → TimeOrdered (psView trace)
        → ShortTap before during began released
        → (∀ now, .observed now true ∈ rest → released + 250000 < now)
        → .interrupted ∉ rest
        → (∃ now, .observed now false ∈ rest ∧ released + 250000 < now)
        → pulsesBeforePress rest = 1 := by
  intro always
  have reached : inputMachine.Reaches lostTap _ :=
    inputMachine.reaches_run ⟨id, rfl⟩
      [.start, .tick (psSample 1000000 false true), .tick (psSample 1010000 false false),
        .tick (psSample 1300000 false true), .tick (psSample 1310000 false false),
        .tick (psSample 1600000 false false)] rfl
  have shown
      : psView lostTap
        = [.interrupted] ++ .observed 1000000 true :: []
          ++ .observed 1010000 false
            :: [.observed 1300000 true, .observed 1310000 false, .observed 1600000 false,
              .replied .pulse] :=
    rfl
  have ordered : TimeOrdered (psView lostTap) :=
    (by decide : [1000000, 1010000, 1300000, 1310000, 1600000].Pairwise (· ≤ ·))
  have pulse := always lostTap _ _ _ _ _ _ reached shown ordered
    ⟨rfl, fun _ member => absurd member List.not_mem_nil, by decide⟩ (by simp) (by decide) ⟨1600000, by decide, by decide⟩
  exact absurd pulse (by decide)

end VitaMoonlight
