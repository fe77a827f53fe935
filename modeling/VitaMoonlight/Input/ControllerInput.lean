import VitaMoonlight.Input.Touch

/-! The input loop of a stream (`moonlight/vita_input.c`): the controller, the PS button, the
touch zones and the front touch panel. Times are microseconds.
-/

namespace VitaMoonlight

open Library

-----------------------------------------------------------------------------------------
-- Samples and reports
-----------------------------------------------------------------------------------------

/-- The bits of `SceCtrlData.buttons` that have a name in the code. -/
structure CtrlButtons where
  up : Bool := false
  down : Bool := false
  left : Bool := false
  right : Bool := false
  start : Bool := false
  select : Bool := false
  triangle : Bool := false
  circle : Bool := false
  cross : Bool := false
  square : Bool := false
  l1 : Bool := false
  r1 : Bool := false
  psButton : Bool := false
deriving DecidableEq

/-- `SceCtrlData`. `other` holds the bytes that are only compared. -/
structure CtrlData where
  timeStamp : Nat := 0
  buttons : CtrlButtons := {}
  lx : UInt8 := 0
  ly : UInt8 := 0
  rx : UInt8 := 0
  ry : UInt8 := 0
  other : Nat := 0
deriving DecidableEq

/-- The sample without its PS bit. -/
def CtrlData.clearPs (data : CtrlData) : CtrlData :=
  { data with buttons := { data.buttons with psButton := false } }

/-- The quadrants that `vita_read_back_touch` tells apart. -/
structure BackButtons where
  northWest : Bool := false
  northEast : Bool := false
  southWest : Bool := false
  southEast : Bool := false
deriving DecidableEq

/-- The flags that a face button can be mapped to. -/
inductive FaceButton
  | a
  | b
  | x
  | y
deriving DecidableEq

/-- The button flags of a controller report. -/
inductive HostButton
  | face (button : FaceButton)
  | up
  | down
  | left
  | right
  | play
  | back
  | lb
  | rb
  | leftStick
  | rightStick
  | special
deriving DecidableEq

/-- What `LiSendMultiControllerEvent` reports. -/
structure ControllerReport where
  flags : List HostButton := []
  leftTrigger : UInt8 := 0
  rightTrigger : UInt8 := 0
  lx : Int := 0
  ly : Int := 0
  rx : Int := 0
  ry : Int := 0
deriving DecidableEq

/-- `vita_axis_to_limelight`. -/
def vitaAxisToLimelight (value : UInt8) : Int := value.toNat * 256 - 32768 + 128

/-- What one tick of the loop reads: the three clock readings, and what every poll answers;
`none` marks a poll that fails.
-/
structure InputSample where
  pollTime : Nat
  now : Nat
  sendTime : Nat
  overlaid : Option Bool
  pad : Option CtrlData
  probe : Option CtrlButtons
  back : Option TouchFrame
  zones : Option TouchFrame
  front : Option TouchFrame

/-- What a run shows. `tick` begins and `done` ends a tick, `observed` is the PS button as the
tick sees it, `stopped` ends `vita_input_stop`.
-/
inductive InputLabel
  | tick (overlaid : Bool)
  | observed (now : Nat) (pressed : Bool)
  | report (report : ControllerReport)
  | rightButton (press : Bool)
  | touch (label : TouchLabel)
  | streamStop
  | done
  | arrival
  | stopped

/-- The variables that `reset_ps_button_state` clears. -/
structure PsButtonState where
  releaseTime : Nat := 0
  pressTime : Nat := 0
  singlePending : Bool := false
  physicalOld : Bool := false
  hostPulseState : Nat := 0
  shellEdge : Bool := false

namespace PsButtonState

/-- The release of a press in `vita_input_process`. -/
def release (ps : PsButtonState) (now : Nat) : PsButtonState :=
  if ps.singlePending then
    if ps.pressTime ≠ 0 ∧ now ≥ ps.pressTime ∧ now - ps.pressTime ≥ 500000 then
      { ps with singlePending := false, releaseTime := 0 }
    else { ps with releaseTime := now }
  else ps

/-- The timeout of the double-press window in `vita_input_process`. -/
def expire (ps : PsButtonState) (now : Nat) (pressed : Bool) : PsButtonState :=
  if ps.singlePending ∧ !pressed ∧ ps.releaseTime ≠ 0 ∧ now ≥ ps.releaseTime
      ∧ now - ps.releaseTime > 250000 then
    { ps with singlePending := false, releaseTime := 0, hostPulseState := 1 }
  else ps

/-- The press is a second one within the double-press window. -/
def isDoublePress (ps : PsButtonState) (now : Nat) : Bool :=
  ps.singlePending && ps.releaseTime ≠ 0 && now ≥ ps.releaseTime
    && decide (now - ps.releaseTime ≤ 250000)

/-- The edges and holds that `vita_input_process` tells apart, other than a double press. -/
def classify (ps : PsButtonState) (now : Nat) (pressed : Bool) : PsButtonState :=
  if pressed && !ps.physicalOld then
    { ps with pressTime := now, singlePending := true, releaseTime := 0 }
  else if pressed ∧ ps.singlePending ∧ ps.pressTime ≠ 0 ∧ now ≥ ps.pressTime
      ∧ now - ps.pressTime ≥ 500000 then
    { ps with singlePending := false, releaseTime := 0 }
  else if !pressed && ps.physicalOld then { ps.release now with pressTime := 0 }
  else ps

/-- What follows the report of a pulse. -/
def reported (ps : PsButtonState) : PsButtonState :=
  if ps.hostPulseState = 1 then { ps with hostPulseState := 2 }
  else if ps.hostPulseState = 2 then { ps with hostPulseState := 0 }
  else ps

end PsButtonState

/-- The distances from the edges of the back panel in which contacts do not count. -/
structure BackDeadzone where
  top : Int := 0
  right : Int := 0
  bottom : Int := 0
  left : Int := 0

/-- Where `vita_input_load_mapping` maps the face buttons. -/
structure FaceMapping where
  cross : FaceButton := .a
  circle : FaceButton := .b
  square : FaceButton := .x
  triangle : FaceButton := .y

/-- The variables of `vita_input.c`, and those of the touch panel it drives. -/
structure VitaInput where
  active : Bool := false
  swapShoulderButtons : Bool := false
  psButtonCapture : Bool := true
  ps : PsButtonState := {}
  appStatePollTime : Nat := 0
  systemUiOverlaid : Bool := false
  appStateKnown : Bool := false
  overlayReleaseSent : Bool := false
  ignorePsUntilRelease : Bool := false
  touchscreenMode : Int := 0
  backDeadzone : BackDeadzone := {}
  frontTouchzones : Bool := false
  doubleTapSprint : Bool := false
  doubleTapMs : Nat := 200
  keyboardRequest : Bool := false
  zoneLatched : Bool := false
  lastSprintTap : Nat := 0
  sprintWasForward : Bool := false
  mapping : FaceMapping := {}
  pad : CtrlData := {}
  padOld : CtrlData := {}
  back : TouchFrame := ⟨0, fun _ => {}⟩
  backButtonsOld : BackButtons := {}
  touch : VitaTouch := {}

namespace VitaInput

-----------------------------------------------------------------------------------------
-- The report
-----------------------------------------------------------------------------------------

/-- `vita_read_back_touch`. -/
def readBackTouch (input : VitaInput) (back : TouchFrame) : BackButtons :=
  let zone := input.backDeadzone
  let vertical := (960 - zone.left - zone.right).tdiv 2 + zone.left
  let horizontal := (544 - zone.top - zone.bottom).tdiv 2 + zone.top
  let counted := back.contacts.filter fun i =>
    !(decide
        (back.x i < zone.left ∨ back.x i > 960 - zone.right ∨ back.y i < zone.top
          ∨ back.y i > 544 - zone.bottom))
  { northWest := counted.any fun i => decide (back.x i ≤ vertical ∧ back.y i ≤ horizontal)
    northEast := counted.any fun i => decide (back.x i > vertical ∧ back.y i ≤ horizontal)
    southWest := counted.any fun i => decide (back.x i ≤ vertical ∧ back.y i > horizontal)
    southEast := counted.any fun i => decide (back.x i > vertical ∧ back.y i > horizontal) }

/-- The time between two readings of the clock, as 64-bit words subtract. -/
def elapsed (now before : Nat) : Nat := (now + 2 ^ 64 - before) % 2 ^ 64

/-- The double-tap sprint of `vita_input_send`, and whether it clicks the left stick. -/
def sprint (input : VitaInput) (now : Nat) : VitaInput × Bool :=
  if input.doubleTapSprint then
    let forward := decide (input.pad.ly.toNat > 200)
    if forward && !input.sprintWasForward then
      if input.lastSprintTap ≠ 0
          ∧ elapsed now input.lastSprintTap ≤ input.doubleTapMs * 1000 then
        ({ input with lastSprintTap := 0, sprintWasForward := forward }, true)
      else ({ input with lastSprintTap := now, sprintWasForward := forward }, false)
    else ({ input with sprintWasForward := forward }, false)
  else (input, false)

/-- The button flags of `vita_input_send`, but for the sprint. -/
def buttonFlags (input : VitaInput) (back : BackButtons) : List HostButton :=
  let buttons := input.pad.buttons
  let flag (pressed : Bool) (button : HostButton) := if pressed then [button] else []
  flag buttons.up .up ++ flag buttons.down .down ++ flag buttons.left .left
    ++ flag buttons.right .right ++ flag buttons.start .play ++ flag buttons.select .back
    ++ flag (input.psButtonCapture && input.ps.hostPulseState == 1) .special
    ++ flag buttons.triangle (.face input.mapping.triangle)
    ++ flag buttons.circle (.face input.mapping.circle)
    ++ flag buttons.cross (.face input.mapping.cross)
    ++ flag buttons.square (.face input.mapping.square)
    ++ (if input.swapShoulderButtons then flag back.northWest .lb ++ flag back.northEast .rb
        else flag buttons.l1 .lb ++ flag buttons.r1 .rb)
    ++ flag back.southWest .leftStick ++ flag back.southEast .rightStick

/-- `vita_input_send`. -/
def send (input : VitaInput) (back : BackButtons) (now : Nat) : VitaInput × ControllerReport :=
  let (after, clicked) := input.sprint now
  let trigger (pressed : Bool) : UInt8 := if pressed then 255 else 0
  let pad := input.pad
  (after,
    { flags := input.buttonFlags back ++ if clicked then [.leftStick] else []
      leftTrigger := trigger (if input.swapShoulderButtons then pad.buttons.l1 else back.northWest)
      rightTrigger := trigger (if input.swapShoulderButtons then pad.buttons.r1 else back.northEast)
      lx := vitaAxisToLimelight pad.lx
      ly := -vitaAxisToLimelight pad.ly
      rx := vitaAxisToLimelight pad.rx
      ry := -vitaAxisToLimelight pad.ry })

/-- The poll of `vita_input_system_ui_overlaid`, which keeps the last answer between polls and
when a poll fails.
-/
def pollSystemUi (input : VitaInput) (sample : InputSample) : VitaInput :=
  if input.appStatePollTime = 0 ∨ sample.pollTime < input.appStatePollTime
      ∨ sample.pollTime - input.appStatePollTime ≥ 10000 then
    match sample.overlaid with
    | some overlaid =>
        { input with
          appStatePollTime := sample.pollTime
          systemUiOverlaid := overlaid
          appStateKnown := true }
    | none => { input with appStatePollTime := sample.pollTime }
  else input

/-- The answer of `vita_input_system_ui_overlaid`. -/
def overlaid (input : VitaInput) : Bool := input.appStateKnown && input.systemUiOverlaid

/-- The report that `vita_input_suppress_for_system_ui` sends. -/
def neutralReport : ControllerReport where
  lx := vitaAxisToLimelight 128
  ly := -vitaAxisToLimelight 128
  rx := vitaAxisToLimelight 128
  ry := -vitaAxisToLimelight 128

/-- `vita_input_suppress_for_system_ui`. -/
def suppressForSystemUi (input : VitaInput) (sample : InputSample)
    : VitaInput × List InputLabel :=
  let pad := (sample.pad.getD {}).clearPs
  let back := sample.back.getD input.back
  ({ input with
      ignorePsUntilRelease := true
      overlayReleaseSent := true
      pad, padOld := pad, back
      backButtonsOld := input.readBackTouch back
      ps := {} },
    if input.overlayReleaseSent then [] else [.report neutralReport])

-----------------------------------------------------------------------------------------
-- A tick
-----------------------------------------------------------------------------------------

/-- The sampling in `vita_input_process`, and the PS button as the tick sees it: ignored after an
overlay until it is up, otherwise down in one of the samples or in an event of the shell.
-/
def samplePad (input : VitaInput) (sample : InputSample) : VitaInput × Bool :=
  let pad := sample.pad.getD input.pad
  let raw := pad.buttons.psButton || (sample.probe.getD {}).psButton
  let input := { input with back := sample.back.getD input.back }
  if input.ignorePsUntilRelease then
    ({ input with pad := pad.clearPs, ps := {}, ignorePsUntilRelease := raw }, false)
  else if !raw && input.ps.shellEdge then
    ({ input with pad, ps := { input.ps with shellEdge := false } }, true)
  else ({ input with pad }, raw)

/-- A report that clicks one stick. -/
def stickReport (button : HostButton) : ControllerReport where
  flags := [button]

/-- The front touch zones in `vita_input_process`. -/
def touchZones (input : VitaInput) (front : Option TouchFrame) : VitaInput × List InputLabel :=
  if input.frontTouchzones && input.touchscreenMode == 0 then
    match front with
    | none => ({ input with zoneLatched := false }, [])
    | some front =>
        if front.reportNum > 0 then
          if input.zoneLatched then (input, [])
          else
            let latched := { input with zoneLatched := true }
            if front.x 0 < 140 ∧ front.y 0 < 100 then
              ({ latched with keyboardRequest := true }, [])
            else if front.x 0 > 820 ∧ front.y 0 < 100 then
              (latched, [.rightButton true, .rightButton false])
            else if front.x 0 < 140 ∧ front.y 0 > 444 then
              (latched, [.report (stickReport .leftStick)])
            else if front.x 0 > 820 ∧ front.y 0 > 444 then
              (latched, [.report (stickReport .rightStick)])
            else (latched, [])
        else ({ input with zoneLatched := false }, [])
  else (input, [])

/-- The report in `vita_input_process`, if anything in it changed. -/
def sendChanges (input : VitaInput) (now : Nat) : VitaInput × List InputLabel :=
  let backButtons := input.readBackTouch input.back
  if input.pad ≠ input.padOld ∨ backButtons ≠ input.backButtonsOld
      ∨ input.ps.hostPulseState ≠ 0 then
    let (sent, report) := input.send backButtons now
    ({ sent with ps := sent.ps.reported, padOld := sent.pad, backButtonsOld := backButtons },
      [.report report])
  else (input, [])

/-- The end of `vita_input_process`: the report and the touch panel. -/
def forward (input : VitaInput) (sample : InputSample) : VitaInput × List InputLabel :=
  let (sent, reports) := input.sendChanges sample.sendTime
  let (touch, labels) := sent.touch.process sample.front
  ({ sent with touch }, reports ++ labels.map .touch)

/-- The double press in `vita_input_process`. -/
def doublePressed (input : VitaInput) (pressed : Bool) : VitaInput :=
  { input with
    pad := input.pad.clearPs
    ps := { input.ps with
      singlePending := false
      releaseTime := 0
      pressTime := 0
      hostPulseState := 0
      physicalOld := pressed } }

/-- What `vita_input_process` makes of the PS button in any other tick. -/
def classified (input : VitaInput) (now : Nat) (pressed : Bool) : VitaInput :=
  { input with
    pad := input.pad.clearPs
    ps := { (input.ps.classify now pressed).expire now pressed with physicalOld := pressed } }

/-- `vita_input_process` outside an overlay, after the sampling. -/
def processPs (input : VitaInput) (sample : InputSample) (pressed : Bool)
    : VitaInput × List InputLabel :=
  if input.psButtonCapture then
    if pressed && !input.ps.physicalOld && input.ps.isDoublePress sample.now then
      (input.doublePressed pressed, [.observed sample.now pressed, .streamStop])
    else
      let (after, sent) := (input.classified sample.now pressed).forward sample
      (after, .observed sample.now pressed :: sent)
  else { input with ps := { input.ps with physicalOld := pressed } }.forward sample

/-- `vita_input_process`. -/
def process (input : VitaInput) (sample : InputSample) : VitaInput × List InputLabel :=
  let input := input.pollSystemUi sample
  if input.overlaid then
    let (after, sent) := input.suppressForSystemUi sample
    (after, .tick true :: sent ++ [.done])
  else
    let (sampled, pressed) := { input with overlayReleaseSent := false }.samplePad sample
    let (zoned, zones) := sampled.touchZones sample.zones
    let (after, sent) := zoned.processPs sample pressed
    (after, .tick false :: zones ++ sent ++ [.done])

-----------------------------------------------------------------------------------------
-- What the parts of a tick leave alone
-----------------------------------------------------------------------------------------

/-- A part of a tick leaves alone whether the input is active, what it captures, whether the
overlay's report is sent, and the touch panel.
-/
structure Keeps (input after : VitaInput) : Prop where
  active : after.active = input.active
  capture : after.psButtonCapture = input.psButtonCapture
  sent : after.overlayReleaseSent = input.overlayReleaseSent
  touch : after.touch = input.touch

theorem pollSystemUi_keeps (input : VitaInput) (sample : InputSample)
    : input.Keeps (input.pollSystemUi sample) := by
  unfold pollSystemUi
  split
  · split <;> exact ⟨rfl, rfl, rfl, rfl⟩
  · exact ⟨rfl, rfl, rfl, rfl⟩

theorem samplePad_keeps (input : VitaInput) (sample : InputSample)
    : input.Keeps (input.samplePad sample).1 := by
  unfold samplePad
  dsimp only
  split
  · exact ⟨rfl, rfl, rfl, rfl⟩
  · split <;> exact ⟨rfl, rfl, rfl, rfl⟩

theorem touchZones_keeps (input : VitaInput) (front : Option TouchFrame)
    : input.Keeps (input.touchZones front).1 := by
  unfold touchZones
  dsimp only
  repeat' split
  all_goals exact ⟨rfl, rfl, rfl, rfl⟩

theorem send_keeps (input : VitaInput) (back : BackButtons) (now : Nat)
    : input.Keeps (input.send back now).1 := by
  unfold send sprint
  dsimp only
  repeat' split
  all_goals exact ⟨rfl, rfl, rfl, rfl⟩

theorem sendChanges_keeps (input : VitaInput) (now : Nat)
    : input.Keeps (input.sendChanges now).1 := by
  unfold sendChanges
  dsimp only
  split
  · have sent := input.send_keeps (input.readBackTouch input.back) now
    exact ⟨sent.active, sent.capture, sent.sent, sent.touch⟩
  · exact ⟨rfl, rfl, rfl, rfl⟩

/-- A part of a tick leaves the PS button alone. -/
structure KeepsPs (input after : VitaInput) : Prop where
  ps : after.ps = input.ps
  ignoring : after.ignorePsUntilRelease = input.ignorePsUntilRelease

theorem pollSystemUi_keepsPs (input : VitaInput) (sample : InputSample)
    : input.KeepsPs (input.pollSystemUi sample) := by
  unfold pollSystemUi
  split
  · split <;> exact ⟨rfl, rfl⟩
  · exact ⟨rfl, rfl⟩

theorem touchZones_keepsPs (input : VitaInput) (front : Option TouchFrame)
    : input.KeepsPs (input.touchZones front).1 := by
  unfold touchZones
  dsimp only
  repeat' split
  all_goals exact ⟨rfl, rfl⟩

theorem send_keepsPs (input : VitaInput) (back : BackButtons) (now : Nat)
    : input.KeepsPs (input.send back now).1 := by
  unfold send sprint
  dsimp only
  repeat' split
  all_goals exact ⟨rfl, rfl⟩

theorem sendChanges_ignoring (input : VitaInput) (now : Nat)
    : (input.sendChanges now).1.ignorePsUntilRelease = input.ignorePsUntilRelease := by
  unfold sendChanges
  dsimp only
  split
  · exact (input.send_keepsPs _ now).ignoring
  · rfl

/-- The end of a tick leaves alone what is set before it. -/
theorem processPs_keeps (input : VitaInput) (sample : InputSample) (pressed : Bool)
    : (input.processPs sample pressed).1.active = input.active
      ∧ (input.processPs sample pressed).1.psButtonCapture = input.psButtonCapture
      ∧ (input.processPs sample pressed).1.overlayReleaseSent = input.overlayReleaseSent
      ∧ (input.processPs sample pressed).1.ignorePsUntilRelease = input.ignorePsUntilRelease := by
  have forwarded
      : ∀ input : VitaInput,
          (input.forward sample).1.active = input.active
          ∧ (input.forward sample).1.psButtonCapture = input.psButtonCapture
          ∧ (input.forward sample).1.overlayReleaseSent = input.overlayReleaseSent
          ∧ (input.forward sample).1.ignorePsUntilRelease = input.ignorePsUntilRelease := by
    intro input
    have kept := input.sendChanges_keeps sample.sendTime
    exact ⟨kept.active, kept.capture, kept.sent, input.sendChanges_ignoring sample.sendTime⟩
  unfold processPs
  split
  · split
    · exact ⟨rfl, rfl, rfl, rfl⟩
    · exact forwarded (input.classified sample.now pressed)
  · exact forwarded { input with ps := { input.ps with physicalOld := pressed } }

/-- A tick under the overlay shows no more than the one report. -/
theorem process_of_overlaid (input : VitaInput) (sample : InputSample)
    (overlaid : (input.pollSystemUi sample).overlaid = true)
    : input.process sample
      = (((input.pollSystemUi sample).suppressForSystemUi sample).1,
          .tick true :: (if input.overlayReleaseSent then [] else [.report neutralReport])
            ++ [.done]) := by
  have kept := input.pollSystemUi_keeps sample
  unfold process
  dsimp only
  rw [if_pos overlaid]
  simp [suppressForSystemUi, kept.sent]

/-- The input of a tick without the overlay, before the sampling. -/
def begun (input : VitaInput) (sample : InputSample) : VitaInput :=
  { input.pollSystemUi sample with overlayReleaseSent := false }

theorem begun_keeps (input : VitaInput) (sample : InputSample)
    : (input.begun sample).active = input.active
      ∧ (input.begun sample).psButtonCapture = input.psButtonCapture
      ∧ (input.begun sample).overlayReleaseSent = false
      ∧ (input.begun sample).touch = input.touch := by
  have polled := input.pollSystemUi_keeps sample
  exact ⟨polled.active, polled.capture, rfl, polled.touch⟩

/-- The parts of a tick without the overlay. -/
theorem process_of_clear (input : VitaInput) (sample : InputSample)
    (clear : (input.pollSystemUi sample).overlaid = false)
    {sampled zoned : VitaInput} {pressed : Bool} {zones : List InputLabel}
    (pad : (input.begun sample).samplePad sample = (sampled, pressed))
    (front : sampled.touchZones sample.zones = (zoned, zones))
    : input.process sample
      = ((zoned.processPs sample pressed).1,
          .tick false :: zones ++ (zoned.processPs sample pressed).2 ++ [.done]) := by
  unfold process
  dsimp only
  rw [if_neg (Bool.eq_false_iff.1 clear)]
  change
    (match (input.begun sample).samplePad sample with
      | (sampled, pressed) =>
        match sampled.touchZones sample.zones with
        | (zoned, zones) =>
          match zoned.processPs sample pressed with
          | (after, sent) => (after, InputLabel.tick false :: zones ++ sent ++ [InputLabel.done])) = _
  rw [pad]
  dsimp only
  rw [front]

-----------------------------------------------------------------------------------------
-- The other entry points
-----------------------------------------------------------------------------------------

/-- A distance that `vita_input_configure` accepts. -/
def clampDeadzone (distance : Int) : Int := min 480 (max 0 distance)

/-- `vita_input_configure`; `scale` stands for the mouse acceleration. -/
def configure (input : VitaInput) (swapShoulderButtons psButtonCapture : Bool)
    (touchscreenMode : Int) (scale : Int → Int) (zone : BackDeadzone)
    : VitaInput :=
  { input with
    swapShoulderButtons, psButtonCapture, touchscreenMode
    backDeadzone :=
      { top := clampDeadzone zone.top
        right := clampDeadzone zone.right
        bottom := clampDeadzone zone.bottom
        left := clampDeadzone zone.left }
    touch := input.touch.configure touchscreenMode scale }

/-- `vita_input_set_runtime`, with the mapping it loads. -/
def setRuntime (input : VitaInput) (frontTouchzones doubleTapSprint : Bool) (doubleTapMs : Int)
    (mapping : FaceMapping)
    : VitaInput :=
  { input with
    frontTouchzones, doubleTapSprint, mapping
    doubleTapMs := if doubleTapMs > 0 then doubleTapMs.toNat else 200 }

/-- `vita_shell_event_handler`, by whether the event is one of the PS button. -/
def shellEvent (input : VitaInput) (psButton : Bool) : VitaInput :=
  if input.active && psButton then { input with ps := { input.ps with shellEdge := true } }
  else input

/-- `vita_input_start`. -/
def start (input : VitaInput) : VitaInput × List InputLabel :=
  let (touch, labels) := input.touch.start
  ({ input with
      active := true
      pad := {}
      padOld := {}
      back := ⟨0, fun _ => {}⟩
      backButtonsOld := {}
      ps := {}
      ignorePsUntilRelease := false
      touch },
    .arrival :: labels.map .touch)

/-- `vita_input_stop`. -/
def stop (input : VitaInput) : VitaInput × List InputLabel :=
  let (touch, labels) := input.touch.stop
  ({ input with
      active := false
      pad := {}
      padOld := {}
      ps := {}
      ignorePsUntilRelease := false
      touch },
    labels.map .touch ++ [.report {}, .stopped])

end VitaInput

/-- A call of an entry point, an event of the shell or a tick of the input thread. -/
inductive InputChoice
  | configure (swapShoulderButtons psButtonCapture : Bool) (touchscreenMode : Int)
    (scale : Int → Int) (zone : BackDeadzone)
  | setRuntime (frontTouchzones doubleTapSprint : Bool) (doubleTapMs : Int)
    (mapping : FaceMapping)
  | start
  | stop
  | shellEvent (psButton : Bool)
  | tick (sample : InputSample)

/-- One call. A stream configures the input before it starts it, and stops it before the next
stream does; the thread does nothing while the input is stopped.
-/
def inputStep (input : VitaInput) : InputChoice → Option (VitaInput × List InputLabel)
  | .configure swapShoulderButtons psButtonCapture touchscreenMode scale zone =>
      if input.active then none
      else some (input.configure swapShoulderButtons psButtonCapture touchscreenMode scale zone, [])
  | .setRuntime frontTouchzones doubleTapSprint doubleTapMs mapping =>
      some (input.setRuntime frontTouchzones doubleTapSprint doubleTapMs mapping, [])
  | .start => if input.active then none else some input.start
  | .stop => some input.stop
  | .shellEvent psButton => some (input.shellEvent psButton, [])
  | .tick sample => if input.active then some (input.process sample) else none

/-- The machine of the input, from a fresh process. -/
def inputMachine : Machine VitaInput InputChoice InputLabel where
  initial input := ∃ scale, input = { touch := { scale } }
  step := inputStep

end VitaMoonlight
