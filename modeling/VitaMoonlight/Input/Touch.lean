import VitaMoonlight.Library.Machine
import Mathlib.Algebra.GroupWithZero.Nat
import Mathlib.Data.List.FinRange
import Mathlib.Logic.Function.Basic

/-! The front touch panel (`moonlight/vita_touch.c`).
Coordinates are the pixels the code computes; the host gets them divided by the width and the
height of the screen.
-/

namespace VitaMoonlight

open Library

-----------------------------------------------------------------------------------------
-- Frames and events
-----------------------------------------------------------------------------------------

/-- `SceTouchReport`, as far as it is read. -/
structure TouchReport where
  id : UInt8 := 0
  x : Int := 0
  y : Int := 0
deriving DecidableEq

-- Named, so that all pointers carry the same proof.
instance neZero8 : NeZero 8 := ⟨by decide⟩

/-- `SceTouchData`, whose array has `SCE_TOUCH_MAX_REPORT` entries. -/
structure TouchFrame where
  reportNum : Nat
  report : Fin 8 → TouchReport

namespace TouchFrame

/-- The entries that report a contact. -/
def contacts (frame : TouchFrame) : List (Fin 8) :=
  (List.finRange 8).filter fun i => decide (i.val < frame.reportNum)

/-- The pixel column of an entry. -/
def x (frame : TouchFrame) (i : Fin 8) : Int := ((frame.report i).x * 960).tdiv 1920

/-- The pixel row of an entry. -/
def y (frame : TouchFrame) (i : Fin 8) : Int := ((frame.report i).y * 544).tdiv 1088

/-- `id` in `process_touch_points`: the hardware id, or the entry's index where the hardware
id is no index of `s_points`.
-/
def pointerId (frame : TouchFrame) (i : Fin 8) : Fin 8 :=
  if small : (frame.report i).id.toNat < 8 then ⟨_, small⟩ else i

end TouchFrame

/-- The `LI_TOUCH_EVENT_*` kinds that concern one pointer. -/
inductive TouchKind
  | down
  | move
  | up
deriving DecidableEq

/-- What a run shows: the events sent, and what they belong to. `frame` begins the events of a
frame's touch points and `contact` those of one contact; `released` begins
`release_touch_state` and `stopped` ends `vita_touch_stop`.
-/
inductive TouchLabel
  | frame (frame : TouchFrame)
  | contact (hardwareId : UInt8) (pointer : Fin 8)
  | touch (controller : Bool) (kind : TouchKind) (pointer : Fin 8) (x y : Int) (pressure : Nat)
  | cancelAll
  | leftButton (press : Bool)
  | mousePosition (x y : Int)
  | scroll (amount : Int)
  | released
  | stopped

-----------------------------------------------------------------------------------------
-- The state
-----------------------------------------------------------------------------------------

/-- `TouchPointState`. -/
structure TouchPointState where
  active : Bool := false
  x : Int := 0
  y : Int := 0
deriving DecidableEq

/-- The variables of `vita_touch.c`. `scale` is what `lround` makes of a scroll distance under
the configured acceleration.
-/
structure VitaTouch where
  active : Bool := false
  mode : Int := 0
  scale : Int → Int := id
  initialized : Bool := false
  points : Fin 8 → TouchPointState := fun _ => {}
  leftMouseDown : Bool := false
  twoFingerActive : Bool := false
  twoFingerLastY : Int := 0

namespace VitaTouch

/-- `send_touch_event`. -/
def sendTouchEvent (touch : VitaTouch) (kind : TouchKind) (pointer : Fin 8) (x y : Int)
    (pressure : Nat)
    : TouchLabel :=
  .touch (touch.mode == 1) kind pointer x y pressure

/-- The release of the left mouse button, if it is down. -/
def releaseLeftMouse (touch : VitaTouch) : List TouchLabel :=
  if touch.leftMouseDown then [.leftButton false] else []

/-- The release of the pointers, as far as the mode sends them. -/
def releasePointers (touch : VitaTouch) : List TouchLabel :=
  if touch.mode = 1 then
    (List.finRange 8).flatMap fun i =>
      if (touch.points i).active then
        [touch.sendTouchEvent .up i (touch.points i).x (touch.points i).y 0]
      else []
  else if touch.mode = 3 then [.cancelAll]
  else []

/-- `release_touch_state`. -/
def releaseTouchState (touch : VitaTouch) : VitaTouch × List TouchLabel :=
  ({ touch with points := fun _ => {}, leftMouseDown := false, twoFingerActive := false },
    .released :: touch.releasePointers ++ touch.releaseLeftMouse)

/-- `vita_touch_init`. -/
def init (touch : VitaTouch) : VitaTouch :=
  if touch.initialized then touch
  else { touch with points := fun _ => {}, initialized := true }

theorem init_initialized (touch : VitaTouch) : touch.init.initialized = true := by
  unfold init
  split
  · assumption
  · rfl

/-- `vita_touch_configure`; `scale` stands for the multiplier that the acceleration gives. -/
def configure (touch : VitaTouch) (mode : Int) (scale : Int → Int) : VitaTouch :=
  { touch with mode := if mode < 0 ∨ mode > 3 then 0 else mode, scale }

/-- `vita_touch_start`. -/
def start (touch : VitaTouch) : VitaTouch × List TouchLabel :=
  let (released, labels) := touch.init.releaseTouchState
  ({ released with active := true }, labels)

/-- `vita_touch_stop`. -/
def stop (touch : VitaTouch) : VitaTouch × List TouchLabel :=
  if touch.active then
    let (released, labels) := { touch with active := false }.releaseTouchState
    (released, labels ++ [.stopped])
  else (touch, [.stopped])

theorem stop_idle (touch : VitaTouch) : touch.stop.1.active = false := by
  unfold stop
  split
  · rfl
  · rename_i inactive
    exact Bool.eq_false_iff.2 inactive

/-- Whether the panel is active plays no part in what a release sends. -/
theorem stop_labels (touch : VitaTouch)
    : touch.stop.2 = (if touch.active then touch.releaseTouchState.2 else []) ++ [.stopped] := by
  unfold stop
  split <;> rfl

-----------------------------------------------------------------------------------------
-- Frames
-----------------------------------------------------------------------------------------

/-- What the first loop of `process_touch_points` sends for one contact. It compares with
`s_points`, which that loop does not change.
-/
def contactLabels (touch : VitaTouch) (frame : TouchFrame) (i : Fin 8) : List TouchLabel :=
  let id := frame.pointerId i
  let sent :=
    if !(touch.points id).active then [touch.sendTouchEvent .down id (frame.x i) (frame.y i) 1]
    else if (touch.points id).x ≠ frame.x i ∨ (touch.points id).y ≠ frame.y i then
      [touch.sendTouchEvent .move id (frame.x i) (frame.y i) 1]
    else []
  .contact (frame.report i).id id :: sent

/-- `present`, `x` and `y` of `process_touch_points` after the first loop. -/
def sampledPoints (frame : TouchFrame) : Fin 8 → TouchPointState :=
  frame.contacts.foldl
    (fun sampled i => Function.update sampled (frame.pointerId i) ⟨true, frame.x i, frame.y i⟩)
    fun _ => {}

/-- What the second loop of `process_touch_points` sends for one pointer. -/
def missingLabels (touch : VitaTouch) (sampled : Fin 8 → TouchPointState) (i : Fin 8)
    : List TouchLabel :=
  if (touch.points i).active && !(sampled i).active then
    [touch.sendTouchEvent .up i (touch.points i).x (touch.points i).y 0]
  else []

/-- `process_touch_points`. -/
def processTouchPoints (touch : VitaTouch) (frame : TouchFrame) : VitaTouch × List TouchLabel :=
  let sampled := sampledPoints frame
  ({ touch with points := sampled },
    .frame frame :: frame.contacts.flatMap (touch.contactLabels frame)
      ++ (List.finRange 8).flatMap (touch.missingLabels sampled))

/-- The scroll event of two fingers that moved, clamped to what one event carries. -/
def scrollLabels (touch : VitaTouch) (delta : Int) : List TouchLabel :=
  let scroll := max (-127) (min 127 (touch.scale delta))
  if delta ≠ 0 ∧ scroll ≠ 0 then [.scroll scroll] else []

/-- `process_absolute_mouse`. -/
def processAbsoluteMouse (touch : VitaTouch) (frame : TouchFrame)
    : VitaTouch × List TouchLabel :=
  let moved : List TouchLabel :=
    if frame.reportNum > 0 then [.mousePosition (frame.x 0) (frame.y 0)] else []
  if frame.reportNum = 1 then
    ({ touch with leftMouseDown := true, twoFingerActive := false },
      moved ++ if touch.leftMouseDown then [] else [.leftButton true])
  else
    let lifted := moved ++ touch.releaseLeftMouse
    let touch := { touch with leftMouseDown := false }
    if frame.reportNum ≥ 2 then
      let y := ((frame.report 0).y + (frame.report 1).y).tdiv 2
      if touch.twoFingerActive then
        ({ touch with twoFingerLastY := y }, lifted ++ touch.scrollLabels (y - touch.twoFingerLastY))
      else ({ touch with twoFingerActive := true, twoFingerLastY := y }, lifted)
    else ({ touch with twoFingerActive := false }, lifted)

/-- `vita_touch_process`; no frame means that `sceTouchPeek` failed. -/
def process (touch : VitaTouch) (frame : Option TouchFrame) : VitaTouch × List TouchLabel :=
  if !touch.active ∨ touch.mode = 0 then (touch, [])
  else
    match frame with
    | none => (touch, [])
    | some frame =>
        if touch.mode = 1 ∨ touch.mode = 3 then touch.processTouchPoints frame
        else if touch.mode = 2 then touch.processAbsoluteMouse frame
        else (touch, [])

end VitaTouch

/-- A call of one of the entry points. -/
inductive TouchChoice
  | configure (mode : Int) (scale : Int → Int)
  | start
  | stop
  | process (frame : Option TouchFrame)

/-- One call. The mode is configured only while the touch panel is stopped. -/
def touchStep (touch : VitaTouch) : TouchChoice → Option (VitaTouch × List TouchLabel)
  | .configure mode scale => if touch.active then none else some (touch.configure mode scale, [])
  | .start => some touch.start
  | .stop => some touch.stop
  | .process frame => some (touch.process frame)

/-- The machine of the touch panel, from a fresh process. -/
def touchMachine : Machine VitaTouch TouchChoice TouchLabel where
  initial touch := ∃ scale, touch = { scale }
  step := touchStep

end VitaMoonlight
