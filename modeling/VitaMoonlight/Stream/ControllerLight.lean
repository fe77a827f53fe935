import VitaMoonlight.Library.Generation
import VitaMoonlight.Stream.SessionUp

/-! The colour that the host gives to the controller, from the callback of the streaming library
(`moonlight/stream_session.cpp`) to the lamps of the stream page (`pages/page_stream.cpp`). The page
runs on the main thread, beside the parties of the session.
-/

namespace VitaMoonlight

open Library

-----------------------------------------------------------------------------------------
-- The cached feedback
-----------------------------------------------------------------------------------------

/-- `MoonlightControllerLightMode`. -/
inductive ControllerLightMode where
  | off
  | ds4
  | dualsense
deriving DecidableEq

structure LightColor where
  r : UInt8 := 0
  g : UInt8 := 0
  b : UInt8 := 0
deriving DecidableEq

/-- `MoonlightControllerLight`. -/
structure ControllerLight where
  generation : UInt32 := 0
  mode : ControllerLightMode := .off
  color : LightColor := {}
deriving DecidableEq

/-- The mode of a setting; any other value is taken for off. -/
def controllerLightMode : Int → ControllerLightMode
  | 1 => .ds4
  | 2 => .dualsense
  | _ => .off

namespace ControllerLight

variable (light : ControllerLight)

/-- What `moonlight_stream_start` makes of the light when it admits a session. -/
def start (setting : Int) : ControllerLight where
  generation := nextGeneration light.generation
  mode := controllerLightMode setting

/-- `on_controller_led`. -/
def onControllerLed (flags : StreamFlags) (controller : UInt16) (color : LightColor)
    : ControllerLight :=
  if controller = 0 ∧ flags.hears = true ∧ light.mode ≠ .off then { light with color } else light

/-- `moonlight_stream_get_controller_light`. -/
def read (flags : StreamFlags) : ControllerLight :=
  if flags.isUp then light else { light with mode := .off }

end ControllerLight

-----------------------------------------------------------------------------------------
-- The page
-----------------------------------------------------------------------------------------

/-- Which of the planes for the lamps the page has. -/
structure LampPlanes where
  ds4 : Bool := true
  left : Bool := true
  right : Bool := true

/-- The lamps: `none` is one that is hidden. -/
structure Lamps where
  ds4 : Option LightColor := none
  left : Option LightColor := none
  right : Option LightColor := none
deriving DecidableEq

/-- What `Stream::UpdateControllerLight` shows for a light. -/
def LampPlanes.lamps (planes : LampPlanes) (mode : ControllerLightMode) (color : LightColor) : Lamps :=
  let shown (plane : Bool) : Option LightColor := if plane then some color else none
  if mode = .off ∨ color = {} then {}
  else if mode = .ds4 then { ds4 := shown planes.ds4 }
  else { left := shown planes.left, right := shown planes.right }

/-- The members of `Stream` that belong to the lamps. -/
structure LampPage where
  planes : LampPlanes
  generation : UInt32 := 0
  light : ControllerLight := {}
  lamps : Lamps := {}

namespace LampPage

/-- The constructor of `Stream`, with the light it reads. -/
def opened (planes : LampPlanes) (light : ControllerLight) : LampPage where
  planes := planes
  generation := if light.mode ≠ .off then light.generation else 0

/-- The end of `Stream::UpdateControllerLight`, which touches the lamps for a changed light only. -/
def take (page : LampPage) (light : ControllerLight) : LampPage :=
  if light.mode = page.light.mode ∧ light.color = page.light.color then page
  else { page with light, lamps := page.planes.lamps light.mode light.color }

/-- `Stream::UpdateControllerLight`, with the light it reads. -/
def update (page : LampPage) (light : ControllerLight) : LampPage :=
  if page.generation = 0 then page
  else page.take (if light.generation ≠ page.generation then {} else light)

end LampPage

-----------------------------------------------------------------------------------------
-- The machine
-----------------------------------------------------------------------------------------

structure LightState where
  stream : StreamState := {}
  light : ControllerLight := {}
  page : Option LampPage := none

/-- What a run shows. -/
inductive LightLabel where
  | stream (label : StreamLabel)
  | configured (mode : ControllerLightMode)
  | led (controller : UInt16) (color : LightColor)
  | opened (planes : LampPlanes)
  | shown (lamps : Lamps)
  | closed

/-- The next step of some party: one of the session, a call of the library, or one of the main
thread. A start carries its setting.
-/
inductive LightChoice where
  | start (setting : Int)
  | stream (choice : StreamChoice)
  | led (controller : UInt16) (color : LightColor)
  | openPage (planes : LampPlanes)
  | update
  | closePage

/-- A step of a session. -/
def LightState.advance (state : LightState) (choice : StreamChoice)
    : Option (LightState × List LightLabel) :=
  (streamStep state.stream choice).map fun (stream, labels) =>
    ({ state with stream }, labels.map .stream)

def lightStep (state : LightState) : LightChoice → Option (LightState × List LightLabel)
  | .start setting =>
      -- The light changes with the admission, and not when the start is refused.
      if state.stream.flags.threadRunning then state.advance .start
      else
        let light := state.light.start setting
        (state.advance .start).map fun (after, labels) =>
          ({ after with light }, labels ++ [.configured light.mode])
  | .stream .start => none
  | .stream choice => state.advance choice
  | .led controller color =>
      let light := state.light.onControllerLed state.stream.flags controller color
      some ({ state with light }, [.led controller color])
  | .openPage planes =>
      match state.page with
      | some _ => none
      | none =>
          let page := LampPage.opened planes (state.light.read state.stream.flags)
          some ({ state with page := some page }, [.opened planes])
  | .update =>
      match state.page with
      | none => none
      | some page =>
          let page := page.update (state.light.read state.stream.flags)
          some ({ state with page := some page }, [.shown page.lamps])
  | .closePage =>
      match state.page with
      | none => none
      | some _ => some ({ state with page := none }, [.closed])

def lightMachine : Machine LightState LightChoice LightLabel where
  initial state := state = {}
  step := lightStep

end VitaMoonlight
