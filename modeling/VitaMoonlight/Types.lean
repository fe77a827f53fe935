import VitaMoonlight.Library.CString

/-! The records shared by the backend, the streaming code and the services
(`include/moonlight/types.h`).
-/

namespace VitaMoonlight

open Library

/-- A host as the services see it; `id` is its index in the listed snapshot. -/
structure MoonlightHost where
  id : Int := 0
  hostId : CharArray 33 := .empty
  name : CharArray 256 := .empty
  internal : CharArray 256 := .empty
  external : CharArray 256 := .empty
  mac : CharArray 18 := .empty
  port : UInt16 := 0
  paired : Int := 0
  online : Int := 0
  preferExternal : Int := 0
deriving DecidableEq

-----------------------------------------------------------------------------------------
-- Events
-----------------------------------------------------------------------------------------

/-- `MOONLIGHT_EVENT_*`, in declaration order. -/
inductive MoonlightEventType
  | none
  | hostsChanged
  | pairingRequired
  | pairingFinished
  | pairingFailed
  | connectionStarted
  | connectionReady
  | connectionFailed
  | connectionClosed
  | streamStarted
  | streamStopped
  | streamFailed
  | applicationsReady
  | applicationsFailed
  | settingsChanged
  | settingsClosed
  | hostAvailabilityChanged
  | discoveryChanged
deriving DecidableEq

/-- A backend event. `Address` is what stands for `const char *address`: a pointer where
memory matters, the text where only the content does.
-/
structure MoonlightEvent (Address : Type) where
  type : MoonlightEventType
  result : Int := 0
  hostId : Int := 0
  applicationId : Int := 0
  address : Option Address := none
  pairingPin : CharArray 5 := .empty
  serverStatusCode : Int := 0
  serverStatusMessage : CharArray 256 := .empty
  runningApplicationId : Int := 0
  discoveryGeneration : UInt32 := 0
deriving DecidableEq

namespace MoonlightEvent

variable {Source Target : Type}

/-- The event with its address reread; every other field is copied. -/
def mapAddress (event : MoonlightEvent Source) (read : Source → Target)
    : MoonlightEvent Target :=
  { event with address := event.address.map read }

@[simp] theorem type_mapAddress (event : MoonlightEvent Source) (read : Source → Target)
    : (event.mapAddress read).type = event.type := rfl

@[simp] theorem address_mapAddress (event : MoonlightEvent Source) (read : Source → Target)
    : (event.mapAddress read).address = event.address.map read := rfl

@[simp] theorem mapAddress_mapAddress {Final : Type} (event : MoonlightEvent Source)
    (read : Source → Target) (again : Target → Final)
    : (event.mapAddress read).mapAddress again = event.mapAddress (again ∘ read) := by
  simp [mapAddress]

end MoonlightEvent

end VitaMoonlight
