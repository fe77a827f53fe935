import VitaMoonlight.Types
import VitaMoonlight.Backend.Device
import VitaMoonlight.Library.Machine

/-! The host store the services use (`backend/legacy_device_store.cpp`), and the store as a
machine whose choices are its calls.
-/

namespace VitaMoonlight

open Library

/-- The store's globals: `s_initialized`, `config.key_dir` and `known_devices`. -/
structure DeviceStore where
  initialized : Bool := false
  keyDir : CString := .empty
  known : KnownDevices := {}

namespace DeviceStore

open KnownDevices DeviceInfo

/-- `find_stored_host`. -/
def findStoredHost (devices : List DeviceInfo) (host : MoonlightHost) : Option Nat :=
  (findDeviceByHostId devices host.hostId.text).or
    ((findDeviceByMac devices host.mac.text).or
      ((findDeviceByAddress devices host.internal.text).or
        ((findDeviceByAddress devices host.external.text).or
          (if host.name.isEmpty then none else findDevice devices host.name.text))))

/-- `fill_host`. -/
def fillHost (device : DeviceInfo) (id : Nat) : MoonlightHost where
  id := id
  hostId := .copy 33 device.hostId.text
  name := .copy 256 device.name.text
  internal := .copy 256 device.internal.text
  external := .copy 256 device.external.text
  mac := .copy 18 device.mac.text
  port := device.port
  paired := if device.paired then 1 else 0
  online := 0
  preferExternal := if device.preferExternal then 1 else 0

/-- `update_host_metadata`. -/
def updateHostMetadata (stored : DeviceInfo) (host : MoonlightHost) : DeviceInfo :=
  { stored with
    name := if host.name.isEmpty then stored.name else .copy 256 host.name.text
    internal := if host.internal.isEmpty then stored.internal else .copy 256 host.internal.text
    external := if host.external.isEmpty then stored.external else .copy 256 host.external.text
    mac := if host.mac.isEmpty then stored.mac else .copy 18 host.mac.text
    port := if host.port ≠ 0 then host.port else stored.port }

/-- The record `append_host` hands to `append_device`. -/
def newHost (host : MoonlightHost) (hostId : CString) (paired : Bool) : DeviceInfo :=
  let info := updateHostMetadata {} host
  { info with
    name := if info.name.isEmpty then .copy 256 host.internal.text else info.name
    hostId := .copy 33 hostId
    port := if info.port = 0 then 47989 else info.port
    preferExternal := host.preferExternal != 0
    paired := paired }

-----------------------------------------------------------------------------------------
-- Calls
-----------------------------------------------------------------------------------------

/-- How the allocator and the file system answer one call. -/
structure StorageOutcome where
  allocated : Bool
  directoryMade : Bool
  written : Bool

/-- Every request to the environment succeeds. -/
def StorageOutcome.granted : StorageOutcome := ⟨true, true, true⟩

/-- What a call leaves behind: the store, the requests it made and its result. -/
structure CallResult where
  store : DeviceStore
  requests : List FileRequest
  result : Int

/-- `save_host`, for the record at an index of the list just written. -/
def saveHost (store : DeviceStore) (stored : Option Nat) (outcome : StorageOutcome)
    : CallResult :=
  match stored.bind fun idx => store.known.devices[idx]? with
  | none => ⟨store, [], -1⟩
  | some info =>
      let directory := FileRequest.makeDirectory (snprintf 512 (store.keyDir ++ info.directory))
      if outcome.directoryMade then
        let (requests, result) := info.save store.keyDir outcome.written
        ⟨store, directory :: requests, result⟩
      else ⟨store, [directory], -1⟩

/-- The candidate directories of `legacy_device_store_init`. -/
def keyDirs : List CString :=
  [.ofLiteral "ux0:data/moonlight/", .ofLiteral "ux0:moonlight/",
    .ofLiteral "uma0:data/moonlight/"]

/-- `legacy_device_store_init`; `usable` answers for each directory. -/
def init (store : DeviceStore) (usable : CString → Bool)
    (entries : Option (List DirectoryEntry))
    : CallResult :=
  if store.initialized then ⟨store, [], 0⟩
  else
    match keyDirs.find? usable with
    | none => ⟨store, keyDirs.map .makeDirectory, -1⟩
    | some keyDir =>
        let (known, saved) := KnownDevices.loadAll keyDir store.known entries
        ⟨{ store with initialized := true, keyDir, known },
          (keyDirs.takeWhile (· ≠ keyDir) ++ [keyDir]).map .makeDirectory ++ saved, 0⟩

/-- `load_all_known_devices` on the store's list. -/
def load (store : DeviceStore) (entries : Option (List DirectoryEntry)) : CallResult :=
  let (known, saved) := KnownDevices.loadAll store.keyDir store.known entries
  ⟨{ store with known }, saved, 0⟩

/-- `legacy_device_store_get_hosts` with room for the whole list. -/
def getHosts (store : DeviceStore) : List MoonlightHost :=
  store.known.devices.zipIdx.map fun (device, idx) => fillHost device idx

/-- What `legacy_device_store_add_host` makes of a record it found. -/
def renameHost (stored : DeviceInfo) (address : CString) (port : UInt16) (name : Option CString)
    : DeviceInfo :=
  { stored with
    name :=
      match name with
      | some name =>
          if !name.isEmpty && stored.name.text != name then .copy 256 name else stored.name
      | none => stored.name
    internal := .copy 256 address
    port := if port ≠ 0 then port else 47989 }

/-- The record `legacy_device_store_add_host` hands to `append_device`. -/
def addedHost (address : CString) (port : UInt16) (name : Option CString) : DeviceInfo where
  name :=
    match name with
    | some name => if name.isEmpty then .copy 256 address else .copy 256 name
    | none => .copy 256 address
  internal := .copy 256 address
  port := if port ≠ 0 then port else 47989

/-- The record `legacy_device_store_add_host` looks for: by address, then by name. -/
def findAddedHost (devices : List DeviceInfo) (address : CString) (name : Option CString)
    : Option Nat :=
  (findDeviceByAddress devices address).or
    (match name with
     | some name => if name.isEmpty then none else findDevice devices name
     | none => none)

/-- `legacy_device_store_add_host`. -/
def addHost (store : DeviceStore) (address : Option CString) (port : UInt16)
    (name : Option CString) (outcome : StorageOutcome)
    : CallResult :=
  match address with
  | none => ⟨store, [], -1⟩
  | some address =>
      if !store.initialized || address.isEmpty then ⟨store, [], -1⟩
      else
        match findAddedHost store.known.devices address name with
        | some idx =>
            let devices := store.known.devices.modify idx (renameHost · address port name)
            saveHost { store with known := { store.known with devices } } (some idx) outcome
        | none =>
            let (known, stored) :=
              store.known.appendDevice (addedHost address port name) outcome.allocated
            saveHost { store with known } stored outcome

/-- What `legacy_device_store_mark_paired` makes of a record it found. -/
def pairStored (host : MoonlightHost) (stored : DeviceInfo) : DeviceInfo :=
  let updated := updateHostMetadata stored host
  { updated with
    hostId :=
      if !host.hostId.isEmpty && updated.hostId.isEmpty then .copy 33 host.hostId.text
      else updated.hostId
    preferExternal := host.preferExternal != 0
    paired := true }

/-- `legacy_device_store_mark_paired`. -/
def markPaired (store : DeviceStore) (host : MoonlightHost) (outcome : StorageOutcome)
    : CallResult :=
  if !store.initialized || host.internal.isEmpty then ⟨store, [], -1⟩
  else
    match findStoredHost store.known.devices host with
    | none =>
        let (known, stored) :=
          store.known.appendDevice (newHost host host.hostId.text true) outcome.allocated
        saveHost { store with known } stored outcome
    | some idx =>
        let devices := store.known.devices.modify idx (pairStored host)
        saveHost { store with known := { store.known with devices } } (some idx) outcome

/-- What `legacy_device_store_set_host_id` makes of a record it found. -/
def identifyStored (host : MoonlightHost) (hostId : CString) (stored : DeviceInfo)
    : DeviceInfo :=
  updateHostMetadata { stored with hostId := .copy 33 hostId } host

/-- `legacy_device_store_set_host_id`. -/
def setHostId (store : DeviceStore) (host : MoonlightHost) (hostId : CString)
    (outcome : StorageOutcome)
    : CallResult :=
  if !store.initialized || hostId.isEmpty then ⟨store, [], -1⟩
  else
    match findStoredHost store.known.devices host with
    | none =>
        let (known, stored) :=
          store.known.appendDevice (newHost host hostId false) outcome.allocated
        saveHost { store with known } stored outcome
    | some idx =>
        let devices := store.known.devices.modify idx (identifyStored host hostId)
        saveHost { store with known := { store.known with devices } } (some idx) outcome

/-- `legacy_device_store_delete_host`; `contents` lists the record's directory. -/
def deleteHost (store : DeviceStore) (host : MoonlightHost)
    (contents : Option (List EntryName))
    : CallResult :=
  if !store.initialized then ⟨store, [], -1⟩
  else
    match findStoredHost store.known.devices host with
    | none => ⟨store, [], -1⟩
    | some idx =>
        let (known, requests, removed) :=
          KnownDevices.removeDeviceIndex store.keyDir store.known idx contents
        ⟨{ store with known }, requests, if removed then 0 else -1⟩

/-- `legacy_device_store_get_client_directory`'s name for the client's own directory. -/
def clientDirectoryName : CString := .ofLiteral "client"

/-- `legacy_device_store_get_server_certificate_path`. -/
def getServerCertificatePath (store : DeviceStore) (host : MoonlightHost) (size : Nat)
    : Option CString :=
  if !store.initialized then none
  else
    match (findStoredHost store.known.devices host).bind fun idx => store.known.devices[idx]? with
    | none => none
    | some stored =>
        let path := store.keyDir ++ stored.directory ++ .ofLiteral "/server.pem"
        if size ≤ path.length then none else some path

/-- One call of the store's interface, with everything the environment answers to it. -/
inductive Call
  | init (usable : CString → Bool) (entries : Option (List DirectoryEntry))
  | load (entries : Option (List DirectoryEntry))
  | addHost (address : Option CString) (port : UInt16) (name : Option CString)
    (outcome : StorageOutcome)
  | markPaired (host : MoonlightHost) (outcome : StorageOutcome)
  | setHostId (host : MoonlightHost) (hostId : CString) (outcome : StorageOutcome)
  | deleteHost (host : MoonlightHost) (contents : Option (List EntryName))

/-- Carry out one call. -/
def call (store : DeviceStore) : Call → CallResult
  | .init usable entries => store.init usable entries
  | .load entries => store.load entries
  | .addHost address port name outcome => store.addHost address port name outcome
  | .markPaired host outcome => store.markPaired host outcome
  | .setHostId host hostId outcome => store.setHostId host hostId outcome
  | .deleteHost host contents => store.deleteHost host contents

/-- The call and what it left behind. -/
structure Called where
  before : DeviceStore
  made : Call
  result : CallResult

/-- The store's runs: every call at any time, starting before initialisation. The list is
loaded again only once there is a directory to load it from.
-/
def machine : Machine DeviceStore Call Called where
  initial := fun store => store = {}
  step := fun store made =>
    match made with
    | .load _ =>
        if store.initialized then
          some ((store.call made).store, [⟨store, made, store.call made⟩])
        else none
    | _ => some ((store.call made).store, [⟨store, made, store.call made⟩])

end DeviceStore

end VitaMoonlight
