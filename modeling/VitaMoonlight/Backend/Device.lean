import VitaMoonlight.ThirdParty.Inih

/-! The stored PCs and their files (`backend/legacy/device.c`).
File operations appear as the requests the code makes; whether a request succeeds and what
a directory or a file holds are arguments.
-/

namespace VitaMoonlight

open Library Library.CText

/-- `device_info_t`. -/
structure DeviceInfo where
  name : CharArray 256 := .empty
  hostId : CharArray 33 := .empty
  storageName : CharArray 256 := .empty
  port : UInt16 := 0
  paired : Bool := false
  internal : CharArray 256 := .empty
  external : CharArray 256 := .empty
  mac : CharArray 18 := .empty
  preferExternal : Bool := false
deriving DecidableEq

/-- `device_infos_t`; `count` is the length of `devices`. -/
structure KnownDevices where
  size : Nat := 0
  devices : List DeviceInfo := []
deriving DecidableEq

/-- What the code asks of the file system. -/
inductive FileRequest
  | makeDirectory (path : CString)
  | writeFile (path : CString) (text : List UInt8)
  | removeFile (path : CString)
  | removeDirectory (path : CString)
deriving DecidableEq

def FileRequest.path : FileRequest → CString
  | makeDirectory path => path
  | writeFile path _ => path
  | removeFile path => path
  | removeDirectory path => path

/-- The name of a directory entry, as a file system reports it. -/
structure EntryName where
  name : CharArray 256
  nonempty : name.text ≠ .empty
  noSlash : 47 ∉ name.text.bytes
deriving DecidableEq

/-- `snprintf(out, size, ..)` of a text. -/
def snprintf (size : Nat) (text : CString) : CString := text.take (size - 1)

namespace DeviceInfo

-----------------------------------------------------------------------------------------
-- Identity
-----------------------------------------------------------------------------------------

/-- `ensure_host_identity`. -/
def ensureHostIdentity (info : DeviceInfo) : DeviceInfo :=
  if info.storageName.isEmpty then
    { info with
      storageName := .copy 256 (if info.name.isEmpty then info.hostId.text else info.name.text) }
  else info

/-- `strcmp(known->field, text) == 0` for a field that must not be empty. -/
def hasMac (mac : CString) (device : DeviceInfo) : Bool :=
  !device.mac.isEmpty && device.mac.text == mac

/-- The comparison of `find_device_by_host_id`. -/
def hasHostId (hostId : CString) (device : DeviceInfo) : Bool := device.hostId.text == hostId

/-- The comparison of `find_device_by_address`. -/
def hasAddress (address : CString) (device : DeviceInfo) : Bool :=
  (!device.internal.isEmpty && device.internal.text == address)
    || (!device.external.isEmpty && device.external.text == address)

/-- The comparison of `find_device`. -/
def hasName (name : CString) (device : DeviceInfo) : Bool := device.name.text == name

/-- `devices_same_identity`. -/
def sameIdentity (left right : DeviceInfo) : Bool :=
  if !left.hostId.isEmpty && !right.hostId.isEmpty && left.hostId == right.hostId then true
  else if !left.mac.isEmpty && !right.mac.isEmpty && left.mac == right.mac then true
  else if !left.internal.isEmpty && !right.internal.isEmpty && left.internal == right.internal
    then true
  else if !left.external.isEmpty && !right.external.isEmpty && left.external == right.external
    then true
  else if left.internal.isEmpty && left.external.isEmpty && right.internal.isEmpty
      && right.external.isEmpty && !left.name.isEmpty && !right.name.isEmpty
      && left.name == right.name then true
  else false

/-- The first character of an array; the terminator when it is empty. -/
def firstChar (text : CString) : UInt8 := text.bytes.head?.getD 0

/-- `should_keep_device`, which compares only the first characters of the host ids. -/
def shouldKeep (candidate current : DeviceInfo) : Bool :=
  if candidate.paired != current.paired then candidate.paired
  else if firstChar candidate.hostId.text != firstChar current.hostId.text then
    !candidate.hostId.isEmpty
  else decide (candidate.storageName.text.bytes < current.storageName.text.bytes)

/-- `merge_device_info`. -/
def merge (destination source : DeviceInfo) : DeviceInfo :=
  { destination with
    paired := if source.paired then true else destination.paired
    name := if source.name.isEmpty then destination.name else source.name
    internal := if source.internal.isEmpty then destination.internal else source.internal
    external := if source.external.isEmpty then destination.external else source.external
    mac := if source.mac.isEmpty then destination.mac else source.mac
    port := if source.port ≠ 0 then source.port else destination.port
    preferExternal := source.preferExternal }

/-- `storage_name[0] ? storage_name : name`. -/
def directory (info : DeviceInfo) : CString :=
  if info.storageName.isEmpty then info.name.text else info.storageName.text

-----------------------------------------------------------------------------------------
-- The file of one record
-----------------------------------------------------------------------------------------

/-- `device_file_path`. -/
def filePath (keyDir directory : CString) : CString :=
  snprintf 512 (keyDir ++ directory ++ .ofLiteral "/device.ini")

/-- `fprintf(fd, "%s = %s\n", key, value)`. -/
def writeString (key : CString) (value : List UInt8) : List UInt8 :=
  key.bytes ++ 32 :: 61 :: 32 :: value ++ [newline]

def trueText : CString := .ofLiteral "true"

def falseText : CString := .ofLiteral "false"

/-- What `write_bool` prints for the value. -/
def boolText (value : Bool) : CString := if value then trueText else falseText

/-- Everything `save_device_info` prints, in its order. -/
def iniText (info : DeviceInfo) : List UInt8 :=
  writeString (.ofLiteral "name") info.name.text.bytes
    ++ writeString (.ofLiteral "paired") (boolText info.paired).bytes
    ++ writeString (.ofLiteral "host_id") info.hostId.text.bytes
    ++ writeString (.ofLiteral "internal") info.internal.text.bytes
    ++ writeString (.ofLiteral "external") info.external.text.bytes
    ++ writeString (.ofLiteral "mac") info.mac.text.bytes
    ++ writeString (.ofLiteral "port") (decimal info.port.toNat)
    ++ writeString (.ofLiteral "prefer_external") (boolText info.preferExternal).bytes

/-- `save_device_info`; `written` tells whether opening, writing and closing succeed. -/
def save (keyDir : CString) (info : DeviceInfo) (written : Bool) : List FileRequest × Int :=
  ([.writeFile (filePath keyDir info.directory) info.iniText], if written then 0 else -1)

/-- `BOOL(v)`. -/
def parseBool (value : CString) : Bool := value == trueText

/-- `INT(v)` stored in a `uint16_t`. -/
def parsePort (value : CString) : UInt16 := UInt16.ofInt (atoi value.bytes)

/-- `device_ini_handle`, which accepts every key. -/
def iniHandle : Inih.Handler DeviceInfo := fun info _currentSection name value =>
  (if name = .ofLiteral "name" then { info with name := .copy 256 value }
   else if name = .ofLiteral "paired" then { info with paired := parseBool value }
   else if name = .ofLiteral "host_id" then { info with hostId := .copy 33 value }
   else if name = .ofLiteral "internal" then { info with internal := .copy 256 value }
   else if name = .ofLiteral "external" then { info with external := .copy 256 value }
   else if name = .ofLiteral "mac" then { info with mac := .copy 18 value }
   else if name = .ofLiteral "port" then { info with port := parsePort value }
   else if name = .ofLiteral "prefer_external" then
     { info with preferExternal := parseBool value }
   else info,
   true)

/-- `load_device_info`; `file` is the content found at the record's path. -/
def load (file : Option (List UInt8)) (info : DeviceInfo) : Option DeviceInfo :=
  match Inih.iniParse iniHandle file { info with port := 47989 } with
  | (info, result) => if result = 0 then some info else none

end DeviceInfo

namespace KnownDevices

open DeviceInfo

/-- `find_device`. -/
def findDevice (devices : List DeviceInfo) (name : CString) : Option Nat :=
  devices.findIdx? (hasName name)

/-- `find_device_by_host_id`. -/
def findDeviceByHostId (devices : List DeviceInfo) (hostId : CString) : Option Nat :=
  if hostId.isEmpty then none else devices.findIdx? (hasHostId hostId)

/-- `find_device_by_address`. -/
def findDeviceByAddress (devices : List DeviceInfo) (address : CString) : Option Nat :=
  if address.isEmpty then none else devices.findIdx? (hasAddress address)

/-- The loop that `find_device_by_identity` and `find_stored_host` share. -/
def findDeviceByMac (devices : List DeviceInfo) (mac : CString) : Option Nat :=
  if mac.isEmpty then none else devices.findIdx? (hasMac mac)

/-- `find_device_by_identity`. -/
def findDeviceByIdentity (devices : List DeviceInfo) (info : DeviceInfo) : Option Nat :=
  (findDeviceByHostId devices info.hostId.text).or
    ((findDeviceByMac devices info.mac.text).or
      ((findDeviceByAddress devices info.internal.text).or
        ((findDeviceByAddress devices info.external.text).or
          (if !info.name.isEmpty && info.mac.isEmpty && info.internal.isEmpty
              && info.external.isEmpty then
            findDevice devices info.name.text
          else none))))

-----------------------------------------------------------------------------------------
-- Adding, merging and removing records
-----------------------------------------------------------------------------------------

/-- What `append_device` makes of the record that already has the identity of `info`. -/
def mergeExisting (existing info : DeviceInfo) : DeviceInfo :=
  let merged := existing.merge info
  let identified :=
    if merged.hostId.isEmpty && !info.hostId.isEmpty then { merged with hostId := info.hostId }
    else merged
  if identified.storageName.isEmpty && !info.storageName.isEmpty then
    { identified with storageName := info.storageName }
  else identified

/-- Room for one more record, if the allocator grants what is needed. -/
def grow (known : KnownDevices) (allocated : Bool) : Option KnownDevices :=
  if known.size = 0 then
    if allocated then some { known with size := 4 } else none
  else if known.size = known.devices.length then
    if allocated then some { known with size := known.size * 2 } else none
  else some known

/-- `append_device`: the list afterwards and the index of the record, `none` for `NULL`. -/
def appendDevice (known : KnownDevices) (info : DeviceInfo) (allocated : Bool)
    : KnownDevices × Option Nat :=
  match findDeviceByIdentity known.devices info with
  | some idx =>
      ({ known with devices := known.devices.modify idx (mergeExisting · info) }, some idx)
  | none =>
      match known.grow allocated with
      | none => (known, none)
      | some grown =>
          ({ grown with devices := grown.devices ++ [info.ensureHostIdentity] },
            some grown.devices.length)

/-- What a duplicate leaves of the record already kept. -/
def mergeDuplicate (source current : DeviceInfo) : DeviceInfo :=
  if source.shouldKeep current then source.merge current else current.merge source

/-- One iteration of the loop of `normalize_known_devices`: the records kept so far take in
the next one.
-/
def normalizeStep (unique : List DeviceInfo) (source : DeviceInfo) : List DeviceInfo :=
  match unique.findIdx? (sameIdentity · source) with
  | none => unique ++ [source]
  | some idx => unique.modify idx (mergeDuplicate source)

/-- `normalize_known_devices`, which saves every record it keeps and ignores failures. -/
def normalize (keyDir : CString) (known : KnownDevices) : KnownDevices × List FileRequest :=
  let devices := (known.devices.foldl normalizeStep []).map ensureHostIdentity
  ({ known with devices }, devices.flatMap fun info => (info.save keyDir true).1)

/-- One directory entry as `load_all_known_devices` meets it: the content of its
`device.ini` if that can be opened, and whether the allocator grants room for the record.
-/
structure DirectoryEntry where
  name : EntryName
  isDirectory : Bool
  deviceIni : Option (List UInt8)
  allocated : Bool

/-- The entry is this directory or its parent. -/
def isDots (name : CString) : Bool := name == .ofLiteral "." || name == .ofLiteral ".."

/-- The record an entry is loaded into, `none` when the entry is skipped. -/
def loadedDevice (entry : DirectoryEntry) : Option DeviceInfo :=
  if isDots entry.name.name.text then none
  else if !entry.isDirectory then none
  else
    let info : DeviceInfo := { name := entry.name.name, storageName := entry.name.name }
    (info.load entry.deviceIni).map ensureHostIdentity

/-- One iteration of the loop of `load_all_known_devices`. -/
def loadStep (known : KnownDevices) (entry : DirectoryEntry) : KnownDevices :=
  match loadedDevice entry with
  | none => known
  | some info => (known.appendDevice info entry.allocated).1

/-- `load_all_known_devices`; `none` stands for a directory that cannot be opened. -/
def loadAll (keyDir : CString) (known : KnownDevices) (entries : Option (List DirectoryEntry))
    : KnownDevices × List FileRequest :=
  match entries with
  | none => (known, [])
  | some entries => (entries.foldl loadStep known).normalize keyDir

/-- `remove_device_index`; `contents` lists the record's directory if it can be opened. -/
def removeDeviceIndex (keyDir : CString) (known : KnownDevices) (idx : Nat)
    (contents : Option (List EntryName))
    : KnownDevices × List FileRequest × Bool :=
  match known.devices[idx]? with
  | none => (known, [], false)
  | some device =>
      let directory := snprintf 512 (keyDir ++ device.directory)
      let files := (contents.getD []).filter fun entry => !isDots entry.name.text
      ({ known with devices := known.devices.eraseIdx idx },
        .removeFile (filePath keyDir device.directory)
          :: files.map (fun entry =>
              .removeFile (snprintf 512 (directory ++ .ofLiteral "/" ++ entry.name.text)))
          ++ [.removeDirectory directory],
        true)

end KnownDevices

end VitaMoonlight
