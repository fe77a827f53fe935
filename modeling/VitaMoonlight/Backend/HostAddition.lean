import VitaMoonlight.Backend.StoreEdits

/-! What adding a host does to the list: which record it writes, and what is left of it when the
record cannot be saved.
-/

namespace VitaMoonlight

open Library KnownDevices

-----------------------------------------------------------------------------------------
-- The record of an address
-----------------------------------------------------------------------------------------

/-- An address as a record stores it. -/
def storedAddress (address : CString) : CString := (CharArray.copy 256 address).text

/-- A list that was changed for one address only: in one record that has the address, or by one new
record where none had it.
-/
inductive TouchesOwn (address : CString) (before after : List DeviceInfo) : Prop
  | kept (same : after = before)
  | changed {idx : Nat} {record : DeviceInfo} (stored : before[idx]? = some record)
    (own : record.hasAddress (storedAddress address) = true)
    (length : after.length = before.length)
    (others : ∀ other, other ≠ idx → after[other]? = before[other]?)
  | appended {info : DeviceInfo}
    (none : ∀ record ∈ before, record.hasAddress (storedAddress address) = false)
    (same : after = before ++ [info])

/-- No record is found by the address, and the one found by the name has another address. -/
def FindsNamesake (devices : List DeviceInfo) (address : CString) (name : Option CString) : Prop :=
  findDeviceByAddress devices address = none
  ∧ ∃ idx record,
      DeviceStore.findAddedHost devices address name = some idx
      ∧ devices[idx]? = some record
      ∧ record.hasAddress (storedAddress address) = false

theorem findDeviceByAddress_some {devices : List DeviceInfo} {address : CString} {idx : Nat}
    (search : findDeviceByAddress devices address = some idx)
    : ∃ record, devices[idx]? = some record ∧ record.hasAddress address = true := by
  unfold findDeviceByAddress at search
  split at search
  · contradiction
  · obtain ⟨inside, here, -⟩ := List.findIdx?_eq_some_iff_getElem.1 search
    exact ⟨devices[idx], List.getElem?_eq_getElem inside, here⟩

theorem findDeviceByAddress_none {devices : List DeviceInfo} {address : CString}
    (filled : address.isEmpty = false) (search : findDeviceByAddress devices address = none)
    : ∀ record ∈ devices, record.hasAddress address = false := by
  unfold findDeviceByAddress at search
  rw [if_neg (by simp [filled])] at search
  exact List.findIdx?_eq_none_iff.1 search

/-- An address that a record has is stored as it is. -/
theorem storedAddress_of_hasAddress {record : DeviceInfo} {address : CString}
    (has : record.hasAddress address = true)
    : storedAddress address = address := by
  refine CharArray.text_copy_of_length_lt ?_
  simp only [DeviceInfo.hasAddress, Bool.or_eq_true, Bool.and_eq_true, beq_iff_eq] at has
  obtain ⟨-, rfl⟩ | ⟨-, rfl⟩ := has
  · exact record.internal.fits
  · exact record.external.fits

theorem storedAddress_filled {address : CString} (filled : address.isEmpty = false)
    : (storedAddress address).isEmpty = false := by
  rw [storedAddress, CharArray.text_copy, CString.isEmpty_take (by decide), filled]

namespace DeviceStore

-----------------------------------------------------------------------------------------
-- The record that is written
-----------------------------------------------------------------------------------------

variable {store : DeviceStore} {address : CString} {port : UInt16} {name : Option CString}
  {outcome : StorageOutcome}

/-- The record found for a new host is in the list. -/
theorem findAddedHost_lt {devices : List DeviceInfo} {idx : Nat}
    (found : findAddedHost devices address name = some idx)
    : idx < devices.length := by
  unfold findAddedHost at found
  cases search : findDeviceByAddress devices address with
  | some place =>
      rw [search, Option.some_or] at found
      obtain rfl := Option.some.inj found
      obtain ⟨record, stored, -⟩ := findDeviceByAddress_some search
      exact (List.getElem?_eq_some_iff.1 stored).1
  | none =>
      rw [search, Option.none_or] at found
      split at found
      · split at found
        · contradiction
        · exact (List.findIdx?_eq_some_iff_getElem.1 found).1
      · contradiction

/-- Changing the record at an index changes no other. -/
theorem touchesOwn_modify {devices : List DeviceInfo} {idx : Nat} {record : DeviceInfo}
    (stored : devices[idx]? = some record)
    (own : record.hasAddress (storedAddress address) = true) (change : DeviceInfo → DeviceInfo)
    : TouchesOwn address devices (devices.modify idx change) :=
  .changed stored own (List.length_modify change devices idx) fun _ other =>
    List.getElem?_modify_ne change devices (Ne.symm other)

/-- The new record is searched for by its address only. -/
theorem findDeviceByIdentity_addedHost (devices : List DeviceInfo) (port : UInt16)
    (name : Option CString) (filled : address.isEmpty = false)
    : findDeviceByIdentity devices (addedHost address port name)
      = findDeviceByAddress devices (storedAddress address) := by
  have internal : (addedHost address port name).internal.isEmpty = false :=
    storedAddress_filled filled
  have absent (devices : List DeviceInfo)
      : findDeviceByHostId devices CString.empty = none
        ∧ findDeviceByMac devices CString.empty = none
        ∧ findDeviceByAddress devices CString.empty = none := ⟨rfl, rfl, rfl⟩
  unfold findDeviceByIdentity
  simp only [internal, Bool.and_false, Bool.false_and, Bool.false_eq_true, if_false]
  change (findDeviceByHostId devices CString.empty).or
      ((findDeviceByMac devices CString.empty).or
        ((findDeviceByAddress devices (storedAddress address)).or
          ((findDeviceByAddress devices CString.empty).or none))) = _
  rw [(absent devices).1, (absent devices).2.1, (absent devices).2.2]
  simp

/-- Appending the new record merges it into one with its address or puts it at the end. -/
theorem touchesOwn_appendDevice (known : KnownDevices) (port : UInt16) (name : Option CString)
    (allocated : Bool) (filled : address.isEmpty = false)
    : TouchesOwn address known.devices
        (known.appendDevice (addedHost address port name) allocated).1.devices := by
  rw [devices_appendDevice, findDeviceByIdentity_addedHost known.devices port name filled]
  cases search : findDeviceByAddress known.devices (storedAddress address) with
  | some idx =>
      obtain ⟨record, stored, own⟩ := findDeviceByAddress_some search
      exact touchesOwn_modify stored own _
  | none =>
      dsimp only
      split
      · exact .appended (findDeviceByAddress_none (storedAddress_filled filled) search) rfl
      · exact .kept rfl

/-- A record renamed for an address that it does not have is changed. -/
theorem renameHost_ne {record : DeviceInfo} (port : UInt16) (name : Option CString)
    (filled : address.isEmpty = false)
    (other : record.hasAddress (storedAddress address) = false)
    : renameHost record address port name ≠ record := by
  intro same
  have internal : record.internal.text = storedAddress address :=
    (congrArg (fun info : DeviceInfo => info.internal.text) same).symm
  simp [DeviceInfo.hasAddress, internal, CharArray.isEmpty_eq, storedAddress_filled filled] at other

/-- A call that finds a namesake writes the address into its record. -/
theorem addHost_namesake (running : store.initialized = true) (filled : address.isEmpty = false)
    (namesake : FindsNamesake store.known.devices address name)
    : ¬ TouchesOwn address store.known.devices
        (store.addHost (some address) port name outcome).store.known.devices := by
  obtain ⟨-, idx, record, found, stored, other⟩ := namesake
  have after
      : (store.addHost (some address) port name outcome).store.known.devices
        = store.known.devices.modify idx (renameHost · address port name) := by
    simp [addHost, running, filled, found]
  have here
      : (store.known.devices.modify idx (renameHost · address port name))[idx]?
        = some (renameHost record address port name) := by
    rw [List.getElem?_modify_eq, stored]
    rfl
  rw [after]
  intro touches
  cases touches with
  | kept same =>
      rw [same, stored] at here
      exact renameHost_ne port name filled other (Option.some.inj here).symm
  | @changed target own' stored' own _ others =>
      by_cases at' : idx = target
      · subst at'
        obtain rfl := Option.some.inj (stored.symm.trans stored')
        rw [own] at other
        contradiction
      · rw [others idx at', stored] at here
        exact renameHost_ne port name filled other (Option.some.inj here).symm
  | appended _ same =>
      have longer := congrArg List.length same
      rw [List.length_modify, List.length_append] at longer
      simp at longer

/-- Adding a host touches no record but its own if and only if the name does not lead to the record
of another address.
-/
theorem addHost_touches_own_iff (store : DeviceStore) (address : CString) (port : UInt16)
    (name : Option CString) (outcome : StorageOutcome)
    : TouchesOwn address store.known.devices
        (store.addHost (some address) port name outcome).store.known.devices
      ↔ ¬ (store.initialized = true
            ∧ address.isEmpty = false
            ∧ FindsNamesake store.known.devices address name) := by
  constructor
  · rintro touches ⟨running, filled, namesake⟩
    exact addHost_namesake running filled namesake touches
  · intro apart
    simp only [addHost]
    split
    · exact .kept rfl
    · rename_i accepted
      simp only [Bool.or_eq_true, Bool.not_eq_eq_eq_not, Bool.not_true, not_or,
        Bool.not_eq_false, Bool.not_eq_true] at accepted
      obtain ⟨running, filled⟩ := accepted
      cases found : findAddedHost store.known.devices address name with
      | none =>
          dsimp only
          rw [store_saveHost]
          exact touchesOwn_appendDevice store.known port name outcome.allocated filled
      | some idx =>
          dsimp only
          rw [store_saveHost]
          cases search : findDeviceByAddress store.known.devices address with
          | some place =>
              obtain rfl : place = idx := by
                unfold findAddedHost at found
                rw [search, Option.some_or] at found
                exact Option.some.inj found
              obtain ⟨record, stored, own⟩ := findDeviceByAddress_some search
              refine touchesOwn_modify stored ?_ _
              rw [storedAddress_of_hasAddress own, own]
          | none =>
              have stored := List.getElem?_eq_getElem (findAddedHost_lt found)
              refine touchesOwn_modify stored ?_ _
              by_contra other
              exact apart
                ⟨running, filled, search, idx, _, found, stored, eq_false_of_ne_true other⟩

/-- A PC with a name and an address. -/
def namedPc (name address : String) : DeviceInfo where
  name := .copy 256 (.ofLiteral name)
  storageName := .copy 256 (.ofLiteral name)
  internal := .copy 256 (.ofLiteral address)
  port := 47989

/-- A PC loses its address to a new one of the same name. -/
theorem namesake_loses_address
    : ¬ ∀ (store : DeviceStore) (address : CString) (port : UInt16) (name : Option CString)
          (outcome : StorageOutcome),
          TouchesOwn address store.known.devices
            (store.addHost (some address) port name outcome).store.known.devices := by
  intro touches
  refine addHost_namesake ?_ ?_ ?_
    (touches
      { initialized := true, known := { size := 4, devices := [namedPc "PC" "192.168.0.2"] } }
      (.ofLiteral "192.168.0.3") 47989 (some (.ofLiteral "PC")) .granted)
  · rfl
  · decide
  · exact
      ⟨by decide +kernel, 0, namedPc "PC" "192.168.0.2", by decide +kernel, rfl, by decide +kernel⟩

-----------------------------------------------------------------------------------------
-- Failures
-----------------------------------------------------------------------------------------

/-- The call gets no record to save: it is invalid, or the allocator refuses a new record. -/
def AddRefused (store : DeviceStore) (address : Option CString) (port : UInt16)
    (name : Option CString) (outcome : StorageOutcome)
    : Prop :=
  ∀ text,
    address = some text
    → store.initialized = true
    → text.isEmpty = false
    → findAddedHost store.known.devices text name = none
      ∧ (store.known.appendDevice (addedHost text port name) outcome.allocated).2 = none

/-- The same answers, but saving succeeds. -/
def StorageOutcome.saving (outcome : StorageOutcome) : StorageOutcome :=
  { outcome with directoryMade := true, written := true }

/-- A record that is there is saved if its directory and its file can be written. -/
theorem result_saveHost {stored : Option Nat} {idx : Nat} {info : DeviceInfo}
    (found : stored = some idx) (here : store.known.devices[idx]? = some info)
    : (store.saveHost stored outcome).result
      = if outcome.directoryMade && outcome.written then 0 else -1 := by
  subst found
  unfold saveHost
  rw [Option.bind_some, here]
  cases outcome.directoryMade <;> cases outcome.written <;> rfl

/-- A record found by identity is in the list. -/
theorem findDeviceByIdentity_lt {devices : List DeviceInfo} {info : DeviceInfo} {idx : Nat}
    (found : findDeviceByIdentity devices info = some idx)
    : idx < devices.length := by
  have inside
      : ∀ {known : DeviceInfo → Bool} {place : Nat},
          devices.findIdx? known = some place → place < devices.length :=
    fun here => (List.findIdx?_eq_some_iff_getElem.1 here).1
  simp only [findDeviceByIdentity, findDeviceByHostId, findDeviceByMac, findDeviceByAddress,
    findDevice, Option.or_eq_some_iff] at found
  grind

/-- The record that an append returns is in the list. -/
theorem appendDevice_stored {known : KnownDevices} {info : DeviceInfo} {allocated : Bool}
    {idx : Nat} (returned : (known.appendDevice info allocated).2 = some idx)
    : ∃ stored, (known.appendDevice info allocated).1.devices[idx]? = some stored := by
  unfold appendDevice at returned ⊢
  cases search : findDeviceByIdentity known.devices info with
  | some place =>
      rw [search] at returned
      obtain rfl := Option.some.inj returned
      have inside := findDeviceByIdentity_lt search
      exact ⟨_, List.getElem?_eq_getElem (by simpa using inside)⟩
  | none =>
      rw [search] at returned
      dsimp only at returned ⊢
      cases room : known.grow allocated with
      | none => simp [room] at returned
      | some grown =>
          rw [room] at returned
          obtain rfl := Option.some.inj returned
          exact ⟨info.ensureHostIdentity, by simp⟩

/-- An append that returns no record leaves the list alone. -/
theorem appendDevice_none {known : KnownDevices} {info : DeviceInfo} {allocated : Bool}
    (returned : (known.appendDevice info allocated).2 = none)
    : (known.appendDevice info allocated).1 = known := by
  unfold appendDevice at returned ⊢
  cases search : findDeviceByIdentity known.devices info with
  | some idx => simp [search] at returned
  | none =>
      rw [search] at returned
      cases room : known.grow allocated with
      | none => rfl
      | some grown => simp [room] at returned

/-- A call that gets no record to save changes nothing. -/
theorem addHost_refused (refused : AddRefused store (some address) port name outcome)
    : (store.addHost (some address) port name outcome).store = store := by
  simp only [addHost]
  split
  · rfl
  · rename_i accepted
    simp only [Bool.or_eq_true, Bool.not_eq_eq_eq_not, Bool.not_true, not_or,
      Bool.not_eq_false, Bool.not_eq_true] at accepted
    obtain ⟨running, filled⟩ := accepted
    obtain ⟨absent, returned⟩ := refused address rfl running filled
    rw [absent]
    dsimp only
    rw [store_saveHost, appendDevice_none returned]

/-- A call that gets a record writes it to the list before it is saved; only saving can fail. -/
theorem addHost_obtained (obtained : ¬ AddRefused store (some address) port name outcome)
    : (store.addHost (some address) port name outcome).store
        = (store.addHost (some address) port name outcome.saving).store
      ∧ (store.addHost (some address) port name outcome).result
        = if outcome.directoryMade && outcome.written then 0 else -1 := by
  simp only [AddRefused, Option.some.injEq, forall_eq', Classical.not_imp, not_and] at obtained
  obtain ⟨running, filled, obtained⟩ := obtained
  simp only [addHost, running, filled, Bool.not_true, Bool.or_self, Bool.false_eq_true, if_false]
  cases found : findAddedHost store.known.devices address name with
  | some idx =>
      have inside := findAddedHost_lt found
      refine ⟨by simp, result_saveHost rfl (List.getElem?_eq_getElem ?_)⟩
      rwa [List.length_modify]
  | none =>
      obtain ⟨idx, returned⟩ := Option.ne_none_iff_exists'.1 (obtained found)
      obtain ⟨stored, here⟩ := appendDevice_stored returned
      exact ⟨by simp [StorageOutcome.saving], result_saveHost returned here⟩

/-- A failed call that got no record leaves the list as it was; one that could not save its record
leaves the list that the call leaves when it succeeds.
-/
theorem addHost_failed (store : DeviceStore) (address : Option CString) (port : UInt16)
    (name : Option CString) (outcome : StorageOutcome)
    (failed : (store.addHost address port name outcome).result ≠ 0)
    : (AddRefused store address port name outcome
        → (store.addHost address port name outcome).store.known = store.known)
      ∧ (¬ AddRefused store address port name outcome
        → (outcome.directoryMade = false ∨ outcome.written = false)
          ∧ (store.addHost address port name outcome.saving).result = 0
          ∧ (store.addHost address port name outcome).store.known
            = (store.addHost address port name outcome.saving).store.known) := by
  cases address with
  | none =>
      refine ⟨fun _ => rfl, fun obtained => ?_⟩
      exact absurd (fun text missing => by simp at missing) obtained
  | some address =>
      refine ⟨fun refused => by rw [addHost_refused refused], fun obtained => ?_⟩
      obtain ⟨same, result⟩ := addHost_obtained obtained
      have saving : ¬ AddRefused store (some address) port name outcome.saving := obtained
      obtain ⟨-, saved⟩ := addHost_obtained saving
      refine ⟨?_, saved, by rw [same]⟩
      rw [result] at failed
      cases directory : outcome.directoryMade with
      | false => exact .inl rfl
      | true =>
          cases written : outcome.written with
          | false => exact .inr rfl
          | true => simp [directory, written] at failed

/-- An initialised store without a record. -/
def emptyStore : DeviceStore where
  initialized := true

/-- A PC whose file cannot be written stays in the list. -/
theorem unsaved_host_listed
    : ¬ ∀ (store : DeviceStore) (address : Option CString) (port : UInt16)
          (name : Option CString) (outcome : StorageOutcome),
          (store.addHost address port name outcome).result ≠ 0
          → (store.addHost address port name outcome).store.known.devices
            = store.known.devices := by
  intro unchanged
  have listed :=
    unchanged emptyStore (some (.ofLiteral "192.168.0.2")) 47989 none ⟨true, true, false⟩
      (by decide +kernel)
  have length := congrArg List.length listed
  revert length
  decide +kernel

/-- The first PC of a store. -/
def onePcStore : DeviceStore :=
  (emptyStore.addHost (some (.ofLiteral "192.168.0.2")) 47989 (some (.ofLiteral "Desk"))
    .granted).store

/-- A new PC without memory for it, a new one without its file, and a PC of the store whose name and
port change but whose file cannot be written.
-/
theorem addHost_failed_three_ways
    : (emptyStore.addHost (some (.ofLiteral "192.168.0.2")) 47989 none
          ⟨false, true, true⟩).store.known
        = emptyStore.known
      ∧ (onePcStore.addHost (some (.ofLiteral "192.168.0.3")) 47989 none
          ⟨true, true, false⟩).store.known
        = (onePcStore.addHost (some (.ofLiteral "192.168.0.3")) 47989 none
            ⟨true, true, true⟩).store.known
      ∧ (onePcStore.addHost (some (.ofLiteral "192.168.0.2")) 47999 (some (.ofLiteral "Sofa"))
          ⟨true, false, true⟩).store.known
        = (onePcStore.addHost (some (.ofLiteral "192.168.0.2")) 47999 (some (.ofLiteral "Sofa"))
            ⟨true, true, true⟩).store.known
      ∧ ((onePcStore.addHost (some (.ofLiteral "192.168.0.2")) 47999 (some (.ofLiteral "Sofa"))
          ⟨true, false, true⟩).store.known.devices.map (·.name.text))
        = [.ofLiteral "Sofa"] := by
  refine ⟨?_, ?_, ?_, by decide +kernel⟩
  · refine (addHost_failed emptyStore (some (.ofLiteral "192.168.0.2")) 47989 none
      ⟨false, true, true⟩ (by decide +kernel)).1 ?_
    intro text given _ _
    obtain rfl := Option.some.inj given
    exact ⟨by decide +kernel, by decide +kernel⟩
  · refine ((addHost_failed onePcStore (some (.ofLiteral "192.168.0.3")) 47989 none
      ⟨true, true, false⟩ (by decide +kernel)).2 ?_).2.2
    intro refused
    have returned := (refused _ rfl (by decide +kernel) (by decide +kernel)).2
    revert returned
    decide +kernel
  · refine ((addHost_failed onePcStore (some (.ofLiteral "192.168.0.2")) 47999
      (some (.ofLiteral "Sofa")) ⟨true, false, true⟩ (by decide +kernel)).2 ?_).2.2
    intro refused
    have found := (refused _ rfl (by decide +kernel) (by decide +kernel)).1
    revert found
    decide +kernel

end DeviceStore

end VitaMoonlight
