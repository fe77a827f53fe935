import VitaMoonlight.Backend.DeviceStore

/-! What a call does to the stored list: one edit, chosen from the list and the arguments.
The store's invariants are proved about edits and reach the calls through `known_call`.
-/

namespace VitaMoonlight

open Library

-----------------------------------------------------------------------------------------
-- Edits of the list
-----------------------------------------------------------------------------------------

/-- An edit of the stored list. -/
inductive Edit
  | keep
  | update (idx : Nat) (change : DeviceInfo → DeviceInfo)
  | append (info : DeviceInfo) (allocated : Bool)
  | erase (idx : Nat)
  | load (entries : List KnownDevices.DirectoryEntry)

/-- The edit builds the list anew instead of writing one record. -/
def Edit.rebuilds : Edit → Bool
  | load _ => true
  | _ => false

namespace KnownDevices

/-- The list after reading the directory, before duplicates are merged. -/
def loaded (known : KnownDevices) (entries : List DirectoryEntry) : KnownDevices :=
  entries.foldl loadStep known

/-- Carry out an edit. -/
def edit (known : KnownDevices) : Edit → KnownDevices
  | .keep => known
  | .update idx change => { known with devices := known.devices.modify idx change }
  | .append info allocated => (known.appendDevice info allocated).1
  | .erase idx => { known with devices := known.devices.eraseIdx idx }
  | .load entries =>
      { known.loaded entries with
        devices :=
          ((known.loaded entries).devices.foldl normalizeStep []).map
            DeviceInfo.ensureHostIdentity }

/-- Appending merges into the record found or adds the new record at the end. -/
theorem devices_appendDevice (known : KnownDevices) (info : DeviceInfo) (allocated : Bool)
    : (known.appendDevice info allocated).1.devices
      = match findDeviceByIdentity known.devices info with
        | some idx => known.devices.modify idx (mergeExisting · info)
        | none =>
            if (known.grow allocated).isSome then known.devices ++ [info.ensureHostIdentity]
            else known.devices := by
  have kept : ∀ {grown}, known.grow allocated = some grown → grown.devices = known.devices := by
    intro grown granted
    simp only [grow] at granted
    split at granted
    · split at granted
      · cases granted
        rfl
      · contradiction
    · split at granted
      · split at granted
        · cases granted
          rfl
        · contradiction
      · cases granted
        rfl
  simp only [appendDevice]
  cases findDeviceByIdentity known.devices info with
  | some idx => rfl
  | none =>
      cases granted : known.grow allocated with
      | none => simp
      | some grown => simp [kept granted]

end KnownDevices

-----------------------------------------------------------------------------------------
-- The edit of each call
-----------------------------------------------------------------------------------------

namespace DeviceStore

open KnownDevices

/-- The edit of `load_all_known_devices`. -/
def loadEdit : Option (List DirectoryEntry) → Edit
  | none => .keep
  | some entries => .load entries

/-- The edit a call makes. -/
def editOf (store : DeviceStore) : Call → Edit
  | .init usable entries =>
      if store.initialized then .keep
      else if (keyDirs.find? usable).isSome then loadEdit entries
      else .keep
  | .load entries => loadEdit entries
  | .addHost none _ _ _ => .keep
  | .addHost (some address) port name outcome =>
      if !store.initialized || address.isEmpty then .keep
      else
        match findAddedHost store.known.devices address name with
        | some idx => .update idx (renameHost · address port name)
        | none => .append (addedHost address port name) outcome.allocated
  | .markPaired host outcome =>
      if !store.initialized || host.internal.isEmpty then .keep
      else
        match findStoredHost store.known.devices host with
        | some idx => .update idx (pairStored host)
        | none => .append (newHost host host.hostId.text true) outcome.allocated
  | .setHostId host hostId outcome =>
      if !store.initialized || hostId.isEmpty then .keep
      else
        match findStoredHost store.known.devices host with
        | some idx => .update idx (identifyStored host hostId)
        | none => .append (newHost host hostId false) outcome.allocated
  | .deleteHost host _ =>
      if !store.initialized then .keep
      else
        match findStoredHost store.known.devices host with
        | some idx => .erase idx
        | none => .keep

@[simp] theorem store_saveHost (store : DeviceStore) (stored : Option Nat)
    (outcome : StorageOutcome)
    : (store.saveHost stored outcome).store = store := by
  simp only [saveHost]
  split
  · rfl
  · split <;> rfl

theorem known_loadAll (keyDir : CString) (known : KnownDevices)
    (entries : Option (List DirectoryEntry))
    : (KnownDevices.loadAll keyDir known entries).1 = known.edit (loadEdit entries) := by
  cases entries <;> rfl

theorem known_removeDeviceIndex (keyDir : CString) (known : KnownDevices) (idx : Nat)
    (contents : Option (List EntryName))
    : (KnownDevices.removeDeviceIndex keyDir known idx contents).1
      = { known with devices := known.devices.eraseIdx idx } := by
  simp only [KnownDevices.removeDeviceIndex]
  split
  · rename_i absent
    rw [List.eraseIdx_of_length_le (by simpa using absent)]
  · rfl

/-- Every call edits the list exactly as `editOf` says. -/
theorem known_call (store : DeviceStore) (made : Call)
    : (store.call made).store.known = store.known.edit (store.editOf made) := by
  cases made with
  | init usable entries =>
      simp only [call, init, editOf]
      split
      · rfl
      · cases keyDirs.find? usable with
        | none => rfl
        | some keyDir => exact known_loadAll _ _ _
  | load entries => exact known_loadAll _ _ _
  | addHost address port name outcome =>
      cases address with
      | none => rfl
      | some address =>
          simp only [call, addHost, editOf]
          split
          · rfl
          · cases findAddedHost store.known.devices address name <;>
              simp [store_saveHost, KnownDevices.edit]
  | markPaired host outcome =>
      simp only [call, markPaired, editOf]
      split
      · rfl
      · cases findStoredHost store.known.devices host <;> simp [store_saveHost, KnownDevices.edit]
  | setHostId host hostId outcome =>
      simp only [call, setHostId, editOf]
      split
      · rfl
      · cases findStoredHost store.known.devices host <;> simp [store_saveHost, KnownDevices.edit]
  | deleteHost host contents =>
      simp only [call, deleteHost, editOf]
      split
      · rfl
      · cases findStoredHost store.known.devices host with
        | none => rfl
        | some idx => exact known_removeDeviceIndex _ _ _ _

-----------------------------------------------------------------------------------------
-- Initialisation
-----------------------------------------------------------------------------------------

/-- The store is initialised with one of the candidate directories, or still empty. -/
structure WellInitialized (store : DeviceStore) : Prop where
  keyDir : store.initialized = true → store.keyDir ∈ keyDirs
  blank : store.initialized = false → store = {}

/-- A call other than initialisation keeps the flag and the directory. -/
theorem frame_call (store : DeviceStore) (made : Call)
    (running : store.initialized = true)
    : (store.call made).store.initialized = true
      ∧ (store.call made).store.keyDir = store.keyDir := by
  cases made with
  | init usable entries => simp [call, init, running]
  | load entries => simp [call, load, running]
  | addHost address port name outcome =>
      cases address with
      | none => simp [call, addHost, running]
      | some address =>
          simp only [call, addHost]
          split
          · exact ⟨running, rfl⟩
          · cases findAddedHost store.known.devices address name <;>
              simp [store_saveHost, running]
  | markPaired host outcome =>
      simp only [call, markPaired]
      split
      · exact ⟨running, rfl⟩
      · cases findStoredHost store.known.devices host <;> simp [store_saveHost, running]
  | setHostId host hostId outcome =>
      simp only [call, setHostId]
      split
      · exact ⟨running, rfl⟩
      · cases findStoredHost store.known.devices host <;> simp [store_saveHost, running]
  | deleteHost host contents =>
      simp only [call, deleteHost]
      split
      · exact ⟨running, rfl⟩
      · cases findStoredHost store.known.devices host <;> simp [running]

/-- Before initialisation every other call leaves the store alone. -/
theorem call_blank {store : DeviceStore} {made : Call} {after : DeviceStore}
    {emitted : List Called} (blank : store.initialized = false)
    (taken : machine.step store made = some (after, emitted))
    : after = store ∨ after.keyDir ∈ keyDirs ∧ after.initialized = true := by
  cases made with
  | init usable entries =>
      simp only [machine, call, init, blank, Bool.false_eq_true, if_false, Option.some.injEq,
        Prod.mk.injEq] at taken
      obtain ⟨rfl, -⟩ := taken
      cases found : keyDirs.find? usable with
      | none => exact .inl rfl
      | some keyDir => exact .inr ⟨List.mem_of_find?_eq_some found, rfl⟩
  | load entries => simp [machine, blank] at taken
  | addHost address port name outcome =>
      simp only [machine, call, addHost, Option.some.injEq, Prod.mk.injEq] at taken
      obtain ⟨rfl, -⟩ := taken
      cases address <;> simp [blank]
  | markPaired host outcome =>
      simp only [machine, call, markPaired, Option.some.injEq, Prod.mk.injEq] at taken
      obtain ⟨rfl, -⟩ := taken
      simp [blank]
  | setHostId host hostId outcome =>
      simp only [machine, call, setHostId, Option.some.injEq, Prod.mk.injEq] at taken
      obtain ⟨rfl, -⟩ := taken
      simp [blank]
  | deleteHost host contents =>
      simp only [machine, call, deleteHost, Option.some.injEq, Prod.mk.injEq] at taken
      obtain ⟨rfl, -⟩ := taken
      simp [blank]

/-- A step of the machine makes the call and labels it. -/
theorem step_eq {store after : DeviceStore} {made : Call} {emitted : List Called}
    (taken : machine.step store made = some (after, emitted))
    : after = (store.call made).store ∧ emitted = [⟨store, made, store.call made⟩] := by
  cases made with
  | load entries =>
      simp only [machine] at taken
      split at taken
      · simp only [Option.some.injEq, Prod.mk.injEq] at taken
        exact ⟨taken.1.symm, taken.2.symm⟩
      · contradiction
  | init | addHost | markPaired | setHostId | deleteHost =>
      simp only [machine, Option.some.injEq, Prod.mk.injEq] at taken
      exact ⟨taken.1.symm, taken.2.symm⟩

theorem WellInitialized.preserved {store after : DeviceStore} {made : Call}
    {emitted : List Called} (before : WellInitialized store)
    (taken : machine.step store made = some (after, emitted))
    : WellInitialized after := by
  cases running : store.initialized with
  | true =>
      obtain ⟨rfl, -⟩ := step_eq taken
      obtain ⟨flag, keyDir⟩ := frame_call store made running
      exact ⟨fun _ => keyDir ▸ before.keyDir running, fun off => by simp [flag] at off⟩
  | false =>
      rcases call_blank running taken with rfl | ⟨member, flag⟩
      · exact before
      · exact ⟨fun _ => member, fun off => by simp [flag] at off⟩

theorem wellInitialized_of_reaches {trace store} (reached : machine.Reaches trace store)
    : WellInitialized store :=
  reached.invariant (fun _ store => WellInitialized store)
    (fun _ blank => by subst blank; exact ⟨fun on => by simp at on, fun _ => rfl⟩)
    (fun _ _ _ _ _ before taken => before.preserved taken)

end DeviceStore

end VitaMoonlight
