import VitaMoonlight.Backend.StoreEdits

/-! Records with different host ids and the searches that lead from one to the other: where an
address, a MAC or a name takes precedence over the ids, two PCs are merged. A merge can leave
out an id, so each record is followed together with the ids of the records merged into it.
-/

namespace VitaMoonlight

open Library KnownDevices

/-- A record and the ids of the records merged into it. -/
structure TracedDevice where
  info : DeviceInfo
  taken : List (CharArray 33)

namespace TracedDevice

/-- The ids that came to the record, some of them empty. -/
def ids (device : TracedDevice) : List (CharArray 33) := device.info.hostId :: device.taken

/-- Different ids came to the two records. -/
def Contradicts (left right : TracedDevice) : Prop :=
  ∃ first ∈ left.ids, ∃ second ∈ right.ids,
    first.isEmpty = false ∧ second.isEmpty = false ∧ first ≠ second

/-- The record unites no two ids. -/
def OneIdentity (device : TracedDevice) : Prop := ¬device.Contradicts device

end TracedDevice

/-- What one operation did to the records: the record that came in and the index of the one that it
was merged into.
-/
structure Change where
  before : List DeviceInfo
  taken : Nat → List (CharArray 33)
  after : List DeviceInfo
  incoming : TracedDevice
  target : Option Nat

/-- No record that contradicts the incoming one was merged with it or changed. -/
def Change.Separate (change : Change) : Prop :=
  ∀ idx record,
    change.before[idx]? = some record
    → (TracedDevice.mk record (change.taken idx)).Contradicts change.incoming
    → change.target ≠ some idx ∧ change.after[idx]? = some record

/-- The ids that the records have taken in afterwards. -/
def Change.takenAfter (change : Change) (idx : Nat) : List (CharArray 33) :=
  match change.before[idx]? with
  | none => change.incoming.taken
  | some record =>
      if change.target = some idx then
        (TracedDevice.mk record (change.taken idx)).ids ++ change.incoming.ids
      else change.taken idx

-----------------------------------------------------------------------------------------
-- Operations
-----------------------------------------------------------------------------------------

/-- The records that `normalize_known_devices` has kept, the ids these have taken in, and the
records it has still to visit.
-/
structure NormalizeVisit where
  kept : List DeviceInfo
  taken : Nat → List (CharArray 33)
  rest : List TracedDevice

/-- The store, the ids its records have taken in, and the normalization that runs. -/
structure IdentityRun where
  store : DeviceStore
  taken : Nat → List (CharArray 33)
  visit : Option NormalizeVisit := none

/-- The operations on the list. Loading is an append for each entry and a normalization. -/
inductive IdentityChoice
  | append (info : DeviceInfo) (allocated : Bool)
  | loadEntry (entry : DirectoryEntry)
  | markPaired (host : MoonlightHost) (outcome : DeviceStore.StorageOutcome)
  | normalizeBegin
  | normalizeNext
  | normalizeEnd

namespace IdentityRun

/-- A record appended to the list. -/
def append (run : IdentityRun) (info : DeviceInfo) (allocated : Bool)
    : IdentityRun × List Change :=
  let known := (run.store.known.appendDevice info allocated).1
  let change : Change :=
    { before := run.store.known.devices
      taken := run.taken
      after := known.devices
      incoming := { info, taken := [] }
      target := findDeviceByIdentity run.store.known.devices info }
  ({ run with store := { run.store with known }, taken := change.takenAfter }, [change])

/-- A host marked as paired, if the call gets as far as its record. -/
def markPaired (run : IdentityRun) (host : MoonlightHost) (outcome : DeviceStore.StorageOutcome)
    : IdentityRun × List Change :=
  let store := (run.store.markPaired host outcome).store
  let incoming := DeviceStore.newHost host host.hostId.text true
  let change : Change :=
    { before := run.store.known.devices
      taken := run.taken
      after := store.known.devices
      incoming := { info := incoming, taken := [] }
      target :=
        (DeviceStore.findStoredHost run.store.known.devices host).or
          (findDeviceByIdentity run.store.known.devices incoming) }
  if !run.store.initialized || host.internal.isEmpty then ({ run with store }, [])
  else ({ run with store, taken := change.takenAfter }, [change])

/-- The next record that `normalize_known_devices` visits. -/
def normalizeNext (run : IdentityRun) (visit : NormalizeVisit) (source : TracedDevice)
    (rest : List TracedDevice)
    : IdentityRun × List Change :=
  let change : Change :=
    { before := visit.kept
      taken := visit.taken
      after := normalizeStep visit.kept source.info
      incoming := source
      target := visit.kept.findIdx? (DeviceInfo.sameIdentity · source.info) }
  ({ run with visit := some { kept := change.after, taken := change.takenAfter, rest } },
    [change])

end IdentityRun

/-- The operations as a machine, from any list. -/
def identityMachine : Machine IdentityRun IdentityChoice Change where
  initial run := run.taken = (fun _ => []) ∧ run.visit = none
  step run choice :=
    match run.visit, choice with
    | none, .append info allocated => some (run.append info allocated)
    | none, .loadEntry entry =>
        match loadedDevice entry with
        | none => some (run, [])
        | some info => some (run.append info entry.allocated)
    | none, .markPaired host outcome => some (run.markPaired host outcome)
    | none, .normalizeBegin =>
        let rest := run.store.known.devices.mapIdx fun idx info => ⟨info, run.taken idx⟩
        some ({ run with visit := some { kept := [], taken := fun _ => [], rest } }, [])
    | some visit, .normalizeNext =>
        match visit.rest with
        | [] => none
        | source :: rest => some (run.normalizeNext visit source rest)
    | some visit, .normalizeEnd =>
        match visit.rest with
        | [] =>
            let devices := visit.kept.map DeviceInfo.ensureHostIdentity
            let known := { run.store.known with devices }
            some ({ store := { run.store with known }, taken := visit.taken }, [])
        | _ :: _ => none
    | _, _ => none

/-- The choices of a whole normalization of this many records. -/
def normalizeChoices (count : Nat) : List IdentityChoice :=
  .normalizeBegin :: List.replicate count .normalizeNext ++ [.normalizeEnd]

/-- The visits of the records are the loop of `normalize_known_devices`, by induction on them. -/
theorem run_normalizeNext (store : DeviceStore) (before : Nat → List (CharArray 33))
    (rest : List TracedDevice) (kept : List DeviceInfo) (taken : Nat → List (CharArray 33))
    : ∃ changes after,
        identityMachine.run ⟨store, before, some ⟨kept, taken, rest⟩⟩
            (List.replicate rest.length .normalizeNext ++ [.normalizeEnd])
          = some
              (⟨{ store with
                  known :=
                    { store.known with
                      devices :=
                        ((rest.map TracedDevice.info).foldl normalizeStep kept).map
                          DeviceInfo.ensureHostIdentity } },
                after, none⟩, changes) := by
  induction rest generalizing kept taken with
  | nil => exact ⟨_, _, rfl⟩
  | cons source rest ih =>
      obtain ⟨changes, after, ran⟩ := ih (normalizeStep kept source.info) _
      exact ⟨_, after, Machine.run_cons rfl ran⟩

/-- A whole normalization is `normalize_known_devices`. -/
theorem run_normalize (store : DeviceStore) (keyDir : CString) (taken : Nat → List (CharArray 33))
    : ∃ changes after,
        identityMachine.run ⟨store, taken, none⟩ (normalizeChoices store.known.devices.length)
          = some
              (⟨{ store with known := (store.known.normalize keyDir).1 }, after, none⟩, changes) := by
  let rest := store.known.devices.mapIdx fun idx info => TracedDevice.mk info (taken idx)
  have infos : rest.map TracedDevice.info = store.known.devices :=
    List.ext_getElem (by simp [rest]) (by simp [rest])
  obtain ⟨changes, after, ran⟩ := run_normalizeNext store taken rest [] fun _ => []
  rw [infos, List.length_mapIdx] at ran
  exact ⟨_, after, Machine.run_cons rfl ran⟩

/-- Loading each entry and a normalization are `load_all_known_devices`, by induction on the
entries.
-/
theorem run_loadAll (store : DeviceStore) (keyDir : CString) (entries : List DirectoryEntry)
    (taken : Nat → List (CharArray 33))
    : ∃ count changes after,
        identityMachine.run ⟨store, taken, none⟩
            (entries.map .loadEntry ++ normalizeChoices count)
          = some
              (⟨{ store with known := (store.known.loadAll keyDir (some entries)).1 }, after, none⟩,
                changes) := by
  induction entries generalizing store taken with
  | nil => exact ⟨_, run_normalize store keyDir taken⟩
  | cons entry rest ih =>
      have loaded
          : ∃ between emitted,
              identityMachine.step ⟨store, taken, none⟩ (.loadEntry entry)
              = some (⟨{ store with known := store.known.loadStep entry }, between, none⟩,
                  emitted) := by
        simp only [identityMachine, loadStep]
        cases loadedDevice entry with
        | none => exact ⟨_, _, rfl⟩
        | some info => exact ⟨_, _, rfl⟩
      obtain ⟨between, emitted, loaded⟩ := loaded
      obtain ⟨count, changes, after, ran⟩ :=
        ih { store with known := store.known.loadStep entry } between
      have whole
          : store.known.loadAll keyDir (some (entry :: rest))
            = (store.known.loadStep entry).loadAll keyDir (some rest) := rfl
      rw [whole]
      exact ⟨count, _, after, Machine.run_cons loaded ran⟩

-----------------------------------------------------------------------------------------
-- Searches that contradict the ids
-----------------------------------------------------------------------------------------

/-- The search of `find_device_by_identity` where no record has the host id. -/
def findByOtherData (devices : List DeviceInfo) (info : DeviceInfo) : Option Nat :=
  (findDeviceByMac devices info.mac.text).or
    ((findDeviceByAddress devices info.internal.text).or
      ((findDeviceByAddress devices info.external.text).or
        (if !info.name.isEmpty && info.mac.isEmpty && info.internal.isEmpty
            && info.external.isEmpty then
          findDevice devices info.name.text
        else none)))

/-- A search without ids is safe: the incoming record has no id, or a record with its id is found
before, or no other id came to the record that the search leads to.
-/
def SafeSearch (devices : List DeviceInfo) (taken : Nat → List (CharArray 33))
    (hostId : CharArray 33) (found : Option Nat) : Prop :=
  hostId.isEmpty = true
  ∨ (∃ record ∈ devices, record.hostId = hostId)
  ∨ ∀ idx record,
      found = some idx
      → devices[idx]? = some record
      → ∀ other ∈ (TracedDevice.mk record (taken idx)).ids,
          other.isEmpty = true ∨ other = hostId

/-- No record of the list unites two ids. -/
def KeepsIdentities (devices : List DeviceInfo) (taken : Nat → List (CharArray 33)) : Prop :=
  ∀ idx record,
    devices[idx]? = some record → (TracedDevice.mk record (taken idx)).OneIdentity

theorem findDeviceByHostId_hostId {devices : List DeviceInfo} {hostId : CharArray 33} {idx : Nat}
    (search : findDeviceByHostId devices hostId.text = some idx)
    : ∃ record, devices[idx]? = some record ∧ record.hostId = hostId := by
  unfold findDeviceByHostId at search
  split at search
  · contradiction
  · obtain ⟨inside, here, -⟩ := List.findIdx?_eq_some_iff_getElem.1 search
    exact ⟨devices[idx], List.getElem?_eq_getElem inside, CharArray.ext (of_decide_eq_true here)⟩

theorem findDeviceByHostId_none {devices : List DeviceInfo} {hostId : CharArray 33}
    (search : findDeviceByHostId devices hostId.text = none) (carried : hostId.isEmpty = false)
    : ∀ record ∈ devices, record.hostId ≠ hostId := by
  rw [CharArray.isEmpty_eq] at carried
  rw [findDeviceByHostId, if_neg (by rw [carried]; exact Bool.false_ne_true)] at search
  rintro record member rfl
  have other := List.findIdx?_eq_none_iff.1 search record member
  simp [DeviceInfo.hasHostId] at other

/-- A record that has taken in nothing contradicts by its own id. -/
theorem TracedDevice.contradicts_alone_iff (left : TracedDevice) (incoming : DeviceInfo)
    : left.Contradicts ⟨incoming, []⟩
      ↔ incoming.hostId.isEmpty = false
        ∧ ∃ other ∈ left.ids, other.isEmpty = false ∧ other ≠ incoming.hostId := by
  simp only [Contradicts, ids, List.mem_singleton, exists_eq_left]
  grind

/-- A search by id and then by other data contradicts no ids exactly when it is safe. -/
theorem safeSearch_iff {devices : List DeviceInfo} {taken : Nat → List (CharArray 33)}
    (keeps : KeepsIdentities devices taken) (incoming : DeviceInfo) (found : Option Nat)
    : SafeSearch devices taken incoming.hostId found
      ↔ ∀ idx record,
          (findDeviceByHostId devices incoming.hostId.text).or found = some idx
          → devices[idx]? = some record
          → ¬(TracedDevice.mk record (taken idx)).Contradicts ⟨incoming, []⟩ := by
  simp only [TracedDevice.contradicts_alone_iff]
  cases search : findDeviceByHostId devices incoming.hostId.text with
  | some idx =>
      obtain ⟨record, here, same⟩ := findDeviceByHostId_hostId search
      refine iff_of_true (.inr (.inl ⟨record, List.mem_of_getElem? here, same⟩)) ?_
      rintro idx' record' found stored ⟨carried, other, came, filled, different⟩
      obtain rfl := Option.some.inj found
      obtain rfl := Option.some.inj (here.symm.trans stored)
      refine keeps idx record stored
        ⟨other, came, record.hostId, List.mem_cons_self, filled, same ▸ carried, ?_⟩
      rwa [same]
  | none =>
      rw [Option.none_or]
      constructor
      · rintro safe idx record found stored ⟨carried, other, came, filled, different⟩
        obtain empty | ⟨holder, member, same⟩ | agrees := safe
        · rw [carried] at empty
          contradiction
        · exact findDeviceByHostId_none search carried holder member same
        · obtain empty | same := agrees idx record found stored other came
          · rw [filled] at empty
            contradiction
          · exact different same
      · intro free
        by_cases empty : incoming.hostId.isEmpty = true
        · exact .inl empty
        · refine .inr (.inr fun idx record found stored other came => ?_)
          by_contra disagrees
          obtain ⟨filled, different⟩ := not_or.mp disagrees
          exact free idx record found stored
            ⟨eq_false_of_ne_true empty, other, came, eq_false_of_ne_true filled, different⟩

/-- The search of `find_stored_host` where no record has the host id. -/
def findStoredByOtherData (devices : List DeviceInfo) (host : MoonlightHost) : Option Nat :=
  (findDeviceByMac devices host.mac.text).or
    ((findDeviceByAddress devices host.internal.text).or
      ((findDeviceByAddress devices host.external.text).or
        (if host.name.isEmpty then none else findDevice devices host.name.text)))

/-- The operation leads to no record that another id came to: neither by a MAC, an address or a
name, nor when a normalization visits the next record.
-/
def IdentityRun.Recognized (run : IdentityRun) : IdentityChoice → Prop
  | .append info _ =>
      SafeSearch run.store.known.devices run.taken info.hostId
        (findByOtherData run.store.known.devices info)
  | .loadEntry entry =>
      ∀ info,
        loadedDevice entry = some info
        → SafeSearch run.store.known.devices run.taken info.hostId
            (findByOtherData run.store.known.devices info)
  | .markPaired host _ =>
      run.store.initialized = true
      → host.internal.isEmpty = false
      → SafeSearch run.store.known.devices run.taken host.hostId
          (findStoredByOtherData run.store.known.devices host)
  | .normalizeNext =>
      ∀ visit source rest idx record,
        run.visit = some visit
        → visit.rest = source :: rest
        → visit.kept.findIdx? (DeviceInfo.sameIdentity · source.info) = some idx
        → visit.kept[idx]? = some record
        → ¬(TracedDevice.mk record (visit.taken idx)).Contradicts source
  | .normalizeBegin | .normalizeEnd => True

-----------------------------------------------------------------------------------------
-- One change
-----------------------------------------------------------------------------------------

/-- The operation changes no record but its target and adds none but the incoming one, and the ids
in the records are those that were there or came in.
-/
structure Change.Merges (change : Change) : Prop where
  frame
    : ∀ idx record,
        change.target ≠ some idx
        → change.before[idx]? = some record
        → change.after[idx]? = some record
  joined
    : ∀ (idx : Nat) (record merged : DeviceInfo),
        change.before[idx]? = some record
        → change.after[idx]? = some merged
        → merged.hostId = record.hostId ∨ merged.hostId = change.incoming.info.hostId
  added
    : ∀ (idx : Nat) (record : DeviceInfo),
        change.before[idx]? = none
        → change.after[idx]? = some record
        → record.hostId = change.incoming.info.hostId

/-- An operation keeps contradicting records apart exactly when its target does not contradict. -/
theorem Change.Merges.separate_iff {change : Change} (merges : change.Merges)
    : change.Separate
      ↔ ∀ idx record,
          change.target = some idx
          → change.before[idx]? = some record
          → ¬(TracedDevice.mk record (change.taken idx)).Contradicts change.incoming := by
  constructor
  · intro separate idx record target stored contradicts
    exact (separate idx record stored contradicts).1 target
  · intro agrees idx record stored contradicts
    have apart : change.target ≠ some idx := fun target =>
      agrees idx record target stored contradicts
    exact ⟨apart, merges.frame idx record apart stored⟩

/-- Records that do not contradict are united into one that unites no two ids. -/
theorem TracedDevice.OneIdentity.unite {left right : TracedDevice} (leftOne : left.OneIdentity)
    (rightOne : right.OneIdentity) (agree : ¬left.Contradicts right) {merged : DeviceInfo}
    (hostId : merged.hostId = left.info.hostId ∨ merged.hostId = right.info.hostId)
    : (TracedDevice.mk merged (left.ids ++ right.ids)).OneIdentity := by
  have among : ∀ hostId ∈ (TracedDevice.mk merged (left.ids ++ right.ids)).ids,
      hostId ∈ left.ids ∨ hostId ∈ right.ids := by
    intro other came
    rcases List.mem_cons.mp came with rfl | came
    · rcases hostId with same | same
      · exact .inl (List.mem_cons.mpr (.inl same))
      · exact .inr (List.mem_cons.mpr (.inl same))
    · exact List.mem_append.mp came
  rintro ⟨first, firstCame, second, secondCame, firstFilled, secondFilled, different⟩
  rcases among first firstCame with firstCame | firstCame
    <;> rcases among second secondCame with secondCame | secondCame
  · exact leftOne ⟨_, firstCame, _, secondCame, firstFilled, secondFilled, different⟩
  · exact agree ⟨_, firstCame, _, secondCame, firstFilled, secondFilled, different⟩
  · exact agree ⟨_, secondCame, _, firstCame, secondFilled, firstFilled, different.symm⟩
  · exact rightOne ⟨_, firstCame, _, secondCame, firstFilled, secondFilled, different⟩

/-- An operation that keeps contradicting records apart unites no two ids. -/
theorem Change.Merges.keepsIdentities {change : Change} (merges : change.Merges)
    (keeps : KeepsIdentities change.before change.taken) (one : change.incoming.OneIdentity)
    (separate : change.Separate)
    : KeepsIdentities change.after change.takenAfter := by
  intro idx merged stored
  simp only [takenAfter]
  cases known : change.before[idx]? with
  | none =>
      have same := merges.added idx merged known stored
      rintro ⟨first, firstCame, second, secondCame, apart⟩
      simp only [TracedDevice.ids, same] at firstCame secondCame
      exact one ⟨first, firstCame, second, secondCame, apart⟩
  | some record =>
      have alone := keeps idx record known
      by_cases target : change.target = some idx
      · simp only [target, if_true]
        have agree := merges.separate_iff.mp separate idx record target known
        exact alone.unite one agree (merges.joined idx record merged known stored)
      · simp only [target, if_false]
        rw [merges.frame idx record target known] at stored
        rwa [← Option.some.inj stored]

-----------------------------------------------------------------------------------------
-- The changes of the operations
-----------------------------------------------------------------------------------------

theorem Change.Merges.of_modify {change : Change} {target : Nat} {edit : DeviceInfo → DeviceInfo}
    (found : change.target = some target)
    (after : change.after = change.before.modify target edit)
    (hostId
      : ∀ record,
          (edit record).hostId = record.hostId
          ∨ (edit record).hostId = change.incoming.info.hostId)
    : change.Merges where
  frame idx record other stored := by
    have elsewhere : target ≠ idx := fun same => other (same ▸ found)
    rw [after, List.getElem?_modify_ne edit change.before elsewhere, stored]
  joined idx record merged stored now := by
    rw [after, List.getElem?_modify, stored] at now
    obtain rfl := Option.some.inj now
    dsimp only
    split
    · exact hostId record
    · exact .inl rfl
  added idx record beyond stored := by
    rw [after, List.getElem?_modify, beyond] at stored
    contradiction

theorem Change.Merges.of_append {change : Change} {record : DeviceInfo}
    (after : change.after = change.before ++ [record])
    (hostId : record.hostId = change.incoming.info.hostId)
    : change.Merges where
  frame idx kept _ stored := by
    rw [after, List.getElem?_append_left (List.getElem?_eq_some_iff.1 stored).1, stored]
  joined idx kept merged stored now := by
    rw [after, List.getElem?_append_left (List.getElem?_eq_some_iff.1 stored).1, stored] at now
    exact .inl (Option.some.inj now ▸ rfl)
  added idx new beyond stored := by
    rw [after, List.getElem?_append_right (List.getElem?_eq_none_iff.1 beyond)] at stored
    rw [List.mem_singleton.1 (List.mem_of_getElem? stored), hostId]

theorem Change.Merges.of_same {change : Change} (after : change.after = change.before)
    : change.Merges where
  frame idx record _ stored := after ▸ stored
  joined idx record merged stored now := by
    rw [after, stored] at now
    exact .inl (Option.some.inj now ▸ rfl)
  added idx record beyond stored := by
    rw [after, beyond] at stored
    contradiction

theorem hostId_ensureHostIdentity (info : DeviceInfo)
    : info.ensureHostIdentity.hostId = info.hostId := by
  simp only [DeviceInfo.ensureHostIdentity]
  split <;> rfl

theorem hostId_mergeExisting (existing info : DeviceInfo)
    : (mergeExisting existing info).hostId = existing.hostId
      ∨ (mergeExisting existing info).hostId = info.hostId := by
  have kept : (existing.merge info).hostId = existing.hostId := rfl
  simp only [mergeExisting, kept]
  split <;> split <;> simp [kept]

/-- Appending is a change of the record found, or adds one at the end. -/
theorem Change.Merges.of_appendDevice {change : Change} (known : KnownDevices) (allocated : Bool)
    (before : change.before = known.devices)
    (after
      : change.after = (known.appendDevice change.incoming.info allocated).1.devices)
    (target : change.target = findDeviceByIdentity known.devices change.incoming.info)
    : change.Merges := by
  rw [devices_appendDevice] at after
  cases search : findDeviceByIdentity known.devices change.incoming.info with
  | some idx =>
      rw [search, ← before] at after
      exact .of_modify (target.trans search) after fun record => hostId_mergeExisting record _
  | none =>
      rw [search, ← before] at after
      dsimp only at after
      split at after
      · exact .of_append after (hostId_ensureHostIdentity _)
      · exact .of_same after

theorem append_merges (run : IdentityRun) (info : DeviceInfo) (allocated : Bool)
    : ∀ change ∈ (run.append info allocated).2, change.Merges := by
  simp only [IdentityRun.append, List.forall_mem_singleton]
  exact .of_appendDevice run.store.known allocated rfl rfl rfl

/-- Visiting a record changes at most the kept record that it was found to be. -/
theorem normalizeNext_merges (run : IdentityRun) (visit : NormalizeVisit)
    (source : TracedDevice) (rest : List TracedDevice)
    : ∀ change ∈ (run.normalizeNext visit source rest).2, change.Merges := by
  simp only [IdentityRun.normalizeNext, List.forall_mem_singleton, normalizeStep]
  cases search : visit.kept.findIdx? (DeviceInfo.sameIdentity · source.info) with
  | none => exact .of_append rfl rfl
  | some target =>
      refine .of_modify rfl rfl fun record => ?_
      simp only [mergeDuplicate]
      split
      · exact .inr rfl
      · exact .inl rfl

theorem append_separate_iff (run : IdentityRun)
    (keeps : KeepsIdentities run.store.known.devices run.taken) (info : DeviceInfo)
    (allocated : Bool)
    : (∀ change ∈ (run.append info allocated).2, change.Separate)
      ↔ SafeSearch run.store.known.devices run.taken info.hostId
          (findByOtherData run.store.known.devices info) := by
  have merges := append_merges run info allocated
  rw [safeSearch_iff keeps]
  simp only [IdentityRun.append, List.forall_mem_singleton] at merges ⊢
  exact merges.separate_iff

/-- The record of a paired host is found nowhere but where the host was searched. -/
theorem findDeviceByIdentity_newHost {devices : List DeviceInfo} {host : MoonlightHost}
    (addressed : host.internal.isEmpty = false)
    (search : DeviceStore.findStoredHost devices host = none)
    : findDeviceByIdentity devices (DeviceStore.newHost host host.hostId.text true) = none := by
  simp only [DeviceStore.findStoredHost, Option.or_eq_none_iff] at search
  obtain ⟨byId, byMac, byInternal, byExternal, -⟩ := search
  have internal : (DeviceStore.newHost host host.hostId.text true).internal = host.internal := by
    simp [DeviceStore.newHost, DeviceStore.updateHostMetadata, addressed]
  simp only [findDeviceByIdentity, Option.or_eq_none_iff, internal, addressed]
  refine ⟨?_, ?_, byInternal, ?_, ?_⟩
  · simpa [DeviceStore.newHost] using byId
  · simp only [DeviceStore.newHost, DeviceStore.updateHostMetadata]
    split
    · rfl
    · simpa using byMac
  · simp only [DeviceStore.newHost, DeviceStore.updateHostMetadata]
    split
    · rfl
    · simpa using byExternal
  · simp

theorem hostId_pairStored (host : MoonlightHost) (stored : DeviceInfo)
    : (DeviceStore.pairStored host stored).hostId = stored.hostId
      ∨ (DeviceStore.pairStored host stored).hostId = .copy 33 host.hostId.text := by
  by_cases fills : (!host.hostId.isEmpty && stored.hostId.isEmpty) = true
  · exact .inr (if_pos fills)
  · exact .inl (if_neg fills)

/-- A host that is marked as paired changes its record or adds one at the end. -/
theorem markPaired_merges (run : IdentityRun) (host : MoonlightHost)
    (outcome : DeviceStore.StorageOutcome)
    : ∀ change ∈ (run.markPaired host outcome).2, change.Merges := by
  unfold IdentityRun.markPaired
  split
  · exact fun change member => absurd member List.not_mem_nil
  · rename_i reaches
    have edits := DeviceStore.known_call run.store (.markPaired host outcome)
    rw [DeviceStore.editOf, if_neg reaches] at edits
    change (run.store.markPaired host outcome).store.known = _ at edits
    rw [List.forall_mem_singleton]
    cases search : DeviceStore.findStoredHost run.store.known.devices host with
    | some found =>
        rw [search] at edits
        exact .of_modify rfl (congrArg KnownDevices.devices edits)
          fun record => hostId_pairStored host record
    | none =>
        rw [search] at edits
        exact .of_appendDevice run.store.known outcome.allocated rfl
          (congrArg KnownDevices.devices edits) rfl

theorem markPaired_separate_iff (run : IdentityRun)
    (keeps : KeepsIdentities run.store.known.devices run.taken) (host : MoonlightHost)
    (outcome : DeviceStore.StorageOutcome)
    : (∀ change ∈ (run.markPaired host outcome).2, change.Separate)
      ↔ run.Recognized (.markPaired host outcome) := by
  have merges := markPaired_merges run host outcome
  unfold IdentityRun.markPaired at merges ⊢
  unfold IdentityRun.Recognized
  dsimp only at merges ⊢
  by_cases reaches : run.store.initialized = true ∧ host.internal.isEmpty = false
  · obtain ⟨initialized, addressed⟩ := reaches
    have stays : ¬(!run.store.initialized || host.internal.isEmpty) = true := by
      simp [initialized, addressed]
    let devices := run.store.known.devices
    let incoming := DeviceStore.newHost host host.hostId.text true
    have carries : incoming.hostId = host.hostId := CharArray.copy_text host.hostId
    have target
        : (DeviceStore.findStoredHost devices host).or (findDeviceByIdentity devices incoming)
          = (findDeviceByHostId devices incoming.hostId.text).or
              (findStoredByOtherData devices host) := by
      rw [carries]
      cases search : DeviceStore.findStoredHost devices host with
      | some idx => exact search.symm
      | none =>
          rw [findDeviceByIdentity_newHost addressed search]
          exact search.symm
    have safe := safeSearch_iff keeps incoming (findStoredByOtherData devices host)
    rw [carries] at safe target
    rw [if_neg stays, List.forall_mem_singleton] at merges ⊢
    rw [forall_prop_of_true initialized, forall_prop_of_true addressed, merges.separate_iff,
      safe, ← target]
  · have leaves : (!run.store.initialized || host.internal.isEmpty) = true := by
      cases initialized : run.store.initialized with
      | false => rfl
      | true => simpa [initialized] using reaches
    rw [if_pos leaves]
    refine iff_of_true (fun change member => absurd member List.not_mem_nil) ?_
    exact fun initialized addressed => absurd ⟨initialized, addressed⟩ reaches

-----------------------------------------------------------------------------------------
-- Steps and runs
-----------------------------------------------------------------------------------------

/-- No record unites two ids: none of the list, and none that a normalization has kept or has still
to visit.
-/
structure IdentityRun.Sound (run : IdentityRun) : Prop where
  store : KeepsIdentities run.store.known.devices run.taken
  kept : ∀ visit ∈ run.visit, KeepsIdentities visit.kept visit.taken
  rest : ∀ visit ∈ run.visit, ∀ source ∈ visit.rest, source.OneIdentity

/-- A record that has taken in nothing unites no two ids. -/
theorem oneIdentity_alone (info : DeviceInfo) : (TracedDevice.mk info []).OneIdentity := by
  rintro ⟨first, firstCame, second, secondCame, -, -, different⟩
  rw [TracedDevice.ids, List.mem_singleton] at firstCame secondCame
  exact different (firstCame.trans secondCame.symm)

/-- What each step of the machine does. -/
inductive IdentityStep (run : IdentityRun) : IdentityChoice → IdentityRun → List Change → Prop
  | append (idle : run.visit = none) (info : DeviceInfo) (allocated : Bool)
    : IdentityStep run (.append info allocated) (run.append info allocated).1
        (run.append info allocated).2
  | passEntry (entry : DirectoryEntry) (unread : loadedDevice entry = none)
    : IdentityStep run (.loadEntry entry) run []
  | loadEntry (idle : run.visit = none) (entry : DirectoryEntry) {info : DeviceInfo}
      (loads : loadedDevice entry = some info)
    : IdentityStep run (.loadEntry entry) (run.append info entry.allocated).1
        (run.append info entry.allocated).2
  | markPaired (idle : run.visit = none) (host : MoonlightHost)
      (outcome : DeviceStore.StorageOutcome)
    : IdentityStep run (.markPaired host outcome) (run.markPaired host outcome).1
        (run.markPaired host outcome).2
  | normalizeBegin
    : IdentityStep run .normalizeBegin
        { run with
          visit :=
            some
              { kept := []
                taken := fun _ => []
                rest := run.store.known.devices.mapIdx fun idx info => ⟨info, run.taken idx⟩ } }
        []
  | normalizeNext {visit : NormalizeVisit} (running : run.visit = some visit)
      {source : TracedDevice} {rest : List TracedDevice} (next : visit.rest = source :: rest)
    : IdentityStep run .normalizeNext (run.normalizeNext visit source rest).1
        (run.normalizeNext visit source rest).2
  | normalizeEnd {visit : NormalizeVisit} (running : run.visit = some visit)
    : IdentityStep run .normalizeEnd
        { store :=
            { run.store with
              known :=
                { run.store.known with
                  devices := visit.kept.map DeviceInfo.ensureHostIdentity } }
          taken := visit.taken }
        []

theorem IdentityStep.of_taken {run after : IdentityRun} {choice : IdentityChoice}
    {emitted : List Change}
    (taken : identityMachine.step run choice = some (after, emitted))
    : IdentityStep run choice after emitted := by
  simp only [identityMachine] at taken
  split at taken
  case h_1 info allocated idle =>
    obtain ⟨rfl, rfl⟩ := Prod.ext_iff.1 (Option.some.inj taken)
    exact .append idle info allocated
  case h_2 entry idle =>
    split at taken
    · rename_i unread
      obtain ⟨rfl, rfl⟩ := Prod.ext_iff.1 (Option.some.inj taken)
      exact .passEntry entry unread
    · rename_i info loads
      obtain ⟨rfl, rfl⟩ := Prod.ext_iff.1 (Option.some.inj taken)
      exact .loadEntry idle entry loads
  case h_3 host outcome idle =>
    obtain ⟨rfl, rfl⟩ := Prod.ext_iff.1 (Option.some.inj taken)
    exact .markPaired idle host outcome
  case h_4 idle =>
    obtain ⟨rfl, rfl⟩ := Prod.ext_iff.1 (Option.some.inj taken)
    exact .normalizeBegin
  case h_5 visit running =>
    split at taken
    · contradiction
    · rename_i source rest next
      obtain ⟨rfl, rfl⟩ := Prod.ext_iff.1 (Option.some.inj taken)
      exact .normalizeNext running next
  case h_6 visit running =>
    split at taken
    · obtain ⟨rfl, rfl⟩ := Prod.ext_iff.1 (Option.some.inj taken)
      exact .normalizeEnd running
    · contradiction
  case h_7 => contradiction

/-- One operation keeps contradicting records apart exactly when it recognizes its record. -/
theorem separate_iff_recognized {run after : IdentityRun} {choice : IdentityChoice}
    {emitted : List Change} (sound : run.Sound)
    (taken : identityMachine.step run choice = some (after, emitted))
    : (∀ change ∈ emitted, change.Separate) ↔ run.Recognized choice := by
  have nothing : ∀ change ∈ ([] : List Change), change.Separate :=
    fun change member => absurd member List.not_mem_nil
  cases IdentityStep.of_taken taken with
  | append idle info allocated => exact append_separate_iff _ sound.store info allocated
  | passEntry entry unread =>
      refine iff_of_true nothing fun info loads => ?_
      rw [unread] at loads
      contradiction
  | loadEntry idle entry loads =>
      rw [append_separate_iff _ sound.store]
      constructor
      · intro safe other found
        obtain rfl := Option.some.inj (loads.symm.trans found)
        exact safe
      · exact fun safe => safe _ loads
  | markPaired idle host outcome => exact markPaired_separate_iff _ sound.store host outcome
  | normalizeBegin | normalizeEnd => exact iff_of_true nothing trivial
  | @normalizeNext visit running source rest next =>
      have merges := normalizeNext_merges run visit source rest
      simp only [IdentityRun.normalizeNext, List.forall_mem_singleton] at merges ⊢
      rw [merges.separate_iff]
      constructor
      · intro agrees visit' source' rest' idx record visits same search stored
        obtain rfl := Option.some.inj (running.symm.trans visits)
        obtain ⟨rfl, -⟩ := List.cons.inj (next.symm.trans same)
        exact agrees idx record search stored
      · exact fun recognized idx record search stored =>
          recognized visit source rest idx record running next search stored

/-- Outside a normalization only the records of the list count. -/
theorem IdentityRun.Sound.of_idle {run : IdentityRun}
    (keeps : KeepsIdentities run.store.known.devices run.taken) (idle : run.visit = none)
    : run.Sound :=
  ⟨keeps, by simp [idle], by simp [idle]⟩

theorem IdentityRun.Sound.append {run : IdentityRun} (sound : run.Sound)
    (idle : run.visit = none) {info : DeviceInfo} {allocated : Bool}
    (separate : ∀ change ∈ (run.append info allocated).2, change.Separate)
    : (run.append info allocated).1.Sound := by
  have merges := append_merges run info allocated
  simp only [IdentityRun.append, List.forall_mem_singleton] at merges separate ⊢
  exact .of_idle (merges.keepsIdentities sound.store (oneIdentity_alone info) separate) idle

theorem IdentityRun.Sound.markPaired {run : IdentityRun} (sound : run.Sound)
    (idle : run.visit = none) {host : MoonlightHost} {outcome : DeviceStore.StorageOutcome}
    (separate : ∀ change ∈ (run.markPaired host outcome).2, change.Separate)
    : (run.markPaired host outcome).1.Sound := by
  have merges := markPaired_merges run host outcome
  simp only [IdentityRun.markPaired] at merges separate ⊢
  by_cases leaves : (!run.store.initialized || host.internal.isEmpty) = true
  · have edits := DeviceStore.known_call run.store (.markPaired host outcome)
    change (run.store.markPaired host outcome).store.known = _ at edits
    rw [DeviceStore.editOf, if_pos leaves] at edits
    rw [if_pos leaves]
    exact .of_idle (congrArg KnownDevices.devices edits ▸ sound.store) idle
  · rw [if_neg leaves, List.forall_mem_singleton] at merges separate
    rw [if_neg leaves]
    exact .of_idle (merges.keepsIdentities sound.store (oneIdentity_alone _) separate) idle

/-- A recognized operation unites no two ids. -/
theorem IdentityRun.Sound.step {run after : IdentityRun} {choice : IdentityChoice}
    {emitted : List Change} (sound : run.Sound) (recognized : run.Recognized choice)
    (taken : identityMachine.step run choice = some (after, emitted))
    : after.Sound := by
  have separate := (separate_iff_recognized sound taken).2 recognized
  cases IdentityStep.of_taken taken with
  | append idle | loadEntry idle => exact sound.append idle separate
  | passEntry => exact sound
  | markPaired idle => exact sound.markPaired idle separate
  | normalizeBegin =>
      refine ⟨sound.store, ?_, ?_⟩
      · rintro visit ⟨rfl⟩ idx record stored
        simp at stored
      · rintro visit ⟨rfl⟩ source member
        obtain ⟨idx, inside, rfl⟩ := List.mem_mapIdx.mp member
        exact sound.store idx _ (List.getElem?_eq_getElem inside)
  | @normalizeNext visit running source rest next =>
      have restSound := sound.rest visit running
      rw [next, List.forall_mem_cons] at restSound
      have merges := normalizeNext_merges run visit source rest
      simp only [IdentityRun.normalizeNext, List.forall_mem_singleton] at merges separate
      refine ⟨sound.store, ?_, ?_⟩
      · rintro visit' ⟨rfl⟩
        exact merges.keepsIdentities (sound.kept visit running) restSound.1 separate
      · rintro visit' ⟨rfl⟩
        exact restSound.2
  | @normalizeEnd visit running =>
      refine .of_idle (fun idx record stored => ?_) rfl
      rw [List.getElem?_map, Option.map_eq_some_iff] at stored
      obtain ⟨before, stored, rfl⟩ := stored
      have one := sound.kept visit running idx before stored
      simpa only [TracedDevice.OneIdentity, TracedDevice.Contradicts, TracedDevice.ids,
        hostId_ensureHostIdentity] using one

/-- Records that different ids came to stay apart in each run whose operations recognize their
records, and no record ever unites two ids.
-/
theorem identities_stay_apart {trace : List Change} {run : IdentityRun}
    (reached : identityMachine.ReachesWhen (fun _ run choice => run.Recognized choice) trace run)
    : (∀ change ∈ trace, change.Separate)
      ∧ KeepsIdentities run.store.known.devices run.taken := by
  have kept : (∀ change ∈ trace, change.Separate) ∧ run.Sound := by
    refine reached.invariant (fun trace run => (∀ change ∈ trace, change.Separate) ∧ run.Sound)
      ?_ ?_
    · rintro run ⟨fresh, idle⟩
      refine ⟨fun change member => absurd member List.not_mem_nil, ?_, ?_, ?_⟩
      · intro idx record stored
        rw [fresh]
        exact oneIdentity_alone record
      · simp [idle]
      · simp [idle]
    · rintro trace run choice after emitted ⟨before, sound⟩ recognized taken
      have separate := (separate_iff_recognized sound taken).2 recognized
      exact ⟨List.forall_mem_append.2 ⟨before, separate⟩, sound.step recognized taken⟩
  exact ⟨kept.1, kept.2.store⟩

/-- A record that is the same as no kept one is recognized. -/
theorem IdentityRun.recognized_of_fresh {store : DeviceStore} {ids : Nat → List (CharArray 33)}
    {visit : NormalizeVisit} {source : TracedDevice} {rest : List TracedDevice}
    (next : visit.rest = source :: rest)
    (fresh : visit.kept.findIdx? (DeviceInfo.sameIdentity · source.info) = none)
    : (IdentityRun.mk store ids (some visit)).Recognized .normalizeNext := by
  intro visit' source' rest' idx record visits next' search stored
  obtain rfl := Option.some.inj visits
  obtain ⟨rfl, -⟩ := List.cons.inj (next.symm.trans next')
  rw [fresh] at search
  contradiction

/-- A PC with an id and an address. -/
def knownPc (hostId address : String) : DeviceInfo where
  hostId := .copy 33 (.ofLiteral hostId)
  internal := .copy 256 (.ofLiteral address)

/-- Two PCs with addresses of their own stay apart, also when the list is normalized. -/
theorem other_address_stays_apart
    : ∃ trace run,
        identityMachine.ReachesWhen (fun _ run choice => run.Recognized choice) trace run
        ∧ run.store.known.devices.length = 2
        ∧ (∀ change ∈ trace, change.Separate)
        ∧ KeepsIdentities run.store.known.devices run.taken := by
  have reached :=
    Machine.reachesWhen_run identityMachine (fun _ run choice => run.Recognized choice)
      (show identityMachine.initial ⟨{}, fun _ => [], none⟩ from ⟨rfl, rfl⟩)
      [.append (knownPc "A" "10.0.0.5") true, .append (knownPc "B" "10.0.0.6") true,
        .normalizeBegin, .normalizeNext, .normalizeNext, .normalizeEnd]
      ⟨.inr (.inr nofun), .inr (.inr nofun), trivial, IdentityRun.recognized_of_fresh rfl rfl,
        IdentityRun.recognized_of_fresh rfl (by decide +kernel), trivial, trivial⟩ rfl
  exact ⟨_, _, reached, rfl, identities_stay_apart reached⟩

/-- A PC that takes over the address of another one is merged with it. -/
theorem same_address_is_merged
    : ¬ ∀ trace run, identityMachine.Reaches trace run → ∀ change ∈ trace, change.Separate := by
  intro separate
  have reached :=
    Machine.reaches_run identityMachine
      (show identityMachine.initial ⟨{}, fun _ => [], none⟩ from ⟨rfl, rfl⟩)
      [.append (knownPc "A" "10.0.0.5") true, .append (knownPc "B" "10.0.0.5") true] rfl
  have apart := separate _ _ reached _ (List.mem_cons_of_mem _ List.mem_cons_self) 0
    (knownPc "A" "10.0.0.5").ensureHostIdentity (by decide +kernel) ?_
  · exact apart.1 (by decide +kernel)
  · exact ⟨.copy 33 (.ofLiteral "A"), by decide +kernel, .copy 33 (.ofLiteral "B"),
      by decide +kernel, by decide +kernel, by decide +kernel, by decide +kernel⟩

/-- A paired record without an id takes in one PC by its MAC and another by its address. -/
example :
    ([{ mac := .copy 18 (.ofLiteral "01"), internal := .copy 256 (.ofLiteral "10.0.0.5"),
        paired := true },
      { hostId := .copy 33 (.ofLiteral "A"), mac := .copy 18 (.ofLiteral "01") },
      { hostId := .copy 33 (.ofLiteral "B"),
        internal := .copy 256 (.ofLiteral "10.0.0.5") }].foldl normalizeStep []).length = 1 := by
  decide +kernel

end VitaMoonlight
