import VitaMoonlight.Backend.StoreEdits

/-! Which directories the store keeps its records in, and which paths its calls touch.
A record's directory is chosen once, from the name it has when it is first stored, so two
records may choose the same one after a rename.
-/

namespace VitaMoonlight

open Library

/-- The name is one path component of its own. -/
def isComponent (name : CString) : Bool :=
  !name.isEmpty && !name.bytes.contains 47 && !KnownDevices.isDots name

namespace DeviceStore

open KnownDevices DeviceInfo

/-- The name is a component that does not name the client's own directory. -/
def isConfined (name : CString) : Bool := isComponent name && name != clientDirectoryName

/-- `path` is the directory called `name`, or an entry of it. -/
def Owns (keyDir name path : CString) : Prop :=
  path = keyDir ++ name
  ∨ ∃ entry : CString,
      entry.isEmpty = false ∧ 47 ∉ entry.bytes ∧ path = keyDir ++ name ++ .ofLiteral "/" ++ entry

theorem noSlash_of_isComponent {name : CString} (component : isComponent name = true)
    : 47 ∉ name.bytes := by
  simp only [isComponent, Bool.and_eq_true, Bool.not_eq_true'] at component
  simpa using component.1.2

/-- A path lies in one directory only. Witness: the name is what stands between the key
directory and the next slash.
-/
theorem Owns.unique {keyDir left right path : CString} (inLeft : Owns keyDir left path)
    (inRight : Owns keyDir right path) (plainLeft : 47 ∉ left.bytes)
    (plainRight : 47 ∉ right.bytes)
    : left = right := by
  have named
      : ∀ {name}, Owns keyDir name path → 47 ∉ name.bytes
        → (path.bytes.drop keyDir.bytes.length).takeWhile (· ≠ 47) = name.bytes := by
    intro name owned plain
    have clear : ∀ c ∈ name.bytes, decide (c ≠ 47) = true := by
      intro c member
      simpa using fun slash : c = 47 => plain (slash ▸ member)
    rcases owned with rfl | ⟨entry, -, -, rfl⟩
    · simpa using clear
    · have slash : (CString.ofLiteral "/").bytes = [47] := by decide
      rw [CString.bytes_append, CString.bytes_append, CString.bytes_append, slash,
        List.append_assoc, List.append_assoc, List.drop_left,
        List.takeWhile_append_of_pos clear]
      simp
  exact CString.ext ((named inLeft plainLeft).symm.trans (named inRight plainRight))

-----------------------------------------------------------------------------------------
-- Lists whose directories are apart
-----------------------------------------------------------------------------------------

/-- The storage names, in the order of the list. -/
def storageNames (devices : List DeviceInfo) : List (CharArray 256) :=
  devices.map DeviceInfo.storageName

/-- No two records share a directory, and every directory is the store's to use. -/
structure StorageApart (devices : List DeviceInfo) : Prop where
  distinct : (storageNames devices).Nodup
  confined : ∀ name ∈ storageNames devices, isConfined name.text = true

/-- The name is one the store may use and does not use yet. -/
def freshName (devices : List DeviceInfo) (name : CharArray 256) : Bool :=
  isConfined name.text && !(storageNames devices).contains name

theorem StorageApart.nil : StorageApart [] := ⟨.nil, by simp [storageNames]⟩

theorem StorageApart.sublist {fewer devices : List DeviceInfo} (apart : StorageApart devices)
    (included : fewer.Sublist devices)
    : StorageApart fewer :=
  have names := included.map DeviceInfo.storageName
  ⟨apart.distinct.sublist names, fun name member => apart.confined name (names.subset member)⟩

theorem StorageApart.append_iff {devices : List DeviceInfo} (apart : StorageApart devices)
    (record : DeviceInfo)
    : StorageApart (devices ++ [record]) ↔ freshName devices record.storageName = true := by
  simp only [freshName, Bool.and_eq_true, Bool.not_eq_true', List.contains_eq_mem,
    decide_eq_false_iff_not]
  constructor
  · rintro ⟨distinct, confined⟩
    refine ⟨confined _ (by simp [storageNames]), fun member => ?_⟩
    simp only [storageNames, List.map_append, List.map_cons, List.map_nil] at distinct
    exact (List.nodup_append.mp distinct).2.2 _ member _ (by simp) rfl
  · rintro ⟨confined, fresh⟩
    refine ⟨?_, ?_⟩
    · simp only [storageNames, List.map_append, List.map_cons, List.map_nil]
      refine List.nodup_append.mpr ⟨apart.distinct, by simp, ?_⟩
      rintro name member _ single rfl
      simp only [List.mem_singleton] at single
      exact fresh (single ▸ member)
    · intro name member
      simp only [storageNames, List.map_append, List.map_cons, List.map_nil, List.mem_append,
        List.mem_singleton] at member
      rcases member with known | rfl
      · exact apart.confined name known
      · exact confined

theorem StorageApart.nonempty {devices : List DeviceInfo} (apart : StorageApart devices)
    {record : DeviceInfo} (member : record ∈ devices)
    : record.storageName.isEmpty = false := by
  have confined := apart.confined _ (List.mem_map_of_mem member)
  simp only [isConfined, isComponent, Bool.and_eq_true, Bool.not_eq_true'] at confined
  exact confined.1.1.1

/-- Changing a record without its storage name changes no storage name. -/
theorem storageNames_modify {devices : List DeviceInfo} {change : DeviceInfo → DeviceInfo}
    (kept : ∀ record ∈ devices, (change record).storageName = record.storageName) (idx : Nat)
    : storageNames (devices.modify idx change) = storageNames devices := by
  by_cases inside : idx < devices.length
  · have split : devices.take idx ++ devices[idx] :: devices.drop (idx + 1) = devices := by simp
    have names := congrArg storageNames split
    simp only [storageNames, List.map_append, List.map_cons] at names
    rw [List.modify_eq_take_cons_drop inside]
    simp only [storageNames, List.map_append, List.map_cons, kept _ (List.getElem_mem inside)]
    exact names
  · rw [List.modify_eq_self (Nat.le_of_not_lt inside)]

theorem StorageApart.of_names {devices others : List DeviceInfo} (apart : StorageApart devices)
    (same : storageNames others = storageNames devices)
    : StorageApart others :=
  ⟨same ▸ apart.distinct, same ▸ apart.confined⟩

theorem storageName_mergeExisting {existing : DeviceInfo} (info : DeviceInfo)
    (named : existing.storageName.isEmpty = false)
    : (mergeExisting existing info).storageName = existing.storageName := by
  have identified
      : ∀ merged : DeviceInfo,
          merged.storageName = existing.storageName
          → (if merged.hostId.isEmpty && !info.hostId.isEmpty then
              { merged with hostId := info.hostId }
            else merged).storageName = existing.storageName := by
    intro merged same
    split <;> exact same
  have kept := identified (existing.merge info) rfl
  simp only [mergeExisting]
  rw [if_neg (by rw [kept, named]; simp)]
  exact kept

/-- A merged duplicate keeps one of the two storage names. -/
theorem storageName_mergeDuplicate (source current : DeviceInfo)
    : (mergeDuplicate source current).storageName = source.storageName
      ∨ (mergeDuplicate source current).storageName = current.storageName := by
  simp only [mergeDuplicate]
  split
  · exact .inl rfl
  · exact .inr rfl

/-- Normalising draws distinct storage names from those it was given, by induction on the
records still to come.
-/
theorem storageNames_foldl_normalizeStep {unique devices : List DeviceInfo}
    (distinct : (storageNames unique ++ storageNames devices).Nodup)
    : (storageNames (devices.foldl normalizeStep unique)).Nodup
      ∧ ∀ name ∈ storageNames (devices.foldl normalizeStep unique),
          name ∈ storageNames unique ++ storageNames devices := by
  induction devices generalizing unique with
  | nil => simpa [storageNames] using distinct
  | cons source rest ih =>
      have kept
          : (storageNames (normalizeStep unique source) ++ storageNames rest).Nodup
            ∧ ∀ name ∈ storageNames (normalizeStep unique source) ++ storageNames rest,
                name ∈ storageNames unique ++ storageNames (source :: rest) := by
        simp only [normalizeStep]
        cases search : unique.findIdx? (sameIdentity · source) with
        | none =>
            have same
                : storageNames (unique ++ [source]) ++ storageNames rest
                  = storageNames unique ++ storageNames (source :: rest) := by
              simp [storageNames]
            rw [same]
            exact ⟨distinct, fun name member => member⟩
        | some idx =>
            obtain ⟨inside, -⟩ := List.findIdx?_eq_some_iff_getElem.mp search
            have split : unique.take idx ++ unique[idx] :: unique.drop (idx + 1) = unique := by
              simp
            have merged
                : storageNames (unique.modify idx (mergeDuplicate source))
                  = storageNames (unique.take idx)
                    ++ (mergeDuplicate source unique[idx]).storageName
                      :: storageNames (unique.drop (idx + 1)) := by
              rw [List.modify_eq_take_cons_drop inside]
              simp [storageNames]
            have original
                : storageNames unique ++ storageNames (source :: rest)
                  = storageNames (unique.take idx)
                    ++ unique[idx].storageName :: storageNames (unique.drop (idx + 1))
                    ++ source.storageName :: storageNames rest := by
              have names := congrArg storageNames split
              simp only [storageNames, List.map_append, List.map_cons] at names ⊢
              rw [names]
            rw [original] at distinct ⊢
            rw [merged]
            rcases storageName_mergeDuplicate source unique[idx] with same | same
            · rw [same]
              have moved := List.perm_middle.nodup_iff.mp distinct
              have fewer
                  : (source.storageName :: (storageNames (unique.take idx)
                      ++ storageNames (unique.drop (idx + 1)) ++ storageNames rest)).Nodup := by
                refine moved.sublist (List.Sublist.cons_cons _ ?_)
                refine List.Sublist.append ?_ (List.Sublist.refl _)
                exact List.Sublist.append (List.Sublist.refl _) (List.sublist_cons_self _ _)
              refine ⟨?_, fun name member => ?_⟩
              · rw [List.append_assoc, List.cons_append, List.perm_middle.nodup_iff,
                  ← List.append_assoc]
                exact fewer
              · simp only [List.mem_append, List.mem_cons] at member ⊢
                tauto
            · rw [same]
              refine ⟨distinct.sublist ?_, fun name member => ?_⟩
              · exact List.Sublist.append (List.Sublist.refl _) (List.sublist_cons_self _ _)
              · simp only [List.mem_append, List.mem_cons] at member ⊢
                tauto
      obtain ⟨once, drawn⟩ := ih kept.1
      exact ⟨once, fun name member => kept.2 name (drawn name member)⟩

theorem ensureHostIdentity_eq_self {record : DeviceInfo}
    (named : record.storageName.isEmpty = false)
    : record.ensureHostIdentity = record := by
  simp [ensureHostIdentity, named]

theorem StorageApart.normalize {devices : List DeviceInfo} (apart : StorageApart devices)
    : StorageApart ((devices.foldl normalizeStep []).map ensureHostIdentity) := by
  have given : (storageNames [] ++ storageNames devices).Nodup := by
    simpa [storageNames] using apart.distinct
  obtain ⟨distinct, drawn⟩ := storageNames_foldl_normalizeStep given
  have kept : StorageApart (devices.foldl normalizeStep []) :=
    ⟨distinct, fun name member =>
      apart.confined name (by simpa [storageNames] using drawn name member)⟩
  have same
      : (devices.foldl normalizeStep []).map ensureHostIdentity
        = devices.foldl normalizeStep [] := by
    refine (List.map_congr_left fun record member => ?_).trans (List.map_id _)
    exact ensureHostIdentity_eq_self (kept.nonempty member)
  rwa [same]

-----------------------------------------------------------------------------------------
-- Edits that keep the directories apart
-----------------------------------------------------------------------------------------

/-- A record that is really added gets a fresh storage name. -/
def appendSafe (known : KnownDevices) (info : DeviceInfo) (allocated : Bool) : Bool :=
  match findDeviceByIdentity known.devices info with
  | some _ => true
  | none =>
      !(known.grow allocated).isSome
        || freshName known.devices info.ensureHostIdentity.storageName

/-- Each record a directory adds gets a fresh storage name in its turn. -/
def loadSafe (known : KnownDevices) : List DirectoryEntry → Bool
  | [] => true
  | entry :: rest =>
      (match loadedDevice entry with
       | none => true
       | some info => appendSafe known info entry.allocated)
      && loadSafe (loadStep known entry) rest

/-- The edit adds records under fresh storage names only. -/
def editSafe (known : KnownDevices) : Edit → Bool
  | .append info allocated => appendSafe known info allocated
  | .load entries => loadSafe known entries
  | .keep | .update _ _ | .erase _ => true

/-- The edit changes no record's storage name. -/
def KeepsNames : Edit → Prop
  | .update _ change => ∀ record, (change record).storageName = record.storageName
  | _ => True

theorem keepsNames_editOf (store : DeviceStore) (made : Call)
    : KeepsNames (store.editOf made) := by
  cases made with
  | init usable entries =>
      simp only [editOf]
      split
      · trivial
      · split
        · cases entries <;> trivial
        · trivial
  | load entries => cases entries <;> trivial
  | addHost address port name outcome =>
      cases address with
      | none => trivial
      | some address =>
          simp only [editOf]
          split
          · trivial
          · split <;> simp [KeepsNames, renameHost]
  | markPaired host outcome =>
      simp only [editOf]
      split
      · trivial
      · split <;> simp [KeepsNames, pairStored, updateHostMetadata]
  | setHostId host hostId outcome =>
      simp only [editOf]
      split
      · trivial
      · split <;> simp [KeepsNames, identifyStored, updateHostMetadata]
  | deleteHost host contents =>
      simp only [editOf]
      split
      · trivial
      · split <;> trivial

theorem StorageApart.appendDevice_iff {known : KnownDevices}
    (apart : StorageApart known.devices) (info : DeviceInfo) (allocated : Bool)
    : StorageApart (known.appendDevice info allocated).1.devices
      ↔ appendSafe known info allocated = true := by
  simp only [devices_appendDevice, appendSafe]
  cases search : findDeviceByIdentity known.devices info with
  | some idx =>
      refine iff_of_true (apart.of_names ?_) rfl
      exact storageNames_modify
        (fun record member => storageName_mergeExisting info (apart.nonempty member)) idx
  | none =>
      cases grown : (known.grow allocated).isSome with
      | true => simpa [grown] using apart.append_iff info.ensureHostIdentity
      | false => simpa [grown] using apart

/-- Loading keeps the directories apart, by induction on the directory. -/
theorem StorageApart.loaded {known : KnownDevices} (apart : StorageApart known.devices)
    {entries : List DirectoryEntry} (safe : loadSafe known entries = true)
    : StorageApart (known.loaded entries).devices := by
  induction entries generalizing known with
  | nil => exact apart
  | cons entry rest ih =>
      simp only [loadSafe, Bool.and_eq_true] at safe
      obtain ⟨now, later⟩ := safe
      refine ih ?_ later
      simp only [loadStep]
      cases read : loadedDevice entry with
      | none => exact apart
      | some info =>
          rw [read] at now
          exact (apart.appendDevice_iff info _).mpr now

/-- An edit of a single record keeps the directories apart exactly when it is safe. -/
theorem StorageApart.edit_iff {known : KnownDevices} (apart : StorageApart known.devices)
    {edit : Edit} (single : edit.rebuilds = false) (kept : KeepsNames edit)
    : StorageApart (known.edit edit).devices ↔ editSafe known edit = true := by
  cases edit with
  | keep => exact iff_of_true apart rfl
  | update idx change =>
      exact iff_of_true (apart.of_names (storageNames_modify (fun record _ => kept record) idx)) rfl
  | append info allocated => exact apart.appendDevice_iff info allocated
  | erase idx => exact iff_of_true (apart.sublist (List.eraseIdx_sublist _ _)) rfl
  | load entries => contradiction

theorem StorageApart.edit {known : KnownDevices} (apart : StorageApart known.devices)
    {edit : Edit} (kept : KeepsNames edit) (safe : editSafe known edit = true)
    : StorageApart (known.edit edit).devices := by
  cases edit with
  | load entries => exact (apart.loaded safe).normalize
  | keep | update | append | erase => exact (apart.edit_iff rfl kept).mpr safe

-----------------------------------------------------------------------------------------
-- The paths a call touches
-----------------------------------------------------------------------------------------

theorem keyDir_length_le {keyDir : CString} (known : keyDir ∈ keyDirs)
    : keyDir.length ≤ 20 := by
  revert keyDir
  decide

/-- No path of a record is long enough to be cut. -/
theorem snprintf_eq_self {keyDir : CString} (name : CharArray 256) (tail : CString)
    (known : keyDir ∈ keyDirs) (short : tail.length ≤ 100)
    : snprintf 512 (keyDir ++ name.text ++ tail) = keyDir ++ name.text ++ tail := by
  refine CString.take_of_length_le ?_
  have dir := keyDir_length_le known
  have fits := name.fits
  simp only [CString.length, CString.bytes_append, List.length_append] at dir fits short ⊢
  omega

theorem directory_eq {record : DeviceInfo} (named : record.storageName.isEmpty = false)
    : record.directory = record.storageName.text := by
  simp [directory, named]

theorem append_empty (text : CString) : text ++ CString.empty = text :=
  CString.ext (List.append_nil _)

theorem owns_directory {keyDir : CString} (known : keyDir ∈ keyDirs) (name : CharArray 256)
    : Owns keyDir name.text (snprintf 512 (keyDir ++ name.text)) := by
  have whole := snprintf_eq_self name .empty known (by decide)
  rw [append_empty] at whole
  exact .inl whole

theorem owns_filePath {keyDir : CString} (known : keyDir ∈ keyDirs) (name : CharArray 256)
    : Owns keyDir name.text (filePath keyDir name.text) := by
  refine .inr ⟨.ofLiteral "device.ini", by decide, by decide, ?_⟩
  rw [filePath, snprintf_eq_self name _ known (by decide)]
  have split
      : CString.ofLiteral "/device.ini" = .ofLiteral "/" ++ .ofLiteral "device.ini" := by decide
  rw [split]
  exact CString.ext (List.append_assoc _ _ _).symm

/-- An entry of a record's directory stays in it even when its path is cut. -/
theorem owns_entry {keyDir : CString} (known : keyDir ∈ keyDirs) (name : CharArray 256)
    (entry : EntryName)
    : Owns keyDir name.text
        (snprintf 512 (snprintf 512 (keyDir ++ name.text) ++ .ofLiteral "/" ++ entry.name.text)) := by
  have whole := snprintf_eq_self name .empty known (by decide)
  rw [append_empty] at whole
  rw [whole]
  have dir := keyDir_length_le known
  have fits := name.fits
  have slash : (CString.ofLiteral "/").bytes.length = 1 := by decide
  simp only [CString.length] at dir fits
  refine .inr ⟨entry.name.text.take (511 - (keyDir.bytes.length + name.text.bytes.length + 1)),
    ?_, ?_, ?_⟩
  · rw [CString.isEmpty_take (by omega)]
    exact Bool.eq_false_iff.mpr fun empty => entry.nonempty ((CString.isEmpty_iff _).mp empty)
  · exact fun member => entry.noSlash (List.mem_of_mem_take member)
  · refine CString.ext ?_
    simp only [snprintf, CString.bytes_take, CString.bytes_append]
    rw [List.take_append, List.take_of_length_le (by
      simp only [List.length_append]
      omega)]
    simp only [List.length_append, slash]

/-- One record of the list owns every requested path. -/
def OneOwner (keyDir : CString) (devices : List DeviceInfo) (requests : List FileRequest)
    : Prop :=
  requests = []
  ∨ ∃ record ∈ devices,
      ∀ request ∈ requests, Owns keyDir record.storageName.text request.path

theorem oneOwner_saveHost {store : DeviceStore} {stored : Option Nat}
    {outcome : StorageOutcome}
    (apart : StorageApart (store.saveHost stored outcome).store.known.devices)
    {keyDir : CString} (known : keyDir ∈ keyDirs) (same : store.keyDir = keyDir)
    : OneOwner keyDir (store.saveHost stored outcome).store.known.devices
        (store.saveHost stored outcome).requests := by
  subst same
  rw [store_saveHost] at apart ⊢
  simp only [saveHost]
  cases found : stored.bind fun idx => store.known.devices[idx]? with
  | none => exact .inl rfl
  | some record =>
      obtain ⟨idx, -, present⟩ := Option.bind_eq_some_iff.mp found
      have member := List.mem_of_getElem? present
      refine .inr ⟨record, member, ?_⟩
      simp only [directory_eq (apart.nonempty member)]
      intro request requested
      split at requested
      · simp only [DeviceInfo.save, directory_eq (apart.nonempty member), List.mem_cons,
          List.not_mem_nil, or_false] at requested
        rcases requested with rfl | rfl
        · exact owns_directory known _
        · exact owns_filePath known _
      · obtain rfl := List.mem_singleton.mp requested
        exact owns_directory known _

/-- Every path that normalising saves to belongs to a record it kept. -/
theorem owned_normalize {keyDir : CString} (dir : keyDir ∈ keyDirs) {known : KnownDevices}
    (apart : StorageApart (known.normalize keyDir).1.devices)
    {request : FileRequest} (requested : request ∈ (known.normalize keyDir).2)
    : ∃ record ∈ (known.normalize keyDir).1.devices,
        Owns keyDir record.storageName.text request.path := by
  simp only [KnownDevices.normalize, List.mem_flatMap, DeviceInfo.save,
    List.mem_singleton] at requested
  obtain ⟨record, member, rfl⟩ := requested
  refine ⟨record, member, ?_⟩
  simp only [FileRequest.path]
  rw [directory_eq (apart.nonempty member)]
  exact owns_filePath dir _

/-- The paths a call touches belong to the record it stores or deletes; loading touches
only paths of records it keeps, and initialisation also makes the key directory.
-/
def RequestsConfined (called : Called) : Prop :=
  match called.made with
  | .init _ _ | .load _ =>
      ∀ request ∈ called.result.requests,
        request.path ∈ keyDirs
        ∨ ∃ record ∈ called.result.store.known.devices,
            Owns called.result.store.keyDir record.storageName.text request.path
  | .addHost _ _ _ _ | .markPaired _ _ | .setHostId _ _ _ =>
      OneOwner called.before.keyDir called.result.store.known.devices called.result.requests
  | .deleteHost _ _ =>
      OneOwner called.before.keyDir
        (called.before.known.devices.filter fun record =>
          !(storageNames called.result.store.known.devices).contains record.storageName)
        called.result.requests

theorem confined_loadAll {keyDir : CString} (dir : keyDir ∈ keyDirs) {known : KnownDevices}
    {entries : Option (List DirectoryEntry)}
    (apart : StorageApart (KnownDevices.loadAll keyDir known entries).1.devices)
    {request : FileRequest} (requested : request ∈ (KnownDevices.loadAll keyDir known entries).2)
    : ∃ record ∈ (KnownDevices.loadAll keyDir known entries).1.devices,
        Owns keyDir record.storageName.text request.path := by
  cases entries with
  | none => simp [KnownDevices.loadAll] at requested
  | some entries => exact owned_normalize dir apart requested

/-- Deleting a record frees its storage name: no other record had it. -/
theorem storageName_notMem_eraseIdx {devices : List DeviceInfo} (apart : StorageApart devices)
    {idx : Nat} {record : DeviceInfo} (stored : devices[idx]? = some record)
    : record.storageName ∉ storageNames (devices.eraseIdx idx) := by
  obtain ⟨inside, rfl⟩ := List.getElem?_eq_some_iff.mp stored
  have split : devices.take idx ++ devices[idx] :: devices.drop (idx + 1) = devices := by simp
  have distinct := apart.distinct
  rw [← split] at distinct
  simp only [storageNames, List.map_append, List.map_cons] at distinct
  have absent := (List.nodup_cons.mp (List.perm_middle.nodup_iff.mp distinct)).1
  rw [List.eraseIdx_eq_take_drop_succ]
  simpa [storageNames] using absent

theorem confined_deleteHost {store : DeviceStore} (apart : StorageApart store.known.devices)
    (known : store.keyDir ∈ keyDirs) (host : MoonlightHost)
    (contents : Option (List EntryName))
    : OneOwner store.keyDir
        (store.known.devices.filter fun record =>
          !(storageNames (store.deleteHost host contents).store.known.devices).contains
            record.storageName)
        (store.deleteHost host contents).requests := by
  simp only [deleteHost]
  split
  · exact .inl rfl
  · cases findStoredHost store.known.devices host with
    | none => exact .inl rfl
    | some idx =>
        simp only [KnownDevices.removeDeviceIndex]
        cases stored : store.known.devices[idx]? with
        | none => exact .inl rfl
        | some record =>
            have member := List.mem_of_getElem? stored
            have freed := storageName_notMem_eraseIdx apart stored
            refine .inr ⟨record, List.mem_filter.mpr ⟨member, by simpa using freed⟩, ?_⟩
            simp only [directory_eq (apart.nonempty member)]
            intro request requested
            rcases List.mem_cons.mp requested with rfl | rest
            · exact owns_filePath known _
            · rcases List.mem_append.mp rest with inside | last
              · obtain ⟨entry, -, rfl⟩ := List.mem_map.mp inside
                exact owns_entry known _ entry
              · obtain rfl := List.mem_singleton.mp last
                exact owns_directory known _

theorem confined_init {store : DeviceStore} {usable : CString → Bool}
    {entries : Option (List DirectoryEntry)}
    (after : StorageApart (store.init usable entries).store.known.devices)
    : RequestsConfined ⟨store, .init usable entries, store.init usable entries⟩ := by
  intro request requested
  simp only [init] at requested after ⊢
  split at requested
  · simp at requested
  · rename_i blank
    rw [if_neg blank] at after ⊢
    cases found : keyDirs.find? usable with
    | none =>
        simp only [found, List.mem_map] at requested
        obtain ⟨keyDir, member, rfl⟩ := requested
        exact .inl member
    | some keyDir =>
        simp only [found] at requested after ⊢
        have dir := List.mem_of_find?_eq_some found
        rcases List.mem_append.mp requested with made | saved
        · obtain ⟨tried, member, rfl⟩ := List.mem_map.mp made
          rcases List.mem_append.mp member with before | last
          · exact .inl ((List.takeWhile_sublist _).subset before)
          · exact .inl (List.mem_singleton.mp last ▸ dir)
        · exact .inr (confined_loadAll dir after saved)

/-- A call that starts and ends with the directories apart touches no other record's paths. -/
theorem confined_call {store after : DeviceStore} {made : Call} {emitted : List Called}
    (wellInitialized : WellInitialized store)
    (taken : machine.step store made = some (after, emitted))
    (apartBefore : StorageApart store.known.devices)
    (apartAfter : StorageApart (store.call made).store.known.devices)
    : RequestsConfined ⟨store, made, store.call made⟩ := by
  cases made with
  | init usable entries => exact confined_init apartAfter
  | load entries =>
      intro request requested
      cases running : store.initialized with
      | true => exact .inr (confined_loadAll (wellInitialized.keyDir running) apartAfter requested)
      | false => simp [machine, running] at taken
  | addHost address port name outcome =>
      cases address with
      | none => exact .inl rfl
      | some address =>
          simp only [RequestsConfined, call, addHost] at apartAfter ⊢
          split
          · exact .inl rfl
          · rename_i accepted
            have running : store.initialized = true := by simp_all
            rw [if_neg accepted] at apartAfter
            cases search : findAddedHost store.known.devices address name with
            | some _ | none =>
                simp only [search] at apartAfter ⊢
                exact oneOwner_saveHost apartAfter (wellInitialized.keyDir running) rfl
  | markPaired host outcome =>
      simp only [RequestsConfined, call, markPaired] at apartAfter ⊢
      split
      · exact .inl rfl
      · rename_i accepted
        have running : store.initialized = true := by simp_all
        rw [if_neg accepted] at apartAfter
        cases search : findStoredHost store.known.devices host with
        | some _ | none =>
            simp only [search] at apartAfter ⊢
            exact oneOwner_saveHost apartAfter (wellInitialized.keyDir running) rfl
  | setHostId host hostId outcome =>
      simp only [RequestsConfined, call, setHostId] at apartAfter ⊢
      split
      · exact .inl rfl
      · rename_i accepted
        have running : store.initialized = true := by simp_all
        rw [if_neg accepted] at apartAfter
        cases search : findStoredHost store.known.devices host with
        | some _ | none =>
            simp only [search] at apartAfter ⊢
            exact oneOwner_saveHost apartAfter (wellInitialized.keyDir running) rfl
  | deleteHost host contents =>
      cases running : store.initialized with
      | true => exact confined_deleteHost apartBefore (wellInitialized.keyDir running) host contents
      | false => exact .inl (by simp [call, deleteHost, running])

-----------------------------------------------------------------------------------------
-- Runs of the store
-----------------------------------------------------------------------------------------

/-- Every call of the run added records under fresh storage names only. -/
def SafeRun (trace : List Called) : Prop :=
  ∀ called ∈ trace, editSafe called.before.known (called.before.editOf called.made) = true

instance (trace : List Called) : Decidable (SafeRun trace) :=
  inferInstanceAs (Decidable (∀ called ∈ trace, _))

/-- Safe runs keep the directories apart and every call within its own directory, by
induction on the run.
-/
theorem apart_of_reaches {trace store} (reached : machine.Reaches trace store)
    (safe : SafeRun trace)
    : StorageApart store.known.devices ∧ ∀ called ∈ trace, RequestsConfined called := by
  induction reached with
  | start initial =>
      obtain rfl : _ = ({} : DeviceStore) := initial
      exact ⟨.nil, by simp⟩
  | next before taken ih =>
      obtain ⟨apart, confined⟩ := ih fun called member => safe called (by simp [member])
      obtain ⟨rfl, rfl⟩ := step_eq taken
      have after := apart.edit (keepsNames_editOf _ _)
        (safe _ (List.mem_append_right _ (List.mem_singleton_self _)))
      rw [← known_call] at after
      refine ⟨after, fun called member => ?_⟩
      rcases List.mem_append.mp member with old | new
      · exact confined called old
      · obtain rfl := List.mem_singleton.mp new
        exact confined_call (wellInitialized_of_reaches before) taken apart after

/-- Any two records of the store have different directories. -/
def DirectoriesDistinct (store : DeviceStore) : Prop :=
  ∀ (first second : Nat) (left right : DeviceInfo),
    store.known.devices[first]? = some left
    → store.known.devices[second]? = some right
    → first ≠ second
    → left.storageName ≠ right.storageName

theorem StorageApart.directoriesDistinct {store : DeviceStore}
    (apart : StorageApart store.known.devices)
    : store.DirectoriesDistinct := by
  intro first second left right atFirst atSecond different same
  have insideFirst := (List.getElem?_eq_some_iff.mp atFirst).1
  have named
      : (storageNames store.known.devices)[first]?
        = (storageNames store.known.devices)[second]? := by
    simp [storageNames, atFirst, atSecond, same]
  exact different ((List.getElem?_inj (by simpa [storageNames] using insideFirst)
    apart.distinct).mp named)

/-- In every store reached by calls that add records under fresh storage names, the
directories are distinct and confined, every call of the run stayed within its own
record's directory, no path lies in two directories or in the client's, and certificates
lie with their record; and the next call that edits a single record keeps the directories
apart exactly when it is safe.
-/
theorem storage_stays_apart {trace store} (reached : machine.Reaches trace store)
    (safe : SafeRun trace)
    : store.DirectoriesDistinct
      ∧ (∀ record ∈ store.known.devices,
          isComponent record.storageName.text = true
          ∧ record.storageName.text ≠ clientDirectoryName)
      ∧ (∀ called ∈ trace, RequestsConfined called)
      ∧ (∀ record ∈ store.known.devices, ∀ path,
          Owns store.keyDir record.storageName.text path
          → ¬Owns store.keyDir clientDirectoryName path
            ∧ ∀ other ∈ store.known.devices,
                Owns store.keyDir other.storageName.text path
                → other.storageName = record.storageName)
      ∧ (∀ host size path,
          store.getServerCertificatePath host size = some path
          → ∃ record ∈ store.known.devices, Owns store.keyDir record.storageName.text path)
      ∧ ∀ made,
          (store.editOf made).rebuilds = false
          → (StorageApart (store.call made).store.known.devices
            ↔ editSafe store.known (store.editOf made) = true) := by
  obtain ⟨apart, confined⟩ := apart_of_reaches reached safe
  have usable
      : ∀ record ∈ store.known.devices,
          isComponent record.storageName.text = true
          ∧ record.storageName.text ≠ clientDirectoryName := by
    intro record member
    have known := apart.confined _ (List.mem_map_of_mem member)
    simp only [isConfined, Bool.and_eq_true, bne_iff_ne, ne_eq] at known
    exact known
  have plain : ∀ record ∈ store.known.devices, 47 ∉ record.storageName.text.bytes :=
    fun record member => noSlash_of_isComponent (usable record member).1
  refine ⟨apart.directoriesDistinct, usable, confined, ?_, ?_, fun made single => ?_⟩
  · intro record member path owned
    refine ⟨fun clients => ?_, fun other present alsoOwned => ?_⟩
    · exact (usable record member).2 (owned.unique clients (plain record member) (by decide))
    · exact CharArray.ext (alsoOwned.unique owned (plain other present) (plain record member))
  · intro host size path found
    simp only [getServerCertificatePath] at found
    split at found
    · contradiction
    · split at found
      · contradiction
      · rename_i record stored
        obtain ⟨idx, -, present⟩ := Option.bind_eq_some_iff.mp stored
        have member := List.mem_of_getElem? present
        split at found
        · contradiction
        · obtain rfl := Option.some.inj found
          refine ⟨record, member, .inr ⟨.ofLiteral "server.pem", by decide, by decide, ?_⟩⟩
          have split
              : CString.ofLiteral "/server.pem" = .ofLiteral "/" ++ .ofLiteral "server.pem" := by
            decide
          rw [directory_eq (apart.nonempty member), split]
          exact CString.ext (List.append_assoc _ _ _).symm
  · rw [known_call]
    exact apart.edit_iff single (keepsNames_editOf _ _)

/-- A PC is added and renamed, then another PC takes the old name. -/
def reusedNameCalls : List Call :=
  [.init (fun _ => true) none,
    .addHost (some (.ofLiteral "10.0.0.1")) 0 (some (.ofLiteral "Desk")) .granted,
    .addHost (some (.ofLiteral "10.0.0.1")) 0 (some (.ofLiteral "Sofa")) .granted,
    .addHost (some (.ofLiteral "10.0.0.2")) 0 (some (.ofLiteral "Desk")) .granted]

/-- After the old name is reused both PCs are kept in one directory. -/
theorem storage_not_always_apart
    : ¬∀ trace store, machine.Reaches trace store → store.DirectoriesDistinct := by
  intro law
  have reached := machine.reaches_run rfl reusedNameCalls rfl
  exact law _ _ reached 0 1 _ _ rfl rfl (by decide) (by decide)

/-- A PC is added and renamed, then another PC takes a name of its own. -/
def ownNameCalls : List Call :=
  reusedNameCalls.take 3
    ++ [.addHost (some (.ofLiteral "10.0.0.2")) 0 (some (.ofLiteral "Den")) .granted]

/-- That run is safe, and the two PCs are kept in two directories. -/
theorem storage_stays_apart_after_rename
    : ∃ trace store,
        machine.Reaches trace store
        ∧ SafeRun trace
        ∧ store.known.devices.map (·.storageName.text) = [.ofLiteral "Desk", .ofLiteral "Den"]
        ∧ store.DirectoriesDistinct := by
  have reached := machine.reaches_run rfl ownNameCalls rfl
  exact ⟨_, _, reached, by decide, by decide, (storage_stays_apart reached (by decide)).1⟩

end DeviceStore

end VitaMoonlight
