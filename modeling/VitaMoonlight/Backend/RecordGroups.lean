import VitaMoonlight.Backend.Normalization

/-! What `normalize_known_devices` keeps of the records it merges. A merge copies every
field but the host id and the directory, which stay those of the record it prefers; and it
prefers a paired record to one that has a host id.
-/

namespace VitaMoonlight

open Library Library.CText Library.Deduplication

namespace KnownDevices

open DeviceInfo

-----------------------------------------------------------------------------------------
-- One merge
-----------------------------------------------------------------------------------------

theorem firstChar_eq_zero_iff (text : CString) : firstChar text = 0 ↔ text.isEmpty = true := by
  obtain ⟨bytes, noNul⟩ := text
  cases bytes with
  | nil => simp [firstChar, CString.isEmpty]
  | cons head tail =>
      have filled : head ≠ 0 := fun zero => noNul (zero ▸ List.mem_cons_self ..)
      simp [firstChar, CString.isEmpty, filled]

theorem paired_mergeDuplicate (source current : DeviceInfo)
    : (mergeDuplicate source current).paired = (source.paired || current.paired) := by
  simp only [mergeDuplicate]
  split <;> simp only [merge] <;> split <;> simp_all

theorem mac_mergeDuplicate (source current : DeviceInfo)
    : (mergeDuplicate source current).mac.isEmpty
      = (source.mac.isEmpty && current.mac.isEmpty) := by
  simp only [mergeDuplicate]
  split <;> simp only [merge] <;> split <;> simp_all

/-- The host id and the directory come from one record, paired if either is. -/
theorem preferred_mergeDuplicate (source current : DeviceInfo)
    : (∃ preferred ∈ [source, current],
        preferred.paired = (source.paired || current.paired)
        ∧ (mergeDuplicate source current).hostId = preferred.hostId
        ∧ (mergeDuplicate source current).storageName = preferred.storageName) := by
  cases keeps : source.shouldKeep current with
  | true =>
      refine ⟨source, by simp, ?_, by simp [mergeDuplicate, keeps, merge],
        by simp [mergeDuplicate, keeps, merge]⟩
      simp only [shouldKeep] at keeps
      split at keeps
      · simp [keeps]
      · simp_all
  | false =>
      refine ⟨current, by simp, ?_, by simp [mergeDuplicate, keeps, merge],
        by simp [mergeDuplicate, keeps, merge]⟩
      simp only [shouldKeep] at keeps
      split at keeps
      · simp [keeps]
      · simp_all

/-- Of two records that are both paired or both not, one with a host id is preferred. -/
theorem hostId_mergeDuplicate {source current : DeviceInfo}
    (same : source.paired = current.paired)
    : (mergeDuplicate source current).hostId.isEmpty
      = (source.hostId.isEmpty && current.hostId.isEmpty) := by
  by_cases initials : firstChar source.hostId.text = firstChar current.hostId.text
  · have alike : source.hostId.isEmpty = current.hostId.isEmpty := by
      refine Bool.eq_iff_iff.mpr ?_
      rw [CharArray.isEmpty_eq, CharArray.isEmpty_eq, ← firstChar_eq_zero_iff,
        ← firstChar_eq_zero_iff, initials]
    simp only [mergeDuplicate]
    split <;> simp [merge, alike]
  · cases filled : source.hostId.isEmpty with
    | false => simp [mergeDuplicate, shouldKeep, same, initials, filled, merge]
    | true => simp [mergeDuplicate, shouldKeep, same, initials, filled, merge]

theorem shouldKeep_of_ne {candidate current : DeviceInfo}
    (differ : candidate.paired ≠ current.paired)
    : candidate.shouldKeep current = candidate.paired := by
  simp [shouldKeep, differ]

/-- A paired record is preferred to one that is not, with or without a host id. -/
theorem hostId_mergeDuplicate_of_ne {source current : DeviceInfo}
    (differ : source.paired ≠ current.paired)
    : (mergeDuplicate source current).hostId
      = if source.paired then source.hostId else current.hostId := by
  simp only [mergeDuplicate, shouldKeep_of_ne differ]
  split <;> rfl

-----------------------------------------------------------------------------------------
-- What a cluster keeps
-----------------------------------------------------------------------------------------

/-- What a survivor has of its cluster's records, whatever these are. -/
structure Tracks (cluster : Cluster DeviceInfo) : Prop where
  paired : cluster.survivor.paired = true ↔ ∃ member ∈ cluster.members, member.paired = true
  mac
    : cluster.survivor.mac.isEmpty = false
      ↔ ∃ member ∈ cluster.members, member.mac.isEmpty = false
  hostId
    : cluster.survivor.hostId.isEmpty = false
      ↔ ∃ member ∈ cluster.members,
          member.paired = cluster.survivor.paired ∧ member.hostId.isEmpty = false
  storage
    : ∃ member ∈ cluster.members,
        member.paired = cluster.survivor.paired
        ∧ cluster.survivor.storageName = member.storageName

theorem Tracks.alone (source : DeviceInfo)
    : Tracks { members := [source], survivor := source } where
  paired := by simp
  mac := by simp
  hostId := by simp
  storage := by simp

theorem Tracks.add {cluster : Cluster DeviceInfo} (tracks : Tracks cluster) (source : DeviceInfo)
    : Tracks (cluster.add mergeDuplicate source) where
  paired := by
    simp only [Cluster.add, paired_mergeDuplicate, Bool.or_eq_true, tracks.paired,
      List.mem_append, List.mem_singleton]
    grind
  mac := by
    simp only [Cluster.add, mac_mergeDuplicate, Bool.and_eq_false_iff, tracks.mac,
      List.mem_append, List.mem_singleton]
    grind
  hostId := by
    have inside
        : (∃ member ∈ (cluster.add mergeDuplicate source).members,
              member.paired = (cluster.add mergeDuplicate source).survivor.paired
              ∧ member.hostId.isEmpty = false)
          ↔ (∃ member ∈ cluster.members,
              member.paired = (source.paired || cluster.survivor.paired)
              ∧ member.hostId.isEmpty = false)
            ∨ source.paired = (source.paired || cluster.survivor.paired)
              ∧ source.hostId.isEmpty = false := by
      simp only [Cluster.add, paired_mergeDuplicate, List.mem_append, List.mem_singleton,
        or_and_right, exists_or, exists_eq_left]
    rw [inside]
    by_cases same : source.paired = cluster.survivor.paired
    · simp only [Cluster.add, hostId_mergeDuplicate same, Bool.and_eq_false_iff, tracks.hostId,
        same, Bool.or_self, true_and]
      exact or_comm
    · simp only [Cluster.add, hostId_mergeDuplicate_of_ne same]
      cases fresh : source.paired with
      | true =>
          have stored : cluster.survivor.paired = false := by simpa [fresh] using same
          have unpaired : ∀ member ∈ cluster.members, member.paired = false := by
            simpa [stored] using tracks.paired
          have none
              : ¬∃ member ∈ cluster.members,
                  member.paired = true ∧ member.hostId.isEmpty = false := by
            rintro ⟨member, given, paired, -⟩
            simp [unpaired member given] at paired
          simp [none]
      | false =>
          have stored : cluster.survivor.paired = true := by simpa [fresh] using same
          simp [tracks.hostId, stored]
  storage := by
    obtain ⟨preferred, given, paired, -, storage⟩ :=
      preferred_mergeDuplicate source cluster.survivor
    simp only [Cluster.add, paired_mergeDuplicate, storage]
    rcases List.mem_cons.mp given with rfl | given
    · exact ⟨_, List.mem_append_right _ (List.mem_singleton_self _), paired, rfl⟩
    · obtain rfl := List.mem_singleton.mp given
      obtain ⟨member, inside, alike, named⟩ := tracks.storage
      exact ⟨member, List.mem_append_left _ inside, alike.trans paired, named⟩

-----------------------------------------------------------------------------------------
-- Records that have a directory
-----------------------------------------------------------------------------------------

/-- Every record has a storage name. -/
def Housed (devices : List DeviceInfo) : Prop :=
  ∀ record ∈ devices, record.storageName.isEmpty = false

/-- A record with a name or a host id has a storage name after `ensure_host_identity`. -/
theorem housed_ensureHostIdentity {info : DeviceInfo}
    (named
      : info.storageName.isEmpty = false ∨ info.name.isEmpty = false
        ∨ info.hostId.isEmpty = false)
    : info.ensureHostIdentity.storageName.isEmpty = false := by
  cases housed : info.storageName.isEmpty with
  | false => simp [ensureHostIdentity, housed]
  | true =>
      have copied : ∀ text : CString, (CharArray.copy 256 text).isEmpty = text.isEmpty :=
        fun text => CString.isEmpty_take (by decide)
      simp only [ensureHostIdentity, housed, if_true, copied]
      cases name : info.name.isEmpty with
      | false =>
          simp only [Bool.false_eq_true, if_false]
          exact name
      | true =>
          simp only [if_true]
          rcases named with filled | filled | filled
          · simp [housed] at filled
          · simp [name] at filled
          · exact filled

theorem Housed.of_names {devices others : List DeviceInfo} (housed : Housed devices)
    (same : DeviceStore.storageNames others = DeviceStore.storageNames devices)
    : Housed others := by
  intro record member
  have named : record.storageName ∈ DeviceStore.storageNames devices :=
    same ▸ List.mem_map_of_mem member
  obtain ⟨owner, given, same⟩ := List.mem_map.mp named
  exact same ▸ housed owner given

theorem Housed.appendDevice {known : KnownDevices} (housed : Housed known.devices)
    {info : DeviceInfo} (named : info.ensureHostIdentity.storageName.isEmpty = false)
    (allocated : Bool)
    : Housed (known.appendDevice info allocated).1.devices := by
  rw [devices_appendDevice]
  split
  · refine housed.of_names (DeviceStore.storageNames_modify (fun record member => ?_) _)
    exact DeviceStore.storageName_mergeExisting info (housed record member)
  · split
    · intro record member
      rcases List.mem_append.mp member with old | new
      · exact housed record old
      · obtain rfl := List.mem_singleton.mp new
        exact named
    · exact housed

/-- A record read from a directory has its name for storage name, whatever the file says. -/
theorem housed_loadedDevice {entry : DirectoryEntry} {info : DeviceInfo}
    (read : loadedDevice entry = some info)
    : info.storageName.isEmpty = false := by
  simp only [loadedDevice] at read
  split at read
  · contradiction
  · split at read
    · contradiction
    · obtain ⟨parsed, loaded, rfl⟩ := Option.map_eq_some_iff.mp read
      have kept
          : ∀ (user : DeviceInfo) (currentSection name value : CString),
              user.storageName = entry.name.name
              → newline ∉ value.bytes
              → (iniHandle user currentSection name value).1.storageName = entry.name.name := by
        intro user currentSection name value before _
        rw [iniHandle]
        split_ifs <;> exact before
      have named : parsed.storageName = entry.name.name := by
        cases file : entry.deviceIni with
        | none => simp [DeviceInfo.load, Inih.iniParse, file] at loaded
        | some bytes =>
            simp only [DeviceInfo.load, Inih.iniParse, file] at loaded
            obtain ⟨-, same⟩ := Option.ite_none_right_eq_some.mp loaded
            obtain rfl := Option.some.inj same
            exact Inih.parseLoop_preserves kept _ _ rfl
      have filled : parsed.storageName.isEmpty = false := by
        rw [named, CharArray.isEmpty_eq, ← Bool.not_eq_true, CString.isEmpty_iff]
        exact entry.name.nonempty
      exact housed_ensureHostIdentity (.inl filled)

/-- The list read from the directory, which is the one normalised. -/
theorem Housed.loaded {known : KnownDevices} (housed : Housed known.devices)
    (entries : List DirectoryEntry)
    : Housed (known.loaded entries).devices := by
  induction entries generalizing known with
  | nil => exact housed
  | cons entry rest ih =>
      refine ih ?_
      simp only [loadStep]
      cases read : loadedDevice entry with
      | none => exact housed
      | some info =>
          have named := housed_ensureHostIdentity (.inl (housed_loadedDevice read))
          exact housed.appendDevice named entry.allocated

-----------------------------------------------------------------------------------------
-- Trust and identity
-----------------------------------------------------------------------------------------

/-- The clusters `normalize_known_devices` makes of the list. -/
def recordClusters (known : KnownDevices) : List (Cluster DeviceInfo) :=
  clustersOf sameIdentity mergeDuplicate known.devices

theorem tracks_recordClusters (known : KnownDevices)
    : ∀ cluster ∈ known.recordClusters, Tracks cluster :=
  forall_mem_clustersOf (fun source _ => .alone source)
    fun _ source _ _ tracks => tracks.add source

theorem mem_of_mem_recordClusters {known : KnownDevices} {cluster : Cluster DeviceInfo}
    (given : cluster ∈ known.recordClusters) {member : DeviceInfo}
    (inside : member ∈ cluster.members)
    : member ∈ known.devices :=
  (members_clustersOf_perm known.devices).subset (List.mem_flatMap.mpr ⟨cluster, given, inside⟩)

/-- A survivor's directory is the one of a record of its cluster. -/
theorem housed_survivor {known : KnownDevices} (housed : Housed known.devices)
    {cluster : Cluster DeviceInfo} (given : cluster ∈ known.recordClusters)
    : cluster.survivor.storageName.isEmpty = false := by
  obtain ⟨member, inside, -, same⟩ := (tracks_recordClusters known cluster given).storage
  rw [same]
  exact housed member (mem_of_mem_recordClusters given inside)

/-- The survivors are the records that remain, as they are. -/
theorem devices_normalize_of_housed {known : KnownDevices} (housed : Housed known.devices)
    (keyDir : CString)
    : (known.normalize keyDir).1.devices = known.recordClusters.map Cluster.survivor := by
  rw [devices_normalize, ← map_survivor_clustersOf, List.map_map]
  refine List.map_congr_left fun cluster given => ?_
  exact DeviceStore.ensureHostIdentity_eq_self (housed_survivor housed given)

/-- What a surviving record must have of the records it stands for. -/
structure Conserves (members : List DeviceInfo) (survivor : DeviceInfo) : Prop where
  paired : ∀ member ∈ members, member.paired = true → survivor.paired = true
  hostId
    : ∀ member ∈ members, member.hostId.isEmpty = false → survivor.hostId.isEmpty = false
  mac : ∀ member ∈ members, member.mac.isEmpty = false → survivor.mac.isEmpty = false
  directory
    : ∀ member ∈ members,
        member.paired = true
        → ∃ owner ∈ members, owner.paired = true ∧ survivor.directory = owner.directory

/-- If a record is paired and a record has a host id, then a paired record has one. -/
def PairedIdentified (members : List DeviceInfo) : Prop :=
  ∀ owner ∈ members, owner.paired = true
    → ∀ identified ∈ members, identified.hostId.isEmpty = false
    → ∃ member ∈ members, member.paired = true ∧ member.hostId.isEmpty = false

theorem conserves_iff {known : KnownDevices} (housed : Housed known.devices)
    {cluster : Cluster DeviceInfo} (given : cluster ∈ known.recordClusters)
    : Conserves cluster.members cluster.survivor ↔ PairedIdentified cluster.members := by
  have tracks := tracks_recordClusters known cluster given
  constructor
  · intro conserves owner inside paired identified known filled
    have kept := tracks.hostId.mp (conserves.hostId identified known filled)
    rwa [conserves.paired owner inside paired] at kept
  · intro pairedIdentified
    refine ⟨fun member inside paired => tracks.paired.mpr ⟨member, inside, paired⟩, ?_,
      fun member inside filled => tracks.mac.mpr ⟨member, inside, filled⟩, ?_⟩
    · intro member inside filled
      cases paired : cluster.survivor.paired with
      | true =>
          obtain ⟨owner, owns, ownerPaired⟩ := tracks.paired.mp paired
          have kept := pairedIdentified owner owns ownerPaired member inside filled
          rw [tracks.hostId, paired]
          exact kept
      | false =>
          have unpaired : member.paired = false := by
            by_contra other
            have trusted := tracks.paired.mpr ⟨member, inside, by simpa using other⟩
            simp [paired] at trusted
          exact tracks.hostId.mpr ⟨member, inside, unpaired.trans paired.symm, filled⟩
    · intro member inside paired
      obtain ⟨owner, owns, alike, same⟩ := tracks.storage
      refine ⟨owner, owns, alike.trans (tracks.paired.mpr ⟨member, inside, paired⟩), ?_⟩
      have named := housed owner (mem_of_mem_recordClusters given owns)
      simp only [directory, same, named]
      rfl

/-- Normalising puts every record into one cluster, one record survives of each, and the
survivors keep trust and identity exactly when no cluster has its host ids in unpaired
records beside a paired one.
-/
theorem normalize_conserves_iff (keyDir : CString) (known : KnownDevices)
    (housed : Housed known.devices)
    : (known.normalize keyDir).1.devices = known.recordClusters.map Cluster.survivor
      ∧ (known.recordClusters.flatMap Cluster.members).Perm known.devices
      ∧ (∀ cluster ∈ known.recordClusters, cluster.members ≠ [])
      ∧ ((∀ cluster ∈ known.recordClusters, Conserves cluster.members cluster.survivor)
        ↔ ∀ cluster ∈ known.recordClusters, PairedIdentified cluster.members) := by
  refine ⟨devices_normalize_of_housed housed keyDir, members_clustersOf_perm known.devices,
    fun cluster given empty => ?_, forall₂_congr fun cluster given => ?_⟩
  · obtain ⟨member, inside, -⟩ := (tracks_recordClusters known cluster given).storage
    simp [empty] at inside
  · exact conserves_iff housed given

/-- A paired record and an unpaired one of the same name that has a host id. -/
def namesakes (hostId : CString) : KnownDevices where
  size := 4
  devices :=
    [{ name := .copy 256 (.ofLiteral "PC"), storageName := .copy 256 (.ofLiteral "a"),
       paired := true, hostId := .copy 33 hostId, mac := .copy 18 (.ofLiteral "01") },
      { name := .copy 256 (.ofLiteral "PC"), storageName := .copy 256 (.ofLiteral "b"),
        hostId := .copy 33 (.ofLiteral "7"), mac := .copy 18 (.ofLiteral "02") }]

/-- The paired record survives, so the host id is lost unless it has one itself. -/
theorem namesake_loses_hostId
    : ¬∀ known : KnownDevices,
        Housed known.devices
        → ∀ cluster ∈ known.recordClusters, Conserves cluster.members cluster.survivor := by
  intro law
  have housed : Housed (namesakes .empty).devices := by
    unfold Housed
    decide
  obtain ⟨cluster, given, ⟨member, inside, filled⟩, lost⟩
      : ∃ cluster ∈ (namesakes .empty).recordClusters,
          (∃ member ∈ cluster.members, member.hostId.isEmpty = false)
          ∧ cluster.survivor.hostId.isEmpty = true := by
    decide
  have kept := (law _ housed cluster given).hostId member inside filled
  simp [lost] at kept

/-- A paired record that has a host id keeps it. -/
theorem identified_namesake_conserves
    : (namesakes (.ofLiteral "7")).recordClusters.length = 1
      ∧ ∀ cluster ∈ (namesakes (.ofLiteral "7")).recordClusters,
          Conserves cluster.members cluster.survivor := by
  have housed : Housed (namesakes (.ofLiteral "7")).devices := by
    unfold Housed
    decide
  refine ⟨by decide, (normalize_conserves_iff .empty _ housed).2.2.2.mpr ?_⟩
  unfold PairedIdentified
  decide

end KnownDevices

namespace DeviceStore

open KnownDevices

-----------------------------------------------------------------------------------------
-- The lists the store normalises
-----------------------------------------------------------------------------------------

/-- A record the edit adds gets a storage name. -/
def NamesAdded : Edit → Prop
  | .append info _ => info.ensureHostIdentity.storageName.isEmpty = false
  | _ => True

/-- A record is added with a name, and failing that with the host id. -/
theorem namesAdded_editOf (store : DeviceStore) (made : Call)
    : NamesAdded (store.editOf made) := by
  have filled
      : ∀ {size : Nat} [NeZero size], 1 < size → ∀ {text : CString},
          text.isEmpty = false → (CharArray.copy size text).isEmpty = false := by
    intro size _ large text filled
    rw [CharArray.isEmpty_eq, CharArray.text_copy, CString.isEmpty_take (by omega), filled]
  cases made with
  | init usable entries =>
      simp only [editOf]
      split
      · trivial
      · split
        · cases entries <;> trivial
        · trivial
  | load entries => cases entries <;> trivial
  | addHost address port name outcome =>
      cases address with
      | none => trivial
      | some address =>
          simp only [editOf]
          split
          · trivial
          · rename_i usable
            simp only [Bool.or_eq_true, not_or, Bool.not_eq_true] at usable
            split
            · trivial
            · refine housed_ensureHostIdentity (.inr (.inl ?_))
              simp only [addedHost]
              split
              · split
                · exact filled (by decide) usable.2
                · rename_i named
                  exact filled (by decide) (by simpa only [Bool.not_eq_true] using named)
              · exact filled (by decide) usable.2
  | markPaired host outcome =>
      simp only [editOf]
      split
      · trivial
      · rename_i usable
        simp only [Bool.or_eq_true, not_or, Bool.not_eq_true] at usable
        split
        · trivial
        · refine housed_ensureHostIdentity (.inr (.inl ?_))
          simp only [newHost]
          split
          · exact filled (by decide) usable.2
          · rename_i named
            simpa only [Bool.not_eq_true] using named
  | setHostId host hostId outcome =>
      simp only [editOf]
      split
      · trivial
      · rename_i usable
        simp only [Bool.or_eq_true, not_or, Bool.not_eq_true] at usable
        split
        · trivial
        · exact housed_ensureHostIdentity (.inr (.inr (filled (by decide) usable.2)))
  | deleteHost host contents =>
      simp only [editOf]
      split
      · trivial
      · split <;> trivial

theorem housed_edit {known : KnownDevices} (housed : Housed known.devices) {edit : Edit}
    (kept : KeepsNames edit) (named : NamesAdded edit)
    : Housed (known.edit edit).devices := by
  cases edit with
  | keep => exact housed
  | update idx change =>
      exact housed.of_names (storageNames_modify (fun record _ => kept record) idx)
  | append info allocated => exact housed.appendDevice named allocated
  | erase idx => exact fun record member => housed record (List.mem_of_mem_eraseIdx member)
  | load entries =>
      intro record member
      have read := housed.loaded entries
      have same := devices_normalize_of_housed read .empty
      have survives : record ∈ (known.loaded entries).recordClusters.map Cluster.survivor :=
        same ▸ member
      obtain ⟨cluster, given, rfl⟩ := List.mem_map.mp survives
      exact housed_survivor read given

/-- Every record of every store has a directory, and so has every record read into it
before the list is normalised.
-/
theorem housed_of_reaches {trace store} (reached : machine.Reaches trace store)
    : Housed store.known.devices
      ∧ ∀ entries, Housed (store.known.loaded entries).devices := by
  have housed : Housed store.known.devices :=
    reached.invariant (fun _ store => Housed store.known.devices)
      (fun _ blank => by subst blank; exact fun _ member => absurd member List.not_mem_nil)
      (fun _ _ _ _ _ before taken => by
        obtain ⟨rfl, -⟩ := step_eq taken
        rw [known_call]
        exact housed_edit before (keepsNames_editOf _ _) (namesAdded_editOf _ _))
  exact ⟨housed, housed.loaded⟩

end DeviceStore

end VitaMoonlight
