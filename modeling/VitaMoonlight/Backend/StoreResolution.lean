import VitaMoonlight.Backend.StoreEdits

/-! Whether a listed host leads back to its own record.
A listed host is looked up by the first identifier it has, so it finds its record exactly
when no earlier record carries that identifier.
-/

namespace VitaMoonlight

open Library

-----------------------------------------------------------------------------------------
-- The identifier that decides a lookup
-----------------------------------------------------------------------------------------

namespace DeviceInfo

/-- The record has an identifier to look it up by. -/
def hasKey (record : DeviceInfo) : Bool :=
  !(record.hostId.isEmpty && record.mac.isEmpty && record.internal.isEmpty
    && record.external.isEmpty && record.name.isEmpty)

/-- `other` carries the first identifier that `record` has. -/
def carriesKeyOf (other record : DeviceInfo) : Bool :=
  if !record.hostId.isEmpty then hasHostId record.hostId.text other
  else if !record.mac.isEmpty then hasMac record.mac.text other
  else if !record.internal.isEmpty then hasAddress record.internal.text other
  else if !record.external.isEmpty then hasAddress record.external.text other
  else hasName record.name.text other

/-- Every record carries its own first identifier. -/
theorem carriesKeyOf_self (record : DeviceInfo) : record.carriesKeyOf record = true := by
  simp only [carriesKeyOf]
  split
  · simp [hasHostId]
  · split
    · rename_i hasMac
      simpa [DeviceInfo.hasMac] using hasMac
    · split
      · rename_i hasInternal
        simp only [hasAddress, hasInternal, Bool.true_and, beq_self_eq_true, Bool.true_or]
      · split
        · rename_i hasExternal
          simp only [hasAddress, hasExternal, Bool.true_and, beq_self_eq_true, Bool.or_true]
        · simp [hasName]

end DeviceInfo

namespace DeviceStore

open KnownDevices DeviceInfo

/-- A search that some record answers stops at the first such record. -/
theorem findIdx?_or_of_mem {devices : List DeviceInfo} {p : DeviceInfo → Bool}
    {record : DeviceInfo} (member : record ∈ devices) (found : p record = true)
    (later : Option Nat)
    : (devices.findIdx? p).or later = devices.findIdx? p := by
  cases search : devices.findIdx? p with
  | some idx => rfl
  | none =>
      have absent := List.findIdx?_eq_none_iff.mp search record member
      simp [found] at absent

/-- Looking up the listing of a stored record searches for the record's first identifier. -/
theorem findStoredHost_fillHost {devices : List DeviceInfo} {record : DeviceInfo}
    (member : record ∈ devices) (id : Nat)
    : findStoredHost devices (fillHost record id)
      = if record.hasKey then devices.findIdx? (carriesKeyOf · record) else none := by
  have self := carriesKeyOf_self record
  simp only [findStoredHost, fillHost, CharArray.copy_text, findDeviceByHostId,
    findDeviceByMac, findDeviceByAddress, findDevice, ← CharArray.isEmpty_eq]
  simp only [carriesKeyOf, hasKey] at self ⊢
  rcases Bool.eq_false_or_eq_true record.hostId.isEmpty with hostId | hostId
  · simp only [hostId, Bool.not_true, Bool.false_eq_true, if_false, if_true, Bool.true_and,
      Option.none_or] at self ⊢
    rcases Bool.eq_false_or_eq_true record.mac.isEmpty with mac | mac
    · simp only [mac, Bool.not_true, Bool.false_eq_true, if_false, if_true, Bool.true_and,
        Option.none_or] at self ⊢
      rcases Bool.eq_false_or_eq_true record.internal.isEmpty with internal | internal
      · simp only [internal, Bool.not_true, Bool.false_eq_true, if_false, if_true,
          Bool.true_and, Option.none_or] at self ⊢
        rcases Bool.eq_false_or_eq_true record.external.isEmpty with external | external
        · simp only [external, Bool.not_true, Bool.false_eq_true, if_false, if_true,
            Bool.true_and, Option.none_or]
          cases record.name.isEmpty <;> rfl
        · simp only [external, Bool.not_false, Bool.false_eq_true, if_false, if_true,
            Bool.false_and] at self ⊢
          exact findIdx?_or_of_mem member self _
      · simp only [internal, Bool.not_false, Bool.false_eq_true, if_false, if_true,
          Bool.false_and] at self ⊢
        exact findIdx?_or_of_mem member self _
    · simp only [mac, Bool.not_false, Bool.false_eq_true, if_false, if_true,
        Bool.false_and] at self ⊢
      exact findIdx?_or_of_mem member self _
  · simp only [hostId, Bool.not_false, Bool.false_eq_true, if_false, if_true,
      Bool.false_and] at self ⊢
    exact findIdx?_or_of_mem member self _

-----------------------------------------------------------------------------------------
-- Lists in which every listing resolves
-----------------------------------------------------------------------------------------

/-- Every record has an identifier, and no record carries the first identifier of a later
one.
-/
structure Unambiguous (devices : List DeviceInfo) : Prop where
  keyed : ∀ record ∈ devices, record.hasKey = true
  apart : devices.Pairwise fun earlier record => earlier.carriesKeyOf record = false

theorem Unambiguous.nil : Unambiguous [] := ⟨by simp, .nil⟩

theorem Unambiguous.sublist {fewer devices : List DeviceInfo} (clear : Unambiguous devices)
    (included : fewer.Sublist devices)
    : Unambiguous fewer :=
  ⟨fun record member => clear.keyed record (included.subset member), clear.apart.sublist included⟩

/-- In an unambiguous list the listing of a record finds its position. -/
theorem Unambiguous.findStoredHost_eq {front back : List DeviceInfo} {record : DeviceInfo}
    (clear : Unambiguous (front ++ record :: back)) (id : Nat)
    : findStoredHost (front ++ record :: back) (fillHost record id) = some front.length := by
  have keyed := clear.keyed record (by simp)
  rw [findStoredHost_fillHost (by simp) id, if_pos keyed, List.findIdx?_append]
  have absent : front.findIdx? (carriesKeyOf · record) = none := by
    rw [List.findIdx?_eq_none_iff]
    intro earlier member
    exact (List.pairwise_append.mp clear.apart).2.2 earlier member record (by simp)
  simp [absent, List.findIdx?_cons, carriesKeyOf_self record]

/-- Every listing resolves to its own record exactly in the unambiguous lists. -/
theorem unambiguous_iff (devices : List DeviceInfo)
    : Unambiguous devices
      ↔ ∀ idx record,
          devices[idx]? = some record
          → findStoredHost devices (fillHost record idx) = some idx := by
  constructor
  · intro clear idx record stored
    obtain ⟨inside, rfl⟩ := List.getElem?_eq_some_iff.mp stored
    have split : devices.take idx ++ devices[idx] :: devices.drop (idx + 1) = devices := by simp
    have found := Unambiguous.findStoredHost_eq (split.symm ▸ clear) idx
    rw [split] at found
    rw [found, List.length_take_of_le inside.le]
  · intro resolves
    have searched
        : ∀ idx record,
            devices[idx]? = some record
            → record.hasKey = true ∧ devices.findIdx? (carriesKeyOf · record) = some idx := by
      intro idx record stored
      have found := resolves idx record stored
      rw [findStoredHost_fillHost (List.mem_of_getElem? stored)] at found
      split at found
      · rename_i keyed
        exact ⟨keyed, found⟩
      · contradiction
    refine ⟨fun record member => ?_, ?_⟩
    · obtain ⟨idx, stored⟩ := List.mem_iff_getElem?.mp member
      exact (searched idx record stored).1
    · rw [List.pairwise_iff_getElem]
      intro first second insideFirst insideSecond before
      obtain ⟨-, found⟩ := searched second devices[second] (by simp)
      obtain ⟨_, _, earlier⟩ := List.findIdx?_eq_some_iff_getElem.mp found
      simpa using earlier first before

-----------------------------------------------------------------------------------------
-- Edits that keep a list unambiguous
-----------------------------------------------------------------------------------------

/-- Writing `record` at `idx` gives it an identifier that no earlier record carries, and no
first identifier of a later record.
-/
def fitsAt (devices : List DeviceInfo) (idx : Nat) (record : DeviceInfo) : Bool :=
  record.hasKey
    && (devices.take idx).all (fun earlier => !earlier.carriesKeyOf record)
    && (devices.drop (idx + 1)).all (fun later => !record.carriesKeyOf later)

theorem unambiguous_split_iff (front back : List DeviceInfo) (record : DeviceInfo)
    : Unambiguous (front ++ record :: back)
      ↔ Unambiguous (front ++ back)
        ∧ record.hasKey = true
        ∧ (∀ earlier ∈ front, earlier.carriesKeyOf record = false)
        ∧ ∀ later ∈ back, record.carriesKeyOf later = false := by
  constructor
  · intro clear
    obtain ⟨keyed, apart⟩ := clear
    refine ⟨⟨fun other member => keyed other ?_, apart.sublist (by simp)⟩,
      keyed record (by simp), ?_, ?_⟩
    · rcases List.mem_append.mp member with inFront | inBack
      · simp [inFront]
      · simp [inBack]
    · intro earlier member
      exact (List.pairwise_append.mp apart).2.2 earlier member record (by simp)
    · intro later member
      exact List.rel_of_pairwise_cons (List.pairwise_append.mp apart).2.1 member
  · rintro ⟨⟨keyed, apart⟩, hasKey, before, after⟩
    obtain ⟨left, right, cross⟩ := List.pairwise_append.mp apart
    refine ⟨?_, List.pairwise_append.mpr ⟨left, List.pairwise_cons.mpr ⟨after, right⟩, ?_⟩⟩
    · intro other member
      rcases List.mem_append.mp member with inFront | inRest
      · exact keyed other (by simp [inFront])
      · rcases List.mem_cons.mp inRest with rfl | inBack
        · exact hasKey
        · exact keyed other (by simp [inBack])
    · intro earlier member other inRest
      rcases List.mem_cons.mp inRest with rfl | inBack
      · exact before earlier member
      · exact cross earlier member other inBack

/-- Replacing a record keeps an unambiguous list unambiguous exactly when the new record
fits in its place.
-/
theorem Unambiguous.set_iff {devices : List DeviceInfo} (clear : Unambiguous devices)
    {idx : Nat} (inside : idx < devices.length) (record : DeviceInfo)
    : Unambiguous (devices.set idx record) ↔ fitsAt devices idx record = true := by
  have rest : Unambiguous (devices.take idx ++ devices.drop (idx + 1)) := by
    refine clear.sublist ?_
    rw [← List.eraseIdx_eq_take_drop_succ]
    exact List.eraseIdx_sublist _ _
  rw [List.set_eq_take_append_cons_drop, if_pos inside, unambiguous_split_iff]
  simp only [rest, true_and, fitsAt, Bool.and_eq_true, List.all_eq_true, Bool.not_eq_true',
    and_assoc]

/-- Adding a record keeps an unambiguous list unambiguous exactly when it fits at the end. -/
theorem Unambiguous.append_iff {devices : List DeviceInfo} (clear : Unambiguous devices)
    (record : DeviceInfo)
    : Unambiguous (devices ++ [record]) ↔ fitsAt devices devices.length record = true := by
  rw [unambiguous_split_iff, List.append_nil]
  have none : devices.drop (devices.length + 1) = [] :=
    List.drop_eq_nil_of_le (Nat.le_succ _)
  simp [clear, fitsAt, none]

/-- The change fits at its place, if it has one. -/
def updateFits (devices : List DeviceInfo) (idx : Nat) (change : DeviceInfo → DeviceInfo)
    : Bool :=
  match devices[idx]? with
  | none => true
  | some old => fitsAt devices idx (change old)

theorem Unambiguous.modify_iff {devices : List DeviceInfo} (clear : Unambiguous devices)
    (idx : Nat) (change : DeviceInfo → DeviceInfo)
    : Unambiguous (devices.modify idx change) ↔ updateFits devices idx change = true := by
  rw [List.modify_eq_set_getElem?, updateFits]
  cases stored : devices[idx]? with
  | none => simpa using clear
  | some old =>
      obtain ⟨inside, rfl⟩ := List.getElem?_eq_some_iff.mp stored
      exact clear.set_iff inside _

/-- Each record that normalising keeps or merges fits in its turn. -/
def normalizeFits (unique : List DeviceInfo) : List DeviceInfo → Bool
  | [] => true
  | source :: rest =>
      (match unique.findIdx? (sameIdentity · source) with
       | none => fitsAt unique unique.length source
       | some idx => updateFits unique idx (mergeDuplicate source))
      && normalizeFits (normalizeStep unique source) rest

theorem carriesKeyOf_ensureHostIdentity (other record : DeviceInfo)
    : other.ensureHostIdentity.carriesKeyOf record.ensureHostIdentity
      = other.carriesKeyOf record := by
  unfold ensureHostIdentity
  cases other.storageName.isEmpty <;> cases record.storageName.isEmpty <;> rfl

theorem hasKey_ensureHostIdentity (record : DeviceInfo)
    : record.ensureHostIdentity.hasKey = record.hasKey := by
  simp only [ensureHostIdentity]
  split <;> rfl

/-- Storage names take no part in lookups. -/
theorem Unambiguous.map_ensureHostIdentity {devices : List DeviceInfo}
    (clear : Unambiguous devices)
    : Unambiguous (devices.map ensureHostIdentity) := by
  refine ⟨?_, List.pairwise_map.mpr ?_⟩
  · intro record member
    obtain ⟨original, known, rfl⟩ := List.mem_map.mp member
    rw [hasKey_ensureHostIdentity]
    exact clear.keyed original known
  · simpa only [carriesKeyOf_ensureHostIdentity] using clear.apart

/-- Normalising builds an unambiguous list record by record, by induction on the records
still to come.
-/
theorem Unambiguous.foldl_normalizeStep {unique : List DeviceInfo} (clear : Unambiguous unique)
    {devices : List DeviceInfo} (fits : normalizeFits unique devices = true)
    : Unambiguous (devices.foldl normalizeStep unique) := by
  induction devices generalizing unique with
  | nil => exact clear
  | cons source rest ih =>
      simp only [normalizeFits, Bool.and_eq_true] at fits
      obtain ⟨now, later⟩ := fits
      refine ih ?_ later
      rw [normalizeStep]
      cases search : unique.findIdx? (sameIdentity · source) with
      | none =>
          rw [search] at now
          exact (clear.append_iff source).mpr now
      | some idx =>
          rw [search] at now
          exact (clear.modify_iff _ _).mpr now

/-- The edit gives every record it writes an identifier that leads to it, and to no record
written before or after.
-/
def editFits (known : KnownDevices) : Edit → Bool
  | .keep => true
  | .update idx change => updateFits known.devices idx change
  | .append info allocated =>
      match findDeviceByIdentity known.devices info with
      | some idx => updateFits known.devices idx (mergeExisting · info)
      | none =>
          !(known.grow allocated).isSome
            || fitsAt known.devices known.devices.length info.ensureHostIdentity
  | .erase _ => true
  | .load entries => normalizeFits [] (known.loaded entries).devices

/-- An edit of a single record keeps the list unambiguous exactly when it fits. -/
theorem Unambiguous.edit_iff {known : KnownDevices} (clear : Unambiguous known.devices)
    {edit : Edit} (single : edit.rebuilds = false)
    : Unambiguous (known.edit edit).devices ↔ editFits known edit = true := by
  cases edit with
  | keep => exact iff_of_true clear rfl
  | update idx change => exact clear.modify_iff _ _
  | append info allocated =>
      simp only [KnownDevices.edit, devices_appendDevice, editFits]
      cases findDeviceByIdentity known.devices info with
      | some idx => exact clear.modify_iff _ _
      | none =>
          cases grown : (known.grow allocated).isSome with
          | true => simpa [grown] using clear.append_iff info.ensureHostIdentity
          | false => simpa [grown] using clear
  | erase idx => exact iff_of_true (clear.sublist (List.eraseIdx_sublist _ _)) rfl
  | load entries => contradiction

theorem Unambiguous.edit {known : KnownDevices} (clear : Unambiguous known.devices)
    {edit : Edit} (fits : editFits known edit = true)
    : Unambiguous (known.edit edit).devices := by
  cases edit with
  | load entries => exact (Unambiguous.nil.foldl_normalizeStep fits).map_ensureHostIdentity
  | keep | update | append | erase => exact (clear.edit_iff rfl).mpr fits

theorem getElem?_getHosts {store : DeviceStore} {idx : Nat} {host : MoonlightHost}
    (listed : store.getHosts[idx]? = some host)
    : ∃ record, store.known.devices[idx]? = some record ∧ host = fillHost record idx := by
  simp only [getHosts, List.getElem?_map, List.getElem?_zipIdx, Option.map_eq_some_iff,
    zero_add] at listed
  obtain ⟨pair, ⟨record, stored, rfl⟩, rfl⟩ := listed
  exact ⟨record, stored, rfl⟩

/-- The operations that take a listed host reach the record at `idx` and leave the others. -/
structure ActsOn (store : DeviceStore) (idx : Nat) (host : MoonlightHost) : Prop where
  resolved : findStoredHost store.known.devices host = some idx
  deleted
    : ∀ contents,
        (store.deleteHost host contents).store.known.devices
          = store.known.devices.eraseIdx idx
        ∧ (store.deleteHost host contents).result = 0
  identified
    : ∀ hostId outcome,
        hostId.isEmpty = false
        → (store.setHostId host hostId outcome).store.known.devices
          = store.known.devices.modify idx (identifyStored host hostId)
  paired
    : ∀ outcome,
        host.internal.isEmpty = false
        → (store.markPaired host outcome).store.known.devices
          = store.known.devices.modify idx (pairStored host)
  certificate
    : ∀ size path,
        store.getServerCertificatePath host size = some path
        → ∃ record,
            store.known.devices[idx]? = some record
            ∧ path = store.keyDir ++ record.directory ++ .ofLiteral "/server.pem"

/-- A resolved host is acted on at its index. -/
theorem ActsOn.of_resolved {store : DeviceStore} {idx : Nat} {host : MoonlightHost}
    (running : store.initialized = true)
    (resolved : findStoredHost store.known.devices host = some idx)
    (inside : idx < store.known.devices.length)
    : ActsOn store idx host := by
  have stored : store.known.devices[idx]? = some store.known.devices[idx] := by simp [inside]
  refine ⟨resolved, ?_, ?_, ?_, ?_⟩
  · intro contents
    simp [deleteHost, running, resolved, KnownDevices.removeDeviceIndex, stored]
  · intro hostId outcome nonempty
    simp [setHostId, running, nonempty, resolved, store_saveHost]
  · intro outcome nonempty
    simp [markPaired, running, nonempty, resolved, store_saveHost]
  · intro size path found
    simp only [getServerCertificatePath, running, resolved, Option.bind_some, stored,
      Bool.not_true, Bool.false_eq_true, if_false] at found
    split at found
    · contradiction
    · exact ⟨store.known.devices[idx], stored, (Option.some.inj found).symm⟩

-----------------------------------------------------------------------------------------
-- Deleting a selection of one listing
-----------------------------------------------------------------------------------------

/-- Delete the host listed at an index of a snapshot. -/
def deleteListed (snapshot : List MoonlightHost) (contents : Nat → Option (List EntryName))
    (store : DeviceStore) (idx : Nat)
    : DeviceStore :=
  match snapshot[idx]? with
  | some host => (store.deleteHost host (contents idx)).store
  | none => store

/-- The records whose index is not in `gone`, in their order. -/
def remaining (devices : List DeviceInfo) (gone : List Nat) : List DeviceInfo :=
  (devices.zipIdx.filter fun entry => entry.2 ∉ gone).map Prod.fst

theorem remaining_nil (devices : List DeviceInfo) : remaining devices [] = devices := by
  simp [remaining]

/-- What stays depends only on which indices are gone. -/
theorem remaining_congr {devices : List DeviceInfo} {gone others : List Nat}
    (same : ∀ idx, idx ∈ gone ↔ idx ∈ others)
    : remaining devices gone = remaining devices others := by
  simp only [remaining, same]

/-- Splitting what remains around a record that has not gone. -/
theorem remaining_split (front back : List DeviceInfo) (record : DeviceInfo) {gone : List Nat}
    (present : front.length ∉ gone)
    : ∃ before after,
        remaining (front ++ record :: back) gone = before ++ record :: after
        ∧ remaining (front ++ record :: back) (front.length :: gone) = before ++ after := by
  refine ⟨(front.zipIdx.filter fun entry => entry.2 ∉ gone).map Prod.fst,
    ((back.zipIdx (front.length + 1)).filter fun entry => entry.2 ∉ gone).map Prod.fst, ?_, ?_⟩
  · simp [remaining, List.zipIdx_append, List.zipIdx_cons, present]
  · have outside
        : ∀ entry ∈ front.zipIdx ++ back.zipIdx (front.length + 1), entry.2 ≠ front.length := by
      rintro ⟨device, idx⟩ member
      rcases List.mem_append.mp member with inFront | inBack
      · have bound := List.snd_lt_of_mem_zipIdx inFront
        simp only at bound ⊢
        omega
      · have bound := List.le_snd_of_mem_zipIdx inBack
        simp only at bound ⊢
        omega
    simp only [remaining, List.zipIdx_append, List.zipIdx_cons, zero_add, List.filter_append,
      List.filter_cons, List.mem_cons, true_or, not_true_eq_false, decide_false,
      Bool.false_eq_true, if_false, List.map_append]
    congr 2
    · refine List.filter_congr fun entry member => ?_
      simp [outside entry (by simp [member])]
    · refine List.filter_congr fun entry member => ?_
      simp [outside entry (by simp [member])]

theorem remaining_sublist (devices : List DeviceInfo) (gone : List Nat)
    : (remaining devices gone).Sublist devices := by
  have fewer : (devices.zipIdx.filter fun entry => entry.2 ∉ gone).Sublist devices.zipIdx :=
    List.filter_sublist
  have kept := fewer.map Prod.fst
  rwa [List.zipIdx_map_fst] at kept

/-- One deletion from a partly deleted listing removes exactly the record it names. -/
theorem deleteListed_remaining {snapshot store : DeviceStore} {gone : List Nat} {idx : Nat}
    (clear : Unambiguous snapshot.known.devices) (running : store.initialized = true)
    (left : store.known.devices = remaining snapshot.known.devices gone) (present : idx ∉ gone)
    (contents : Nat → Option (List EntryName))
    : (deleteListed snapshot.getHosts contents store idx).known.devices
        = remaining snapshot.known.devices (idx :: gone)
      ∧ (deleteListed snapshot.getHosts contents store idx).initialized = true := by
  cases listed : snapshot.getHosts[idx]? with
  | none =>
      simp only [deleteListed, listed, left]
      refine ⟨?_, running⟩
      have outside : snapshot.known.devices.length ≤ idx := by
        simpa [getHosts] using listed
      refine congrArg (List.map Prod.fst) (List.filter_congr fun entry member => ?_)
      have bound := List.snd_lt_of_mem_zipIdx member
      have other : entry.2 ≠ idx := by omega
      simp [other]
  | some host =>
      obtain ⟨record, stored, rfl⟩ := getElem?_getHosts listed
      obtain ⟨inside, rfl⟩ := List.getElem?_eq_some_iff.mp stored
      have split
          : snapshot.known.devices.take idx
              ++ snapshot.known.devices[idx] :: snapshot.known.devices.drop (idx + 1)
            = snapshot.known.devices := by
        simp
      have length : (snapshot.known.devices.take idx).length = idx :=
        List.length_take_of_le inside.le
      obtain ⟨before, after, kept, removed⟩ := remaining_split
        (snapshot.known.devices.take idx) (snapshot.known.devices.drop (idx + 1))
        snapshot.known.devices[idx] (length.symm ▸ present)
      rw [split] at kept
      rw [split, length] at removed
      have partly : Unambiguous (before ++ snapshot.known.devices[idx] :: after) :=
        clear.sublist (kept ▸ remaining_sublist _ _)
      have found := partly.findStoredHost_eq idx
      rw [← kept, ← left] at found
      have acts := ActsOn.of_resolved running found (by simp [left, kept])
      simp only [deleteListed, listed]
      refine ⟨?_, ?_⟩
      · rw [(acts.deleted _).1, left, kept, removed, List.eraseIdx_append_of_length_le le_rfl]
        simp
      · exact (frame_call store (.deleteHost _ _) running).1

/-- Deleting a selection of one listing, host after host, removes exactly the selected
records, by induction on the selection.
-/
theorem deleteListed_foldl {snapshot store : DeviceStore} {gone selected : List Nat}
    (clear : Unambiguous snapshot.known.devices) (running : store.initialized = true)
    (left : store.known.devices = remaining snapshot.known.devices gone)
    (once : (selected ++ gone).Nodup) (contents : Nat → Option (List EntryName))
    : (selected.foldl (deleteListed snapshot.getHosts contents) store).known.devices
      = remaining snapshot.known.devices (selected ++ gone) := by
  induction selected generalizing store gone with
  | nil => exact left
  | cons idx selected ih =>
      obtain ⟨fresh, rest⟩ := List.nodup_cons.mp once
      have present : idx ∉ gone := fun member => fresh (by simp [member])
      obtain ⟨after, still⟩ := deleteListed_remaining clear running left present contents
      have onceMore : (selected ++ idx :: gone).Nodup :=
        List.perm_middle.nodup_iff.mpr (by simpa using once)
      rw [List.foldl_cons, ih still after onceMore]
      exact remaining_congr fun other => by simp [or_left_comm]

-----------------------------------------------------------------------------------------
-- Runs of the store
-----------------------------------------------------------------------------------------

/-- Every call of the run made an edit that fits. -/
def FittingRun (trace : List Called) : Prop :=
  ∀ called ∈ trace, editFits called.before.known (called.before.editOf called.made) = true

instance (trace : List Called) : Decidable (FittingRun trace) :=
  inferInstanceAs (Decidable (∀ called ∈ trace, _))

/-- Runs of fitting edits reach only unambiguous lists, by induction on the run. -/
theorem unambiguous_of_reaches {trace store} (reached : machine.Reaches trace store)
    (fits : FittingRun trace)
    : Unambiguous store.known.devices := by
  induction reached with
  | start initial =>
      obtain rfl : _ = ({} : DeviceStore) := initial
      exact .nil
  | next _ taken ih =>
      obtain ⟨rfl, rfl⟩ := step_eq taken
      have clear := ih fun called member => fits called (by simp [member])
      rw [known_call]
      exact clear.edit (fits _ (List.mem_append_right _ (List.mem_singleton_self _)))

/-- Every listing of the store leads back to its own record. -/
def Resolves (store : DeviceStore) : Prop :=
  ∀ idx host,
    store.getHosts[idx]? = some host → findStoredHost store.known.devices host = some idx

theorem resolves_iff (store : DeviceStore)
    : store.Resolves ↔ Unambiguous store.known.devices := by
  rw [unambiguous_iff]
  constructor
  · intro resolves idx record stored
    refine resolves idx _ ?_
    simp [getHosts, stored]
  · intro resolves idx host listed
    obtain ⟨record, stored, rfl⟩ := getElem?_getHosts listed
    exact resolves idx record stored

/-- In every store reached by calls whose edits fit, each listed host resolves to its own
record, is acted on there, and any selection of one listing is deleted exactly; and the
next call that edits a single record keeps the law exactly when its edit fits.
-/
theorem listed_hosts_resolve {trace store} (reached : machine.Reaches trace store)
    (fits : FittingRun trace)
    : (∀ idx host, store.getHosts[idx]? = some host → ActsOn store idx host)
      ∧ (∀ selected contents,
          selected.Nodup
          → (selected.foldl (deleteListed store.getHosts contents) store).known.devices
            = remaining store.known.devices selected)
      ∧ ∀ made,
          (store.editOf made).rebuilds = false
          → ((store.call made).store.Resolves
            ↔ editFits store.known (store.editOf made) = true) := by
  have clear := unambiguous_of_reaches reached fits
  have wellInitialized := wellInitialized_of_reaches reached
  refine and_assoc.mp ⟨?_, fun made single => ?_⟩
  swap
  · rw [resolves_iff, known_call]
    exact clear.edit_iff single
  cases running : store.initialized with
  | true =>
      refine ⟨fun idx host listed => ?_, fun selected contents once => ?_⟩
      · obtain ⟨record, stored, rfl⟩ := getElem?_getHosts listed
        exact ActsOn.of_resolved running ((unambiguous_iff _).mp clear idx record stored)
          (List.getElem?_eq_some_iff.mp stored).1
      · have deleted := deleteListed_foldl clear running (remaining_nil _).symm
          (by simpa using once) contents
        simpa using deleted
  | false =>
      obtain rfl := wellInitialized.blank running
      refine ⟨fun idx host listed => by simp [getHosts] at listed, fun selected contents _ => ?_⟩
      have still
          : ∀ selected : List Nat,
              selected.foldl (deleteListed (getHosts {}) contents) {} = {} := by
        intro selected
        induction selected with
        | nil => rfl
        | cons idx selected ih => simpa [deleteListed, getHosts] using ih
      rw [still]
      rfl

/-- Two PCs are added, and both are given the same host id. -/
def sharedHostIdCalls : List Call :=
  [.init (fun _ => true) none,
    .addHost (some (.ofLiteral "10.0.0.1")) 0 (some (.ofLiteral "Desk")) .granted,
    .setHostId { internal := .copy 256 (.ofLiteral "10.0.0.1") } (.ofLiteral "F00D") .granted,
    .addHost (some (.ofLiteral "10.0.0.2")) 0 (some (.ofLiteral "Sofa")) .granted,
    .setHostId { internal := .copy 256 (.ofLiteral "10.0.0.2") } (.ofLiteral "F00D") .granted]

/-- After a shared host id the second listed host leads to the first record. -/
theorem listed_hosts_not_always_resolve
    : ¬∀ trace store, machine.Reaches trace store → store.Resolves := by
  intro law
  have reached := machine.reaches_run rfl sharedHostIdCalls rfl
  have resolved := law _ _ reached 1 _ rfl
  revert resolved
  decide

/-- The run that adds two PCs and identifies one of them fits. -/
theorem listed_hosts_resolve_for_two
    : ∃ trace store,
        machine.Reaches trace store
        ∧ FittingRun trace
        ∧ store.known.devices.length = 2
        ∧ (∀ idx host, store.getHosts[idx]? = some host → ActsOn store idx host)
        ∧ ∀ contents,
            ([1, 0].foldl (deleteListed store.getHosts contents) store).known.devices
            = remaining store.known.devices [1, 0] := by
  have reached := machine.reaches_run rfl (sharedHostIdCalls.take 4) rfl
  obtain ⟨acts, deletes, -⟩ := listed_hosts_resolve reached (by decide)
  exact ⟨_, _, reached, by decide, by decide, acts, fun contents => deletes _ contents (by decide)⟩

end DeviceStore

end VitaMoonlight
