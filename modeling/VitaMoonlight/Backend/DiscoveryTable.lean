import VitaMoonlight.Backend.HostDiscovery
import VitaMoonlight.Library.Compaction
import Mathlib.Data.List.InsertIdx

/-! What reports and expiry do to the entries of the table of discovered hosts.
-/

namespace VitaMoonlight

open Library

/-- The address and the port of a host. -/
def discoveryKey (host : MoonlightHost) : DiscoveryKey := (host.internal.text, host.port.toNat)

namespace DiscoveryTable

/-- The addresses and ports of the hosts, in the order of the table. -/
def keys (table : DiscoveryTable) : List DiscoveryKey := table.snapshot.hosts.map discoveryKey

/-- The hosts with the healthy times at which they were seen. -/
def entries (table : DiscoveryTable) : List (DiscoveryKey × Nat) := table.keys.zip table.seen

/-- The arrays have one time for each host. -/
def Parallel (table : DiscoveryTable) : Prop := table.seen.length = table.snapshot.hosts.length

/-- The table has room for its hosts, tells them apart, and saw each at a healthy time that has
passed.
-/
structure Sound (table : DiscoveryTable) : Prop where
  room : table.snapshot.hosts.length ≤ maxDiscoveredHosts
  distinct : table.keys.Nodup
  parallel : table.Parallel
  past : ∀ time ∈ table.seen, time ≤ table.healthyTime

/-- The entry is too young to expire. -/
def fresh (table : DiscoveryTable) (entry : DiscoveryKey × Nat) : Bool :=
  decide (elapsedUsec table.healthyTime entry.2 < discoveryExpiryUsec)

theorem length_entries {table : DiscoveryTable} (parallel : table.Parallel)
    : table.entries.length = table.snapshot.hosts.length := by
  rw [entries, List.length_zip, keys, List.length_map, parallel, Nat.min_self]

theorem map_fst_entries {table : DiscoveryTable} (parallel : table.Parallel)
    : table.entries.map Prod.fst = table.keys :=
  List.map_fst_zip (by rw [keys, List.length_map, parallel])

theorem map_snd_entries {table : DiscoveryTable} (parallel : table.Parallel)
    : table.entries.map Prod.snd = table.seen :=
  List.map_snd_zip (by rw [keys, List.length_map, parallel])

-----------------------------------------------------------------------------------------
-- Expiry
-----------------------------------------------------------------------------------------

/-- One position expires: the entry there is erased from both arrays unless it is fresh. -/
theorem expireAt_spec {table : DiscoveryTable} {index : Nat} (parallel : table.Parallel)
    (inside : index < table.snapshot.hosts.length)
    : (table.expireAt index).Parallel
      ∧ (table.expireAt index).healthyTime = table.healthyTime
      ∧ (table.expireAt index).entries
        = if table.entries[index]?.all table.fresh then table.entries
          else table.entries.eraseIdx index := by
  have seen : index < table.seen.length := by
    rw [parallel]
    exact inside
  have here
      : table.entries[index]?
        = some (discoveryKey table.snapshot.hosts[index], table.seen[index]) := by
    rw [List.getElem?_eq_getElem (by rw [length_entries parallel]; exact inside)]
    simp [entries, keys]
  have read : table.seen.getD index 0 = table.seen[index] := by
    simp [List.getD, List.getElem?_eq_getElem seen]
  rw [here, Option.all_some, expireAt, read]
  by_cases old : elapsedUsec table.healthyTime table.seen[index] ≥ discoveryExpiryUsec
  · rw [if_pos old, if_neg (by simpa [fresh] using old)]
    refine ⟨?_, rfl, ?_⟩
    · change (table.seen.eraseIdx index).length = (table.snapshot.hosts.eraseIdx index).length
      rw [List.length_eraseIdx_of_lt seen, List.length_eraseIdx_of_lt inside, parallel]
    · change
        ((table.snapshot.hosts.eraseIdx index).map discoveryKey).zip (table.seen.eraseIdx index)
        = _
      rw [← List.eraseIdx_map, zip_eraseIdx]
      rfl
  · rw [if_neg old, if_pos (by simpa [fresh] using old)]
    exact ⟨parallel, rfl, rfl⟩

/-- The leading positions expire as the entries are compacted, by induction on their number. -/
theorem expireFrom_spec {table : DiscoveryTable} {count : Nat} (parallel : table.Parallel)
    (inside : count ≤ table.snapshot.hosts.length)
    : (table.expireFrom count).Parallel
      ∧ (table.expireFrom count).healthyTime = table.healthyTime
      ∧ (table.expireFrom count).entries = compact table.fresh table.entries count := by
  induction count generalizing table with
  | zero => exact ⟨parallel, rfl, rfl⟩
  | succ count ih =>
      obtain ⟨kept, time, entries⟩ := expireAt_spec parallel inside
      have fresh : (table.expireAt count).fresh = table.fresh := by
        funext entry
        rw [DiscoveryTable.fresh, DiscoveryTable.fresh, time]
      have smaller : count ≤ (table.expireAt count).snapshot.hosts.length := by
        rw [← length_entries kept, entries]
        split
        · rw [length_entries parallel]
          omega
        · rw [List.length_eraseIdx_of_lt (by rw [length_entries parallel]; exact inside),
            length_entries parallel]
          omega
      obtain ⟨last, lastTime, lastEntries⟩ := ih kept smaller
      rw [expireFrom, compact, ← entries, ← fresh]
      exact ⟨last, lastTime.trans time, lastEntries⟩

/-- What `expire_hosts` leaves: the fresh entries, in their order. -/
theorem expireHosts_spec {table : DiscoveryTable} (parallel : table.Parallel)
    : table.expireHosts.Parallel
      ∧ table.expireHosts.healthyTime = table.healthyTime
      ∧ table.expireHosts.entries = table.entries.filter table.fresh := by
  have spec := expireFrom_spec parallel le_rfl
  rwa [← length_entries parallel, compact_length, length_entries parallel] at spec

/-- What a sound table is after `expire_hosts`. -/
theorem expireHosts_sound {table : DiscoveryTable} (sound : table.Sound)
    : table.expireHosts.Sound := by
  obtain ⟨parallel, time, entries⟩ := expireHosts_spec sound.parallel
  have kept : List.Sublist table.expireHosts.entries table.entries := by
    rw [entries]
    exact List.filter_sublist
  refine ⟨?_, ?_, parallel, ?_⟩
  · rw [← length_entries parallel]
    exact le_trans kept.length_le (by rw [length_entries sound.parallel]; exact sound.room)
  · rw [← map_fst_entries parallel]
    exact List.Nodup.sublist (kept.map Prod.fst)
      (by rw [map_fst_entries sound.parallel]; exact sound.distinct)
  · rw [time, ← map_snd_entries parallel]
    intro value member
    refine sound.past value ?_
    rw [← map_snd_entries sound.parallel]
    exact (kept.map Prod.snd).subset member

/-- A table stays sound when healthy time advances. -/
theorem Sound.advance {table : DiscoveryTable} (sound : table.Sound) {healthyTime : Nat}
    (later : table.healthyTime ≤ healthyTime)
    : { table with healthyTime }.Sound :=
  { sound with past := fun time member => le_trans (sound.past time member) later }

/-- An entry of a sound table is fresh for the expiry time. -/
theorem fresh_iff {table : DiscoveryTable} (sound : table.Sound) {entry : DiscoveryKey × Nat}
    (member : entry ∈ table.entries)
    : table.fresh entry = true ↔ table.healthyTime < entry.2 + discoveryExpiryUsec := by
  have past := sound.past entry.2 (List.of_mem_zip member).2
  rw [fresh, decide_eq_true_eq, elapsedUsec, if_pos past]
  omega

-----------------------------------------------------------------------------------------
-- Reports
-----------------------------------------------------------------------------------------

/-- A host that may be observed: a name, an address and a port. -/
structure ValidHost (name : CharArray 256) (ip : CharArray 16) (port : Int) : Prop where
  name : name.isEmpty = false
  ip : ip.isEmpty = false
  positive : 0 < port
  small : port ≤ 65535

/-- The address and port that a report names. -/
def reportedKey (ip : CharArray 16) (port : Int) : DiscoveryKey := (ip.text, port.toNat)

/-- A host is found by its key. -/
theorem find_eq (table : DiscoveryTable) (ip : CharArray 16) {port : Int} (positive : 0 < port)
    : table.find ip port = table.keys.idxOf (reportedKey ip port) := by
  rw [find, List.idxOf, keys, List.findIdx_map]
  congr 1
  funext host
  have same : ((host.port.toNat : Int) = port) ↔ host.port.toNat = port.toNat := by omega
  rw [Function.comp_apply, Bool.eq_iff_iff]
  simp [discoveryKey, reportedKey, same, and_comm]

/-- A new name changes no key. -/
theorem keys_set_name (hosts : List MoonlightHost) (index : Nat) (name : CharArray 256)
    : (hosts.set index { hosts.getD index {} with name }).map discoveryKey
      = hosts.map discoveryKey := by
  refine List.ext_getElem? fun position => ?_
  rw [List.getElem?_map, List.getElem?_map, List.getElem?_set]
  by_cases same : index = position
  · subst same
    by_cases inside : index < hosts.length
    · simp [inside, List.getD, discoveryKey]
    · simp [inside]
  · rw [if_neg same]

/-- A report of a host at a position of the table. -/
theorem upsert_known {table : DiscoveryTable} {name : CharArray 256} {ip : CharArray 16}
    {port : Int} (inside : table.find ip port < table.snapshot.hosts.length)
    (room : table.find ip port < maxDiscoveredHosts) (parallel : table.Parallel)
    : (table.upsert name ip port).keys = table.keys
      ∧ (table.upsert name ip port).seen
        = table.seen.set (table.find ip port) table.healthyTime
      ∧ (table.upsert name ip port).healthyTime = table.healthyTime := by
  have written : writeAt table.seen (table.find ip port) table.healthyTime
      = table.seen.set (table.find ip port) table.healthyTime :=
    if_pos (by rw [parallel]; exact inside)
  simp only [upsert]
  rw [if_pos room, if_neg inside.ne]
  split
  · exact ⟨keys_set_name _ _ _, written, rfl⟩
  · exact ⟨rfl, written, rfl⟩

/-- A report of a host behind the last position of the table. -/
theorem upsert_new {table : DiscoveryTable} {name : CharArray 256} {ip : CharArray 16}
    {port : Int} (valid : ValidHost name ip port)
    (behind : table.find ip port = table.snapshot.hosts.length)
    (room : table.snapshot.hosts.length < maxDiscoveredHosts) (parallel : table.Parallel)
    : (table.upsert name ip port).keys = table.keys ++ [reportedKey ip port]
      ∧ (table.upsert name ip port).seen = table.seen ++ [table.healthyTime]
      ∧ (table.upsert name ip port).healthyTime = table.healthyTime := by
  have written : writeAt table.seen table.snapshot.hosts.length table.healthyTime
      = table.seen ++ [table.healthyTime] :=
    if_neg (by rw [parallel]; exact lt_irrefl _)
  have key
      : discoveryKey
          { id := -1, internal := .copy 256 ip.text, port := UInt16.ofNat port.toNat }
        = reportedKey ip port := by
    have fits : ip.text.length < 256 := lt_trans ip.fits (by decide)
    have positive := valid.positive
    have small := valid.small
    have held : port.toNat < 65536 := by omega
    refine Prod.ext (CharArray.text_copy_of_length_lt fits) ?_
    exact UInt16.toNat_ofNat_of_lt held
  have added
      : (table.snapshot.hosts
          ++ [({ id := -1, internal := .copy 256 ip.text, port := UInt16.ofNat port.toNat }
            : MoonlightHost)]).map discoveryKey
        = table.keys ++ [reportedKey ip port] := by
    rw [List.map_append, List.map_singleton, key]
    rfl
  simp only [upsert]
  rw [behind, if_pos room, if_pos rfl]
  split
  · exact ⟨(keys_set_name _ _ _).trans added, written, rfl⟩
  · exact ⟨added, written, rfl⟩

/-- A report names a host that the table has, has room for, or neither. -/
theorem upsert_spec {table : DiscoveryTable} (sound : table.Sound) {name : CharArray 256}
    {ip : CharArray 16} {port : Int} (valid : ValidHost name ip port)
    : (table.upsert name ip port).Sound
      ∧ (table.upsert name ip port).healthyTime = table.healthyTime
      ∧ (table.upsert name ip port).keys
        = (if reportedKey ip port ∈ table.keys ∨ table.snapshot.hosts.length = maxDiscoveredHosts
            then table.keys
          else table.keys ++ [reportedKey ip port])
      ∧ ∀ entry ∈ (table.upsert name ip port).entries,
          entry = (reportedKey ip port, table.healthyTime)
          ∨ entry ∈ table.entries ∧ entry.1 ≠ reportedKey ip port := by
  have found := table.find_eq ip valid.positive
  have length : table.keys.length = table.snapshot.hosts.length := List.length_map _
  by_cases known : reportedKey ip port ∈ table.keys
  · have inside := List.idxOf_lt_length_of_mem known
    have here : table.keys[table.find ip port]? = some (reportedKey ip port) := by
      rw [found, List.getElem?_idxOf known]
    rw [← found, length] at inside
    obtain ⟨keys, seen, time⟩ :=
      @upsert_known _ name _ _ inside (lt_of_lt_of_le inside sound.room) sound.parallel
    rw [if_pos (.inl known)]
    have sameLength
        : (table.upsert name ip port).snapshot.hosts.length = table.snapshot.hosts.length := by
      rw [← length, ← keys, DiscoveryTable.keys, List.length_map]
    refine ⟨⟨?_, ?_, ?_, ?_⟩, time, keys, ?_⟩
    · rw [sameLength]
      exact sound.room
    · rw [keys]
      exact sound.distinct
    · rw [Parallel, seen, List.length_set, sameLength]
      exact sound.parallel
    · rw [seen, time]
      intro value member
      obtain old | rfl := List.mem_or_eq_of_mem_set member
      · exact sound.past value old
      · exact le_rfl
    · intro entry member
      rw [entries, keys, seen] at member
      exact mem_zip_set sound.distinct here member
  · have behind : table.find ip port = table.snapshot.hosts.length := by
      rw [found, List.idxOf_eq_length known, length]
    have others : ∀ entry ∈ table.entries, entry.1 ≠ reportedKey ip port := by
      intro entry member same
      exact known (same ▸ (List.of_mem_zip member).1)
    by_cases full : table.snapshot.hosts.length = maxDiscoveredHosts
    · have unchanged : table.upsert name ip port = table := by
        rw [upsert, behind, full]
        exact if_neg (lt_irrefl _)
      rw [unchanged, if_pos (.inr full)]
      exact ⟨sound, rfl, rfl, fun entry member => .inr ⟨member, others entry member⟩⟩
    · have room := lt_of_le_of_ne sound.room full
      obtain ⟨keys, seen, time⟩ := upsert_new valid behind room sound.parallel
      have longer
          : (table.upsert name ip port).snapshot.hosts.length
            = table.snapshot.hosts.length + 1 := by
        have all := congrArg List.length keys
        rwa [DiscoveryTable.keys, List.length_map, List.length_append, length] at all
      rw [if_neg (not_or.2 ⟨known, full⟩)]
      refine ⟨⟨?_, ?_, ?_, ?_⟩, time, keys, ?_⟩
      · rw [longer]
        exact room
      · rw [keys]
        rw [← List.concat_eq_append]
        exact sound.distinct.concat known
      · rw [Parallel, seen, List.length_append, longer, sound.parallel]
        rfl
      · rw [seen, time]
        intro value member
        obtain old | new := List.mem_append.1 member
        · exact sound.past value old
        · exact (List.mem_singleton.1 new).le
      · intro entry member
        rw [entries, keys, seen, List.zip_append (by rw [length, sound.parallel])] at member
        obtain old | new := List.mem_append.1 member
        · exact .inr ⟨old, others entry old⟩
        · exact .inl (List.mem_singleton.1 new)

end DiscoveryTable

end VitaMoonlight
