import VitaMoonlight.Backend.ServiceJoin

/-! When the sniffer reports the service that a packet advertises: its SRV record must find an entry,
no other service may take that entry while the packet is read, and the last address that comes to
the entry must be the one asked for.
-/

namespace VitaMoonlight

open Library

-----------------------------------------------------------------------------------------
-- Advertisements
-----------------------------------------------------------------------------------------

/-- The sniffer after some packets, each handled with its clock. -/
def Sniffer.after (history : List ((Nat → UInt32) × List UInt8)) : Sniffer :=
  history.foldl (fun sniffer received => sniffer.poll received.1 received.2) {}

/-- The services that are reported while a packet is handled. -/
def Sniffer.reported (sniffer : Sniffer) (clock : Nat → UInt32) (pkt : List UInt8)
    : List FoundService :=
  (sniffer.poll clock pkt).found.drop sniffer.found.length

/-- An SRV record for which the sniffer takes an entry. -/
def isServiceRecord : ResourceRecord → Bool
  | .service owner _ target => isServiceName owner && !target.isEmpty
  | _ => false

/-- The records of a packet that advertises a single service: its SRV record, an A record of its
target behind it, and any other records but further SRV records.
-/
structure Advertises (records before behind : List ResourceRecord) (host : CharArray 256)
    (port : Nat) (target : CharArray 256) (address : Ipv4)
    : Prop where
  order : records = before ++ .service host port target :: behind
  reportable : Reportable (.service host port target)
  followed : .address target address ∈ behind
  single : ∀ record ∈ before ++ behind, isServiceRecord record = false

/-- A record that comes at a time, and the table that it finds. -/
structure Arrival where
  now : UInt32
  found : SunshineTable
  record : ResourceRecord

namespace SunshineTable

/-- The entry that a service takes at a time, between those before and behind it: its own; without
one, the first free one; and without that, the first of the oldest, if they are older than this
time.
-/
inductive Takes (table : SunshineTable) (now : UInt32) (host : CharArray 256)
    (front : List SunshineEntry) (entry : SunshineEntry) (back : List SunshineEntry)
    : Prop
  | own (split : table.entries = front ++ entry :: back) (same : entry.host = host)
  | free (split : table.entries = front ++ entry :: back)
    (absent : ∀ other ∈ table.entries, other.host ≠ host)
    (first : ∀ other ∈ front, other.host.isEmpty = false) (empty : entry.host.isEmpty = true)
  | oldest (split : table.entries = front ++ entry :: back)
    (absent : ∀ other ∈ table.entries, other.host ≠ host)
    (full : ∀ other ∈ table.entries, other.host.isEmpty = false)
    (first : ∀ other ∈ front, entry.lastSeen < other.lastSeen)
    (least : ∀ other ∈ back, entry.lastSeen ≤ other.lastSeen) (older : entry.lastSeen < now)

/-- The first used entry that waits for the target is that of the service. -/
def waitsFirst (table : SunshineTable) (host target : CharArray 256) : Bool :=
  (table.entries.find? fun other => other.target = target ∧ ¬other.host.isEmpty).any
    (·.host = host)

/-- Records as they come one after the other. -/
def arrivals (clock : Nat → UInt32) (index : Nat) (table : SunshineTable)
    : List ResourceRecord → List Arrival
  | [] => []
  | record :: rest =>
      { now := clock index, found := table, record }
        :: arrivals clock (index + 1) (table.apply (clock index) record) rest

end SunshineTable

namespace Arrival

/-- The address that the record brings to the service. -/
def addressFor (host target : CharArray 256) (arrival : Arrival) : Option (CharArray 16) :=
  match arrival.record with
  | .address owner address =>
      if owner = target ∧ arrival.found.waitsFirst host target then some address.print else none
  | _ => none

/-- The record names another service, which takes the entry of this one. -/
def Evicts (arrival : Arrival) (host : CharArray 256) : Prop :=
  ∃ name front entry back,
    arrival.record = .pointer name
    ∧ namesServiceType name = true
    ∧ name ≠ host
    ∧ arrival.found.Takes arrival.now name front entry back
    ∧ entry.host = host

end Arrival

namespace SunshineTable

/-- A service takes an entry, nothing that comes behind takes that entry from it, and the last
address that comes to it, or without one the address that it had, is this one.
-/
def Reaches (table : SunshineTable) (clock : Nat → UInt32) (index : Nat) (host : CharArray 256)
    (port : Nat) (target : CharArray 256) (behind : List ResourceRecord) (ip : CharArray 16)
    : Prop :=
  let stored := table.updateSunshine (clock index) host port target
  let coming := stored.arrivals clock (index + 1) behind
  ∃ front entry back,
    table.Takes (clock index) host front entry back
    ∧ (∀ arrival ∈ coming, ¬arrival.Evicts host)
    ∧ (coming.filterMap (·.addressFor host target)).getLast?.getD
        (if entry.host = host then entry.ip else .empty)
      = ip

-----------------------------------------------------------------------------------------
-- The entry that is reused
-----------------------------------------------------------------------------------------

/-- Without a free entry and without an older one the choice stays, by induction on the entries. -/
theorem reusableEntry_none {entries : List SunshineEntry} (oldest : UInt32) (chosen : Option Nat)
    (start : Nat) (full : ∀ other ∈ entries, other.host.isEmpty = false)
    (young : ∀ other ∈ entries, oldest ≤ other.lastSeen)
    : reusableEntry oldest chosen start entries = chosen := by
  induction entries generalizing start with
  | nil => rfl
  | cons first rest ih =>
      rw [List.forall_mem_cons] at full young
      rw [reusableEntry, if_neg (by simp [full.1]), if_neg (UInt32.not_lt.2 young.1)]
      exact ih (start + 1) full.2 young.2

/-- The first free entry is chosen, by induction on the entries before it. -/
theorem reusableEntry_first {front : List SunshineEntry} {entry : SunshineEntry}
    (back : List SunshineEntry) (oldest : UInt32) (chosen : Option Nat) (start : Nat)
    (first : ∀ other ∈ front, other.host.isEmpty = false) (empty : entry.host.isEmpty = true)
    : reusableEntry oldest chosen start (front ++ entry :: back) = some (start + front.length) := by
  induction front generalizing oldest chosen start with
  | nil => rw [List.nil_append, reusableEntry, if_pos empty]; rfl
  | cons named rest ih =>
      rw [List.forall_mem_cons] at first
      rw [List.cons_append, reusableEntry, if_neg (by simp [first.1]), List.length_cons,
        ← Nat.add_assoc, Nat.add_right_comm]
      split
      · exact ih named.lastSeen (some start) (start + 1) first.2
      · exact ih oldest chosen (start + 1) first.2

/-- In a full table the first of the oldest entries is chosen, by induction on the entries before
it.
-/
theorem reusableEntry_oldest {front back : List SunshineEntry} {entry : SunshineEntry}
    (oldest : UInt32) (chosen : Option Nat) (start : Nat)
    (full : ∀ other ∈ front ++ entry :: back, other.host.isEmpty = false)
    (first : ∀ other ∈ front, entry.lastSeen < other.lastSeen)
    (least : ∀ other ∈ back, entry.lastSeen ≤ other.lastSeen) (older : entry.lastSeen < oldest)
    : reusableEntry oldest chosen start (front ++ entry :: back) = some (start + front.length) := by
  induction front generalizing oldest chosen start with
  | nil =>
      rw [List.nil_append, List.forall_mem_cons] at full
      rw [List.nil_append, reusableEntry, if_neg (by simp [full.1]), if_pos older]
      exact reusableEntry_none entry.lastSeen (some start) (start + 1) full.2 least
  | cons named rest ih =>
      rw [List.cons_append, List.forall_mem_cons] at full
      rw [List.forall_mem_cons] at first
      rw [List.cons_append, reusableEntry, if_neg (by simp [full.1]), List.length_cons,
        ← Nat.add_assoc, Nat.add_right_comm]
      split
      · exact ih named.lastSeen (some start) (start + 1) full.2 first.2 first.1
      · exact ih oldest chosen (start + 1) full.2 first.2 older

/-- Some entry is the first of the oldest ones, by induction on the entries. -/
theorem exists_first_oldest {entries : List SunshineEntry} (some : entries ≠ [])
    : ∃ front entry back,
        entries = front ++ entry :: back
        ∧ (∀ other ∈ front, entry.lastSeen < other.lastSeen)
        ∧ ∀ other ∈ back, entry.lastSeen ≤ other.lastSeen := by
  induction entries with
  | nil => exact absurd rfl some
  | cons head rest ih =>
      by_cases last : rest = []
      · exact ⟨[], head, [], by rw [last]; rfl, by simp, by simp⟩
      · obtain ⟨front, entry, back, rfl, first, least⟩ := ih last
        by_cases newer : entry.lastSeen < head.lastSeen
        · exact
            ⟨head :: front, entry, back, rfl, List.forall_mem_cons.2 ⟨newer, first⟩, least⟩
        · have oldest := UInt32.not_lt.1 newer
          refine ⟨[], head, front ++ entry :: back, rfl, by simp, ?_⟩
          intro other member
          obtain member | member := List.mem_append.1 member
          · exact UInt32.le_trans oldest (UInt32.le_of_lt (first other member))
          · obtain rfl | member := List.mem_cons.1 member
            · exact oldest
            · exact UInt32.le_trans oldest (least other member)

/-- Some entry is the first free one, if there is one. -/
theorem exists_first_free {entries : List SunshineEntry}
    (some : ∃ other ∈ entries, other.host.isEmpty = true)
    : ∃ front entry back,
        entries = front ++ entry :: back
        ∧ (∀ other ∈ front, other.host.isEmpty = false)
        ∧ entry.host.isEmpty = true := by
  induction entries with
  | nil =>
      obtain ⟨other, member, -⟩ := some
      exact absurd member List.not_mem_nil
  | cons head rest ih =>
      cases empty : head.host.isEmpty with
      | true => exact ⟨[], head, rest, rfl, by simp, empty⟩
      | false =>
          have later : ∃ other ∈ rest, other.host.isEmpty = true := by
            obtain ⟨other, member, free⟩ := some
            obtain rfl | member := List.mem_cons.1 member
            · rw [empty] at free
              contradiction
            · exact ⟨other, member, free⟩
          obtain ⟨front, entry, back, rfl, first, free⟩ := ih later
          exact
            ⟨head :: front, entry, back, rfl, List.forall_mem_cons.2 ⟨empty, first⟩, free⟩

-----------------------------------------------------------------------------------------
-- One entry for each service
-----------------------------------------------------------------------------------------

/-- The services that have an entry, in the order of the entries. -/
def hosts (table : SunshineTable) : List (CharArray 256) :=
  (table.entries.map SunshineEntry.host).filter fun host => !host.isEmpty

/-- No service has two entries. -/
def Distinct (table : SunshineTable) : Prop := table.hosts.Nodup

variable {table : SunshineTable} {now : UInt32} {host : CharArray 256}
  {front back : List SunshineEntry} {entry : SunshineEntry}

theorem Takes.split (takes : table.Takes now host front entry back)
    : table.entries = front ++ entry :: back := by
  cases takes <;> assumption

/-- Storing in the place of an entry leaves those before and behind it. -/
theorem entries_set (split : table.entries = front ++ entry :: back) (stored : SunshineEntry)
    : (table.set front.length stored).entries = front ++ stored :: back := by
  change table.entries.set front.length stored = _
  rw [split, List.set_append_right _ _ (Nat.le_refl _), Nat.sub_self]
  rfl

/-- Of distinct services the ones before an entry are others. -/
theorem Distinct.before (distinct : table.Distinct)
    (split : table.entries = front ++ entry :: back) (named : entry.host.isEmpty = false)
    : ∀ other ∈ front ++ back, other.host ≠ entry.host := by
  have nodup := distinct
  rw [Distinct, hosts, split, List.map_append, List.map_cons, List.filter_append,
    List.filter_cons_of_pos (by simp [named]), List.nodup_middle, List.nodup_cons,
    ← List.filter_append, ← List.map_append] at nodup
  intro other member same
  refine nodup.1 (List.mem_filter.2 ⟨same ▸ List.mem_map_of_mem member, by simp [named]⟩)

/-- A table with the same services is as distinct. -/
theorem Distinct.of_hosts {after : SunshineTable} (distinct : table.Distinct)
    (same : after.entries.map SunshineEntry.host = table.entries.map SunshineEntry.host)
    : after.Distinct := by
  rwa [Distinct, hosts, same]

/-- A service that has no entry may take one. -/
theorem Distinct.replace {after : SunshineTable} {stored : SunshineEntry}
    (distinct : table.Distinct) (split : table.entries = front ++ entry :: back)
    (same : after.entries = front ++ stored :: back)
    (absent : ∀ other ∈ table.entries, other.host ≠ stored.host)
    : after.Distinct := by
  have others : ((front ++ back).map SunshineEntry.host).filter (fun host => !host.isEmpty)
      |>.Nodup := by
    refine List.Nodup.sublist ?_ distinct
    rw [hosts, split]
    exact ((List.sublist_cons_self entry back).append_left front |>.map _).filter _
  rw [Distinct, hosts, same, List.map_append, List.map_cons, List.filter_append]
  by_cases named : stored.host.isEmpty = true
  · rw [List.filter_cons_of_neg (by simp [named]), ← List.filter_append, ← List.map_append]
    exact others
  · rw [List.filter_cons_of_pos (by simp [named]), List.nodup_middle, List.nodup_cons,
      ← List.filter_append, ← List.map_append]
    refine ⟨?_, others⟩
    intro again
    obtain ⟨other, member, here⟩ := List.mem_map.1 (List.mem_filter.1 again).1
    refine absent other ?_ here
    rw [split]
    exact
      (List.mem_append.1 member).elim (List.mem_append_left _) fun behind =>
        List.mem_append_right _ (List.mem_cons_of_mem _ behind)

-----------------------------------------------------------------------------------------
-- Storing a service
-----------------------------------------------------------------------------------------

/-- `update_sunshine` stores a service in the entry that it takes. -/
theorem Takes.updateSunshine (takes : table.Takes now host front entry back)
    (distinct : table.Distinct) (named : host.isEmpty = false) (port : Nat)
    (target : CharArray 256)
    : (table.updateSunshine now host port target).entries
      = front ++ updated (if entry.host = host then entry else { host }) now port target
          :: back := by
  have reused
      : (∀ other ∈ table.entries, other.host ≠ host)
        → reusableEntry now none 0 table.entries = some front.length
        → (table.updateSunshine now host port target).entries
          = front ++ updated (if entry.host = host then entry else { host }) now port target
              :: back := by
    intro absent chosen
    have place : table.entries.findIdx? (fun entry => entry.host = host) = none := by
      simpa using absent
    have other : entry.host ≠ host := absent entry (by rw [takes.split]; simp)
    unfold SunshineTable.updateSunshine
    rw [place, chosen, if_neg other]
    exact entries_set takes.split _
  cases takes with
  | own split same =>
      have place : table.entries.findIdx? (fun entry => entry.host = host) = some front.length := by
        have others := distinct.before split (same ▸ named)
        rw [split, List.findIdx?_append, List.findIdx?_eq_none_iff.2, Option.none_or,
          List.findIdx?_cons, if_pos (by simp [same])]
        · simp
        · intro other member
          rw [same] at others
          simpa using others other (List.mem_append_left _ member)
      have here : table.entries.getD front.length {} = entry := by
        rw [split]
        simp
      unfold SunshineTable.updateSunshine
      rw [place, if_pos same]
      dsimp only
      rw [here]
      exact entries_set split _
  | free split absent first empty =>
      refine reused absent ?_
      rw [split, reusableEntry_first back now none 0 first empty, Nat.zero_add]
  | oldest split absent full first least older =>
      refine reused absent ?_
      rw [split] at full ⊢
      rw [reusableEntry_oldest now none 0 full first least older, Nat.zero_add]

/-- A service that takes no entry has none and is not stored. -/
theorem updateSunshine_of_none
    (none : ¬ ∃ front entry back, table.Takes now host front entry back) (port : Nat)
    (target : CharArray 256)
    : (∀ other ∈ table.entries, other.host ≠ host)
      ∧ table.updateSunshine now host port target = table := by
  have absent : ∀ other ∈ table.entries, other.host ≠ host := by
    intro other member same
    obtain ⟨front, back, split⟩ := List.append_of_mem member
    exact none ⟨front, other, back, .own split same⟩
  have full : ∀ other ∈ table.entries, other.host.isEmpty = false := by
    by_contra free
    simp only [not_forall, Bool.not_eq_false] at free
    obtain ⟨other, member, empty⟩ := free
    obtain ⟨front, entry, back, split, first, empty⟩ := exists_first_free ⟨other, member, empty⟩
    exact none ⟨front, entry, back, .free split absent first empty⟩
  have some : table.entries ≠ [] := by
    intro empty
    have size := table.size
    rw [empty] at size
    exact absurd size (by decide)
  obtain ⟨front, entry, back, split, first, least⟩ := exists_first_oldest some
  have young : now ≤ entry.lastSeen :=
    UInt32.not_lt.1 fun older => none ⟨front, entry, back, .oldest split absent full first least older⟩
  have all : ∀ other ∈ table.entries, now ≤ other.lastSeen := by
    intro other member
    rw [split] at member
    obtain member | member := List.mem_append.1 member
    · exact UInt32.le_trans young (UInt32.le_of_lt (first other member))
    · obtain rfl | member := List.mem_cons.1 member
      · exact young
      · exact UInt32.le_trans young (least other member)
  have place : table.entries.findIdx? (fun entry => entry.host = host) = Option.none := by
    simpa using absent
  refine ⟨absent, ?_⟩
  unfold updateSunshine
  rw [place, reusableEntry_none now Option.none 0 full all]

/-- Storing a service keeps the services distinct. -/
theorem Distinct.updateSunshine (distinct : table.Distinct) (now : UInt32)
    {host : CharArray 256} (named : host.isEmpty = false) (port : Nat) (target : CharArray 256)
    : (table.updateSunshine now host port target).Distinct := by
  by_cases takes : ∃ front entry back, table.Takes now host front entry back
  · obtain ⟨front, entry, back, takes⟩ := takes
    have stored := takes.updateSunshine distinct named port target
    by_cases same : entry.host = host
    · refine distinct.of_hosts ?_
      rw [stored, takes.split, if_pos same]
      simp [updated]
    · refine distinct.replace takes.split stored ?_
      rw [if_neg same]
      cases takes with
      | own _ here => exact absurd here same
      | free _ absent | oldest _ absent => exact absent
  · rwa [(updateSunshine_of_none takes port target).2]

/-- Storing something that looks the same changes no look. -/
theorem map_entries_set {Look : Type} (look : SunshineEntry → Look) {index : Nat}
    {before stored : SunshineEntry} (here : table.entries[index]? = some before)
    (same : look stored = look before)
    : (table.set index stored).entries.map look = table.entries.map look := by
  obtain ⟨inside, rfl⟩ := List.getElem?_eq_some_iff.1 here
  have at' : index < (table.entries.map look).length := by rwa [List.length_map]
  change (table.entries.set index stored).map look = _
  rw [List.map_set, same, ← List.getElem_map look (h := at'), List.set_getElem_self]

/-- An address changes no service. -/
theorem hosts_updateSunshineIpByTarget (table : SunshineTable) (now : UInt32)
    (target : CharArray 256) (ip : CharArray 16)
    : (table.updateSunshineIpByTarget now target ip).entries.map SunshineEntry.host
      = table.entries.map SunshineEntry.host := by
  obtain same | ⟨index, before, stored, -, -, same⟩ :=
    updateSunshineIpByTarget_cases table now target ip
  · rw [same]
  · rw [same]
    exact map_entries_set SunshineEntry.host stored rfl

theorem namesServiceType_named {name : CharArray 256} (type : namesServiceType name = true)
    : name.isEmpty = false := by
  rw [Bool.eq_false_iff]
  intro empty
  have none : name.text = CString.empty := (CString.isEmpty_iff name.text).1 empty
  rw [namesServiceType, none] at type
  exact absurd type (by decide)

theorem Distinct.apply (distinct : table.Distinct) (now : UInt32) (record : ResourceRecord)
    : (table.apply now record).Distinct := by
  cases record with
  | pointer name =>
      unfold SunshineTable.apply
      dsimp only
      split
      · rename_i type
        exact distinct.updateSunshine now (namesServiceType_named type) 0 .empty
      · exact distinct
  | service owner port target =>
      unfold SunshineTable.apply
      dsimp only
      split
      · rename_i type
        exact distinct.updateSunshine now (isServiceName_named type.1) port target
      · exact distinct
  | address owner address =>
      exact distinct.of_hosts (hosts_updateSunshineIpByTarget table now owner address.print)
  | other => exact distinct

theorem Distinct.applyAll (clock : Nat → UInt32) (records : List ResourceRecord) (index : Nat)
    {table : SunshineTable} (distinct : table.Distinct)
    : (table.applyAll clock index records).Distinct := by
  induction records generalizing index table with
  | nil => exact distinct
  | cons record rest ih => exact ih (index + 1) (distinct.apply (clock index) record)

-----------------------------------------------------------------------------------------
-- The entry of the advertised service
-----------------------------------------------------------------------------------------

/-- An entry has this to report. -/
def Lists (table : SunshineTable) (service : FoundService) : Prop :=
  ∃ entry ∈ table.entries, entry.found = service

/-- The entries of a service have no port. -/
def WithoutPort (table : SunshineTable) (host : CharArray 256) : Prop :=
  table.Every fun entry => entry.host = host → entry.port = 0

/-- A service has one entry at most. -/
theorem Distinct.eq_of_host (distinct : table.Distinct) {one other : SunshineEntry}
    (stored : one ∈ table.entries) (storedOther : other ∈ table.entries)
    (same : one.host = other.host) (named : other.host.isEmpty = false)
    : one = other := by
  obtain ⟨front, back, split⟩ := List.append_of_mem storedOther
  have apart := distinct.before split named
  rw [split] at stored
  obtain stored | stored := List.mem_append.1 stored
  · exact absurd same (apart one (List.mem_append_left _ stored))
  · obtain here | stored := List.mem_cons.1 stored
    · exact here
    · exact absurd same (apart one (List.mem_append_right _ stored))

/-- A name that takes the entry of no other service leaves what they have to report. -/
theorem Lists.pointer {service : FoundService} (lists : table.Lists service)
    (distinct : table.Distinct) (named : service.host.isEmpty = false) (now : UInt32)
    {name : CharArray 256} (type : namesServiceType name = true)
    (stays : ¬(Arrival.mk now table (.pointer name)).Evicts service.host)
    : (table.updateSunshine now name 0 .empty).Lists service := by
  obtain ⟨entry, stored, rfl⟩ := lists
  by_cases own : name = entry.host
  · subst own
    obtain ⟨front, back, split⟩ := List.append_of_mem stored
    have takes : table.Takes now entry.host front entry back := .own split rfl
    refine ⟨updated entry now 0 .empty, ?_, rfl⟩
    rw [takes.updateSunshine distinct named, if_pos rfl]
    simp
  · by_cases takes : ∃ front other back, table.Takes now name front other back
    · obtain ⟨front, other, back, takes⟩ := takes
      have kept : entry ∈ front ++ back := by
        rw [takes.split] at stored
        obtain stored | stored := List.mem_append.1 stored
        · exact List.mem_append_left _ stored
        · obtain rfl | stored := List.mem_cons.1 stored
          · exact absurd ⟨name, front, entry, back, rfl, type, own, takes, rfl⟩ stays
          · exact List.mem_append_right _ stored
      refine ⟨entry, ?_, rfl⟩
      rw [takes.updateSunshine distinct (namesServiceType_named type)]
      simp only [List.mem_append, List.mem_cons] at kept ⊢
      exact kept.imp_right .inr
    · rw [(updateSunshine_of_none takes 0 .empty).2]
      exact ⟨entry, stored, rfl⟩

/-- An address goes to the first used entry that waits for it. -/
theorem entries_updateSunshineIpByTarget {target : CharArray 256} {waiting : SunshineEntry}
    (first
      : table.entries.find? (fun other => other.target = target ∧ ¬other.host.isEmpty)
        = some waiting)
    (now : UInt32) (ip : CharArray 16)
    : ∃ front back,
        table.entries = front ++ waiting :: back
        ∧ (table.updateSunshineIpByTarget now target ip).entries
          = front ++ { waiting with ip, lastSeen := now } :: back := by
  obtain ⟨waits, front, back, split, others⟩ := List.find?_eq_some_iff_append.1 first
  have place
      : table.entries.findIdx? (fun other => other.target = target ∧ ¬other.host.isEmpty)
        = some front.length := by
    rw [split, List.findIdx?_append, List.findIdx?_eq_none_iff.2, Option.none_or,
      List.findIdx?_cons, if_pos waits]
    · simp
    · intro other member
      have passed := others other member
      rwa [Bool.not_eq_true'] at passed
  have here : table.entries.getD front.length {} = waiting := by
    rw [split]
    simp
  refine ⟨front, back, split, ?_⟩
  unfold updateSunshineIpByTarget
  rw [place]
  dsimp only
  rw [here]
  exact entries_set split _

/-- An address comes to the service whose entry is the first that waits for it. -/
theorem lists_updateSunshineIpByTarget (stored : entry ∈ table.entries)
    (distinct : table.Distinct) (named : entry.host.isEmpty = false) (now : UInt32)
    (owner : CharArray 256) (address : Ipv4)
    : (table.updateSunshineIpByTarget now owner address.print).Lists
        { host := entry.host
          target := entry.target
          ip :=
            ((Arrival.mk now table (.address owner address)).addressFor entry.host
              entry.target).getD entry.ip
          port := entry.port } := by
  let waits (other : SunshineEntry) : Bool := other.target = owner ∧ ¬other.host.isEmpty
  let arrival : Arrival := { now, found := table, record := .address owner address }
  have ignored
      : (∀ waiting ∈ table.entries.find? waits, waiting.host ≠ entry.host)
        → arrival.addressFor entry.host entry.target = none := by
    refine fun others => if_neg ?_
    rintro ⟨rfl, here⟩
    obtain ⟨waiting, first, same⟩ := (Option.any_eq_true ..).1 here
    exact others waiting first (of_decide_eq_true same)
  cases first : table.entries.find? waits with
  | none =>
      have nobody : table.entries.findIdx? waits = none := by
        rw [List.findIdx?_eq_none_iff]
        simpa [List.find?_eq_none] using first
      unfold updateSunshineIpByTarget
      rw [nobody, ignored (by simp [first])]
      exact ⟨entry, stored, rfl⟩
  | some waiting =>
      obtain ⟨front, back, split, after⟩ := entries_updateSunshineIpByTarget first now address.print
      by_cases same : waiting.host = entry.host
      · have place : waiting ∈ table.entries := by simp [split]
        obtain rfl := distinct.eq_of_host place stored same named
        obtain ⟨aimed, -⟩ := of_decide_eq_true (List.find?_some (p := waits) first)
        have brought : arrival.addressFor waiting.host waiting.target = some address.print := by
          refine if_pos ⟨aimed.symm, (Option.any_eq_true ..).2 ⟨waiting, ?_, decide_eq_true rfl⟩⟩
          exact aimed ▸ first
        refine ⟨_, after ▸ List.mem_append_right _ List.mem_cons_self, ?_⟩
        rw [brought]
        rfl
      · rw [ignored (by simpa [first] using same)]
        refine ⟨entry, ?_, rfl⟩
        rw [split] at stored
        rw [after]
        simp only [List.mem_append, List.mem_cons] at stored ⊢
        obtain stored | rfl | stored := stored
        · exact .inl stored
        · exact absurd rfl same
        · exact .inr (.inr stored)

/-- A record beside the SRV record leaves the service what it has to report, or brings it an
address.
-/
theorem Lists.apply {service : FoundService} (lists : table.Lists service)
    (distinct : table.Distinct) (named : service.host.isEmpty = false) (now : UInt32)
    {record : ResourceRecord} (beside : isServiceRecord record = false)
    (stays : ¬(Arrival.mk now table record).Evicts service.host)
    : (table.apply now record).Lists
        { service with
          ip :=
            ((Arrival.mk now table record).addressFor service.host service.target).getD
              service.ip } := by
  cases record with
  | pointer name =>
      unfold SunshineTable.apply
      dsimp only
      split
      · rename_i type
        exact lists.pointer distinct named now type stays
      · exact lists
  | service owner port target =>
      unfold SunshineTable.apply
      dsimp only
      rw [if_neg (by simpa [isServiceRecord] using beside)]
      exact lists
  | address owner address =>
      obtain ⟨entry, stored, rfl⟩ := lists
      exact lists_updateSunshineIpByTarget stored distinct named now owner address
  | other => exact lists

/-- So do all of them, by induction on them: the last address stays. -/
theorem Lists.applyAll (clock : Nat → UInt32) {records : List ResourceRecord}
    (beside : ∀ record ∈ records, isServiceRecord record = false) (index : Nat)
    {table : SunshineTable} {service : FoundService} (lists : table.Lists service)
    (distinct : table.Distinct) (named : service.host.isEmpty = false)
    (stays : ∀ arrival ∈ table.arrivals clock index records, ¬arrival.Evicts service.host)
    : (table.applyAll clock index records).Lists
        { service with
          ip :=
            ((table.arrivals clock index records).filterMap
              (·.addressFor service.host service.target)).getLast?.getD service.ip } := by
  induction records generalizing index table service with
  | nil => exact lists
  | cons record rest ih =>
      rw [List.forall_mem_cons] at beside
      rw [arrivals, List.forall_mem_cons] at stays
      have next := lists.apply distinct named (clock index) beside.1 stays.1
      have last := ih beside.2 (index + 1) next (distinct.apply (clock index) record) named stays.2
      rw [SunshineTable.applyAll, arrivals, List.filterMap_cons]
      cases brought
          : (Arrival.mk (clock index) table record).addressFor service.host service.target with
      | none => simpa only [brought, Option.getD_none] using last
      | some ip =>
          simp only [brought, Option.getD_some] at last
          simpa only [List.getLast?_cons, Option.getD_some] using last

/-- A service that takes the entry of another leaves that none. -/
theorem withoutPort_of_evicts (distinct : table.Distinct) {now : UInt32}
    {record : ResourceRecord} (evicts : (Arrival.mk now table record).Evicts host)
    (named : host.isEmpty = false)
    : (table.apply now record).WithoutPort host := by
  obtain ⟨name, front, entry, back, rfl, type, other, takes, rfl⟩ := evicts
  have stored := takes.updateSunshine distinct (namesServiceType_named type) 0 .empty
  rw [if_neg (Ne.symm other)] at stored
  have apart := distinct.before takes.split named
  unfold SunshineTable.apply
  dsimp only
  rw [if_pos type]
  intro left member same
  rw [stored, List.mem_append, List.mem_cons] at member
  obtain member | rfl | member := member
  · exact absurd same (apart left (List.mem_append_left _ member))
  · exact absurd same other
  · exact absurd same (apart left (List.mem_append_right _ member))

/-- A service without a port is not listed with one. -/
theorem WithoutPort.port_eq {service : FoundService} (without : table.WithoutPort service.host)
    (lists : table.Lists service)
    : service.port = 0 := by
  obtain ⟨entry, stored, rfl⟩ := lists
  exact without entry stored rfl

theorem WithoutPort.address (without : table.WithoutPort host) (now : UInt32)
    (target : CharArray 256) (ip : CharArray 16)
    : (table.updateSunshineIpByTarget now target ip).WithoutPort host := by
  obtain same | ⟨index, before, stored, -, -, same⟩ :=
    updateSunshineIpByTarget_cases table now target ip
  · rwa [same]
  · rw [same]
    exact Every.set without index (without before (List.mem_of_getElem? stored))

/-- A record beside the SRV record gives the service no port. -/
theorem WithoutPort.apply (without : table.WithoutPort host) (now : UInt32)
    {record : ResourceRecord} (beside : isServiceRecord record = false)
    : (table.apply now record).WithoutPort host := by
  cases record with
  | pointer name =>
      unfold SunshineTable.apply
      dsimp only
      split
      · exact
          Every.updateSunshine without now name 0 .empty (fun entry none same => none same)
            fun _ _ => rfl
      · exact without
  | service owner port target =>
      unfold SunshineTable.apply
      dsimp only
      rw [if_neg (by simpa [isServiceRecord] using beside)]
      exact without
  | address owner address => exact without.address now owner address.print
  | other => exact without

theorem WithoutPort.applyAll (without : table.WithoutPort host) (clock : Nat → UInt32)
    {records : List ResourceRecord}
    (beside : ∀ record ∈ records, isServiceRecord record = false) (index : Nat)
    : (table.applyAll clock index records).WithoutPort host :=
  Every.applyAll clock
    (fun record member now _ without => WithoutPort.apply without now (beside record member))
    index without

/-- A service whose entry was taken has no port at the end, by induction on the records. -/
theorem withoutPort_of_evicted (clock : Nat → UInt32) {records : List ResourceRecord}
    (beside : ∀ record ∈ records, isServiceRecord record = false) (index : Nat)
    {table : SunshineTable} (distinct : table.Distinct) (named : host.isEmpty = false)
    (evicted : ∃ arrival ∈ table.arrivals clock index records, arrival.Evicts host)
    : (table.applyAll clock index records).WithoutPort host := by
  induction records generalizing index table with
  | nil =>
      obtain ⟨arrival, member, -⟩ := evicted
      exact absurd member List.not_mem_nil
  | cons record rest ih =>
      rw [List.forall_mem_cons] at beside
      obtain ⟨arrival, member, evicts⟩ := evicted
      obtain rfl | later := List.mem_cons.1 member
      · have gone := withoutPort_of_evicts distinct evicts named
        exact gone.applyAll clock beside.2 (index + 1)
      · exact ih beside.2 (index + 1) (distinct.apply (clock index) record) ⟨arrival, later, evicts⟩

-----------------------------------------------------------------------------------------
-- Reachable tables
-----------------------------------------------------------------------------------------

theorem Distinct.recordLoop {pkt : List UInt8} (clock : Nat → UInt32) (count : Nat)
    : ∀ (index position : Nat) {table : SunshineTable},
        table.Distinct
        → (VitaMoonlight.recordLoop pkt clock index count position table).1.Distinct := by
  induction count with
  | zero => exact fun _ _ _ distinct => distinct
  | succ count ih =>
      intro index position table distinct
      unfold VitaMoonlight.recordLoop
      split
      · cases readRecord pkt position with
        | none => exact distinct
        | some read => exact ih (index + 1) read.2 (distinct.apply (clock index) read.1)
      · exact distinct

/-- Reported entries are free again. -/
theorem hosts_cleared_sublist (entries : List SunshineEntry)
    : (((entries.map SunshineEntry.cleared).map SunshineEntry.host).filter
          fun host => !host.isEmpty).Sublist
        ((entries.map SunshineEntry.host).filter fun host => !host.isEmpty) := by
  induction entries with
  | nil => exact List.Sublist.slnil
  | cons entry rest ih =>
      rw [List.map_cons, List.map_cons, List.map_cons, SunshineEntry.cleared]
      split
      · rw [List.filter_cons_of_neg (by simp [CharArray.isEmpty_eq])]
        exact ih.trans ((List.sublist_cons_self _ _).filter _)
      · rw [List.filter_cons, List.filter_cons]
        split
        · exact ih.cons_cons _
        · exact ih

end SunshineTable

open SunshineTable

theorem Sniffer.distinct_poll {sniffer : Sniffer} (distinct : sniffer.table.Distinct)
    (clock : Nat → UInt32) (pkt : List UInt8)
    : (sniffer.poll clock pkt).table.Distinct := by
  unfold Sniffer.poll
  split
  · cases skipQuestions pkt (readShort pkt 4) 12 with
    | none => exact distinct
    | some position =>
        have stored : (recordLoop pkt clock 0 (recordCount pkt) position sniffer.table).1.Distinct :=
          SunshineTable.Distinct.recordLoop clock (recordCount pkt) 0 position distinct
        dsimp only
        split
        · exact List.Nodup.sublist (hosts_cleared_sublist _) stored
        · exact stored
  · exact distinct

/-- In every reachable table no service has two entries. -/
theorem Sniffer.distinct_after (history : List ((Nat → UInt32) × List UInt8))
    : (Sniffer.after history).table.Distinct := by
  have start : ({} : Sniffer).table.Distinct := by
    unfold SunshineTable.Distinct
    decide +kernel
  exact
    List.foldlRecOn (motive := fun sniffer : Sniffer => sniffer.table.Distinct) history _ start
      fun sniffer distinct received _ => Sniffer.distinct_poll distinct received.1 received.2

-----------------------------------------------------------------------------------------
-- Reports
-----------------------------------------------------------------------------------------

/-- A packet reports what is ready when its records are stored. -/
theorem Sniffer.reported_eq (sniffer : Sniffer) (clock : Nat → UInt32) {pkt : List UInt8}
    {records : List ResourceRecord} (read : packetRecords pkt = some records)
    : sniffer.reported clock pkt
      = ((sniffer.table.applyAll clock 0 records).entries.filter SunshineEntry.ready).map
          SunshineEntry.found := by
  have added
      : (sniffer.receive clock records).found
        = sniffer.found
          ++ ((sniffer.table.applyAll clock 0 records).entries.filter SunshineEntry.ready).map
              SunshineEntry.found := by
    simp only [Sniffer.found, Sniffer.receive, Sniffer.checkAndPrintReadyEntries, List.map_append,
      List.map_map]
    congr 1
    exact List.zipIdx_map_fst 0 _
  rw [Sniffer.reported, Sniffer.poll_eq sniffer clock read, added, List.drop_left]

/-- A service is reported at most once, and exactly once if an entry is ready with it. -/
theorem count_reports {table : SunshineTable} (distinct : table.Distinct) (service : FoundService)
    : ((table.entries.filter SunshineEntry.ready).map SunshineEntry.found).count service = 1
      ↔ ∃ entry ∈ table.entries, entry.ready = true ∧ entry.found = service := by
  have nodup : ((table.entries.filter SunshineEntry.ready).map SunshineEntry.found).Nodup := by
    refine List.Nodup.of_map FoundService.host (List.Nodup.sublist ?_ distinct)
    have named
        : ((table.entries.filter SunshineEntry.ready).map SunshineEntry.host).filter
            (fun host => !host.isEmpty)
          = (table.entries.filter SunshineEntry.ready).map SunshineEntry.host := by
      refine List.filter_eq_self.2 fun host member => ?_
      obtain ⟨entry, stored, rfl⟩ := List.mem_map.1 member
      have ready := (List.mem_filter.1 stored).2
      simp only [SunshineEntry.ready, Bool.and_eq_true] at ready
      exact ready.1.1.1
    rw [List.map_map, show FoundService.host ∘ SunshineEntry.found = SunshineEntry.host from rfl,
      ← named]
    exact (List.filter_sublist.map _).filter _
  constructor
  · intro one
    have member := List.count_pos_iff.1 (one ▸ Nat.one_pos)
    obtain ⟨entry, stored, same⟩ := List.mem_map.1 member
    obtain ⟨stored, ready⟩ := List.mem_filter.1 stored
    exact ⟨entry, stored, ready, same⟩
  · rintro ⟨entry, stored, ready, rfl⟩
    exact List.count_eq_one_of_mem nodup
      (List.mem_map_of_mem (List.mem_filter.2 ⟨stored, ready⟩))

/-- The steps in which the records of an advertisement are stored. -/
theorem applyAll_advertised (table : SunshineTable) (clock : Nat → UInt32)
    {before behind : List ResourceRecord} {host target : CharArray 256} {port : Nat}
    (reportable : Reportable (.service host port target))
    : table.applyAll clock 0 (before ++ .service host port target :: behind)
      = ((table.applyAll clock 0 before).updateSunshine (clock before.length) host port
          target).applyAll clock (before.length + 1) behind := by
  rw [SunshineTable.applyAll_append, SunshineTable.applyAll, Nat.zero_add,
    SunshineTable.apply, if_pos ⟨reportable.1, reportable.2.1⟩]

/-- What the service has to report when its SRV record is stored. -/
theorem SunshineTable.Takes.lists {table : SunshineTable} {now : UInt32}
    {host target : CharArray 256} {port : Nat} {front back : List SunshineEntry}
    {entry : SunshineEntry} (takes : table.Takes now host front entry back)
    (distinct : table.Distinct) (reportable : Reportable (.service host port target))
    : (table.updateSunshine now host port target).Lists
        { host, target, port, ip := if entry.host = host then entry.ip else .empty } := by
  obtain ⟨service, aimed, positive⟩ := reportable
  let opened :=
    SunshineTable.updated (if entry.host = host then entry else { host }) now port target
  refine ⟨opened, ?_, ?_⟩
  · rw [takes.updateSunshine distinct (isServiceName_named service)]
    simp [opened]
  · have sameTarget : opened.target = target := if_neg aimed
    have samePort : opened.port = port := if_pos positive
    rw [SunshineEntry.found, sameTarget, samePort]
    change
      FoundService.mk (if entry.host = host then entry else { host }).host target
        (if entry.host = host then entry else { host }).ip port = _
    split
    · rename_i same
      rw [same]
    · rfl

/-- What a packet that advertises a service reports of it: what is ready with its address when its
records are stored.
-/
theorem count_advertised (history : List ((Nat → UInt32) × List UInt8)) (clock : Nat → UInt32)
    {pkt : List UInt8} {records before behind : List ResourceRecord}
    {host target : CharArray 256} {port : Nat} {address : Ipv4}
    (read : packetRecords pkt = some records)
    (advertises : Advertises records before behind host port target address)
    : ((Sniffer.after history).reported clock pkt).count
          { host, target, ip := address.print, port }
        = 1
      ↔ ((((Sniffer.after history).table.applyAll clock 0 before).updateSunshine
              (clock before.length) host port target).applyAll clock (before.length + 1)
            behind).Lists
          { host, target, ip := address.print, port } := by
  obtain ⟨rfl, reportable, -, -⟩ := advertises
  have distinct :=
    (Sniffer.distinct_after history).applyAll clock
      (before ++ .service host port target :: behind) 0
  have positive : port > 0 := reportable.2.2
  rw [Sniffer.reported_eq _ clock read, count_reports distinct,
    applyAll_advertised _ clock reportable]
  constructor
  · rintro ⟨entry, stored, -, found⟩
    exact ⟨entry, stored, found⟩
  · rintro ⟨entry, stored, found⟩
    refine ⟨entry, stored, ?_, found⟩
    obtain ⟨sameHost, sameTarget, sameIp, samePort⟩ := FoundService.mk.inj found
    simp [SunshineEntry.ready, sameHost, sameTarget, sameIp, samePort, positive,
      isServiceName_named reportable.1, reportable.2.1, print_isEmpty address]

/-- The service that a packet advertises is reported once with an address if and only if its SRV
record finds an entry, the service keeps that, and the address is the last one that comes to it.
-/
theorem advertisement_reported_iff (history : List ((Nat → UInt32) × List UInt8))
    (clock : Nat → UInt32) {pkt : List UInt8} {records before behind : List ResourceRecord}
    {host target : CharArray 256} {port : Nat} {address : Ipv4}
    (read : packetRecords pkt = some records)
    (advertises : Advertises records before behind host port target address)
    : ((Sniffer.after history).reported clock pkt).count
          { host, target, ip := address.print, port }
        = 1
      ↔ ((Sniffer.after history).table.applyAll clock 0 before).Reaches clock before.length host
          port target behind address.print := by
  rw [count_advertised history clock read advertises]
  obtain ⟨-, reportable, -, single⟩ := advertises
  have named := isServiceName_named reportable.1
  have beside := (List.forall_mem_append.1 single).2
  have distinct := (Sniffer.distinct_after history).applyAll clock before 0
  have stored := distinct.updateSunshine (clock before.length) named port target
  have last := stored.applyAll clock behind (before.length + 1)
  have served : port ≠ 0 := Nat.ne_of_gt reportable.2.2
  constructor
  · intro lists
    by_cases takes
        : ∃ front entry back,
            ((Sniffer.after history).table.applyAll clock 0 before).Takes (clock before.length) host
              front entry back
    · obtain ⟨front, entry, back, takes⟩ := takes
      have stays
          : ∀ arrival ∈ SunshineTable.arrivals clock (before.length + 1)
              (((Sniffer.after history).table.applyAll clock 0 before).updateSunshine
                (clock before.length) host port target) behind,
              ¬arrival.Evicts host := by
        intro arrival member evicts
        have without := withoutPort_of_evicted clock beside (before.length + 1) stored named
          ⟨arrival, member, evicts⟩
        exact served (without.port_eq lists)
      refine ⟨front, entry, back, takes, stays, ?_⟩
      have kept := (takes.lists distinct reportable).applyAll clock beside (before.length + 1)
        stored named stays
      obtain ⟨one, storedOne, found⟩ := lists
      obtain ⟨other, storedOther, foundOther⟩ := kept
      obtain ⟨host', -, ip, -⟩ := FoundService.mk.inj found
      obtain ⟨hostOther, -, ipOther, -⟩ := FoundService.mk.inj foundOther
      obtain rfl := last.eq_of_host storedOne storedOther (host'.trans hostOther.symm)
        (hostOther ▸ named)
      exact ipOther.symm.trans ip
    · obtain ⟨absent, unchanged⟩ := updateSunshine_of_none takes port target
      rw [unchanged] at lists
      have without : WithoutPort _ host := fun entry member same =>
        absurd same (absent entry member)
      exact absurd ((without.applyAll clock beside (before.length + 1)).port_eq lists) served
  · rintro ⟨front, entry, back, takes, stays, ip⟩
    have kept := (takes.lists distinct reportable).applyAll clock beside (before.length + 1) stored
      named stays
    simpa only [ip] using kept

/-- While an entry is free no service takes that of another. -/
theorem Arrival.not_evicts_of_free {arrival : Arrival} {host : CharArray 256}
    (named : host.isEmpty = false)
    (free : ∃ other ∈ arrival.found.entries, other.host.isEmpty = true)
    : ¬arrival.Evicts host := by
  rintro ⟨name, front, entry, back, -, -, different, takes, rfl⟩
  cases takes with
  | own _ same => exact different same.symm
  | free _ _ _ empty => simp [named] at empty
  | oldest _ _ full =>
      obtain ⟨other, member, empty⟩ := free
      simp [full other member] at empty

/-- A PTR record to the type of the services. -/
def serviceTypeBytes : List UInt8 :=
  [1, 97, 0, 0, 12, 0, 1, 0, 0, 0, 60, 0, 22, 9] ++ (CString.ofLiteral "_nvstream").bytes ++ [4]
    ++ (CString.ofLiteral "_tcp").bytes ++ [5] ++ (CString.ofLiteral "local").bytes ++ [0]

/-- An A record of `b` with another address. -/
def firstAddressBytes : List UInt8 := [1, 98, 0, 0, 1, 0, 1, 0, 0, 0, 60, 0, 4, 192, 0, 2, 9]

/-- Of a service whose target has two addresses the second one is reported. -/
theorem second_address_reported
    : ((Sniffer.after []).reported (fun _ => 0)
          (response [serviceBytes, firstAddressBytes, serviceTypeBytes, addressBytes])).count
        { host := .copy 256 (.ofLiteral "pc._nvstream._tcp.local")
          target := .copy 256 (.ofLiteral "b")
          ip := Ipv4.print ⟨192, 0, 2, 1⟩
          port := 48005 }
      = 1 := by
  let behind : List ResourceRecord :=
    [.address (.copy 256 (.ofLiteral "b")) ⟨192, 0, 2, 9⟩,
      .pointer (.copy 256 (.ofLiteral "_nvstream._tcp.local")), addressAnswer]
  have read
      : packetRecords (response [serviceBytes, firstAddressBytes, serviceTypeBytes, addressBytes])
        = some (serviceAnswer :: behind) := by decide +kernel
  have advertises
      : Advertises (serviceAnswer :: behind) [] behind
          (.copy 256 (.ofLiteral "pc._nvstream._tcp.local")) 48005 (.copy 256 (.ofLiteral "b"))
          ⟨192, 0, 2, 1⟩ :=
    { order := rfl
      reportable := by
        unfold Reportable
        decide +kernel
      followed := by decide +kernel
      single := by decide +kernel }
  refine (advertisement_reported_iff [] (fun _ => 0) read advertises).2 ?_
  refine ⟨[], {}, List.replicate 15 {}, .free rfl ?_ (by simp) rfl, ?_, by decide +kernel⟩
  · intro other member
    rw [show other = {} from List.eq_of_mem_replicate member]
    decide +kernel
  · have free
        : ∀ arrival ∈ SunshineTable.arrivals (fun _ => 0) 1
            (({} : Sniffer).table.updateSunshine 0
              (.copy 256 (.ofLiteral "pc._nvstream._tcp.local")) 48005
              (.copy 256 (.ofLiteral "b"))) behind,
            ∃ other ∈ arrival.found.entries, other.host.isEmpty = true := by decide +kernel
    exact fun arrival member =>
      Arrival.not_evicts_of_free (by decide +kernel) (free arrival member)

/-- An SRV record of the service `pd._nvstream._tcp.local` at `b`. -/
def neighbourBytes : List UInt8 := [2, 112, 100] ++ serviceBytes.drop 3

/-- A service whose neighbour waits for the same target is not reported. -/
theorem neighbour_takes_address
    : ¬ ∀ (history : List ((Nat → UInt32) × List UInt8)) (clock : Nat → UInt32) (pkt : List UInt8)
          (records before behind : List ResourceRecord) (host target : CharArray 256)
          (port : Nat) (address : Ipv4),
          packetRecords pkt = some records
          → Advertises records before behind host port target address
          → ((Sniffer.after history).reported clock pkt).count
                { host, target, ip := address.print, port }
              = 1 := by
  intro always
  have advertises
      : Advertises [serviceAnswer, addressAnswer] [] [addressAnswer]
          (.copy 256 (.ofLiteral "pc._nvstream._tcp.local")) 48005 (.copy 256 (.ofLiteral "b"))
          ⟨192, 0, 2, 1⟩ :=
    { order := rfl
      reportable := by
        unfold Reportable
        decide +kernel
      followed := by decide +kernel
      single := by decide +kernel }
  have once :=
    always [(fun _ => 0, response [neighbourBytes])] (fun _ => 1)
      (response [serviceBytes, addressBytes]) _ _ _ _ _ _ _ (by decide +kernel) advertises
  revert once
  decide +kernel

end VitaMoonlight
