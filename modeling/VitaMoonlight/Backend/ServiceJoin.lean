import VitaMoonlight.Backend.MdnsSniffer
import Mathlib.Data.List.Dedup
import Mathlib.Data.List.Perm.Basic

/-! What the sniffer reports of a response depends on the order of its records: an address counts
only behind the service that it belongs to.
-/

namespace VitaMoonlight

open Library

-----------------------------------------------------------------------------------------
-- The records of a packet
-----------------------------------------------------------------------------------------

/-- The records that the loop over a packet reads, if it can read them all. -/
def readRecords (pkt : List UInt8) : Nat → Nat → Option (List ResourceRecord)
  | 0, _ => some []
  | count + 1, position =>
      if position < pkt.length then
        (readRecord pkt position).bind fun (record, after) =>
          (readRecords pkt count after).map (record :: ·)
      else some []

/-- The records of a packet. -/
def packetRecords (pkt : List UInt8) : Option (List ResourceRecord) :=
  if pkt.length > 12 then
    (skipQuestions pkt (readShort pkt 4) 12).bind (readRecords pkt (recordCount pkt))
  else none

/-- Records stored one after the other. -/
def SunshineTable.applyAll (clock : Nat → UInt32) (index : Nat) (table : SunshineTable)
    : List ResourceRecord → SunshineTable
  | [] => table
  | record :: rest => applyAll clock (index + 1) (table.apply (clock index) record) rest

/-- What the sniffer does with the records of a packet. -/
def Sniffer.receive (sniffer : Sniffer) (clock : Nat → UInt32) (records : List ResourceRecord)
    : Sniffer :=
  { sniffer with table := sniffer.table.applyAll clock 0 records }.checkAndPrintReadyEntries

/-- The loop over a packet stores its records, by induction on their number. -/
theorem recordLoop_eq {pkt : List UInt8} (clock : Nat → UInt32) {count : Nat}
    : ∀ {position : Nat} {records : List ResourceRecord} (index : Nat) (table : SunshineTable),
        readRecords pkt count position = some records
        → recordLoop pkt clock index count position table
          = (table.applyAll clock index records, true) := by
  induction count with
  | zero =>
      intro position records index table read
      rw [readRecords] at read
      obtain rfl := Option.some.inj read
      rw [recordLoop, SunshineTable.applyAll]
  | succ count ih =>
      intro position records index table read
      unfold readRecords at read
      unfold recordLoop
      split at read
      · rename_i inside
        rw [if_pos inside]
        obtain ⟨⟨record, after⟩, here, rest⟩ := Option.bind_eq_some_iff.1 read
        obtain ⟨later, others, rfl⟩ := Option.map_eq_some_iff.1 rest
        rw [here]
        exact ih (index + 1) _ others
      · rename_i outside
        obtain rfl := Option.some.inj read
        rw [if_neg outside, SunshineTable.applyAll]

/-- A packet is handled as its records are. -/
theorem Sniffer.poll_eq (sniffer : Sniffer) (clock : Nat → UInt32) {pkt : List UInt8}
    {records : List ResourceRecord} (read : packetRecords pkt = some records)
    : sniffer.poll clock pkt = sniffer.receive clock records := by
  unfold packetRecords at read
  split at read
  · rename_i long
    obtain ⟨position, questions, rest⟩ := Option.bind_eq_some_iff.1 read
    unfold Sniffer.poll
    rw [if_pos long, questions]
    dsimp only
    rw [recordLoop_eq clock 0 sniffer.table rest]
    rfl
  · contradiction

/-- The services that a sniffer has reported. -/
def Sniffer.found (sniffer : Sniffer) : List FoundService := sniffer.callbacks.map Prod.snd

theorem found_receive (clock : Nat → UInt32) (records : List ResourceRecord)
    : (Sniffer.receive {} clock records).found
      = ((SunshineTable.empty.applyAll clock 0 records).entries.filter SunshineEntry.ready).map
          SunshineEntry.found := by
  simp only [Sniffer.found, Sniffer.receive, Sniffer.checkAndPrintReadyEntries, List.nil_append,
    List.map_map]
  exact List.zipIdx_map_fst 0 _

/-- The service for which a record takes an entry. -/
def advertisedService : ResourceRecord → Option (CharArray 256)
  | .pointer name => if namesServiceType name then some name else none
  | .service owner _ target => if isServiceName owner ∧ ¬ target.isEmpty then some owner else none
  | .address _ _ | .other => none

/-- An SRV record of this service. -/
def isServiceOf (name : CharArray 256) : ResourceRecord → Bool
  | .service owner _ _ => owner = name
  | _ => false

/-- An A record of this target. -/
def isAddressOf (target : CharArray 256) : ResourceRecord → Bool
  | .address owner _ => owner = target
  | _ => false

def isAddress : ResourceRecord → Bool
  | .address _ _ => true
  | _ => false

/-- A response with at most 16 services, one SRV record for each and one A record for each target. -/
structure WellFormedResponse (records : List ResourceRecord) : Prop where
  few : (records.filterMap advertisedService).dedup.length ≤ maxSunshine
  oneService
    : ∀ name ∈ records.filterMap advertisedService, records.countP (isServiceOf name) = 1
  oneAddress
    : ∀ owner port target,
        .service owner port target ∈ records
        → isServiceName owner
        → records.countP (isAddressOf target) = 1

/-- An SRV record of a service that the sniffer can report. -/
def Reportable : ResourceRecord → Prop
  | .service owner port target => isServiceName owner ∧ ¬ target.isEmpty ∧ port > 0
  | _ => False

-----------------------------------------------------------------------------------------
-- Entries
-----------------------------------------------------------------------------------------

namespace SunshineTable

variable {table : SunshineTable} {now : UInt32}

/-- A free entry is found, by induction on the entries. -/
theorem reusableEntry_free {entries : List SunshineEntry} (oldest : UInt32)
    (chosen : Option Nat) (start : Nat)
    (free : ∃ entry ∈ entries, entry.host.isEmpty = true)
    : ∃ index entry,
        reusableEntry oldest chosen start entries = some (start + index)
        ∧ entries[index]? = some entry
        ∧ entry.host.isEmpty = true := by
  induction entries generalizing oldest chosen start with
  | nil =>
      obtain ⟨entry, member, -⟩ := free
      exact absurd member List.not_mem_nil
  | cons first rest ih =>
      unfold reusableEntry
      by_cases here : first.host.isEmpty = true
      · rw [if_pos here]
        exact ⟨0, first, rfl, rfl, here⟩
      · have later : ∃ entry ∈ rest, entry.host.isEmpty = true := by
          obtain ⟨entry, member, empty⟩ := free
          obtain rfl | member := List.mem_cons.1 member
          · exact absurd empty here
          · exact ⟨entry, member, empty⟩
        rw [if_neg here]
        split
        · obtain ⟨index, entry, chosen, stored, empty⟩ := ih first.lastSeen (some start) (start + 1) later
          exact ⟨index + 1, entry, by rw [chosen]; congr 1; omega, stored, empty⟩
        · obtain ⟨index, entry, chosen, stored, empty⟩ := ih oldest chosen (start + 1) later
          exact ⟨index + 1, entry, by rw [chosen]; congr 1; omega, stored, empty⟩

/-- The services in a table are known and have an entry each. -/
structure Holds (table : SunshineTable) (names : List (CharArray 256)) : Prop where
  known : ∀ entry ∈ table.entries, entry.host.isEmpty = true ∨ entry.host ∈ names
  distinct
    : ∀ (first second : Nat) (one other : SunshineEntry),
        table.entries[first]? = some one
        → table.entries[second]? = some other
        → one.host = other.host
        → one.host.isEmpty = true ∨ first = second

theorem holds_empty (names : List (CharArray 256)) : empty.Holds names := by
  have free : ∀ entry ∈ empty.entries, entry.host.isEmpty = true := by
    intro entry member
    rw [List.eq_of_mem_replicate member]
    rfl
  exact
    ⟨fun entry member => .inl (free entry member),
      fun first second one other stored _ _ => .inl (free one (List.mem_of_getElem? stored))⟩

/-- Where all services fit, a service without an entry finds a free one. -/
theorem Holds.free {names : List (CharArray 256)} (holds : table.Holds names)
    (few : names.dedup.length ≤ maxSunshine) {host : CharArray 256} (member : host ∈ names)
    (absent : ∀ entry ∈ table.entries, entry.host ≠ host)
    : ∃ entry ∈ table.entries, entry.host.isEmpty = true := by
  by_contra full
  simp only [not_exists, not_and] at full
  have distinct : (host :: table.entries.map SunshineEntry.host).Nodup := by
    refine List.nodup_cons.2 ⟨?_, ?_⟩
    · intro again
      obtain ⟨entry, stored, same⟩ := List.mem_map.1 again
      exact absent entry stored same
    · refine List.pairwise_map.2 (List.pairwise_iff_getElem.2 ?_)
      intro first second inFirst inSecond before same
      obtain empty | same :=
        holds.distinct first second _ _ (List.getElem?_eq_getElem inFirst)
          (List.getElem?_eq_getElem inSecond) same
      · exact full _ (List.getElem_mem inFirst) empty
      · exact absurd same (Nat.ne_of_lt before)
  have subset : host :: table.entries.map SunshineEntry.host ⊆ names.dedup := by
    refine List.cons_subset.2 ⟨List.mem_dedup.2 member, fun name used => ?_⟩
    obtain ⟨entry, stored, rfl⟩ := List.mem_map.1 used
    exact List.mem_dedup.2 ((holds.known entry stored).resolve_left (full entry stored))
  have short := (distinct.subperm subset).length_le
  rw [List.length_cons, List.length_map, table.size] at short
  omega

/-- An entry stored in the place of one for this service or of a free one. -/
structure Stores (table : SunshineTable) (index : Nat) (host : CharArray 256)
    (before : SunshineEntry)
    : Prop where
  stored : table.entries[index]? = some before
  place
    : before.host = host
      ∨ before.host.isEmpty = true ∧ ∀ entry ∈ table.entries, entry.host ≠ host

/-- `update_sunshine` changes one entry, which is the one of the service afterwards. -/
theorem updateSunshine_cases {names : List (CharArray 256)} (holds : table.Holds names)
    (few : names.dedup.length ≤ maxSunshine) {host : CharArray 256} (member : host ∈ names)
    (now : UInt32) (port : Nat) (target : CharArray 256)
    : ∃ index before,
        table.Stores index host before
        ∧ table.updateSunshine now host port target
          = table.set index
              (updated (if before.host = host then before else { host }) now port target) := by
  unfold updateSunshine
  cases place : table.entries.findIdx? (fun entry => entry.host = host) with
  | some index =>
      obtain ⟨inside, here, -⟩ := List.findIdx?_eq_some_iff_getElem.1 place
      have same : table.entries[index].host = host := by simpa using here
      have stored := List.getElem?_eq_getElem inside
      refine ⟨index, table.entries[index], ⟨stored, .inl same⟩, ?_⟩
      dsimp only
      rw [if_pos same, List.getD_eq_getElem?_getD, stored]
      rfl
  | none =>
      have absent : ∀ entry ∈ table.entries, entry.host ≠ host := by
        simpa using List.findIdx?_eq_none_iff.1 place
      obtain ⟨index, before, chosen, stored, empty⟩ :=
        reusableEntry_free now none 0 (holds.free few member absent)
      refine ⟨index, before, ⟨stored, .inr ⟨empty, absent⟩⟩, ?_⟩
      rw [chosen, Nat.zero_add, if_neg (absent before (List.mem_of_getElem? stored))]

/-- `update_sunshine_ip_by_target` changes at most one entry, which has the target. -/
theorem updateSunshineIpByTarget_cases (table : SunshineTable) (now : UInt32)
    (target : CharArray 256) (ip : CharArray 16)
    : table.updateSunshineIpByTarget now target ip = table
      ∨ ∃ index before,
          table.entries[index]? = some before
          ∧ before.target = target
          ∧ before.host.isEmpty = false
          ∧ table.updateSunshineIpByTarget now target ip
            = table.set index { before with ip, lastSeen := now } := by
  unfold updateSunshineIpByTarget
  cases place
      : table.entries.findIdx? (fun entry => entry.target = target ∧ ¬ entry.host.isEmpty) with
  | none => exact .inl rfl
  | some index =>
      obtain ⟨inside, here, -⟩ := List.findIdx?_eq_some_iff_getElem.1 place
      obtain ⟨same, named⟩ := of_decide_eq_true here
      have stored := List.getElem?_eq_getElem inside
      refine .inr ⟨index, table.entries[index], stored, same, eq_false_of_ne_true named, ?_⟩
      dsimp only
      rw [List.getD_eq_getElem?_getD, stored]
      rfl

/-- Another entry with the service of the place is that entry, or the service has no name. -/
theorem Stores.same_place {names : List (CharArray 256)} {index other : Nat}
    {host : CharArray 256} {before entry : SunshineEntry}
    (stores : table.Stores index host before) (holds : table.Holds names)
    (stored : table.entries[other]? = some entry) (same : entry.host = host)
    : entry.host.isEmpty = true ∨ index = other := by
  obtain here | ⟨-, absent⟩ := stores.place
  · rw [same, ← here]
    exact holds.distinct index other before entry stores.stored stored (here.trans same.symm)
  · exact absurd same (absent entry (List.mem_of_getElem? stored))

/-- Storing an entry of the service in its place keeps the table in order. -/
theorem Holds.set {names : List (CharArray 256)} (holds : table.Holds names) {index : Nat}
    {host : CharArray 256} {before after : SunshineEntry} (member : host ∈ names)
    (stores : table.Stores index host before) (same : after.host = host)
    : (table.set index after).Holds names := by
  constructor
  · intro entry stored
    obtain stored | rfl := List.mem_or_eq_of_mem_set stored
    · exact holds.known entry stored
    · exact .inr (same ▸ member)
  · intro first second one other storedOne storedOther hosts
    rw [SunshineTable.set, List.getElem?_set] at storedOne storedOther
    by_cases atFirst : index = first
    · by_cases atSecond : index = second
      · exact .inr (atFirst.symm.trans atSecond)
      · rw [if_neg atSecond] at storedOther
        rw [if_pos atFirst] at storedOne
        have is : after = one := by
          split at storedOne
          · exact Option.some.inj storedOne
          · contradiction
        have host : other.host = host := by rw [← hosts, ← is, same]
        rw [hosts]
        exact (stores.same_place holds storedOther host).imp_right fun at' => absurd at' atSecond
    · rw [if_neg atFirst] at storedOne
      by_cases atSecond : index = second
      · rw [if_pos atSecond] at storedOther
        have is : after = other := by
          split at storedOther
          · exact Option.some.inj storedOther
          · contradiction
        have host : one.host = host := by rw [hosts, ← is, same]
        exact (stores.same_place holds storedOne host).imp_right fun at' => absurd at' atFirst
      · rw [if_neg atSecond] at storedOther
        exact holds.distinct first second one other storedOne storedOther hosts

theorem updated_host (entry : SunshineEntry) (now : UInt32) (port : Nat)
    (target : CharArray 256)
    : (updated entry now port target).host = entry.host := rfl

/-- The entry of a service keeps what is reported of it when neither an SRV record of the service
nor an A record of its target comes.
-/
theorem apply_kept {names : List (CharArray 256)} (holds : table.Holds names)
    (few : names.dedup.length ≤ maxSunshine) (now : UInt32) {record : ResourceRecord}
    (known : ∀ name, advertisedService record = some name → name ∈ names)
    {entry : SunshineEntry} (first : table.entries[0]? = some entry)
    (named : entry.host.isEmpty = false) (service : isServiceOf entry.host record = false)
    (elsewhere : isAddressOf entry.target record = false)
    : (table.apply now record).Holds names
      ∧ ∃ after, (table.apply now record).entries[0]? = some after ∧ after.found = entry.found := by
  have update
      : ∀ (host : CharArray 256) (port : Nat) (target : CharArray 256),
          host ∈ names
          → (entry.host = host → port = 0 ∧ target.isEmpty = true)
          → (table.updateSunshine now host port target).Holds names
            ∧ ∃ after,
                (table.updateSunshine now host port target).entries[0]? = some after
                ∧ after.found = entry.found := by
    intro host port target member same
    obtain ⟨index, before, stores, stored⟩ :=
      updateSunshine_cases holds few member now port target
    rw [stored]
    refine ⟨holds.set member stores ?_, ?_⟩
    · rw [updated_host]
      split
      · assumption
      · rfl
    · rw [SunshineTable.set, List.getElem?_set]
      by_cases here : index = 0
      · subst here
        obtain rfl := Option.some.inj (first.symm.trans stores.stored)
        obtain hosts | ⟨empty, -⟩ := stores.place
        · obtain ⟨rfl, noTarget⟩ := same hosts
          rw [if_pos rfl, if_pos (by rw [table.size]; decide), if_pos hosts]
          refine ⟨_, rfl, ?_⟩
          simp [SunshineEntry.found, updated, noTarget]
        · rw [named] at empty
          contradiction
      · rw [if_neg here]
        exact ⟨entry, first, rfl⟩
  cases record with
  | pointer name =>
      unfold SunshineTable.apply
      dsimp only
      split
      · rename_i type
        exact update name 0 .empty (known name (if_pos type)) fun _ => ⟨rfl, rfl⟩
      · exact ⟨holds, entry, first, rfl⟩
  | service owner port target =>
      unfold SunshineTable.apply
      dsimp only
      split
      · rename_i type
        refine update owner port target (known owner (if_pos type)) fun same => ?_
        exact absurd same.symm (of_decide_eq_false service)
      · exact ⟨holds, entry, first, rfl⟩
  | address owner address =>
      obtain same | ⟨index, before, stored, target, used, same⟩ :=
        updateSunshineIpByTarget_cases table now owner address.print
      · rw [SunshineTable.apply, same]
        exact ⟨holds, entry, first, rfl⟩
      · rw [SunshineTable.apply, same]
        have member := (holds.known before (List.mem_of_getElem? stored)).resolve_left (by simp [used])
        refine ⟨holds.set member ⟨stored, .inl rfl⟩ rfl, entry, ?_, rfl⟩
        rw [SunshineTable.set, List.getElem?_set, if_neg ?_]
        · exact first
        · rintro rfl
          obtain rfl := Option.some.inj (first.symm.trans stored)
          exact absurd target.symm (of_decide_eq_false elsewhere)
  | other => exact ⟨holds, entry, first, rfl⟩

/-- So it does over records, by induction on them. -/
theorem applyAll_kept {names : List (CharArray 256)} (few : names.dedup.length ≤ maxSunshine)
    (clock : Nat → UInt32) {records : List ResourceRecord} {entry : SunshineEntry}
    (known : ∀ record ∈ records, ∀ name, advertisedService record = some name → name ∈ names)
    (named : entry.host.isEmpty = false)
    (services : ∀ record ∈ records, isServiceOf entry.host record = false)
    (elsewhere : ∀ record ∈ records, isAddressOf entry.target record = false)
    (index : Nat) {table : SunshineTable} (holds : table.Holds names)
    (first : ∃ now, table.entries[0]? = some now ∧ now.found = entry.found)
    : ∃ after,
        (table.applyAll clock index records).entries[0]? = some after
        ∧ after.found = entry.found := by
  induction records generalizing index table with
  | nil => exact first
  | cons record rest ih =>
      rw [List.forall_mem_cons] at known services elsewhere
      obtain ⟨now, stored, same⟩ := first
      obtain ⟨host, target, -, -⟩ := FoundService.mk.inj same
      obtain ⟨kept, after, still, unchanged⟩ :=
        apply_kept holds few (clock index) known.1 stored (by rw [host, named])
          (by rw [host]; exact services.1) (by rw [target]; exact elsewhere.1)
      exact ih known.2 services.2 elsewhere.2 (index + 1) kept
        ⟨after, still, unchanged.trans same⟩

theorem applyAll_append (clock : Nat → UInt32) (index : Nat) (table : SunshineTable)
    (first second : List ResourceRecord)
    : table.applyAll clock index (first ++ second)
      = (table.applyAll clock index first).applyAll clock (index + first.length) second := by
  induction first generalizing index table with
  | nil => rfl
  | cons record rest ih =>
      rw [List.cons_append, applyAll, ih, applyAll, List.length_cons]
      congr 1
      omega

theorem set_first (table : SunshineTable) (entry : SunshineEntry)
    : (table.set 0 entry).entries[0]? = some entry := by
  rw [SunshineTable.set, List.getElem?_set, if_pos rfl, if_pos]
  rw [table.size]
  decide

/-- The first service takes the first entry. -/
theorem empty_updateSunshine (now : UInt32) {host : CharArray 256} (named : host.isEmpty = false)
    (port : Nat) (target : CharArray 256)
    : empty.updateSunshine now host port target = empty.set 0 (updated { host } now port target) := by
  have absent : ∀ entry ∈ empty.entries, entry.host ≠ host := by
    rintro entry member rfl
    rw [List.eq_of_mem_replicate member] at named
    contradiction
  have place : empty.entries.findIdx? (fun entry => entry.host = host) = none := by
    simpa using absent
  unfold updateSunshine
  rw [place]
  rfl

/-- An address behind its service is stored with it. -/
theorem updateSunshineIpByTarget_first {entry : SunshineEntry} {target : CharArray 256}
    (stored : table.entries[0]? = some entry) (named : entry.host.isEmpty = false)
    (same : entry.target = target) (now : UInt32) (ip : CharArray 16)
    : table.updateSunshineIpByTarget now target ip
      = table.set 0 { entry with ip, lastSeen := now } := by
  obtain ⟨inside, is⟩ := List.getElem?_eq_some_iff.1 stored
  have place
      : table.entries.findIdx? (fun entry => entry.target = target ∧ ¬ entry.host.isEmpty)
        = some 0 := by
    rw [List.findIdx?_eq_some_iff_getElem]
    refine ⟨inside, ?_, fun index before => absurd before (Nat.not_lt_zero index)⟩
    simp [is, named, same]
  unfold updateSunshineIpByTarget
  rw [place]
  dsimp only
  rw [List.getD_eq_getElem?_getD, stored]
  rfl

/-- Addresses before the first service are lost, by induction on them. -/
theorem empty_applyAll (clock : Nat → UInt32) {records : List ResourceRecord} (index : Nat)
    (addresses : ∀ record ∈ records, isAddress record = true)
    : empty.applyAll clock index records = empty := by
  induction records generalizing index with
  | nil => rfl
  | cons record rest ih =>
      rw [List.forall_mem_cons] at addresses
      have same : empty.apply (clock index) record = empty := by
        cases record with
        | address owner address =>
            have place
                : empty.entries.findIdx?
                    (fun entry => entry.target = owner ∧ ¬ entry.host.isEmpty) = none := by
              rw [List.findIdx?_eq_none_iff]
              intro entry member
              rw [List.eq_of_mem_replicate member]
              exact decide_eq_false fun both => both.2 rfl
            rw [SunshineTable.apply, updateSunshineIpByTarget, place]
        | pointer | service | other => exact absurd addresses.1 nofun
      rw [applyAll, same]
      exact ih (index + 1) addresses.2

/-- No entry has what a service needs to be reported. -/
def Every (table : SunshineTable) (lacks : SunshineEntry → Prop) : Prop :=
  ∀ entry ∈ table.entries, lacks entry

theorem every_empty {lacks : SunshineEntry → Prop} (free : lacks {}) : empty.Every lacks := by
  intro entry member
  rw [List.eq_of_mem_replicate member]
  exact free

theorem Every.set {lacks : SunshineEntry → Prop} (every : table.Every lacks) (index : Nat)
    {entry : SunshineEntry} (here : lacks entry)
    : (table.set index entry).Every lacks := by
  intro other stored
  obtain stored | rfl := List.mem_or_eq_of_mem_set stored
  · exact every other stored
  · exact here

/-- An update keeps what it keeps of each entry and what it gives a new one. -/
theorem Every.updateSunshine {lacks : SunshineEntry → Prop} (every : table.Every lacks)
    (now : UInt32) (host : CharArray 256) (port : Nat) (target : CharArray 256)
    (keeps : ∀ entry, lacks entry → lacks (updated entry now port target))
    (fresh : ∀ host, lacks { host })
    : (table.updateSunshine now host port target).Every lacks := by
  unfold SunshineTable.updateSunshine
  split
  · rename_i index _
    refine every.set _ (keeps _ ?_)
    rw [List.getD_eq_getElem?_getD]
    cases stored : table.entries[index]? with
    | none => exact fresh .empty
    | some entry => exact every entry (List.mem_of_getElem? stored)
  · split
    · exact every.set _ (keeps _ (fresh host))
    · exact every

/-- Records that leave each entry without something leave the table without it, by induction on
them.
-/
theorem Every.applyAll {lacks : SunshineEntry → Prop} (clock : Nat → UInt32)
    {records : List ResourceRecord}
    (step
      : ∀ record ∈ records, ∀ (now : UInt32) (table : SunshineTable),
          table.Every lacks → (table.apply now record).Every lacks)
    (index : Nat) {table : SunshineTable} (every : table.Every lacks)
    : (table.applyAll clock index records).Every lacks := by
  induction records generalizing index table with
  | nil => exact every
  | cons record rest ih =>
      rw [List.forall_mem_cons] at step
      exact ih step.2 (index + 1) (step.1 (clock index) table every)

/-- Without an A record no entry gets an address. -/
theorem Every.apply_no_address (now : UInt32) {record : ResourceRecord}
    (other : isAddress record = false) (every : table.Every fun entry => entry.ip.isEmpty = true)
    : (table.apply now record).Every fun entry => entry.ip.isEmpty = true := by
  cases record with
  | address owner address => exact absurd other nofun
  | pointer name =>
      unfold SunshineTable.apply
      dsimp only
      split
      · exact every.updateSunshine now name 0 .empty (fun _ none => none) fun _ => rfl
      · exact every
  | service owner port target =>
      unfold SunshineTable.apply
      dsimp only
      split
      · exact every.updateSunshine now owner port target (fun _ none => none) fun _ => rfl
      · exact every
  | other => exact every

/-- Without an SRV record that can be reported no entry gets a port. -/
theorem Every.apply_not_reportable (now : UInt32) {record : ResourceRecord}
    (other : ¬ Reportable record) (every : table.Every fun entry => entry.port = 0)
    : (table.apply now record).Every fun entry => entry.port = 0 := by
  cases record with
  | address owner address =>
      change (table.updateSunshineIpByTarget now owner address.print).Every _
      obtain same | ⟨index, before, stored, -, -, same⟩ :=
        updateSunshineIpByTarget_cases table now owner address.print
      · rw [same]
        exact every
      · rw [same]
        exact every.set index (every before (List.mem_of_getElem? stored))
  | pointer name =>
      unfold SunshineTable.apply
      dsimp only
      split
      · exact every.updateSunshine now name 0 .empty (fun _ none => none) fun _ => rfl
      · exact every
  | service owner port target =>
      unfold SunshineTable.apply
      dsimp only
      split
      · rename_i usable
        have zero : ¬ port > 0 := fun positive => other ⟨usable.1, usable.2, positive⟩
        refine every.updateSunshine now owner port target (fun entry none => ?_) fun _ => rfl
        rw [updated, if_neg zero]
        exact none
      · exact every
  | other => exact every

end SunshineTable

-----------------------------------------------------------------------------------------
-- Reports
-----------------------------------------------------------------------------------------

/-- Nothing is reported of a table that lacks something in each entry. -/
theorem found_eq_nil (lacks : SunshineEntry → Prop)
    (unready : ∀ entry, lacks entry → entry.ready = false) {clock : Nat → UInt32}
    {records : List ResourceRecord}
    (every : (SunshineTable.empty.applyAll clock 0 records).Every lacks)
    : (Sniffer.receive {} clock records).found = [] := by
  rw [found_receive, List.map_eq_nil_iff, List.filter_eq_nil_iff]
  intro entry member
  rw [unready entry (every entry member)]
  exact Bool.false_ne_true

/-- Nothing is reported of a response without a service that can be reported. -/
theorem found_of_not_reportable (clock : Nat → UInt32) {records : List ResourceRecord}
    (none : ¬ ∃ record ∈ records, Reportable record)
    : (Sniffer.receive {} clock records).found = [] := by
  refine found_eq_nil (fun entry => entry.port = 0) ?_ ?_
  · intro entry zero
    simp [SunshineEntry.ready, zero]
  · refine SunshineTable.Every.applyAll clock ?_ 0 (SunshineTable.every_empty rfl)
    intro record member now table every
    exact every.apply_not_reportable now fun reportable => none ⟨record, member, reportable⟩

/-- Nothing is reported when all addresses stand first. -/
theorem found_addresses_first (clock : Nat → UInt32) (records : List ResourceRecord)
    : (Sniffer.receive {} clock
        (records.filter isAddress ++ records.filter fun record => !isAddress record)).found
      = [] := by
  refine found_eq_nil (fun entry => entry.ip.isEmpty = true) ?_ ?_
  · intro entry none
    simp [SunshineEntry.ready, none]
  · rw [SunshineTable.applyAll_append,
      SunshineTable.empty_applyAll clock 0 fun record member => (List.mem_filter.1 member).2]
    refine SunshineTable.Every.applyAll clock ?_ _ (SunshineTable.every_empty rfl)
    intro record member now table every
    exact every.apply_no_address now (by simpa using (List.mem_filter.1 member).2)

/-- A printed address is not empty. -/
theorem print_isEmpty (address : Ipv4) : address.print.isEmpty = false := by
  obtain ⟨digit, rest, small, printed⟩ := CText.decimal_head address.a.toNat
  have nonzero : CText.digitByte digit ≠ 0 := by
    interval_cases digit <;> decide
  rw [CharArray.isEmpty_eq, Ipv4.print, CharArray.text_copy, CString.isEmpty_take (by decide),
    printed]
  simp [CString.ofBytes, CString.isEmpty, nonzero]

theorem isServiceName_named {name : CharArray 256} (service : isServiceName name = true)
    : name.isEmpty = false := by
  rw [Bool.eq_false_iff]
  intro empty
  have none : name.text = CString.empty := (CString.isEmpty_iff name.text).1 empty
  rw [isServiceName, none] at service
  exact absurd service (by decide)

/-- Two records of a response can stand first. -/
theorem exists_perm_cons_cons {records : List ResourceRecord} {first second : ResourceRecord}
    (one : first ∈ records) (other : second ∈ records) (different : second ≠ first)
    : ∃ rest, records.Perm (first :: second :: rest) :=
  ⟨(records.erase first).erase second,
    (List.perm_cons_erase one).trans
      ((List.perm_cons_erase ((List.mem_erase_of_ne different).2 other)).cons first)⟩

/-- Where one record has a property and stands first, the rest does not have it. -/
theorem rest_of_countP {records rest : List ResourceRecord} {first second : ResourceRecord}
    {has : ResourceRecord → Bool} (order : records.Perm (first :: second :: rest))
    (one : records.countP has = 1) (stands : has first = true ∨ has second = true)
    : ∀ record ∈ rest, has record = false := by
  rw [order.countP_eq, List.countP_cons, List.countP_cons] at one
  have none : rest.countP has = 0 := by
    obtain here | here := stands
    · rw [if_pos here] at one
      omega
    · rw [if_pos here] at one
      omega
  intro record member
  exact eq_false_of_ne_true (List.countP_eq_zero.1 none record member)

/-- A service whose SRV record and whose A record stand first is reported. -/
theorem found_service_first (clock : Nat → UInt32) {owner target : CharArray 256} {port : Nat}
    {address : Ipv4} {rest : List ResourceRecord}
    (reportable : Reportable (.service owner port target))
    (few
      : ((ResourceRecord.service owner port target :: .address target address :: rest).filterMap
          advertisedService).dedup.length
        ≤ maxSunshine)
    (services : ∀ record ∈ rest, isServiceOf owner record = false)
    (elsewhere : ∀ record ∈ rest, isAddressOf target record = false)
    : ({ host := owner, target, ip := address.print, port } : FoundService)
      ∈ (Sniffer.receive {} clock
          (.service owner port target :: .address target address :: rest)).found := by
  obtain ⟨service, aimed, positive⟩ := reportable
  have named := isServiceName_named service
  have filled : target.isEmpty = false := eq_false_of_ne_true aimed
  let names :=
    (ResourceRecord.service owner port target :: .address target address :: rest).filterMap
      advertisedService
  have advertised : owner ∈ names :=
    List.mem_filterMap.2 ⟨_, List.mem_cons_self, if_pos ⟨service, aimed⟩⟩
  let opened := SunshineTable.updated { host := owner } (clock 0) port target
  have aim : opened.target = target := by
    change (if target.isEmpty then _ else target) = target
    rw [if_neg aimed]
  have serves : opened.port = port := if_pos positive
  let first := SunshineTable.empty.set 0 opened
  let entry : SunshineEntry := { opened with ip := address.print, lastSeen := clock 1 }
  have stores
      : SunshineTable.applyAll clock 0 .empty
          (.service owner port target :: .address target address :: rest)
        = (first.set 0 entry).applyAll clock 2 rest := by
    have service
        : SunshineTable.empty.apply (clock 0) (.service owner port target) = first := by
      rw [SunshineTable.apply, if_pos ⟨service, aimed⟩]
      exact SunshineTable.empty_updateSunshine (clock 0) named port target
    have address : first.apply (clock 1) (.address target address) = first.set 0 entry :=
      SunshineTable.updateSunshineIpByTarget_first (SunshineTable.set_first _ opened) named aim
        (clock 1) address.print
    rw [SunshineTable.applyAll, service, SunshineTable.applyAll, address]
  have free : ∀ entry ∈ SunshineTable.empty.entries, entry.host ≠ owner := by
    rintro entry member rfl
    rw [List.eq_of_mem_replicate member] at named
    contradiction
  have holds : (first.set 0 entry).Holds names :=
    ((SunshineTable.holds_empty names).set advertised ⟨rfl, .inr ⟨rfl, free⟩⟩ rfl).set advertised
      ⟨SunshineTable.set_first _ opened, .inl rfl⟩ rfl
  have known
      : ∀ record ∈ rest, ∀ name, advertisedService record = some name → name ∈ names := by
    intro record member name here
    exact List.mem_filterMap.2
      ⟨record, List.mem_cons_of_mem _ (List.mem_cons_of_mem _ member), here⟩
  obtain ⟨after, stored, same⟩ :=
    SunshineTable.applyAll_kept few clock known (show entry.host.isEmpty = false from named)
      services (by rwa [show entry.target = target from aim]) 2 holds
      ⟨entry, SunshineTable.set_first _ entry, rfl⟩
  have report : entry.found = { host := owner, target, ip := address.print, port } :=
    FoundService.mk.injEq .. |>.mpr ⟨rfl, aim, rfl, serves⟩
  have found := same.trans report
  obtain ⟨host, goal, ip, served⟩ := FoundService.mk.inj found
  have ready : after.ready = true := by
    simp [SunshineEntry.ready, host, goal, ip, served, named, filled, positive,
      print_isEmpty address]
  rw [found_receive, stores]
  exact List.mem_map.2
    ⟨after, List.mem_filter.2 ⟨List.mem_of_getElem? stored, ready⟩, found⟩

/-- What the sniffer reports of a well-formed response does not depend on the order of its records
if and only if it advertises no service that can be reported.
-/
theorem reports_independent_of_order_iff {pkt : List UInt8} {records : List ResourceRecord}
    (read : packetRecords pkt = some records) (wellFormed : WellFormedResponse records)
    (clock : Nat → UInt32)
    : (∀ (other : List ResourceRecord) (later : Nat → UInt32),
        other.Perm records
        → ∀ service,
            service ∈ (Sniffer.receive {} later other).found
            ↔ service ∈ (Sniffer.poll {} clock pkt).found)
      ↔ ¬ ∃ record ∈ records, Reportable record := by
  rw [Sniffer.poll_eq {} clock read]
  constructor
  · rintro independent ⟨record, member, reportable⟩
    cases record with
    | service owner port target =>
        have named : owner ∈ records.filterMap advertisedService :=
          List.mem_filterMap.2 ⟨_, member, if_pos ⟨reportable.1, reportable.2.1⟩⟩
        have oneService := wellFormed.oneService owner named
        have oneAddress := wellFormed.oneAddress owner port target member reportable.1
        obtain ⟨addressed, here, targeted⟩ := List.countP_pos_iff.1 (oneAddress ▸ Nat.one_pos)
        cases addressed with
        | address name address =>
            obtain rfl : name = target := of_decide_eq_true targeted
            obtain ⟨rest, order⟩ := exists_perm_cons_cons member here nofun
            have services := rest_of_countP order oneService (.inl (decide_eq_true rfl))
            have elsewhere := rest_of_countP order oneAddress (.inr targeted)
            have few
                : ((ResourceRecord.service owner port name :: .address name address
                    :: rest).filterMap advertisedService).dedup.length
                  ≤ maxSunshine := by
              rw [← (order.filterMap advertisedService).dedup.length_eq]
              exact wellFormed.few
            have found := found_service_first clock reportable few services elsewhere
            rw [independent _ clock order.symm, ← independent _ clock
              (List.filter_append_perm isAddress records), found_addresses_first] at found
            exact List.not_mem_nil found
        | pointer | service | other => exact absurd targeted nofun
    | pointer | address | other => exact absurd reportable id
  · intro none other later same service
    rw [found_of_not_reportable clock none, found_of_not_reportable later]
    rintro ⟨record, member, reportable⟩
    exact none ⟨record, same.mem_iff.1 member, reportable⟩

/-- A response with these answers and no questions. -/
def response (answers : List (List UInt8)) : List UInt8 :=
  [0, 0, 0, 0, 0, 0, 0, UInt8.ofNat answers.length, 0, 0, 0, 0] ++ answers.flatten

/-- An SRV record of the service `pc._nvstream._tcp.local` at `b`, port 48005. -/
def serviceBytes : List UInt8 :=
  [2, 112, 99, 9] ++ (CString.ofLiteral "_nvstream").bytes ++ [4]
    ++ (CString.ofLiteral "_tcp").bytes ++ [5] ++ (CString.ofLiteral "local").bytes
    ++ [0, 0, 33, 0, 1, 0, 0, 0, 60, 0, 9, 0, 0, 0, 0, 0xbb, 0x85, 1, 98, 0]

/-- An A record of `b`. -/
def addressBytes : List UInt8 := [1, 98, 0, 0, 1, 0, 1, 0, 0, 0, 60, 0, 4, 192, 0, 2, 1]

/-- The records behind these bytes. -/
def serviceAnswer : ResourceRecord :=
  .service (.copy 256 (.ofLiteral "pc._nvstream._tcp.local")) 48005 (.copy 256 (.ofLiteral "b"))

def addressAnswer : ResourceRecord := .address (.copy 256 (.ofLiteral "b")) ⟨192, 0, 2, 1⟩

theorem wellFormed_answers : WellFormedResponse [serviceAnswer, addressAnswer] where
  few := by decide +kernel
  oneService := by decide +kernel
  oneAddress := by
    intro owner port target member _
    obtain here | here := List.mem_cons.1 member
    · obtain ⟨rfl, rfl, rfl⟩ := ResourceRecord.service.inj here
      decide +kernel
    · exact absurd (List.mem_singleton.1 here) nofun

/-- The PTR record of that service. -/
def pointerBytes : List UInt8 :=
  (serviceBytes.drop 3).take 22 ++ [0, 12, 0, 1, 0, 0, 0, 60, 0, 25] ++ serviceBytes.take 25

/-- An SRV record of that service without a port. -/
def portlessBytes : List UInt8 := serviceBytes.take 39 ++ [0, 0, 1, 98, 0]

/-- An A record of `c`. -/
def otherAddressBytes : List UInt8 := [1, 99, 0, 0, 1, 0, 1, 0, 0, 0, 60, 0, 4, 192, 0, 2, 2]

/-- A response whose service has no port, with what belongs to it and the address of another host. -/
def portlessResponse : List UInt8 :=
  response [pointerBytes, portlessBytes, addressBytes, otherAddressBytes]

def portlessAnswers : List ResourceRecord :=
  [.pointer (.copy 256 (.ofLiteral "pc._nvstream._tcp.local")),
    .service (.copy 256 (.ofLiteral "pc._nvstream._tcp.local")) 0 (.copy 256 (.ofLiteral "b")),
    addressAnswer, .address (.copy 256 (.ofLiteral "c")) ⟨192, 0, 2, 2⟩]

/-- Its records are reported alike in each order. -/
theorem portless_service_in_each_order
    : packetRecords portlessResponse = some portlessAnswers
      ∧ ∀ (other : List ResourceRecord) (later : Nat → UInt32),
          other.Perm portlessAnswers
          → ∀ service,
              service ∈ (Sniffer.receive {} later other).found
              ↔ service ∈ (Sniffer.poll {} (fun _ => 0) portlessResponse).found := by
  have read : packetRecords portlessResponse = some portlessAnswers := by decide +kernel
  have wellFormed : WellFormedResponse portlessAnswers :=
    { few := by decide +kernel
      oneService := by decide +kernel
      oneAddress := by
        intro owner port target member _
        simp only [portlessAnswers, addressAnswer, List.mem_cons, reduceCtorEq, List.not_mem_nil,
          false_or, or_false] at member
        obtain ⟨rfl, rfl, rfl⟩ := ResourceRecord.service.inj member
        decide +kernel }
  refine ⟨read, (reports_independent_of_order_iff read wellFormed fun _ => 0).2 ?_⟩
  rintro ⟨record, member, reportable⟩
  simp only [portlessAnswers, addressAnswer, List.mem_cons, List.not_mem_nil, or_false] at member
  obtain rfl | rfl | rfl | rfl := member
  · exact reportable
  · exact absurd reportable.2.2 (by decide)
  · exact reportable
  · exact reportable

/-- The order matters: the same two records in one order are reported, in the other they are not. -/
theorem address_first_hides_service
    : ∃ (pkt later : List UInt8) (records other : List ResourceRecord),
        packetRecords pkt = some records
        ∧ packetRecords later = some other
        ∧ WellFormedResponse records
        ∧ other.Perm records
        ∧ (Sniffer.poll {} (fun _ => 0) pkt).found.length = 1
        ∧ (Sniffer.poll {} (fun _ => 0) later).found = [] := by
  refine ⟨response [serviceBytes, addressBytes], response [addressBytes, serviceBytes],
    [serviceAnswer, addressAnswer], [addressAnswer, serviceAnswer], ?_, ?_, wellFormed_answers,
    .swap _ _ _, ?_, ?_⟩
  all_goals decide +kernel

end VitaMoonlight
