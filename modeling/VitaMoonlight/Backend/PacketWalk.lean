import VitaMoonlight.Backend.DnsNames

/-! The sniffer's walk over a packet with every access checked and every position recorded: it stays
in the packet, and reads each question and record where the wire format puts it.
-/

namespace VitaMoonlight

open Library

-----------------------------------------------------------------------------------------
-- The walk
-----------------------------------------------------------------------------------------

/-- `readShort` with its accesses checked. -/
def readShortChecked (pkt : List UInt8) (position : Nat) : Except OutOfBounds Nat := do
  let high ← readByte pkt position
  let low ← readByte pkt (position + 1)
  return high.toNat * 256 + low.toNat

/-- `readName` with its accesses checked. -/
def readNameChecked (pkt : List UInt8) (position : Nat)
    : Except OutOfBounds (Option (Nat × CharArray 256)) := do
  let (result, out) ← decodeDnsName pkt position (.replicate 256 0)
  return if result < 0 then none else some (result.toNat, .copy 256 (.ofBytes out))

/-- `readAddress` with its accesses checked. -/
def readAddressChecked (pkt : List UInt8) (position : Nat) : Except OutOfBounds Ipv4 := do
  let a ← readByte pkt position
  let b ← readByte pkt (position + 1)
  let c ← readByte pkt (position + 2)
  let d ← readByte pkt (position + 3)
  return { a, b, c, d }

/-- `readData` with its accesses checked. -/
def readDataChecked (pkt : List UInt8) (owner : CharArray 256) (type rdlength position : Nat)
    : Except OutOfBounds (Option ResourceRecord) :=
  if type = 12 then do
    match ← readNameChecked pkt position with
    | none => return none
    | some (length, name) => return if length > rdlength then none else some (.pointer name)
  else if type = 33 ∧ rdlength ≥ 6 then do
    let port ← readShortChecked pkt (position + 4)
    match ← readNameChecked pkt (position + 6) with
    | none => return none
    | some (length, target) =>
        return if length > rdlength - 6 then none else some (.service owner port target)
  else if type = 1 ∧ rdlength = 4 then do
    let address ← readAddressChecked pkt position
    return some (.address owner address)
  else return some .other

/-- A record that was read, and where its data stands. -/
structure RecordRead where
  start : Nat
  rdlength : Nat
  record : ResourceRecord
deriving DecidableEq

/-- `readRecord` with its accesses checked. -/
def readRecordChecked (pkt : List UInt8) (position : Nat)
    : Except OutOfBounds (Option RecordRead) := do
  match ← readNameChecked pkt position with
  | none => return none
  | some (length, owner) =>
      if position + length + 10 > pkt.length then return none
      else
        let type ← readShortChecked pkt (position + length)
        let rdlength ← readShortChecked pkt (position + length + 8)
        let start := position + length + 10
        if rdlength > pkt.length - start then return none
        else
          let record ← readDataChecked pkt owner type rdlength start
          return record.map fun record => { start, rdlength, record }

/-- A record that the walk came to, and what it read there, which it then acted on. -/
structure RecordVisit where
  position : Nat
  read : Option RecordRead
deriving DecidableEq

/-- The questions and records that the walk came to, one after the other. -/
structure PacketVisits where
  questions : List Nat := []
  records : List RecordVisit := []
deriving DecidableEq

/-- `skipQuestions`, with the positions of the questions. -/
def walkQuestions (pkt : List UInt8) : Nat → Nat → Except OutOfBounds (List Nat × Option Nat)
  | 0, position => .ok ([], some position)
  | count + 1, position =>
      if position < pkt.length then do
        match ← readNameChecked pkt position with
        | none => return ([position], none)
        | some (length, _) =>
            if position + length + 4 > pkt.length then return ([position], none)
            else
              let (later, rest) ← walkQuestions pkt count (position + length + 4)
              return (position :: later, rest)
      else .ok ([], some position)

/-- `recordLoop`, with the records it came to. -/
def walkRecords (pkt : List UInt8) (clock : Nat → UInt32) (index : Nat)
    : Nat → Nat → SunshineTable → Except OutOfBounds (List RecordVisit × SunshineTable × Bool)
  | 0, _, table => .ok ([], table, true)
  | count + 1, position, table =>
      if position < pkt.length then do
        match ← readRecordChecked pkt position with
        | none => return ([⟨position, none⟩], table, false)
        | some read =>
            let (later, rest) ←
              walkRecords pkt clock (index + 1) count (read.start + read.rdlength)
                (table.apply (clock index) read.record)
            return (⟨position, some read⟩ :: later, rest)
      else .ok ([], table, true)

/-- `udp_sniffer_vita_poll` with every access checked, and what it came to. -/
def Sniffer.walk (sniffer : Sniffer) (clock : Nat → UInt32) (pkt : List UInt8)
    : Except OutOfBounds (PacketVisits × Sniffer) :=
  if pkt.length > 12 then do
    let questions ← readShortChecked pkt 4
    let answers ← readShortChecked pkt 6
    let authorities ← readShortChecked pkt 8
    let additional ← readShortChecked pkt 10
    let (visited, rest) ← walkQuestions pkt questions 12
    match rest with
    | none => return ({ questions := visited }, sniffer)
    | some position =>
        let (records, table, complete) ←
          walkRecords pkt clock 0 (answers + authorities + additional) position sniffer.table
        let stored := { sniffer with table }
        let polled := if complete then stored.checkAndPrintReadyEntries else stored
        return ({ questions := visited, records }, polled)
  else .ok ({}, sniffer)

-----------------------------------------------------------------------------------------
-- The wire format
-----------------------------------------------------------------------------------------

/-- How many questions the header of a packet announces. -/
def questionCount (pkt : List UInt8) : Nat := readShort pkt 4

/-- Where the wire format puts the questions and, behind them, the records of a packet: behind the
header, each behind the name, the fixed fields and the data of the one before.
-/
inductive WireOffset (pkt : List UInt8) : Nat → Nat → Prop
  | first : WireOffset pkt 0 12
  | question {index position length : Nat} {text : List UInt8}
    (here : WireOffset pkt index position) (counted : index < questionCount pkt)
    (name : NameAt pkt position text length)
    : WireOffset pkt (index + 1) (position + length + 4)
  | record {index position length : Nat} {text : List UInt8}
    (here : WireOffset pkt index position) (behind : questionCount pkt ≤ index)
    (name : NameAt pkt position text length)
    : WireOffset pkt (index + 1)
        (position + length + 10 + readShort pkt (position + length + 8))

/-- The encoding of a name has one length. -/
theorem EncodedName.length_unique {msg : List UInt8} {pos : Nat} {path other : List Nat}
    {labels words : List (List UInt8)} {length size : Nat}
    (name : EncodedName msg pos path labels length) (again : EncodedName msg pos other words size)
    : length = size := by
  induction name generalizing other words size with
  | finish zero =>
      cases again with
      | finish => rfl
      | label here nonzero => exact absurd (Option.some.inj (here.symm.trans zero)) nonzero
      | pointer here marked =>
          obtain rfl := Option.some.inj (here.symm.trans zero)
          exact absurd marked (by decide)
  | label here nonzero short _ _ ih =>
      cases again with
      | finish zero => exact absurd (Option.some.inj (here.symm.trans zero)) nonzero
      | label same _ _ _ rest =>
          obtain rfl := Option.some.inj (here.symm.trans same)
          rw [ih rest]
      | pointer same marked =>
          obtain rfl := Option.some.inj (here.symm.trans same)
          omega
  | pointer here marked =>
      cases again with
      | finish zero =>
          obtain rfl := Option.some.inj (here.symm.trans zero)
          exact absurd marked (by decide)
      | label same _ short =>
          obtain rfl := Option.some.inj (here.symm.trans same)
          omega
      | pointer => rfl

theorem NameAt.length_unique {msg text other : List UInt8} {offset : Int} {length size : Nat}
    (name : NameAt msg offset text length) (again : NameAt msg offset other size)
    : length = size := by
  obtain ⟨pos, _, _, rfl, encoded, -, -⟩ := name
  obtain ⟨start, _, _, same, encodedAgain, -, -⟩ := again
  obtain rfl := Int.ofNat.inj same
  exact encoded.length_unique encodedAgain

/-- The wire format puts each question and record at one place. -/
theorem WireOffset.unique {pkt : List UInt8} {index position other : Nat}
    (here : WireOffset pkt index position) (there : WireOffset pkt index other)
    : position = other := by
  induction here generalizing other with
  | first =>
      cases there with
      | first => rfl
  | question _ counted name ih =>
      cases there with
      | question here _ same =>
          obtain rfl := ih here
          rw [name.length_unique same]
      | record _ behind => omega
  | record _ behind name ih =>
      cases there with
      | question _ counted => omega
      | record here _ same =>
          obtain rfl := ih here
          rw [name.length_unique same]

/-- The data of a record that was read ends in the packet, and has room for its fixed fields and the
encoding of its name.
-/
structure RecordRead.Contained (pkt : List UInt8) (read : RecordRead) : Prop where
  inside : read.start + read.rdlength ≤ pkt.length
  pointer
    : ∀ name,
        read.record = .pointer name
        → ∃ text length, NameAt pkt read.start text length ∧ length ≤ read.rdlength
  service
    : ∀ owner port target,
        read.record = .service owner port target
        → ∃ text length,
            NameAt pkt (read.start + 6 : Nat) text length ∧ 6 + length ≤ read.rdlength
  address : ∀ owner address, read.record = .address owner address → read.rdlength = 4

-----------------------------------------------------------------------------------------
-- Accesses
-----------------------------------------------------------------------------------------

variable {pkt : List UInt8}

theorem readByte_of_lt {position : Nat} (inside : position < pkt.length)
    : readByte pkt position = .ok (pkt.getD position 0) := by
  rw [readByte, List.getElem?_eq_getElem inside, List.getD_eq_getElem?_getD,
    List.getElem?_eq_getElem inside]
  rfl

theorem readShortChecked_of_lt {position : Nat} (inside : position + 1 < pkt.length)
    : readShortChecked pkt position = .ok (readShort pkt position) := by
  rw [readShortChecked, readByte_of_lt inside, readByte_of_lt (by omega)]
  rfl

/-- A length that the decoder returns is the length of the name at its offset. -/
theorem nameAt_of_decoded {out after : List UInt8} {offset result : Int}
    (returned : decodeDnsName pkt offset out = .ok (result, after)) (success : ¬ result < 0)
    : ∃ text, NameAt pkt offset text result.toNat := by
  obtain ⟨_, _, again, -, sound⟩ := decodeDnsName_returns pkt offset out
  obtain ⟨rfl, rfl⟩ := Prod.ext_iff.1 (Except.ok.inj (again.symm.trans returned))
  obtain ⟨text, length, here, fits⟩ := sound fun failed => success (by omega)
  have same := returned.symm.trans (decodeDnsName_name here fits)
  obtain ⟨rfl, -⟩ := Prod.ext_iff.1 (Except.ok.inj same)
  exact ⟨text, here⟩

/-- Reading a name stays in the packet, and what is read is the name there. -/
theorem readNameChecked_spec (pkt : List UInt8) (position : Nat)
    : readNameChecked pkt position = .ok (readName pkt position)
      ∧ ∀ length name,
          readName pkt position = some (length, name)
          → ∃ text, NameAt pkt position text length := by
  obtain ⟨result, after, returned, -⟩ := decodeDnsName_returns pkt position (.replicate 256 0)
  unfold readNameChecked readName
  rw [returned]
  refine ⟨rfl, ?_⟩
  intro length name read
  dsimp only at read
  split at read
  · cases read
  · rename_i success
    obtain ⟨rfl, -⟩ := Prod.ext_iff.1 (Option.some.inj read)
    exact nameAt_of_decoded returned success

/-- Reading the data of a record stays in it. -/
theorem readDataChecked_spec (owner : CharArray 256) (type : Nat) {rdlength position : Nat}
    (inside : position + rdlength ≤ pkt.length)
    : readDataChecked pkt owner type rdlength position
        = .ok (readData pkt owner type rdlength position)
      ∧ ∀ record,
          readData pkt owner type rdlength position = some record
          → RecordRead.Contained pkt { start := position, rdlength, record } := by
  unfold readDataChecked readData
  by_cases pointer : type = 12
  · rw [if_pos pointer, if_pos pointer]
    obtain ⟨checked, named⟩ := readNameChecked_spec pkt position
    rw [checked]
    cases read : readName pkt position with
    | none => exact ⟨rfl, by simp⟩
    | some found =>
        obtain ⟨length, name⟩ := found
        refine ⟨rfl, ?_⟩
        intro record stored
        dsimp only at stored
        split at stored
        · cases stored
        · rename_i short
          obtain rfl := Option.some.inj stored
          obtain ⟨text, here⟩ := named length name read
          exact
            { inside, pointer := fun _ _ => ⟨text, length, here, Nat.not_lt.1 short⟩
              service := by simp, address := by simp }
  rw [if_neg pointer, if_neg pointer]
  by_cases service : type = 33 ∧ rdlength ≥ 6
  · have fixed := service.2
    rw [if_pos service, if_pos service, readShortChecked_of_lt (by omega)]
    obtain ⟨checked, named⟩ := readNameChecked_spec pkt (position + 6)
    rw [checked]
    cases read : readName pkt (position + 6) with
    | none => exact ⟨rfl, by simp⟩
    | some found =>
        obtain ⟨length, target⟩ := found
        refine ⟨rfl, ?_⟩
        intro record stored
        dsimp only at stored
        split at stored
        · cases stored
        · rename_i short
          obtain rfl := Option.some.inj stored
          obtain ⟨text, here⟩ := named length target read
          exact
            { inside, pointer := by simp
              service := fun _ _ _ _ => ⟨text, length, here, by dsimp only; omega⟩
              address := by simp }
  rw [if_neg service, if_neg service]
  by_cases address : type = 1 ∧ rdlength = 4
  · have four := address.2
    rw [if_pos address, if_pos address]
    constructor
    · rw [readAddressChecked, readByte_of_lt (by omega), readByte_of_lt (by omega),
        readByte_of_lt (by omega), readByte_of_lt (by omega)]
      rfl
    · intro record stored
      obtain rfl := Option.some.inj stored
      exact { inside, pointer := by simp, service := by simp, address := fun _ _ _ => four }
  · rw [if_neg address, if_neg address]
    refine ⟨rfl, ?_⟩
    intro record stored
    obtain rfl := Option.some.inj stored
    exact { inside, pointer := by simp, service := by simp, address := by simp }

/-- A record that was read at a position stands there in the wire format. -/
structure RecordRead.StandsAt (pkt : List UInt8) (position : Nat) (read : RecordRead) : Prop where
  contained : read.Contained pkt
  next
    : ∃ text length,
        NameAt pkt position text length
        ∧ read.start + read.rdlength
          = position + length + 10 + readShort pkt (position + length + 8)

/-- Reading a record stays in the packet. -/
theorem readRecordChecked_spec (pkt : List UInt8) (position : Nat)
    : ∃ read : Option RecordRead,
        readRecordChecked pkt position = .ok read
        ∧ readRecord pkt position
          = read.map (fun read => (read.record, read.start + read.rdlength))
        ∧ ∀ found, read = some found → found.StandsAt pkt position := by
  unfold readRecordChecked readRecord
  obtain ⟨checked, named⟩ := readNameChecked_spec pkt position
  rw [checked]
  cases read : readName pkt position with
  | none => exact ⟨none, rfl, rfl, by simp⟩
  | some found =>
      obtain ⟨length, owner⟩ := found
      obtain ⟨text, name⟩ := named length owner read
      simp only [bind, Except.bind]
      by_cases short : position + length + 10 > pkt.length
      · rw [if_pos short, if_pos short]
        exact ⟨none, rfl, rfl, by simp⟩
      · rw [if_neg short, if_neg short, readShortChecked_of_lt (by omega),
          readShortChecked_of_lt (by omega)]
        dsimp only
        by_cases long
            : readShort pkt (position + length + 8) > pkt.length - (position + length + 10)
        · rw [if_pos long, if_pos long]
          exact ⟨none, rfl, rfl, by simp⟩
        · obtain ⟨data, contained⟩ :=
            readDataChecked_spec owner (readShort pkt (position + length))
              (show position + length + 10 + readShort pkt (position + length + 8) ≤ pkt.length by
                omega)
          rw [if_neg long, if_neg long, data]
          refine ⟨_, rfl, ?_, ?_⟩
          · rw [Option.map_map]
            rfl
          · intro found here
            obtain ⟨record, stored, rfl⟩ := Option.map_eq_some_iff.1 here
            exact ⟨contained record stored, text, length, name, rfl⟩

-----------------------------------------------------------------------------------------
-- The loops
-----------------------------------------------------------------------------------------

/-- The questions come one after the other from an index on. -/
def QuestionsStand (pkt : List UInt8) (index : Nat) (questions : List Nat) : Prop :=
  ∀ k position, questions[k]? = some position → WireOffset pkt (index + k) position

/-- The records come one after the other from an index on, and act on what lies in their data. -/
def RecordsStand (pkt : List UInt8) (index : Nat) (records : List RecordVisit) : Prop :=
  ∀ k visit,
    records[k]? = some visit
    → WireOffset pkt (index + k) visit.position
      ∧ ∀ read, visit.read = some read → read.StandsAt pkt visit.position

theorem QuestionsStand.cons {index position : Nat} {later : List Nat}
    (here : WireOffset pkt index position) (stand : QuestionsStand pkt (index + 1) later)
    : QuestionsStand pkt index (position :: later) := by
  intro k other found
  cases k with
  | zero =>
      obtain rfl := Option.some.inj found
      exact here
  | succ k =>
      rw [show index + (k + 1) = index + 1 + k by omega]
      exact stand k other found

theorem RecordsStand.cons {index : Nat} {visit : RecordVisit} {later : List RecordVisit}
    (here : WireOffset pkt index visit.position)
    (reads : ∀ read, visit.read = some read → read.StandsAt pkt visit.position)
    (stand : RecordsStand pkt (index + 1) later)
    : RecordsStand pkt index (visit :: later) := by
  intro k other found
  cases k with
  | zero =>
      obtain rfl := Option.some.inj found
      exact ⟨here, reads⟩
  | succ k =>
      rw [show index + (k + 1) = index + 1 + k by omega]
      exact stand k other found

set_option maxRecDepth 4000 in
theorem skipQuestions_succ (count position : Nat)
    : skipQuestions pkt (count + 1) position
      = if position < pkt.length then
          match readName pkt position with
          | none => none
          | some (length, _) =>
              if position + length + 4 > pkt.length then none
              else skipQuestions pkt count (position + length + 4)
        else some position :=
  rfl

/-- The loop over the questions stays in the packet and comes to each question where it stands, by
induction on how many are left.
-/
theorem walkQuestions_spec (count : Nat)
    : ∀ {index position : Nat},
        WireOffset pkt index position
        → index + count = questionCount pkt
        → ∃ visited,
            walkQuestions pkt count position = .ok (visited, skipQuestions pkt count position)
            ∧ QuestionsStand pkt index visited
            ∧ ∀ after,
                skipQuestions pkt count position = some after
                → after < pkt.length
                → WireOffset pkt (questionCount pkt) after := by
  induction count with
  | zero =>
      intro index position here all
      refine ⟨[], rfl, fun k other found => by simp at found, ?_⟩
      intro after same _
      obtain rfl := Option.some.inj same
      exact all ▸ here
  | succ count ih =>
      intro index position here all
      rw [walkQuestions, skipQuestions_succ]
      by_cases inside : position < pkt.length
      · rw [if_pos inside, if_pos inside]
        have alone : QuestionsStand pkt index [position] :=
          .cons here fun k other found => by simp at found
        obtain ⟨checked, named⟩ := readNameChecked_spec pkt position
        rw [checked]
        cases read : readName pkt position with
        | none => exact ⟨[position], rfl, alone, by simp⟩
        | some found =>
            obtain ⟨length, name⟩ := found
            obtain ⟨text, name⟩ := named length name read
            simp only [bind, Except.bind]
            by_cases short : position + length + 4 > pkt.length
            · rw [if_pos short, if_pos short]
              exact ⟨[position], rfl, alone, by simp⟩
            · obtain ⟨visited, walked, stand, behind⟩ :=
                ih (.question here (by omega) name) (by omega)
              rw [if_neg short, if_neg short, walked]
              exact ⟨position :: visited, rfl, .cons here stand, behind⟩
      · rw [if_neg inside, if_neg inside]
        refine ⟨[], rfl, fun k other found => by simp at found, ?_⟩
        intro after same lower
        obtain rfl := Option.some.inj same
        exact absurd lower inside

/-- The loop over the records stays in the packet and comes to each record where it stands, by
induction on how many are left.
-/
theorem walkRecords_spec (clock : Nat → UInt32) (count : Nat)
    : ∀ {index place position : Nat} (table : SunshineTable),
        (position < pkt.length → WireOffset pkt place position)
        → questionCount pkt ≤ place
        → ∃ visits,
            walkRecords pkt clock index count position table
            = .ok (visits, recordLoop pkt clock index count position table)
            ∧ RecordsStand pkt place visits := by
  induction count with
  | zero =>
      intro index place position table here behind
      exact ⟨[], rfl, fun k visit found => by simp at found⟩
  | succ count ih =>
      intro index place position table here behind
      unfold walkRecords recordLoop
      by_cases inside : position < pkt.length
      · rw [if_pos inside, if_pos inside]
        obtain ⟨read, checked, plain, stands⟩ := readRecordChecked_spec pkt position
        rw [checked, plain]
        simp only [bind, Except.bind]
        cases read with
        | none =>
            refine ⟨[⟨position, none⟩], rfl, .cons (here inside) (by simp) ?_⟩
            exact fun k visit found => by simp at found
        | some read =>
            obtain ⟨contained, text, length, name, next⟩ := stands read rfl
            have later : WireOffset pkt (place + 1) (read.start + read.rdlength) :=
              next ▸ .record (here inside) behind name
            obtain ⟨visits, walked, stand⟩ :=
              @ih (index + 1) (place + 1) (read.start + read.rdlength)
                (table.apply (clock index) read.record) (fun _ => later) (by omega)
            dsimp only
            rw [walked]
            refine ⟨⟨position, some read⟩ :: visits, rfl, .cons (here inside) ?_ stand⟩
            intro same found
            obtain rfl := Option.some.inj found
            exact stands read rfl
      · rw [if_neg inside, if_neg inside]
        exact ⟨[], rfl, fun k visit found => by simp at found⟩

-----------------------------------------------------------------------------------------
-- The packet
-----------------------------------------------------------------------------------------

/-- The sniffer stays in every packet. It comes to each question and record at the one place where
the wire format puts it, and acts on a record only if its fixed fields and its name lie in its data.
-/
theorem packet_walk_aligned (sniffer : Sniffer) (clock : Nat → UInt32) (pkt : List UInt8)
    : ∃ visits,
        sniffer.walk clock pkt = .ok (visits, sniffer.poll clock pkt)
        ∧ (∀ k position,
            visits.questions[k]? = some position
            → ∀ place, WireOffset pkt k place ↔ place = position)
        ∧ (∀ k visit,
            visits.records[k]? = some visit
            → ∀ place, WireOffset pkt (questionCount pkt + k) place ↔ place = visit.position)
        ∧ ∀ visit ∈ visits.records,
            ∀ read, visit.read = some read → read.Contained pkt := by
  have only
      : ∀ {index position : Nat},
          WireOffset pkt index position → ∀ place, WireOffset pkt index place ↔ place = position := by
    intro index position here place
    exact ⟨fun there => there.unique here, fun same => same ▸ here⟩
  have spec
      : ∃ visits,
          sniffer.walk clock pkt = .ok (visits, sniffer.poll clock pkt)
          ∧ QuestionsStand pkt 0 visits.questions
          ∧ RecordsStand pkt (questionCount pkt) visits.records := by
    have noQuestions : ∀ index, QuestionsStand pkt index [] :=
      fun index k position found => by simp at found
    have noRecords : ∀ index, RecordsStand pkt index [] :=
      fun index k visit found => by simp at found
    unfold Sniffer.walk Sniffer.poll
    by_cases header : pkt.length > 12
    · rw [if_pos header, if_pos header, readShortChecked_of_lt (by omega),
        readShortChecked_of_lt (by omega), readShortChecked_of_lt (by omega),
        readShortChecked_of_lt (by omega)]
      obtain ⟨visited, walked, stand, behind⟩ :=
        walkQuestions_spec (readShort pkt 4) (WireOffset.first : WireOffset pkt 0 12)
          (Nat.zero_add _)
      simp only [bind, Except.bind]
      rw [walked]
      cases skipped : skipQuestions pkt (readShort pkt 4) 12 with
      | none => exact ⟨{ questions := visited }, rfl, stand, noRecords _⟩
      | some position =>
          obtain ⟨records, recorded, stands⟩ :=
            @walkRecords_spec pkt clock
              (readShort pkt 6 + readShort pkt 8 + readShort pkt 10) 0 (questionCount pkt) position
              sniffer.table (behind position skipped) (Nat.le_refl _)
          dsimp only
          rw [recorded]
          exact ⟨{ questions := visited, records }, rfl, stand, stands⟩
    · rw [if_neg header, if_neg header]
      exact ⟨{}, rfl, noQuestions 0, noRecords _⟩
  obtain ⟨visits, walked, questions, records⟩ := spec
  refine ⟨visits, walked, ?_, ?_, ?_⟩
  · intro k position found
    have here := questions k position found
    rw [Nat.zero_add] at here
    exact only here
  · intro k visit found
    exact only (records k visit found).1
  · intro visit member read found
    obtain ⟨k, here⟩ := List.getElem?_of_mem member
    exact ((records k visit here).2 read found).contained

end VitaMoonlight
