import VitaMoonlight.Library.CText

/-! The mDNS sniffer (`backend/legacy/mdns/udp_sniffer_vita.c`): the decoder of names, the table in
which the records of a response are joined, and the loop over a packet.
-/

namespace VitaMoonlight

open Library Library.CText

/-- An access behind the end of an array. -/
inductive OutOfBounds
  | read
  | write
deriving DecidableEq

/-- `msg[position]`. -/
def readByte (msg : List UInt8) (position : Nat) : Except OutOfBounds UInt8 :=
  match msg[position]? with
  | some c => .ok c
  | none => .error .read

/-- `out[position] = c`. -/
def writeByte (out : List UInt8) (position : Nat) (c : UInt8) : Except OutOfBounds (List UInt8) :=
  if position < out.length then .ok (out.set position c) else .error .write

/-- `memcpy(out + position, msg + start, count)`. -/
def copyBytes (out : List UInt8) (position : Nat) (msg : List UInt8) (start count : Nat)
    : Except OutOfBounds (List UInt8) :=
  if start + count > msg.length then .error .read
  else if position + count > out.length then .error .write
  else
    .ok (out.take position ++ (msg.drop start).take count ++ out.drop (position + count))

-----------------------------------------------------------------------------------------
-- Names
-----------------------------------------------------------------------------------------

/-- The variables of `decode_dns_name`, without the step counter. -/
structure NameDecoder where
  out : List UInt8
  consumed : Nat := 0
  jumped : Bool := false
  pos : Nat
  outpos : Nat := 0
deriving DecidableEq

/-- What one pass of the loop in `decode_dns_name` does. -/
inductive NameStep
  | returned (result : Int) (out : List UInt8)
  | continued (decoder : NameDecoder)
deriving DecidableEq

/-- The position in a compression pointer with these bytes. -/
def pointerTarget (high low : UInt8) : Nat := (high &&& 0x3f).toNat * 256 + low.toNat

/-- The writes of a label in `decode_dns_name`: a dot where a label precedes it, its bytes and a
terminator.
-/
def storeLabel (out : List UInt8) (outpos separator : Nat) (msg : List UInt8) (start count : Nat)
    : Except OutOfBounds (List UInt8) := do
  let dotted ← if separator = 1 then writeByte out outpos 46 else pure out
  let copied ← copyBytes dotted (outpos + separator) msg start count
  writeByte copied (outpos + separator + count) 0

/-- The body of the loop in `decode_dns_name`. -/
def decodeStep (msg : List UInt8) (decoder : NameDecoder) : Except OutOfBounds NameStep := do
  let pos := decoder.pos
  let c ← readByte msg pos
  if c = 0 then
    let result := if decoder.jumped then decoder.consumed else decoder.consumed + 1
    return .returned result decoder.out
  else if c &&& 0xc0 = 0xc0 then
    if pos + 1 ≥ msg.length then return .returned (-1) decoder.out
    else
      let low ← readByte msg (pos + 1)
      let ptr := pointerTarget c low
      if ptr ≥ msg.length then return .returned (-1) decoder.out
      else
        let consumed := if decoder.jumped then decoder.consumed else decoder.consumed + 2
        return .continued { decoder with consumed, pos := ptr, jumped := true }
  else if c &&& 0xc0 ≠ 0 ∨ c.toNat > msg.length - pos - 1 then
    return .returned (-1) decoder.out
  else
    let separator := if decoder.outpos ≠ 0 then 1 else 0
    if c.toNat + separator ≥ decoder.out.length - decoder.outpos then
      return .returned (-1) decoder.out
    else
      let out ← storeLabel decoder.out decoder.outpos separator msg (pos + 1) c.toNat
      let outpos := decoder.outpos + separator + c.toNat
      let consumed :=
        if decoder.jumped then decoder.consumed else decoder.consumed + c.toNat + 1
      return .continued { decoder with out, consumed, outpos, pos := pos + c.toNat + 1 }

/-- The loop in `decode_dns_name`, with how many steps it may still take. -/
def decodeLoop (msg : List UInt8) : Nat → NameDecoder → Except OutOfBounds (Int × List UInt8)
  | 0, decoder => .ok (-1, decoder.out)
  | steps + 1, decoder =>
      if decoder.pos < msg.length then
        match decodeStep msg decoder with
        | .error access => .error access
        | .ok (.returned result out) => .ok (result, out)
        | .ok (.continued after) => decodeLoop msg steps after
      else .ok (-1, decoder.out)

/-- `decode_dns_name`, with what it leaves in the output, whose length is the capacity. -/
def decodeDnsName (msg : List UInt8) (offset : Int) (out : List UInt8)
    : Except OutOfBounds (Int × List UInt8) := do
  if out.length = 0 ∨ offset < 0 ∨ offset ≥ msg.length then return (-1, out)
  else
    let cleared ← writeByte out 0 0
    decodeLoop msg msg.length { out := cleared, pos := offset.toNat }

-----------------------------------------------------------------------------------------
-- Services
-----------------------------------------------------------------------------------------

/-- `struct sunshine_entry`. -/
structure SunshineEntry where
  host : CharArray 256 := .empty
  port : Nat := 0
  lastSeen : UInt32 := 0
  ip : CharArray 16 := .empty
  target : CharArray 256 := .empty
deriving DecidableEq

/-- `MAX_SUNSHINE`. -/
def maxSunshine : Nat := 16

/-- `sunshine_table`. -/
structure SunshineTable where
  entries : List SunshineEntry
  size : entries.length = maxSunshine
deriving DecidableEq

namespace SunshineTable

/-- The table as `udp_sniffer_vita_init` clears it. -/
def empty : SunshineTable := ⟨.replicate maxSunshine {}, List.length_replicate⟩

/-- An entry stored anew. -/
def set (table : SunshineTable) (index : Nat) (entry : SunshineEntry) : SunshineTable :=
  ⟨table.entries.set index entry, by rw [List.length_set, table.size]⟩

/-- An entry for another service: the first free one, otherwise the oldest one that is older than
`oldest`.
-/
def reusableEntry (oldest : UInt32) (chosen : Option Nat) (index : Nat)
    : List SunshineEntry → Option Nat
  | [] => chosen
  | entry :: rest =>
      if entry.host.isEmpty then some index
      else if entry.lastSeen < oldest then
        reusableEntry entry.lastSeen (some index) (index + 1) rest
      else reusableEntry oldest chosen (index + 1) rest

/-- What `update_sunshine` stores of a service in its entry. -/
def updated (entry : SunshineEntry) (now : UInt32) (port : Nat) (target : CharArray 256)
    : SunshineEntry :=
  { entry with
    port := if port > 0 then port else entry.port
    target := if target.isEmpty then entry.target else target
    lastSeen := now }

/-- `update_sunshine`, at the time `now`; a missing target is an empty one. -/
def updateSunshine (table : SunshineTable) (now : UInt32) (host : CharArray 256) (port : Nat)
    (target : CharArray 256)
    : SunshineTable :=
  match table.entries.findIdx? (fun entry => entry.host = host) with
  | some index => table.set index (updated (table.entries.getD index {}) now port target)
  | none =>
      match reusableEntry now none 0 table.entries with
      | some index => table.set index (updated { host } now port target)
      | none => table

/-- `update_sunshine_ip_by_target`, at the time `now`. -/
def updateSunshineIpByTarget (table : SunshineTable) (now : UInt32) (target : CharArray 256)
    (ip : CharArray 16)
    : SunshineTable :=
  match
    table.entries.findIdx? (fun entry => entry.target = target ∧ ¬ entry.host.isEmpty) with
  | some index =>
      table.set index { table.entries.getD index {} with ip, lastSeen := now }
  | none => table

end SunshineTable

/-- What the callback learns of a service. -/
structure FoundService where
  host : CharArray 256
  target : CharArray 256
  ip : CharArray 16
  port : Nat
deriving DecidableEq

/-- The test in `check_and_print_ready_entries_vita`. -/
def SunshineEntry.ready (entry : SunshineEntry) : Bool :=
  !entry.host.isEmpty && !entry.target.isEmpty && !entry.ip.isEmpty && entry.port > 0

def SunshineEntry.found (entry : SunshineEntry) : FoundService :=
  { host := entry.host, target := entry.target, ip := entry.ip, port := entry.port }

/-- An entry after it was reported. -/
def SunshineEntry.cleared (entry : SunshineEntry) : SunshineEntry :=
  if entry.ready then { lastSeen := entry.lastSeen } else entry

/-- `sunshine_table` and `moonlight_count`, with the calls of the callback so far. -/
structure Sniffer where
  table : SunshineTable := .empty
  moonlightCount : Nat := 0
  callbacks : List (Nat × FoundService) := []
deriving DecidableEq

namespace Sniffer

/-- `check_and_print_ready_entries_vita`. -/
def checkAndPrintReadyEntries (sniffer : Sniffer) : Sniffer :=
  let ready := sniffer.table.entries.filter SunshineEntry.ready
  { table := ⟨sniffer.table.entries.map SunshineEntry.cleared, by simp [sniffer.table.size]⟩
    moonlightCount := sniffer.moonlightCount + ready.length
    callbacks :=
      sniffer.callbacks
        ++ (ready.map SunshineEntry.found).zipIdx.map fun (found, index) =>
          (sniffer.moonlightCount + index + 1, found) }

end Sniffer

-----------------------------------------------------------------------------------------
-- Packets
-----------------------------------------------------------------------------------------

/-- The four bytes of an address. -/
structure Ipv4 where
  a : UInt8
  b : UInt8
  c : UInt8
  d : UInt8
deriving DecidableEq

/-- The address as `"%u.%u.%u.%u"` prints it. -/
def Ipv4.print (address : Ipv4) : CharArray 16 :=
  .copy 16
    (.ofBytes
      (decimal address.a.toNat ++ 46 :: decimal address.b.toNat ++ 46 :: decimal address.c.toNat
        ++ 46 :: decimal address.d.toNat))

/-- What the loop in `udp_sniffer_vita_poll` reads of a record. -/
inductive ResourceRecord
  | pointer (name : CharArray 256)
  | service (owner : CharArray 256) (port : Nat) (target : CharArray 256)
  | address (owner : CharArray 256) (address : Ipv4)
  | other
deriving DecidableEq

/-- `"_nvstream._tcp.local"`. -/
def serviceType : CString := .ofLiteral "_nvstream._tcp.local"

/-- `"._nvstream._tcp.local"`. -/
def serviceSuffix : CString := .ofLiteral "._nvstream._tcp.local"

/-- `strstr(name, "_nvstream._tcp.local") != NULL`. -/
def namesServiceType (name : CharArray 256) : Bool :=
  name.text.bytes.tails.any fun rest => serviceType.bytes.isPrefixOf rest

/-- The owner of an SRV record is a service of this type. -/
def isServiceName (name : CharArray 256) : Bool :=
  name.text.length > serviceSuffix.length && serviceSuffix.bytes.isSuffixOf name.text.bytes

/-- What a record does to the table. -/
def SunshineTable.apply (table : SunshineTable) (now : UInt32) : ResourceRecord → SunshineTable
  | .pointer name =>
      if namesServiceType name then table.updateSunshine now name 0 .empty else table
  | .service owner port target =>
      if isServiceName owner ∧ ¬ target.isEmpty then table.updateSunshine now owner port target
      else table
  | .address owner address => table.updateSunshineIpByTarget now owner address.print
  | .other => table

/-- `(pkt[position] << 8) | pkt[position + 1]`. -/
def readShort (pkt : List UInt8) (position : Nat) : Nat :=
  (pkt.getD position 0).toNat * 256 + (pkt.getD (position + 1) 0).toNat

/-- A name decoded into an array of 256 bytes, and its encoded length. -/
def readName (pkt : List UInt8) (position : Nat) : Option (Nat × CharArray 256) :=
  match decodeDnsName pkt position (.replicate 256 0) with
  | .ok (result, out) =>
      if result < 0 then none else some (result.toNat, .copy 256 (.ofBytes out))
  | .error _ => none

/-- The four bytes at a position. -/
def readAddress (pkt : List UInt8) (position : Nat) : Ipv4 :=
  { a := pkt.getD position 0
    b := pkt.getD (position + 1) 0
    c := pkt.getD (position + 2) 0
    d := pkt.getD (position + 3) 0 }

/-- The data of a record with this owner, or none where the packet is left. -/
def readData (pkt : List UInt8) (owner : CharArray 256) (type rdlength position : Nat)
    : Option ResourceRecord :=
  if type = 12 then
    match readName pkt position with
    | none => none
    | some (length, name) => if length > rdlength then none else some (.pointer name)
  else if type = 33 ∧ rdlength ≥ 6 then
    match readName pkt (position + 6) with
    | none => none
    | some (length, target) =>
        if length > rdlength - 6 then none
        else some (.service owner (readShort pkt (position + 4)) target)
  else if type = 1 ∧ rdlength = 4 then some (.address owner (readAddress pkt position))
  else some .other

/-- One record and the position behind it, or none where the packet is left. -/
def readRecord (pkt : List UInt8) (position : Nat) : Option (ResourceRecord × Nat) :=
  match readName pkt position with
  | none => none
  | some (length, owner) =>
      if position + length + 10 > pkt.length then none
      else
        let start := position + length
        let rdlength := readShort pkt (start + 8)
        if rdlength > pkt.length - (start + 10) then none
        else
          (readData pkt owner (readShort pkt start) rdlength (start + 10)).map fun record =>
            (record, start + 10 + rdlength)

/-- The position behind the questions, or none where the packet is left. -/
def skipQuestions (pkt : List UInt8) : Nat → Nat → Option Nat
  | 0, position => some position
  | count + 1, position =>
      if position < pkt.length then
        match readName pkt position with
        | none => none
        | some (length, _) =>
            if position + length + 4 > pkt.length then none
            else skipQuestions pkt count (position + length + 4)
      else some position

/-- The loop over the records, and whether it ran to its end; `clock` gives the time at which each
record is stored.
-/
def recordLoop (pkt : List UInt8) (clock : Nat → UInt32) (index : Nat)
    : Nat → Nat → SunshineTable → SunshineTable × Bool
  | 0, _, table => (table, true)
  | count + 1, position, table =>
      if position < pkt.length then
        (readRecord pkt position).elim (table, false) fun (record, after) =>
          recordLoop pkt clock (index + 1) count after (table.apply (clock index) record)
      else (table, true)

/-- How many records the header of a packet announces. -/
def recordCount (pkt : List UInt8) : Nat := readShort pkt 6 + readShort pkt 8 + readShort pkt 10

/-- `udp_sniffer_vita_poll` with the packet that it receives. -/
def Sniffer.poll (sniffer : Sniffer) (clock : Nat → UInt32) (pkt : List UInt8) : Sniffer :=
  if pkt.length > 12 then
    match skipQuestions pkt (readShort pkt 4) 12 with
    | none => sniffer
    | some position =>
        let (table, complete) := recordLoop pkt clock 0 (recordCount pkt) position sniffer.table
        let stored := { sniffer with table }
        if complete then stored.checkAndPrintReadyEntries else stored
  else sniffer

end VitaMoonlight
