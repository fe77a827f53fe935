import VitaMoonlight.Library.LinkedPool

/-! The table of the traced heap (`src/app/heap_trace.c`): entries in a fixed pool, chained by the
hash of the address they describe, and the counters of each place that allocates. Pointers are 32
bits wide, the results of the real allocator are passed in, and `none` stands for a search that does
not end.
-/

namespace VitaMoonlight

open Library.LinkedPool

-----------------------------------------------------------------------------------------
-- The table
-----------------------------------------------------------------------------------------

/-- `TRACE_ENTRIES`. -/
def traceEntries : Nat := 8192

/-- `TRACE_BUCKETS`. -/
def traceBuckets : Nat := 1024

/-- `TRACE_SITES`. -/
def traceSites : Nat := 256

structure TraceEntry where
  pointer : UInt32 := 0
  bytes : UInt32 := 0
  site : Nat := 0
  next : Nat := 0

structure TraceSite where
  caller : UInt32 := 0
  liveBytes : UInt32 := 0
  peakBytes : UInt32 := 0
  liveBlocks : UInt32 := 0

/-- The counters of a site with one more block. -/
def TraceSite.count (site : TraceSite) (bytes : UInt32) : TraceSite :=
  let liveBytes := site.liveBytes + bytes
  { site with
    liveBytes
    liveBlocks := site.liveBlocks + 1
    peakBytes := if liveBytes > site.peakBytes then liveBytes else site.peakBytes }

/-- The static data of the file. -/
structure HeapTrace where
  entries : Nat → TraceEntry
  buckets : Nat → Nat
  sites : Nat → TraceSite
  siteCount : Nat
  freeEntry : Nat
  initialized : Bool
  dropped : UInt32
  unknownFrees : UInt32
  replaced : UInt32
  zeroReallocs : UInt32
  failed : UInt32
  failedCaller : UInt32
  failedBytes : UInt32

namespace HeapTrace

/-- The static data as it is loaded. -/
def start : HeapTrace where
  entries _ := {}
  buckets _ := 0
  sites _ := {}
  siteCount := 1
  freeEntry := 0
  initialized := false
  dropped := 0
  unknownFrees := 0
  replaced := 0
  zeroReallocs := 0
  failed := 0
  failedCaller := 0
  failedBytes := 0

/-- The bucket of an address. -/
def bucketOf (pointer : UInt32) : Nat := (pointer >>> 3).toNat % traceBuckets

/-- The links between the entries. -/
def links (trace : HeapTrace) : Nat → Nat := fun slot => (trace.entries slot).next

/-- `trace_lock`: the first caller builds the free list. -/
def traceLock (trace : HeapTrace) : HeapTrace :=
  if trace.initialized then trace
  else
    { trace with
      entries slot :=
        if 1 ≤ slot ∧ slot < traceEntries then { trace.entries slot with next := slot + 1 }
        else trace.entries slot
      freeEntry := 1
      initialized := true }

-----------------------------------------------------------------------------------------
-- Removing
-----------------------------------------------------------------------------------------

/-- `*link = value` for a link of a bucket's chain. -/
def store (trace : HeapTrace) (bucket : Nat) (link : Link) (value : Nat) : HeapTrace :=
  match link with
  | .head => { trace with buckets := Function.update trace.buckets bucket value }
  | .next slot =>
      { trace with
        entries := Function.update trace.entries slot { trace.entries slot with next := value } }

/-- The site of an entry gives up the entry's bytes and one block. -/
def uncount (trace : HeapTrace) (entry : TraceEntry) : HeapTrace :=
  let site := trace.sites entry.site
  { trace with
    sites :=
      Function.update trace.sites entry.site
        { site with
          liveBytes := site.liveBytes - entry.bytes
          liveBlocks := site.liveBlocks - 1 } }

/-- A slot goes to the front of the free list. -/
def release (trace : HeapTrace) (slot : Nat) : HeapTrace :=
  { trace with
    entries :=
      Function.update trace.entries slot
        { trace.entries slot with pointer := 0, next := trace.freeEntry }
    freeEntry := slot }

/-- The entry that `trace_remove` returns, and the table that it leaves. -/
structure Removal where
  removed : TraceEntry
  trace : HeapTrace

/-- `trace_remove`. One step more than there are entries is enough for every chain. -/
def traceRemove (trace : HeapTrace) (pointer : UInt32) : Option Removal :=
  if pointer = 0 then some { removed := {}, trace }
  else
    let bucket := bucketOf pointer
    let found slot := (trace.entries slot).pointer == pointer
    match search trace.links (trace.buckets bucket) found (traceEntries + 1) .head with
    | none => none
    | some none => some { removed := {}, trace }
    | some (some (link, slot)) =>
        let removed := trace.entries slot
        some
          { removed
            trace := ((trace.store bucket link removed.next).uncount removed).release slot }

-----------------------------------------------------------------------------------------
-- Inserting
-----------------------------------------------------------------------------------------

/-- The index that `trace_site` returns, and the table that it leaves. -/
structure NamedSite where
  site : Nat
  trace : HeapTrace

/-- `trace_site`. -/
def traceSite (trace : HeapTrace) (caller : UInt32) : NamedSite :=
  match (List.range' 1 (trace.siteCount - 1)).find? fun site =>
    (trace.sites site).caller == caller
  with
  | some site => { site, trace }
  | none =>
      if trace.siteCount = traceSites then { site := 0, trace }
      else
        let site := trace.siteCount
        { site
          trace :=
            { trace with
              siteCount := site + 1
              sites := Function.update trace.sites site { trace.sites site with caller } } }

/-- The first slot of the free list goes to the front of the chain of its new address. -/
def push (trace : HeapTrace) (pointer bytes : UInt32) (site : Nat) : HeapTrace :=
  let slot := trace.freeEntry
  let bucket := bucketOf pointer
  { trace with
    freeEntry := (trace.entries slot).next
    entries :=
      Function.update trace.entries slot { pointer, bytes, site, next := trace.buckets bucket }
    buckets := Function.update trace.buckets bucket slot
    sites := Function.update trace.sites site ((trace.sites site).count bytes) }

/-- `trace_insert`. -/
def traceInsert (trace : HeapTrace) (pointer bytes : UInt32) (site : Nat) : Option HeapTrace :=
  if pointer = 0 then some trace
  else
    (trace.traceRemove pointer).map fun prior =>
      let trace :=
        if prior.removed.pointer ≠ 0 then
          { prior.trace with replaced := prior.trace.replaced + 1 }
        else prior.trace
      if trace.freeEntry = 0 then { trace with dropped := trace.dropped + 1 }
      else trace.push pointer bytes site

-----------------------------------------------------------------------------------------
-- Calls
-----------------------------------------------------------------------------------------

/-- An allocation that failed is noted. -/
def noteFailure (trace : HeapTrace) (caller bytes : UInt32) : HeapTrace :=
  { trace with failed := trace.failed + 1, failedCaller := caller, failedBytes := bytes }

/-- `trace_result`. -/
def traceResult (trace : HeapTrace) (pointer bytes caller : UInt32) : Option HeapTrace :=
  let trace := trace.traceLock
  if pointer ≠ 0 then
    let named := trace.traceSite caller
    named.trace.traceInsert pointer bytes named.site
  else if bytes ≠ 0 then some (trace.noteFailure caller bytes)
  else some trace

/-- `__wrap_malloc`, for the pointer that the real function returns. -/
def wrapMalloc (trace : HeapTrace) (size pointer caller : UInt32) : Option HeapTrace :=
  trace.traceResult pointer size caller

/-- The size that `__wrap_calloc` traces: `SIZE_MAX` for a product that does not fit. -/
def callocBytes (count size : UInt32) : UInt32 :=
  if count ≠ 0 ∧ size > 0xffffffff / count then 0xffffffff else count * size

/-- `__wrap_calloc`, for the pointer that the real function returns. -/
def wrapCalloc (trace : HeapTrace) (count size pointer caller : UInt32) : Option HeapTrace :=
  trace.traceResult pointer (callocBytes count size) caller

/-- `__wrap_free`. -/
def wrapFree (trace : HeapTrace) (pointer : UInt32) : Option HeapTrace :=
  (trace.traceLock.traceRemove pointer).map fun old =>
    if pointer ≠ 0 ∧ old.removed.pointer = 0 then
      { old.trace with unknownFrees := old.trace.unknownFrees + 1 }
    else old.trace

/-- `__wrap_realloc`, for the pointer that the real function returns. The table is locked twice. -/
def wrapRealloc (trace : HeapTrace) (pointer size result caller : UInt32) : Option HeapTrace :=
  (trace.traceLock.traceRemove pointer).bind fun old =>
    let trace := old.trace.traceLock
    if result ≠ 0 then
      let named := trace.traceSite caller
      named.trace.traceInsert result size named.site
    else if size ≠ 0 then
      let restored :=
        if old.removed.pointer ≠ 0 then
          trace.traceInsert old.removed.pointer old.removed.bytes old.removed.site
        else some trace
      restored.map fun trace => trace.noteFailure caller size
    else if pointer ≠ 0 then some { trace with zeroReallocs := trace.zeroReallocs + 1 }
    else some trace

end HeapTrace

/-- A traced call, with the pointer that the real function returns to it and the place that it
comes from.
-/
inductive HeapCall
  | malloc (size pointer caller : UInt32)
  | calloc (count size pointer caller : UInt32)
  | free (pointer : UInt32)
  | realloc (pointer size result caller : UInt32)
deriving DecidableEq

/-- One traced call. -/
def HeapTrace.call (trace : HeapTrace) : HeapCall → Option HeapTrace
  | .malloc size pointer caller => trace.wrapMalloc size pointer caller
  | .calloc count size pointer caller => trace.wrapCalloc count size pointer caller
  | .free pointer => trace.wrapFree pointer
  | .realloc pointer size result caller => trace.wrapRealloc pointer size result caller

/-- The table after a sequence of traced calls. -/
def HeapTrace.calls (calls : List HeapCall) : Option HeapTrace :=
  calls.foldlM HeapTrace.call .start

end VitaMoonlight
