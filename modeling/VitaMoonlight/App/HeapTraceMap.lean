import VitaMoonlight.App.HeapMap
import Mathlib.Data.List.Induction

/-! The table of the traced heap refines a finite map. Each operation on the table does to the map
what the map's own operation does; the calls are made of these.
-/

namespace VitaMoonlight

open Library.LinkedPool

namespace HeapTrace

/-- The block that an entry describes. -/
def block (trace : HeapTrace) (slot : Nat) : TrackedBlock :=
  let entry := trace.entries slot
  { pointer := entry.pointer, bytes := entry.bytes, site := entry.site }

/-- The bucket of the address in an entry. -/
def hash (trace : HeapTrace) (slot : Nat) : Nat := bucketOf (trace.entries slot).pointer

/-- The occupied entries describe these blocks. -/
def Stores (trace : HeapTrace) (blocks : List TrackedBlock) : Prop :=
  ∃ free occupied chains,
    Pool traceEntries trace.links trace.freeEntry trace.buckets trace.hash free occupied chains
    ∧ (occupied.map trace.block).Perm blocks

/-- The table represents the map. -/
structure Tracks (trace : HeapTrace) (map : HeapMap) : Prop where
  ready : trace.initialized = true
  stored : trace.Stores map.blocks
  siteCount : trace.siteCount = map.callers.length + 1
  callers
    : (List.range' 1 map.callers.length).map (fun site => (trace.sites site).caller) = map.callers
  bytes : ∀ site, (trace.sites site).liveBytes = .ofNat (liveBytes map.blocks site)
  blocks : ∀ site, (trace.sites site).liveBlocks = .ofNat (liveBlocks map.blocks site)
  dropped : trace.dropped = .ofNat map.dropped

/-- No site has more live bytes than it had at its peak. -/
def Peaked (trace : HeapTrace) : Prop :=
  ∀ site, (trace.sites site).liveBytes ≤ (trace.sites site).peakBytes

-----------------------------------------------------------------------------------------
-- Removing
-----------------------------------------------------------------------------------------

/-- The table without the entry of a slot that was found at a link. -/
def unlink (trace : HeapTrace) (bucket : Nat) (link : Link) (slot : Nat) : HeapTrace :=
  let removed := trace.entries slot
  ((trace.store bucket link removed.next).uncount removed).release slot

section Unlink

variable (trace : HeapTrace) (bucket : Nat) (link : Link) (slot : Nat)

theorem links_unlink
    : (trace.unlink bucket link slot).links
      = Function.update (link.nexts trace.links (trace.links slot)) slot trace.freeEntry := by
  funext other
  by_cases this : other = slot
  · subst this
    cases link <;> simp [links, unlink, release, uncount, store]
  · cases link with
    | head => simp [links, unlink, release, uncount, store, Link.nexts, this]
    | next before =>
        by_cases here : other = before
        · subst here
          simp [links, unlink, release, uncount, store, Link.nexts, this]
        · simp [links, unlink, release, uncount, store, Link.nexts, this, here]

theorem buckets_unlink
    : (trace.unlink bucket link slot).buckets
      = Function.update trace.buckets bucket
          (link.start (trace.buckets bucket) (trace.links slot)) := by
  cases link with
  | head => rfl
  | next before => exact (Function.update_eq_self bucket trace.buckets).symm

/-- The other entries keep what they describe. -/
theorem block_unlink {other : Nat} (apart : other ≠ slot)
    : (trace.unlink bucket link slot).block other = trace.block other := by
  cases link with
  | head => simp [block, unlink, release, uncount, store, apart]
  | next before =>
      by_cases here : other = before
      · subst here
        simp [block, unlink, release, uncount, store, apart]
      · simp [block, unlink, release, uncount, store, apart, here]

theorem hash_unlink {other : Nat} (apart : other ≠ slot)
    : (trace.unlink bucket link slot).hash other = trace.hash other := by
  have same := congrArg TrackedBlock.pointer (trace.block_unlink bucket link slot apart)
  exact congrArg bucketOf same

theorem sites_unlink
    : (trace.unlink bucket link slot).sites = (trace.uncount (trace.entries slot)).sites := by
  cases link <;> rfl

end Unlink

variable {trace : HeapTrace}

theorem traceRemove_none {pointer : UInt32} (filled : pointer ≠ 0)
    (ended
      : search trace.links (trace.buckets (bucketOf pointer))
          (fun slot => (trace.entries slot).pointer == pointer) (traceEntries + 1) .head
        = some none)
    : trace.traceRemove pointer = some { removed := {}, trace } := by
  rw [traceRemove, if_neg filled]
  dsimp only
  rw [ended]

theorem traceRemove_some {pointer : UInt32} {link : Link} {slot : Nat} (filled : pointer ≠ 0)
    (ended
      : search trace.links (trace.buckets (bucketOf pointer))
          (fun slot => (trace.entries slot).pointer == pointer) (traceEntries + 1) .head
        = some (some (link, slot)))
    : trace.traceRemove pointer
      = some
          { removed := trace.entries slot
            trace := trace.unlink (bucketOf pointer) link slot } := by
  rw [traceRemove, if_neg filled]
  dsimp only
  rw [ended]
  rfl

/-- The entry of an address is found, or no block is tracked at it. -/
theorem Stores.find {trace : HeapTrace} {blocks : List TrackedBlock} (stored : trace.Stores blocks)
    (distinct : (blocks.map fun block => block.pointer).Nodup) {pointer : UInt32}
    (filled : pointer ≠ 0)
    : (∀ block ∈ blocks, block.pointer ≠ pointer)
        ∧ trace.traceRemove pointer = some { removed := {}, trace }
      ∨ ∃ slot link,
          trace.block slot ∈ blocks
          ∧ (trace.entries slot).pointer = pointer
          ∧ trace.traceRemove pointer
            = some
                { removed := trace.entries slot
                  trace := trace.unlink (bucketOf pointer) link slot }
          ∧ (trace.unlink (bucketOf pointer) link slot).Stores
              (blocks.filter fun block => block.pointer != pointer) := by
  obtain ⟨free, occupied, chains, pool, same⟩ := stored
  have enough : (chains (bucketOf pointer)).length < traceEntries + 1 :=
    Nat.lt_succ_of_le (pool.length_chain_le _)
  obtain ⟨none, ended⟩ | ⟨front, slot, back, link, split, -, hit, behind, ended⟩ :=
    search_chain (pool.chained (bucketOf pointer)) enough
  · refine .inl ⟨fun block member equal => ?_, traceRemove_none filled ended⟩
    obtain ⟨slot, used, rfl⟩ := List.mem_map.1 (same.mem_iff.2 member)
    have chained := (pool.hashed (bucketOf pointer) slot).2 ⟨used, congrArg bucketOf equal⟩
    exact ne_of_beq_false (none slot chained) equal
  · have here : (trace.entries slot).pointer = pointer := beq_iff_eq.1 hit
    have used : slot ∈ occupied :=
      ((pool.hashed (bucketOf pointer) slot).1 (by rw [split]; simp)).1
    have others
        : (occupied.erase slot).map (trace.unlink (bucketOf pointer) link slot).block
          = (occupied.erase slot).map trace.block :=
      List.map_congr_left fun other inside =>
        trace.block_unlink _ link slot (pool.nodup_occupied.mem_erase_iff.1 inside).1
    have parts := (List.perm_cons_erase used).map trace.block
    have member : trace.block slot ∈ blocks := same.mem_iff.1 (List.mem_map_of_mem used)
    refine .inr ⟨slot, link, member, here, traceRemove_some filled ended, slot :: free,
      occupied.erase slot, Function.update chains (bucketOf pointer) (front ++ back), ?_, ?_⟩
    · rw [links_unlink, buckets_unlink]
      exact pool.remove split behind fun _ apart => trace.hash_unlink _ link slot apart
    · rw [others]
      exact here ▸ (filter_pointer_perm (same.symm.trans parts) distinct).symm

/-- What removing an address did. -/
structure Removed (trace : HeapTrace) (map : HeapMap) (pointer : UInt32) (removal : Removal)
    : Prop where
  tracks : removal.trace.Tracks (map.remove pointer)
  peaked : map.Fits → trace.Peaked → removal.trace.Peaked
  entry
    : removal.removed.pointer = 0 ∧ map.remove pointer = map
      ∨ pointer ≠ 0
        ∧ removal.removed.pointer = pointer
        ∧ { pointer, bytes := removal.removed.bytes, site := removal.removed.site } ∈ map.blocks

variable {map : HeapMap}

/-- Removing an address under which nothing is tracked. -/
theorem Tracks.removed_absent (tracks : trace.Tracks map) {pointer : UInt32}
    (absent : ∀ block ∈ map.blocks, block.pointer ≠ pointer)
    : Removed trace map pointer { removed := {}, trace } := by
  have same := HeapMap.remove_of_absent absent
  exact ⟨same.symm ▸ tracks, fun _ peaked => peaked, .inl ⟨rfl, same⟩⟩

theorem unlink_counts (trace : HeapTrace) (bucket : Nat) (link : Link) (slot site : Nat)
    : (trace.unlink bucket link slot).sites site
      = if (trace.block slot).site = site then
          { trace.sites site with
            liveBytes := (trace.sites site).liveBytes - (trace.block slot).bytes
            liveBlocks := (trace.sites site).liveBlocks - 1 }
        else trace.sites site := by
  rw [sites_unlink]
  by_cases here : (trace.block slot).site = site
  · subst here
    rw [if_pos rfl]
    exact Function.update_self ..
  · rw [if_neg here]
    exact Function.update_of_ne (Ne.symm here) ..

/-- What is left of a sum modulo 2 ^ 32. -/
theorem ofNat_toNat_add_sub (bytes : UInt32) (rest : Nat)
    : UInt32.ofNat (bytes.toNat + rest) - bytes = UInt32.ofNat rest := by
  rw [UInt32.ofNat_add, UInt32.ofNat_toNat, UInt32.add_comm, UInt32.add_sub_cancel]

/-- Removing the entry of a tracked address: the counters of its site lose it. -/
theorem Tracks.removed_present (tracks : trace.Tracks map) {slot : Nat} {link : Link}
    (member : trace.block slot ∈ map.blocks)
    (stored
      : (trace.unlink (bucketOf (trace.entries slot).pointer) link slot).Stores
          (map.remove (trace.entries slot).pointer).blocks)
    : Removed trace map (trace.entries slot).pointer
        { removed := trace.entries slot
          trace := trace.unlink (bucketOf (trace.entries slot).pointer) link slot } := by
  have split := HeapMap.remove_perm member
  have bytes (site : Nat) : liveBytes map.blocks site = _ := (liveBytes_perm split).trans liveBytes_cons
  have blocks (site : Nat) : liveBlocks map.blocks site = _ :=
    (liveBlocks_perm split).trans liveBlocks_cons
  refine ⟨⟨?_, stored, ?_, ?_, fun site => ?_, fun site => ?_, ?_⟩, fun fits peaked site => ?_, ?_⟩
  · cases link <;> exact tracks.ready
  · cases link <;> exact tracks.siteCount
  · refine (List.map_congr_left fun site _ => ?_).trans tracks.callers
    rw [unlink_counts]
    split <;> rfl
  · rw [unlink_counts]
    by_cases here : (trace.block slot).site = site
    · rw [if_pos here]
      dsimp only
      rw [tracks.bytes, bytes, if_pos here, ofNat_toNat_add_sub]
      rfl
    · rw [if_neg here, tracks.bytes, bytes, if_neg here, Nat.zero_add]
      rfl
  · rw [unlink_counts]
    by_cases here : (trace.block slot).site = site
    · rw [if_pos here]
      dsimp only
      rw [tracks.blocks, blocks, if_pos here]
      exact ofNat_toNat_add_sub 1 _
    · rw [if_neg here, tracks.blocks, blocks, if_neg here, Nat.zero_add]
      rfl
  · cases link <;> exact tracks.dropped
  · have before := peaked site
    rw [unlink_counts]
    by_cases here : (trace.block slot).site = site
    · rw [if_pos here]
      refine UInt32.le_trans ?_ before
      dsimp only
      have sum := bytes site
      have fit := fits site
      rw [if_pos here] at sum
      rw [tracks.bytes, sum, ofNat_toNat_add_sub, UInt32.le_iff_toNat_le, UInt32.toNat_ofNat',
        UInt32.toNat_ofNat', Nat.mod_eq_of_lt (by omega), Nat.mod_eq_of_lt (by omega)]
      exact Nat.le_add_left _ _
    · rwa [if_neg here]
  · exact .inr ⟨map.filled _ member, rfl, member⟩

/-- Removing an address does to the map what it is named for. -/
theorem Tracks.remove (tracks : trace.Tracks map) (pointer : UInt32)
    : ∃ removal, trace.traceRemove pointer = some removal ∧ Removed trace map pointer removal := by
  by_cases null : pointer = 0
  · subst null
    exact ⟨_, rfl, tracks.removed_absent map.filled⟩
  · obtain ⟨absent, result⟩ | ⟨slot, link, member, rfl, result, stored⟩ :=
      tracks.stored.find map.distinct null
    · exact ⟨_, result, tracks.removed_absent absent⟩
    · exact ⟨_, result, tracks.removed_present member stored⟩

-----------------------------------------------------------------------------------------
-- Inserting
-----------------------------------------------------------------------------------------

/-- Searching numbered callers for one of them, by induction on their number. -/
theorem find_caller (callerOf : Nat → UInt32) (caller : UInt32) (first count : Nat)
    : (List.range' first count).find? (fun site => callerOf site == caller)
      = if caller ∈ (List.range' first count).map callerOf then
          some (first + ((List.range' first count).map callerOf).idxOf caller)
        else none := by
  induction count generalizing first with
  | zero => simp
  | succ count ih =>
      rw [List.range'_succ, List.find?_cons, List.map_cons]
      by_cases here : callerOf first = caller
      · simp [here]
      · rw [beq_eq_false_iff_ne.2 here, ih]
        simp only [List.mem_cons, Ne.symm here, false_or, List.idxOf_cons_ne _ here]
        split
        · rw [Nat.add_right_comm, Nat.add_assoc]
        · rfl

/-- Naming the site of a caller. -/
theorem Tracks.site (tracks : trace.Tracks map) (caller : UInt32)
    : (trace.traceSite caller).trace.Tracks (map.named caller)
      ∧ (trace.traceSite caller).site = (map.named caller).siteOf caller
      ∧ (trace.Peaked → (trace.traceSite caller).trace.Peaked) := by
  have found := find_caller (fun site => (trace.sites site).caller) caller 1 map.callers.length
  rw [tracks.callers] at found
  unfold traceSite
  rw [tracks.siteCount, Nat.add_sub_cancel, found]
  by_cases known : caller ∈ map.callers
  · have same : map.named caller = map := dif_pos (.inl known)
    rw [same, if_pos known, HeapMap.siteOf, if_pos known]
    exact ⟨tracks, Nat.add_comm _ _, fun peaked => peaked⟩
  · rw [if_neg known]
    dsimp only
    by_cases full : map.callers.length + 1 = traceSites
    · have same : map.named caller = map := dif_pos (.inr full)
      rw [same, if_pos full, HeapMap.siteOf, if_neg known]
      exact ⟨tracks, rfl, fun peaked => peaked⟩
    · have added : (map.named caller).callers = map.callers ++ [caller] := by
        rw [HeapMap.named, dif_neg (not_or.2 ⟨known, full⟩)]
      have counters (site : Nat)
          : ∃ named,
              Function.update trace.sites (map.callers.length + 1)
                  { trace.sites (map.callers.length + 1) with caller } site
                = { trace.sites site with caller := named } := by
        by_cases here : site = map.callers.length + 1
        · subst here
          exact ⟨caller, Function.update_self ..⟩
        · exact ⟨(trace.sites site).caller, Function.update_of_ne here ..⟩
      rw [if_neg full]
      refine ⟨⟨tracks.ready, ?_, ?_, ?_, fun site => ?_, fun site => ?_, ?_⟩, ?_, ?_⟩
      · rw [HeapMap.blocks_named]
        exact tracks.stored
      · rw [added, List.length_append, List.length_singleton]
      · rw [added, List.length_append, List.length_singleton, List.range'_concat, List.map_append]
        refine congrArg₂ _ (.trans (List.map_congr_left fun site inside => ?_) tracks.callers) ?_
        · rw [List.mem_range'_1] at inside
          dsimp only
          rw [Function.update_of_ne (by omega)]
        · simp [Nat.add_comm 1]
      · obtain ⟨named, same⟩ := counters site
        dsimp only
        rw [same, HeapMap.blocks_named]
        exact tracks.bytes site
      · obtain ⟨named, same⟩ := counters site
        dsimp only
        rw [same, HeapMap.blocks_named]
        exact tracks.blocks site
      · rw [HeapMap.named, dif_neg (not_or.2 ⟨known, full⟩)]
        exact tracks.dropped
      · rw [HeapMap.siteOf, added, if_pos (by simp), List.idxOf_append_of_notMem known]
        simp
      · intro peaked site
        obtain ⟨named, same⟩ := counters site
        dsimp only
        rw [same]
        exact peaked site

/-- There is no free slot exactly when as many blocks are tracked as there are slots. -/
theorem Stores.full_iff {blocks : List TrackedBlock} (stored : trace.Stores blocks)
    : trace.freeEntry = 0 ↔ blocks.length = traceEntries := by
  obtain ⟨free, occupied, chains, pool, same⟩ := stored
  have lengths := pool.length_add_length
  have count := same.length_eq
  rw [List.length_map] at count
  have chain := pool.freeChain
  cases free with
  | nil =>
      rw [List.length_nil, Nat.zero_add] at lengths
      exact ⟨fun _ => count.symm.trans lengths, fun _ => chain⟩
  | cons slot rest =>
      refine ⟨fun ended => absurd (chain.1.symm.trans ended) chain.2.1, fun full => ?_⟩
      rw [List.length_cons] at lengths
      omega

theorem links_push (trace : HeapTrace) (pointer bytes : UInt32) (site : Nat)
    : (trace.push pointer bytes site).links
      = Function.update trace.links trace.freeEntry (trace.buckets (bucketOf pointer)) := by
  funext slot
  by_cases here : slot = trace.freeEntry
  · subst here
    simp [links, push]
  · simp [links, push, here]

theorem block_push (trace : HeapTrace) (pointer bytes : UInt32) (site : Nat) {slot : Nat}
    (apart : slot ≠ trace.freeEntry)
    : (trace.push pointer bytes site).block slot = trace.block slot := by
  simp [block, push, apart]

theorem block_push_self (trace : HeapTrace) (block : TrackedBlock)
    : (trace.push block.pointer block.bytes block.site).block trace.freeEntry = block := by
  simp [HeapTrace.block, push]

/-- The slot that was free describes one more block. -/
theorem Stores.push {blocks : List TrackedBlock} (stored : trace.Stores blocks)
    (room : trace.freeEntry ≠ 0) (block : TrackedBlock)
    : (trace.push block.pointer block.bytes block.site).Stores (block :: blocks) := by
  obtain ⟨free, occupied, chains, pool, same⟩ := stored
  have chain := pool.freeChain
  cases free with
  | nil => exact absurd chain room
  | cons slot rest =>
      obtain rfl := chain.1
      let bucket := bucketOf block.pointer
      refine ⟨rest, trace.freeEntry :: occupied,
        Function.update chains bucket (trace.freeEntry :: chains bucket), ?_, ?_⟩
      · rw [links_push]
        refine pool.push rfl ?_ fun other apart => ?_
        · have here := congrArg TrackedBlock.pointer (trace.block_push_self block)
          exact congrArg bucketOf here
        · have here := congrArg TrackedBlock.pointer
            (trace.block_push block.pointer block.bytes block.site apart)
          exact congrArg bucketOf here
      · have unused := pool.free_not_occupied (List.mem_cons_self ..)
        have others
            : occupied.map (trace.push block.pointer block.bytes block.site).block
              = occupied.map trace.block :=
          List.map_congr_left fun other inside =>
            trace.block_push _ _ _ fun this => unused (this ▸ inside)
        rw [List.map_cons, others, block_push_self]
        exact same.cons block

theorem push_counts (trace : HeapTrace) (block : TrackedBlock) (site : Nat)
    : (trace.push block.pointer block.bytes block.site).sites site
      = if block.site = site then (trace.sites site).count block.bytes else trace.sites site := by
  by_cases here : block.site = site
  · subst here
    rw [if_pos rfl]
    exact Function.update_self ..
  · rw [if_neg here]
    exact Function.update_of_ne (Ne.symm here) ..

end HeapTrace

/-- Counting a block leaves the peak no lower than the live bytes. -/
theorem TraceSite.count_peaked (site : TraceSite) (bytes : UInt32)
    : (site.count bytes).liveBytes ≤ (site.count bytes).peakBytes := by
  unfold count
  dsimp only
  split
  · exact UInt32.le_refl _
  · exact UInt32.not_lt.1 ‹_›

namespace HeapTrace

variable {trace : HeapTrace} {map : HeapMap} {block : TrackedBlock} {filled : block.pointer ≠ 0}
  {sited : block.site ≤ map.callers.length}

/-- A new block in a free slot. -/
theorem Tracks.push (tracks : trace.Tracks map) (room : trace.freeEntry ≠ 0)
    (fresh : ∀ other ∈ map.blocks, other.pointer ≠ block.pointer)
    : (trace.push block.pointer block.bytes block.site).Tracks
        (map.add block filled sited fresh) := by
  refine ⟨tracks.ready, tracks.stored.push room block, tracks.siteCount, ?_, fun site => ?_,
    fun site => ?_, tracks.dropped⟩
  · refine (List.map_congr_left fun site _ => ?_).trans tracks.callers
    rw [push_counts]
    split <;> rfl
  · rw [push_counts, HeapMap.add, liveBytes_cons]
    split
    · rw [TraceSite.count, tracks.bytes, UInt32.ofNat_add, UInt32.ofNat_toNat, UInt32.add_comm]
    · rw [tracks.bytes, Nat.zero_add]
  · rw [push_counts, HeapMap.add, liveBlocks_cons]
    split
    · rw [TraceSite.count, tracks.blocks, UInt32.ofNat_add]
      exact UInt32.add_comm _ _
    · rw [tracks.blocks, Nat.zero_add]

theorem Peaked.push (peaked : trace.Peaked)
    : (trace.push block.pointer block.bytes block.site).Peaked := fun site => by
  rw [push_counts]
  split
  · exact TraceSite.count_peaked ..
  · exact peaked site

/-- Inserting a block does to the map what it is named for. -/
theorem Tracks.insert (tracks : trace.Tracks map) (block : TrackedBlock)
    (filled : block.pointer ≠ 0) (sited : block.site ≤ map.callers.length)
    : ∃ after,
        trace.traceInsert block.pointer block.bytes block.site = some after
        ∧ after.Tracks (map.insert block filled sited)
        ∧ (map.Fits → trace.Peaked → after.Peaked) := by
  obtain ⟨removal, result, removed⟩ := tracks.remove block.pointer
  let noted :=
    if removal.removed.pointer ≠ 0 then
      { removal.trace with replaced := removal.trace.replaced + 1 }
    else removal.trace
  have tracked : noted.Tracks (map.remove block.pointer) := by
    dsimp only [noted]
    split
    · exact { removed.tracks with }
    · exact removed.tracks
  have peaked (fits : map.Fits) (before : trace.Peaked) : noted.Peaked := by
    have after := removed.peaked fits before
    dsimp only [noted]
    split <;> exact after
  have outcome
      : trace.traceInsert block.pointer block.bytes block.site
        = some
            (if noted.freeEntry = 0 then { noted with dropped := noted.dropped + 1 }
            else noted.push block.pointer block.bytes block.site) := by
    rw [traceInsert, if_neg filled, result]
    rfl
  refine ⟨_, outcome, ?_⟩
  unfold HeapMap.insert
  by_cases full : noted.freeEntry = 0
  · rw [if_pos full, if_pos (tracked.stored.full_iff.1 full)]
    refine ⟨{ tracked with dropped := ?_ }, peaked⟩
    dsimp only
    rw [tracked.dropped, UInt32.ofNat_add]
    rfl
  · rw [if_neg full, if_neg (mt tracked.stored.full_iff.2 full)]
    exact ⟨tracked.push full _, fun fits before => (peaked fits before).push⟩

-----------------------------------------------------------------------------------------
-- Calls
-----------------------------------------------------------------------------------------

/-- The table goes on to represent the map, and keeps the peaks as long as the sums fit. -/
structure Follows (trace : HeapTrace) (map : HeapMap) (after : HeapTrace) (next : HeapMap)
    : Prop where
  tracks : after.Tracks next
  peaked : map.Fits → trace.Peaked → after.Peaked

/-- The order of the blocks does not matter. -/
theorem Tracks.perm (tracks : trace.Tracks map) {other : HeapMap}
    (same : map.blocks.Perm other.blocks) (callers : map.callers = other.callers)
    (dropped : map.dropped = other.dropped)
    : trace.Tracks other := by
  obtain ⟨free, occupied, chains, pool, stored⟩ := tracks.stored
  refine ⟨tracks.ready, ⟨free, occupied, chains, pool, stored.trans same⟩, ?_, ?_, fun site => ?_,
    fun site => ?_, ?_⟩
  · exact callers ▸ tracks.siteCount
  · exact callers ▸ tracks.callers
  · exact liveBytes_perm same ▸ tracks.bytes site
  · exact liveBlocks_perm same ▸ tracks.blocks site
  · exact dropped ▸ tracks.dropped

theorem traceLock_of_ready (ready : trace.initialized = true) : trace.traceLock = trace :=
  if_pos ready

/-- An allocation that succeeded. -/
theorem Tracks.allocate (tracks : trace.Tracks map) {pointer : UInt32} (filled : pointer ≠ 0)
    (bytes caller : UInt32)
    : ∃ after,
        (trace.traceSite caller).trace.traceInsert pointer bytes (trace.traceSite caller).site
          = some after
        ∧ Follows trace map after (map.allocate pointer bytes caller) := by
  obtain ⟨named, site, peaked⟩ := tracks.site caller
  obtain ⟨after, inserted, result, later⟩ :=
    named.insert { pointer, bytes, site := (map.named caller).siteOf caller } filled
      (HeapMap.siteOf_le _ caller)
  refine ⟨after, site ▸ inserted, ?_, fun fits before => later (fits.named caller) (peaked before)⟩
  rw [HeapMap.allocate, dif_neg filled]
  exact result

theorem Tracks.traceResult (tracks : trace.traceLock.Tracks map) (pointer bytes caller : UInt32)
    : ∃ after,
        trace.traceResult pointer bytes caller = some after
        ∧ Follows trace.traceLock map after (map.allocate pointer bytes caller) := by
  unfold HeapTrace.traceResult
  by_cases null : pointer = 0
  · have same : map.allocate pointer bytes caller = map := dif_pos null
    dsimp only
    rw [if_neg (not_not_intro null), same]
    split
    · exact ⟨_, rfl, { tracks with }, fun _ peaked => peaked⟩
    · exact ⟨_, rfl, tracks, fun _ peaked => peaked⟩
  · dsimp only
    rw [if_pos null]
    exact tracks.allocate null bytes caller

theorem Tracks.wrapFree (tracks : trace.traceLock.Tracks map) (pointer : UInt32)
    : ∃ after,
        trace.wrapFree pointer = some after
        ∧ Follows trace.traceLock map after (map.remove pointer) := by
  obtain ⟨removal, result, removed⟩ := tracks.remove pointer
  rw [HeapTrace.wrapFree, result, Option.map_some]
  split
  · exact ⟨_, rfl, { removed.tracks with }, removed.peaked⟩
  · exact ⟨_, rfl, removed.tracks, removed.peaked⟩

/-- No more blocks are tracked than there are slots. -/
theorem Stores.length_le {blocks : List TrackedBlock} (stored : trace.Stores blocks)
    : blocks.length ≤ traceEntries := by
  obtain ⟨free, occupied, chains, pool, same⟩ := stored
  have lengths := pool.length_add_length
  have count := same.length_eq
  rw [List.length_map] at count
  omega

/-- The entry that a failed `realloc` removed goes back: its slot was free. -/
theorem Tracks.restore (tracks : trace.Tracks map) {pointer : UInt32} {removal : Removal}
    (removed : Removed trace map pointer removal) (found : removal.removed.pointer ≠ 0)
    : ∃ after,
        removal.trace.traceInsert removal.removed.pointer removal.removed.bytes
            removal.removed.site
          = some after
        ∧ Follows trace map after map := by
  obtain ⟨null, -⟩ | ⟨filled, same, member⟩ := removed.entry
  · exact absurd null found
  · have split := HeapMap.remove_perm member
    have room : (map.remove pointer).blocks.length ≠ traceEntries := by
      have lengths : map.blocks.length = (map.remove pointer).blocks.length + 1 := split.length_eq
      have bound := tracks.stored.length_le
      omega
    obtain ⟨after, inserted, result, later⟩ :=
      removed.tracks.insert { pointer, bytes := removal.removed.bytes, site := removal.removed.site }
        filled (map.sited _ member)
    have absent := HeapMap.remove_of_absent (map.not_mem_remove pointer)
    simp only [HeapMap.insert, absent, if_neg room] at result
    rw [same]
    refine ⟨after, inserted, result.perm split.symm rfl rfl, fun fits before => ?_⟩
    exact later (fits.remove pointer) (removed.peaked fits before)

theorem Tracks.wrapRealloc (tracks : trace.traceLock.Tracks map)
    (pointer size result caller : UInt32)
    : ∃ after,
        trace.wrapRealloc pointer size result caller = some after
        ∧ Follows trace.traceLock map after (map.call (.realloc pointer size result caller)) := by
  obtain ⟨removal, outcome, removed⟩ := tracks.remove pointer
  unfold HeapTrace.wrapRealloc HeapMap.call
  rw [outcome, Option.bind_some]
  dsimp only
  rw [traceLock_of_ready removed.tracks.ready]
  by_cases moved : result = 0
  · rw [if_neg (not_not_intro moved), if_neg (not_not_intro moved)]
    by_cases sized : size = 0
    · rw [if_neg (not_not_intro sized), if_neg (not_not_intro sized)]
      split
      · exact ⟨_, rfl, { removed.tracks with }, removed.peaked⟩
      · exact ⟨_, rfl, removed.tracks, removed.peaked⟩
    · rw [if_pos sized, if_pos sized]
      by_cases found : removal.removed.pointer = 0
      · rw [if_neg (not_not_intro found), Option.map_some]
        obtain ⟨-, same⟩ | ⟨filled, here, -⟩ := removed.entry
        · exact ⟨_, rfl, { same ▸ removed.tracks with }, removed.peaked⟩
        · exact absurd (here.symm.trans found) filled
      · obtain ⟨after, inserted, restored⟩ := tracks.restore removed found
        rw [if_pos found, inserted, Option.map_some]
        exact ⟨_, rfl, { restored.tracks with }, restored.peaked⟩
  · rw [if_pos moved, if_pos moved]
    obtain ⟨after, inserted, later⟩ := removed.tracks.allocate moved size caller
    refine ⟨after, inserted, later.tracks, fun fits peaked => ?_⟩
    exact later.peaked (fits.remove pointer) (removed.peaked fits peaked)

/-- A traced call returns, and does to the map what it means. -/
theorem Tracks.call (tracks : trace.traceLock.Tracks map) (call : HeapCall)
    : ∃ after,
        trace.call call = some after ∧ Follows trace.traceLock map after (map.call call) := by
  cases call with
  | malloc size pointer caller => exact tracks.traceResult pointer size caller
  | calloc count size pointer caller =>
      exact tracks.traceResult pointer (callocBytes count size) caller
  | free pointer => exact tracks.wrapFree pointer
  | realloc pointer size result caller => exact tracks.wrapRealloc pointer size result caller

/-- The table that the first call finds under its lock. -/
theorem start_tracks : start.traceLock.Tracks HeapMap.empty := by
  have links (slot : Nat)
      : start.traceLock.links slot
        = if 1 ≤ slot ∧ slot < traceEntries then slot + 1 else 0 := by
    change (if _ then ({ next := slot + 1 } : TraceEntry) else {}).next = _
    split <;> rfl
  refine ⟨rfl, ⟨List.range' 1 traceEntries, [], fun _ => [], ⟨?_, fun _ => rfl, ?_, ?_⟩, .nil⟩,
    rfl, rfl, fun _ => rfl, fun _ => rfl, rfl⟩
  · change Chain _ 1 (List.range' 1 (8191 + 1))
    refine chain_range' Nat.one_ne_zero (fun slot low high => ?_) ?_
    · rw [links, if_pos ⟨low, by rw [traceEntries]; omega⟩]
    · rw [links, if_neg (by rw [traceEntries]; omega)]
  · rw [List.append_nil]
  · simp

end HeapTrace

-----------------------------------------------------------------------------------------
-- Runs
-----------------------------------------------------------------------------------------

/-- The sums of all sites fitted into a `size_t` so far. -/
def FitsSoFar (calls : List HeapCall) : Prop :=
  ∀ earlier, earlier <+: calls → (HeapMap.calls earlier).Fits

/-- Every sequence of traced calls returns, by induction on it from its end. -/
theorem HeapTrace.Tracks.calls (calls : List HeapCall)
    : ∃ trace,
        HeapTrace.calls calls = some trace
        ∧ trace.traceLock.Tracks (HeapMap.calls calls)
        ∧ (FitsSoFar calls → trace.traceLock.Peaked) := by
  induction calls using List.reverseRecOn with
  | nil => exact ⟨_, rfl, start_tracks, fun _ _ => UInt32.le_refl _⟩
  | append_singleton calls call ih =>
      obtain ⟨trace, ran, tracks, peaked⟩ := ih
      obtain ⟨after, called, follows⟩ := tracks.call call
      have map : HeapMap.calls (calls ++ [call]) = (HeapMap.calls calls).call call :=
        List.foldl_append
      have final : HeapTrace.calls (calls ++ [call]) = some after := by
        unfold HeapTrace.calls at ran ⊢
        rw [List.foldlM_append, ran, Option.bind_eq_bind, Option.bind_some, List.foldlM_cons,
          called]
        rfl
      refine ⟨after, final, ?_, fun fits => ?_⟩
      · rw [traceLock_of_ready follows.tracks.ready, map]
        exact follows.tracks
      · rw [traceLock_of_ready follows.tracks.ready]
        have before : FitsSoFar calls := fun earlier part =>
          fits earlier (part.trans (List.prefix_append ..))
        exact follows.peaked (before calls List.prefix_rfl) (peaked before)

/-- The table is the map. Its free list and its chains end, and are made of all slots, each of them
once. The slots of the chains describe the blocks of the map, and the sites count these blocks.
-/
structure HeapTrace.Refines (trace : HeapTrace) (map : HeapMap) : Prop where
  slots
    : ∃ free chains,
        Chain trace.links trace.freeEntry free
        ∧ (∀ bucket < traceBuckets, Chain trace.links (trace.buckets bucket) (chains bucket))
        ∧ (∀ bucket < traceBuckets, ∀ slot ∈ chains bucket, trace.hash slot = bucket)
        ∧ (free ++ (List.range traceBuckets).flatMap chains).Perm (List.range' 1 traceEntries)
        ∧ (((List.range traceBuckets).flatMap chains).map trace.block).Perm map.blocks
  callers
    : trace.siteCount = map.callers.length + 1
      ∧ ∀ index < map.callers.length,
          map.callers[index]? = some (trace.sites (index + 1)).caller
  liveBytes : ∀ site, (trace.sites site).liveBytes.toNat = liveBytes map.blocks site % 2 ^ 32
  liveBlocks : ∀ site, (trace.sites site).liveBlocks.toNat = liveBlocks map.blocks site
  dropped : trace.dropped.toNat = map.dropped % 2 ^ 32

theorem HeapTrace.Tracks.refines {trace : HeapTrace} {map : HeapMap} (tracks : trace.Tracks map)
    : trace.Refines map := by
  obtain ⟨free, occupied, chains, pool, same⟩ := tracks.stored
  have together : occupied.Perm ((List.range traceBuckets).flatMap chains) :=
    pool.occupied_perm fun slot => Nat.mod_lt _ (by decide)
  refine ⟨⟨free, chains, pool.freeChain, fun bucket _ => pool.chained bucket, ?_, ?_, ?_⟩,
    ⟨tracks.siteCount, fun index within => ?_⟩, fun site => ?_, fun site => ?_, ?_⟩
  · exact fun bucket _ slot member => ((pool.hashed bucket slot).1 member).2
  · exact (together.symm.append_left free).trans pool.slots
  · exact (together.symm.map trace.block).trans same
  · have here := congrArg (fun callers => callers[index]?) tracks.callers
    rw [← here, List.getElem?_map, List.getElem?_range' within, Option.map_some, Nat.one_mul,
      Nat.add_comm]
  · rw [tracks.bytes, UInt32.toNat_ofNat']
  · have few : liveBlocks map.blocks site ≤ traceEntries :=
      List.countP_le_length.trans tracks.stored.length_le
    rw [tracks.blocks, UInt32.toNat_ofNat', Nat.mod_eq_of_lt]
    exact Nat.lt_of_le_of_lt few (by decide)
  · rw [tracks.dropped, UInt32.toNat_ofNat']

/-- Every sequence of traced calls returns, and the table that is found under the lock refines the
map of the calls. While the sums of the sites fit into a `size_t`, the live bytes are these sums and
no peak lies below them. A failed `realloc` of some size leaves the map as it was.
-/
theorem heap_trace_refines_map (calls : List HeapCall)
    : (∃ trace,
        HeapTrace.calls calls = some trace
        ∧ trace.traceLock.Refines (HeapMap.calls calls)
        ∧ (FitsSoFar calls
          → ∀ site,
              (trace.sites site).liveBytes.toNat = liveBytes (HeapMap.calls calls).blocks site
              ∧ (trace.sites site).liveBytes ≤ (trace.sites site).peakBytes))
      ∧ ∀ pointer size caller,
          size ≠ 0
          → HeapMap.calls (calls ++ [.realloc pointer size 0 caller]) = HeapMap.calls calls := by
  obtain ⟨trace, ran, tracks, peaked⟩ := HeapTrace.Tracks.calls calls
  have sites : trace.traceLock.sites = trace.sites := by
    unfold HeapTrace.traceLock
    split <;> rfl
  refine ⟨⟨trace, ran, tracks.refines, fun fits site => ⟨?_, ?_⟩⟩, fun pointer size caller sized => ?_⟩
  · have sum := tracks.bytes site
    rw [sites] at sum
    rw [sum, UInt32.toNat_ofNat', Nat.mod_eq_of_lt (fits calls List.prefix_rfl site)]
  · have below := peaked fits site
    rwa [sites] at below
  · rw [HeapMap.calls, List.foldl_append, List.foldl_cons, List.foldl_nil, HeapMap.call,
      if_neg (not_not_intro rfl), if_pos sized]
    rfl

/-- Two blocks of one caller whose sum is larger than a `size_t`: the live bytes wrap around, and
once the first block is freed the peak lies below them.
-/
theorem live_bytes_wrap
    : let calls : List HeapCall := [.malloc 0x80000000 8 1, .malloc 0x80000001 16 1]
      liveBytes (HeapMap.calls calls).blocks 1 = 2 ^ 32 + 1
      ∧ (HeapTrace.calls calls).map (fun trace => (trace.sites 1).liveBytes.toNat) = some 1
      ∧ (HeapTrace.calls (calls ++ [.free 8])).map
            (fun trace => ((trace.sites 1).liveBytes, (trace.sites 1).peakBytes))
          = some (0x80000001, 0x80000000) := by
  decide +kernel

end VitaMoonlight
