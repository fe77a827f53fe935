import VitaMoonlight.App.HeapTrace
import Mathlib.Algebra.Order.BigOperators.Group.List
import Mathlib.Algebra.Order.Ring.Nat

/-! What the table of the traced heap is for: a finite map from the addresses of live blocks to
their sizes and sites, which the traced calls change.
-/

namespace VitaMoonlight

/-- A block that is being tracked. -/
structure TrackedBlock where
  pointer : UInt32
  bytes : UInt32
  site : Nat
deriving DecidableEq

/-- The bytes of the blocks of a site. -/
def liveBytes (blocks : List TrackedBlock) (site : Nat) : Nat :=
  ((blocks.filter fun block => block.site == site).map fun block => block.bytes.toNat).sum

/-- The number of the blocks of a site. -/
def liveBlocks (blocks : List TrackedBlock) (site : Nat) : Nat :=
  blocks.countP fun block => block.site == site

/-- The tracked blocks, with an address for each of them, and the callers that have a site of their
own: the site 0 is shared by the others. `dropped` counts insertions that the map lacks.
-/
@[ext]
structure HeapMap where
  blocks : List TrackedBlock
  callers : List UInt32
  dropped : Nat
  distinct : (blocks.map fun block => block.pointer).Nodup
  filled : ∀ block ∈ blocks, block.pointer ≠ 0
  sited : ∀ block ∈ blocks, block.site ≤ callers.length
  few : callers.length < traceSites

namespace HeapMap

/-- Nothing is tracked. -/
def empty : HeapMap where
  blocks := []
  callers := []
  dropped := 0
  distinct := List.nodup_nil
  filled _ member := absurd member List.not_mem_nil
  sited _ member := absurd member List.not_mem_nil
  few := by decide

/-- No block is tracked at the address any more. -/
def remove (map : HeapMap) (pointer : UInt32) : HeapMap where
  blocks := map.blocks.filter fun block => block.pointer != pointer
  callers := map.callers
  dropped := map.dropped
  distinct := map.distinct.sublist (List.filter_sublist.map _)
  filled block member := map.filled block (List.mem_of_mem_filter member)
  sited block member := map.sited block (List.mem_of_mem_filter member)
  few := map.few

theorem not_mem_remove (map : HeapMap) (pointer : UInt32)
    : ∀ block ∈ (map.remove pointer).blocks, block.pointer ≠ pointer :=
  fun _ member => bne_iff_ne.1 (List.mem_filter.1 member).2

/-- A block at an address of its own. -/
def add (map : HeapMap) (block : TrackedBlock) (filled : block.pointer ≠ 0)
    (sited : block.site ≤ map.callers.length)
    (fresh : ∀ other ∈ map.blocks, other.pointer ≠ block.pointer) : HeapMap where
  blocks := block :: map.blocks
  callers := map.callers
  dropped := map.dropped
  distinct := by
    refine List.nodup_cons.2 ⟨fun member => ?_, map.distinct⟩
    obtain ⟨other, inside, same⟩ := List.mem_map.1 member
    exact fresh other inside same
  filled := List.forall_mem_cons.2 ⟨filled, map.filled⟩
  sited := List.forall_mem_cons.2 ⟨sited, map.sited⟩
  few := map.few

/-- The block takes the place of the one at its address. It is missing only if the table is full. -/
def insert (map : HeapMap) (block : TrackedBlock) (filled : block.pointer ≠ 0)
    (sited : block.site ≤ map.callers.length) : HeapMap :=
  let rest := map.remove block.pointer
  if rest.blocks.length = traceEntries then { rest with dropped := rest.dropped + 1 }
  else rest.add block filled sited (map.not_mem_remove block.pointer)

/-- A caller gets a site as long as there are any. -/
def named (map : HeapMap) (caller : UInt32) : HeapMap :=
  if room : caller ∈ map.callers ∨ map.callers.length + 1 = traceSites then map
  else
    { map with
      callers := map.callers ++ [caller]
      sited block member := by
        have inside := map.sited block member
        rw [List.length_append]
        omega
      few := by
        have few := map.few
        rw [not_or] at room
        rw [List.length_append, List.length_singleton]
        omega }

/-- The site of a caller. -/
def siteOf (map : HeapMap) (caller : UInt32) : Nat :=
  if caller ∈ map.callers then map.callers.idxOf caller + 1 else 0

theorem siteOf_le (map : HeapMap) (caller : UInt32) : map.siteOf caller ≤ map.callers.length := by
  unfold siteOf
  split
  · exact List.idxOf_lt_length_of_mem ‹_›
  · exact Nat.zero_le _

/-- An allocation that returned a pointer, or none. -/
def allocate (map : HeapMap) (pointer bytes caller : UInt32) : HeapMap :=
  if filled : pointer = 0 then map
  else
    (map.named caller).insert { pointer, bytes, site := (map.named caller).siteOf caller } filled
      (siteOf_le _ caller)

/-- What a traced call means. A `realloc` that fails leaves the map as it was. -/
def call (map : HeapMap) : HeapCall → HeapMap
  | .malloc size pointer caller => map.allocate pointer size caller
  | .calloc count size pointer caller =>
      map.allocate pointer (HeapTrace.callocBytes count size) caller
  | .free pointer => map.remove pointer
  | .realloc pointer size result caller =>
      if result ≠ 0 then (map.remove pointer).allocate result size caller
      else if size ≠ 0 then map
      else map.remove pointer

/-- The map after a sequence of traced calls. -/
def calls (calls : List HeapCall) : HeapMap :=
  calls.foldl call empty

/-- The sums of all sites fit into a `size_t`. -/
def Fits (map : HeapMap) : Prop := ∀ site, liveBytes map.blocks site < 2 ^ 32

-----------------------------------------------------------------------------------------
-- Sums
-----------------------------------------------------------------------------------------

end HeapMap

section Sums

variable {blocks others : List TrackedBlock} {block : TrackedBlock} {site : Nat}

theorem liveBytes_cons
    : liveBytes (block :: blocks) site
      = (if block.site = site then block.bytes.toNat else 0) + liveBytes blocks site := by
  unfold liveBytes
  by_cases here : block.site = site
  · simp [here]
  · simp [here]

theorem liveBlocks_cons
    : liveBlocks (block :: blocks) site
      = (if block.site = site then 1 else 0) + liveBlocks blocks site := by
  unfold liveBlocks
  rw [List.countP_cons, Nat.add_comm]
  simp only [beq_iff_eq]

theorem liveBytes_perm (same : blocks.Perm others) : liveBytes blocks site = liveBytes others site :=
  ((same.filter _).map _).sum_eq

theorem liveBlocks_perm (same : blocks.Perm others)
    : liveBlocks blocks site = liveBlocks others site :=
  same.countP_eq _

theorem liveBytes_filter_le (keep : TrackedBlock → Bool)
    : liveBytes (blocks.filter keep) site ≤ liveBytes blocks site := by
  have fewer := ((List.filter_sublist (p := keep) (l := blocks)).filter fun block =>
    block.site == site).map fun block => block.bytes.toNat
  exact fewer.sum_le_sum fun _ _ => Nat.zero_le _

/-- What is left without the address of one block. -/
theorem filter_pointer_perm (split : blocks.Perm (block :: others))
    (distinct : (blocks.map fun block => block.pointer).Nodup)
    : (blocks.filter fun other => other.pointer != block.pointer).Perm others := by
  have apart := (split.map fun block => block.pointer).nodup_iff.1 distinct
  rw [List.map_cons, List.nodup_cons] at apart
  refine (split.filter _).trans ?_
  rw [List.filter_cons_of_neg (by simp), List.filter_eq_self.2 fun other member => ?_]
  exact bne_iff_ne.2 fun same => apart.1 (List.mem_map.2 ⟨other, member, same⟩)

end Sums

namespace HeapMap

variable {map : HeapMap} {block : TrackedBlock} {pointer : UInt32}

theorem remove_of_absent (absent : ∀ block ∈ map.blocks, block.pointer ≠ pointer)
    : map.remove pointer = map := by
  refine HeapMap.ext ?_ rfl rfl
  exact List.filter_eq_self.2 fun block member => bne_iff_ne.2 (absent block member)

theorem remove_perm (member : block ∈ map.blocks)
    : map.blocks.Perm (block :: (map.remove block.pointer).blocks) := by
  have split := List.perm_cons_erase member
  exact split.trans ((filter_pointer_perm split map.distinct).symm.cons block)

theorem Fits.remove (fits : map.Fits) (pointer : UInt32) : (map.remove pointer).Fits :=
  fun site => Nat.lt_of_le_of_lt (liveBytes_filter_le _) (fits site)

theorem blocks_named (map : HeapMap) (caller : UInt32)
    : (map.named caller).blocks = map.blocks := by
  unfold named
  split <;> rfl

theorem Fits.named (fits : map.Fits) (caller : UInt32) : (map.named caller).Fits := fun site => by
  rw [blocks_named]
  exact fits site

end HeapMap

end VitaMoonlight
