import Mathlib.Data.List.Nodup
import Mathlib.Data.List.Perm.Subperm
import Mathlib.Logic.Function.Basic

/-! Singly linked chains through the slots of a pool. A slot is an index, the index 0 ends a chain,
and each slot stores the next one; a chain is searched, cut and extended through the places where
its indices are stored.
-/

namespace Library.LinkedPool

variable {next : Nat → Nat} {head : Nat}

-----------------------------------------------------------------------------------------
-- Chains
-----------------------------------------------------------------------------------------

/-- Following the links from an index passes exactly these slots, and ends. -/
def Chain (next : Nat → Nat) : Nat → List Nat → Prop
  | head, [] => head = 0
  | head, slot :: rest => head = slot ∧ slot ≠ 0 ∧ Chain next (next slot) rest

/-- Links lead one way only, by induction on the slots. -/
theorem Chain.unique {first second : List Nat} (left : Chain next head first)
    (right : Chain next head second)
    : first = second := by
  induction first generalizing head second with
  | nil =>
      cases second with
      | nil => rfl
      | cons slot rest => exact absurd (right.1.symm.trans left) right.2.1
  | cons slot rest ih =>
      cases second with
      | nil => exact absurd (left.1.symm.trans right) left.2.1
      | cons other others =>
          obtain rfl : slot = other := left.1.symm.trans right.1
          rw [ih left.2.2 right.2.2]

theorem Chain.ne_zero {slots : List Nat} (chain : Chain next head slots)
    : ∀ slot ∈ slots, slot ≠ 0 := by
  induction slots generalizing head with
  | nil => exact fun _ member => absurd member List.not_mem_nil
  | cons slot rest ih =>
      rw [List.forall_mem_cons]
      exact ⟨chain.2.1, ih chain.2.2⟩

/-- The part of a chain behind some of its slots, by induction on these. -/
theorem Chain.suffix {front back : List Nat} {slot : Nat}
    (chain : Chain next head (front ++ slot :: back))
    : Chain next slot (slot :: back) := by
  induction front generalizing head with
  | nil => exact chain.1 ▸ chain
  | cons _ rest ih => exact ih chain.2.2

/-- A chain that ends passes no slot twice, by induction on the slots: from the second passage it
would go on as from the first one.
-/
theorem Chain.nodup {slots : List Nat} (chain : Chain next head slots) : slots.Nodup := by
  induction slots generalizing head with
  | nil => exact List.nodup_nil
  | cons slot rest ih =>
      refine List.nodup_cons.2 ⟨fun again => ?_, ih chain.2.2⟩
      obtain ⟨front, back, rfl⟩ := List.append_of_mem again
      have shorter := (chain.1 ▸ chain).unique (Chain.suffix chain.2.2)
      have lengths := congrArg List.length shorter
      simp only [List.length_cons, List.length_append] at lengths
      omega

/-- A link outside a chain does not matter to it, by induction on the slots. -/
theorem Chain.update {slots : List Nat} (chain : Chain next head slots) {slot : Nat}
    (outside : slot ∉ slots) (value : Nat)
    : Chain (Function.update next slot value) head slots := by
  induction slots generalizing head with
  | nil => exact chain
  | cons first rest ih =>
      rw [List.mem_cons, not_or] at outside
      refine ⟨chain.1, chain.2.1, ?_⟩
      rw [Function.update_of_ne (Ne.symm outside.1)]
      exact ih chain.2.2 outside.2

/-- A slot in front of a chain. -/
theorem Chain.push {slots : List Nat} (chain : Chain next head slots) {slot : Nat}
    (filled : slot ≠ 0) (outside : slot ∉ slots)
    : Chain (Function.update next slot head) slot (slot :: slots) := by
  refine ⟨rfl, filled, ?_⟩
  rw [Function.update_self]
  exact chain.update outside head

/-- Slots that each link to the one behind them, by induction on their number. -/
theorem chain_range' {first count : Nat} (filled : first ≠ 0)
    (following : ∀ slot, first ≤ slot → slot < first + count → next slot = slot + 1)
    (ended : next (first + count) = 0)
    : Chain next first (List.range' first (count + 1)) := by
  induction count generalizing first with
  | zero => exact ⟨rfl, filled, ended⟩
  | succ count ih =>
      refine ⟨rfl, filled, ?_⟩
      rw [following first (Nat.le_refl first) (by omega)]
      refine ih (Nat.succ_ne_zero first) (fun slot low high => ?_) ?_
      · exact following slot (by omega) (by omega)
      · rwa [Nat.add_right_comm]

-----------------------------------------------------------------------------------------
-- Searching and cutting
-----------------------------------------------------------------------------------------

/-- Where the index of a slot is stored: at the head of the chain or in the slot before. -/
inductive Link
  | head
  | next (slot : Nat)

/-- The index that is stored at a link. -/
def follow (next : Nat → Nat) (head : Nat) : Link → Nat
  | .head => head
  | .next slot => next slot

/-- The loop that follows the links up to a slot with a property. It ends with the link at which the
slot was found, or with none; `none` outside says that it did not end within the steps given.
-/
def search (next : Nat → Nat) (head : Nat) (found : Nat → Bool)
    : Nat → Link → Option (Option (Link × Nat))
  | 0, _ => none
  | steps + 1, link =>
      if follow next head link = 0 then some none
      else if found (follow next head link) then some (some (link, follow next head link))
      else search next head found steps (.next (follow next head link))

/-- The link behind some slots of a chain. -/
def Behind (link : Link) (front : List Nat) : Prop :=
  front = [] ∧ link = .head ∨ ∃ before slot, front = before ++ [slot] ∧ link = .next slot

/-- Searching from a link within a chain, by induction on the slots that are still ahead. -/
theorem search_from {found : Nat → Bool} {front slots : List Nat} {link : Link} {steps : Nat}
    (behind : Behind link front) (chain : Chain next (follow next head link) slots)
    (enough : slots.length < steps)
    : (∀ slot ∈ slots, found slot = false) ∧ search next head found steps link = some none
      ∨ ∃ middle slot back link',
          slots = middle ++ slot :: back
          ∧ (∀ earlier ∈ middle, found earlier = false)
          ∧ found slot = true
          ∧ Behind link' (front ++ middle)
          ∧ search next head found steps link = some (some (link', slot)) := by
  induction slots generalizing front link steps with
  | nil =>
      obtain ⟨steps, rfl⟩ := Nat.exists_eq_succ_of_ne_zero (Nat.ne_of_gt enough)
      have ended : follow next head link = 0 := chain
      refine .inl ⟨fun _ member => absurd member List.not_mem_nil, ?_⟩
      rw [search, if_pos ended]
  | cons first rest ih =>
      obtain ⟨steps, rfl⟩ := Nat.exists_eq_succ_of_ne_zero (Nat.ne_of_gt (Nat.zero_lt_of_lt enough))
      obtain ⟨here, filled, chain⟩ := chain
      rw [search, here, if_neg filled]
      by_cases hit : found first = true
      · refine .inr ⟨[], first, rest, link, rfl, ?_, hit, ?_, ?_⟩
        · exact fun _ member => absurd member List.not_mem_nil
        · rwa [List.append_nil]
        · rw [if_pos hit]
      · rw [if_neg hit]
        rw [Bool.not_eq_true] at hit
        have later : Behind (.next first) (front ++ [first]) := .inr ⟨front, first, rfl, rfl⟩
        obtain ⟨none, result⟩ | ⟨middle, slot, back, link', rfl, earlier, some, place, result⟩ :=
          ih later chain (Nat.lt_of_succ_lt_succ enough)
        · exact .inl ⟨List.forall_mem_cons.2 ⟨hit, none⟩, result⟩
        · refine .inr ⟨first :: middle, slot, back, link', rfl, ?_, some, ?_, result⟩
          · exact List.forall_mem_cons.2 ⟨hit, earlier⟩
          · rwa [List.append_assoc] at place

/-- Searching a chain with enough steps ends, at the first slot with the property if it has one. -/
theorem search_chain {found : Nat → Bool} {slots : List Nat} {steps : Nat}
    (chain : Chain next head slots) (enough : slots.length < steps)
    : (∀ slot ∈ slots, found slot = false) ∧ search next head found steps .head = some none
      ∨ ∃ front slot back link,
          slots = front ++ slot :: back
          ∧ (∀ earlier ∈ front, found earlier = false)
          ∧ found slot = true
          ∧ Behind link front
          ∧ search next head found steps .head = some (some (link, slot)) :=
  search_from (.inl ⟨rfl, rfl⟩) chain enough

/-- The links after storing an index at a link. -/
def Link.nexts (next : Nat → Nat) (value : Nat) : Link → Nat → Nat
  | .head => next
  | .next slot => Function.update next slot value

/-- The head of the chain after storing an index at a link. -/
def Link.start (head value : Nat) : Link → Nat
  | .head => value
  | .next _ => head

/-- Storing the index of the slot behind at a link takes the slot out of its chain. -/
theorem Chain.cut {front back : List Nat} {slot : Nat} {link : Link}
    (chain : Chain next head (front ++ slot :: back)) (behind : Behind link front)
    : Chain (link.nexts next (next slot)) (link.start head (next slot)) (front ++ back) := by
  obtain ⟨rfl, rfl⟩ | ⟨before, last, rfl, rfl⟩ := behind
  · exact chain.2.2
  · rw [Link.nexts, Link.start]
    induction before generalizing head with
    | nil =>
        have apart : last ∉ slot :: back := (List.nodup_cons.1 chain.nodup).1
        refine ⟨chain.1, chain.2.1, ?_⟩
        rw [Function.update_self]
        exact chain.2.2.2.2.update (fun member => apart (List.mem_cons_of_mem _ member)) _
    | cons first rest ih =>
        have apart : first ∉ rest ++ [last] ++ slot :: back := (List.nodup_cons.1 chain.nodup).1
        have other : first ≠ last := fun same => apart (by simp [same])
        refine ⟨chain.1, chain.2.1, ?_⟩
        rw [Function.update_of_ne other]
        exact ih chain.2.2

/-- Storing at a link of a chain does not matter to a chain without its slots. -/
theorem Chain.nexts {slots front : List Nat} {link : Link} (chain : Chain next head slots)
    (behind : Behind link front) (apart : ∀ slot ∈ front, slot ∉ slots) (value : Nat)
    : Chain (link.nexts next value) head slots := by
  obtain ⟨rfl, rfl⟩ | ⟨before, last, rfl, rfl⟩ := behind
  · exact chain
  · exact chain.update (apart last (by simp)) value

-----------------------------------------------------------------------------------------
-- Pools
-----------------------------------------------------------------------------------------

/-- Each slot from 1 to `size` is either free or occupied. The free ones are chained, and the
occupied ones are chained by the bucket that they hash to.
-/
structure Pool (size : Nat) (next : Nat → Nat) (freeHead : Nat) (heads : Nat → Nat)
    (hash : Nat → Nat) (free occupied : List Nat) (chains : Nat → List Nat) : Prop where
  freeChain : Chain next freeHead free
  chained : ∀ bucket, Chain next (heads bucket) (chains bucket)
  slots : (free ++ occupied).Perm (List.range' 1 size)
  hashed : ∀ bucket slot, slot ∈ chains bucket ↔ slot ∈ occupied ∧ hash slot = bucket

namespace Pool

variable {size freeHead : Nat} {heads hash : Nat → Nat} {free occupied : List Nat}
  {chains : Nat → List Nat} (pool : Pool size next freeHead heads hash free occupied chains)

include pool

theorem nodup : (free ++ occupied).Nodup := pool.slots.nodup_iff.2 List.nodup_range'

theorem nodup_occupied : occupied.Nodup := (List.nodup_append'.1 pool.nodup).2.1

theorem free_not_occupied {slot : Nat} (member : slot ∈ free) : slot ∉ occupied :=
  fun other => (List.nodup_append'.1 pool.nodup).2.2 member other

/-- No slot is lost. -/
theorem length_add_length : free.length + occupied.length = size := by
  rw [← List.length_append, pool.slots.length_eq, List.length_range']

/-- No chain is longer than the pool. -/
theorem length_chain_le (bucket : Nat) : (chains bucket).length ≤ size := by
  have inside : chains bucket ⊆ occupied := fun slot member =>
    ((pool.hashed bucket slot).1 member).1
  have fits := (List.subperm_of_subset (pool.chained bucket).nodup inside).length_le
  have lengths := pool.length_add_length
  omega

/-- The occupied slots are those of all chains together. -/
theorem occupied_perm {count : Nat} (bounded : ∀ slot, hash slot < count)
    : occupied.Perm ((List.range count).flatMap chains) := by
  have apart : ((List.range count).flatMap chains).Nodup := by
    refine List.nodup_flatMap.2 ⟨fun bucket _ => (pool.chained bucket).nodup, ?_⟩
    refine List.nodup_range.imp fun {bucket other} different slot member again => ?_
    have here := ((pool.hashed bucket slot).1 member).2
    exact different (here.symm.trans ((pool.hashed other slot).1 again).2)
  refine (List.perm_ext_iff_of_nodup pool.nodup_occupied apart).2 fun slot => ?_
  rw [List.mem_flatMap]
  constructor
  · intro used
    exact ⟨hash slot, List.mem_range.2 (bounded slot), (pool.hashed _ slot).2 ⟨used, rfl⟩⟩
  · rintro ⟨bucket, -, member⟩
    exact ((pool.hashed bucket slot).1 member).1

/-- Taking a slot out of its chain and putting it in front of the free ones. -/
theorem remove {bucket slot : Nat} {front back : List Nat} {link : Link}
    (split : chains bucket = front ++ slot :: back) (behind : Behind link front)
    {hash' : Nat → Nat} (same : ∀ other ≠ slot, hash' other = hash other)
    : Pool size (Function.update (link.nexts next (next slot)) slot freeHead) slot
        (Function.update heads bucket (link.start (heads bucket) (next slot))) hash' (slot :: free)
        (occupied.erase slot) (Function.update chains bucket (front ++ back)) := by
  have chain : Chain next (heads bucket) (front ++ slot :: back) := split ▸ pool.chained bucket
  have inside {other : Nat} (member : other ∈ front ++ slot :: back)
      : other ∈ occupied ∧ hash other = bucket :=
    (pool.hashed bucket other).1 (split ▸ member)
  have used : slot ∈ occupied := (inside (by simp)).1
  have apart : slot ∉ front ++ back := (List.nodup_middle.1 chain.nodup).notMem
  have earlier {other : Nat} (member : other ∈ front) : other ∈ occupied ∧ hash other = bucket :=
    inside (List.mem_append_left _ member)
  refine ⟨?_, fun other => ?_, ?_, fun other target => ?_⟩
  · refine Chain.push ?_ (chain.ne_zero slot (by simp)) fun unused =>
      pool.free_not_occupied unused used
    exact pool.freeChain.nexts behind
      (fun other member unused => pool.free_not_occupied unused (earlier member).1) _
  · by_cases here : other = bucket
    · subst here
      rw [Function.update_self, Function.update_self]
      exact (chain.cut behind).update apart _
    · rw [Function.update_of_ne here, Function.update_of_ne here]
      have elsewhere {target : Nat} (hashed : hash target = bucket) : target ∉ chains other :=
        fun member => here (((pool.hashed other target).1 member).2.symm.trans hashed)
      refine Chain.update ?_ (elsewhere (inside (by simp)).2) _
      exact (pool.chained other).nexts behind (fun _ member => elsewhere (earlier member).2) _
  · refine List.Perm.trans ?_ pool.slots
    exact List.perm_middle.symm.trans ((List.perm_cons_erase used).symm.append_left free)
  · rw [pool.nodup_occupied.mem_erase_iff]
    by_cases this : target = slot
    · subst this
      by_cases here : other = bucket
      · subst here
        simpa using apart
      · rw [Function.update_of_ne here, pool.hashed]
        have elsewhere : hash target ≠ other := fun hashed =>
          here (hashed.symm.trans (inside (by simp)).2)
        simp [elsewhere]
    · rw [same target this]
      by_cases here : other = bucket
      · subst here
        have member := pool.hashed other target
        rw [split] at member
        rw [Function.update_self]
        simpa [this] using member
      · rw [Function.update_of_ne here, pool.hashed]
        simp [this]

/-- Moving the first free slot to the front of the chain of a bucket. -/
theorem push {slot bucket : Nat} {rest : List Nat} (split : free = slot :: rest)
    {hash' : Nat → Nat} (hashes : hash' slot = bucket)
    (same : ∀ other ≠ slot, hash' other = hash other)
    : Pool size (Function.update next slot (heads bucket)) (next slot)
        (Function.update heads bucket slot) hash' rest (slot :: occupied)
        (Function.update chains bucket (slot :: chains bucket)) := by
  subst split
  have unused : slot ∉ occupied := pool.free_not_occupied List.mem_cons_self
  have apart (other : Nat) : slot ∉ chains other := fun member =>
    unused ((pool.hashed other slot).1 member).1
  refine ⟨?_, fun other => ?_, ?_, fun other target => ?_⟩
  · exact pool.freeChain.2.2.update (List.nodup_cons.1 pool.freeChain.nodup).1 _
  · by_cases here : other = bucket
    · subst here
      rw [Function.update_self, Function.update_self]
      exact (pool.chained other).push pool.freeChain.2.1 (apart other)
    · rw [Function.update_of_ne here, Function.update_of_ne here]
      exact (pool.chained other).update (apart other) _
  · exact List.perm_middle.trans pool.slots
  · by_cases this : target = slot
    · subst this
      by_cases here : other = bucket
      · subst here
        simp [hashes]
      · rw [Function.update_of_ne here]
        simp [apart other, hashes, Ne.symm here]
    · rw [List.mem_cons, same target this]
      by_cases here : other = bucket
      · subst here
        rw [Function.update_self, List.mem_cons, pool.hashed]
        simp [this]
      · rw [Function.update_of_ne here, pool.hashed]
        simp [this]

end Pool

end Library.LinkedPool
