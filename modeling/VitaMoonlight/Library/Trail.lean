import Mathlib.Data.List.Perm.Subperm

/-! Deterministic walks that come to an end.
A walk that ends meets no state twice, so it is no longer than there are states.
-/

namespace Library

variable {State : Type} {next : State → Option State}

/-- The states of a walk from a state up to one that has no next state. -/
inductive Trail (next : State → Option State) : State → List State → Prop
  | finish {state : State} (last : next state = none) : Trail next state [state]
  | step {state after : State} {rest : List State} (moves : next state = some after)
      (later : Trail next after rest)
      : Trail next state (state :: rest)

namespace Trail

/-- There is one walk from a state, by induction on one of two. -/
theorem unique {state : State} {first second : List State} (one : Trail next state first)
    (other : Trail next state second)
    : first = second := by
  induction one generalizing second with
  | finish last =>
      cases other with
      | finish => rfl
      | step moves => exact absurd (last.symm.trans moves) nofun
  | step moves later ih =>
      cases other with
      | finish last => exact absurd (last.symm.trans moves) nofun
      | step again others =>
          obtain rfl := Option.some.inj (moves.symm.trans again)
          rw [ih others]

/-- Each state of a walk starts a walk, which is no longer. -/
theorem from_mem {state visited : State} {path : List State} (trail : Trail next state path)
    (member : visited ∈ path)
    : ∃ rest, Trail next visited rest ∧ rest.length ≤ path.length := by
  induction trail with
  | finish last =>
      obtain rfl := List.mem_singleton.1 member
      exact ⟨_, .finish last, Nat.le_refl _⟩
  | step moves later ih =>
      obtain rfl | member := List.mem_cons.1 member
      · exact ⟨_, .step moves later, Nat.le_refl _⟩
      · obtain ⟨rest, walk, short⟩ := ih member
        exact ⟨rest, walk, Nat.le_succ_of_le short⟩

/-- A walk that ends does not come back to a state. -/
theorem nodup {state : State} {path : List State} (trail : Trail next state path)
    : path.Nodup := by
  induction trail with
  | finish => exact List.nodup_cons.2 ⟨List.not_mem_nil, List.nodup_nil⟩
  | step moves later ih =>
      refine List.nodup_cons.2 ⟨fun again => ?_, ih⟩
      obtain ⟨rest, walk, short⟩ := later.from_mem again
      have same := walk.unique (.step moves later)
      rw [same, List.length_cons] at short
      exact absurd short (Nat.not_succ_le_self _)

end Trail

/-- Positions below a bound without repetition are at most as many as the bound. -/
theorem length_le_of_nodup_lt {positions : List Nat} {bound : Nat} (distinct : positions.Nodup)
    (below : ∀ position ∈ positions, position < bound)
    : positions.length ≤ bound := by
  have subset : positions ⊆ List.range bound := fun position member =>
    List.mem_range.2 (below position member)
  have short := (distinct.subperm subset).length_le
  rwa [List.length_range] at short

end Library
