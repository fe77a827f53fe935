import Mathlib.Data.List.Nodup
import Mathlib.Data.Nat.ModEq

/-! Items that are used in turn, over and over: the one whose turn it is differs from all that were
used since its last turn.
-/

namespace Library

universe u

variable {α : Type u} {items outputs : List α} {item : α} {count : Nat}

/-- The first `count` outputs, with the newest in front, went through the items in turn, and the
outputs before them are none of the items.
-/
structure RoundRobin (items : List α) (count : Nat) (outputs : List α) : Prop where
  turns : ∀ age < count, outputs[age]? = items[(count - 1 - age) % items.length]?
  others : ∀ output ∈ outputs.drop count, output ∉ items

namespace RoundRobin

/-- New items have had no turn. -/
theorem start (fresh : ∀ output ∈ outputs, output ∉ items) : RoundRobin items 0 outputs where
  turns age before := absurd before (Nat.not_lt_zero age)
  others := fresh

/-- The item whose turn it is has it. -/
theorem next (robin : RoundRobin items count outputs)
    (turn : items[count % items.length]? = some item)
    : RoundRobin items (count + 1) (item :: outputs) where
  turns age before := by
    cases age with
    | zero => exact turn.symm
    | succ age =>
        rw [List.getElem?_cons_succ, robin.turns age (Nat.lt_of_succ_lt_succ before)]
        congr 2
        omega
  others := robin.others

/-- The item whose turn it is was not used while the others had theirs. -/
theorem not_recent (robin : RoundRobin items count outputs) (distinct : items.Nodup)
    (turn : items[count % items.length]? = some item)
    : item ∉ outputs.take (items.length - 1) := by
  intro member
  obtain ⟨age, bound, same⟩ := List.mem_take_iff_getElem.mp member
  have recent : age < items.length - 1 := Nat.lt_of_lt_of_le bound (Nat.min_le_left _ _)
  have used : outputs[age]? = some item := List.getElem?_eq_some_iff.mpr ⟨_, same⟩
  by_cases before : age < count
  · rw [robin.turns age before, ← turn] at used
    have place := (List.getElem?_inj (Nat.mod_lt _ (by omega)) distinct).mp used
    -- Two turns less than a round apart cannot fall on one place.
    have round : items.length ∣ count - (count - 1 - age) :=
      (Nat.modEq_iff_dvd' (by omega)).mp place
    have far := Nat.le_of_dvd (by omega) round
    omega
  · have earlier : item ∈ outputs.drop count :=
      List.mem_drop_iff_getElem.mpr
        ⟨age - count, by omega, by simpa [Nat.add_sub_cancel' (Nat.le_of_not_lt before)] using same⟩
    exact robin.others item earlier (List.mem_of_getElem? turn)

end RoundRobin

end Library
