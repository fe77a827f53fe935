import Mathlib.Data.List.Nodup

/-! Tables kept in parallel arrays: their in-place compaction, a loop from the back that erases the
entries it does not keep, and writes to one of the arrays.
-/

namespace Library

universe u v

variable {α : Type u} {β : Type v}

/-- The loop over the leading positions, from the back. -/
def compact (keep : α → Bool) (entries : List α) : Nat → List α
  | 0 => entries
  | count + 1 =>
      compact keep (if entries[count]?.all keep then entries else entries.eraseIdx count) count

/-- The loop filters the leading entries and leaves the others, by induction on their number. -/
theorem compact_eq (keep : α → Bool) (entries : List α) {count : Nat}
    (inside : count ≤ entries.length)
    : compact keep entries count = (entries.take count).filter keep ++ entries.drop count := by
  induction count generalizing entries with
  | zero => simp [compact]
  | succ count ih =>
      have here : entries[count]? = some entries[count] := List.getElem?_eq_getElem inside
      have taken : entries.take (count + 1) = entries.take count ++ [entries[count]] :=
        List.take_succ_eq_append_getElem inside
      rw [compact, here, Option.all_some, taken, List.filter_append, List.append_assoc]
      cases kept : keep entries[count] with
      | true =>
          rw [if_pos rfl, ih entries (by omega), List.filter_singleton, kept, cond_true,
            List.drop_eq_getElem_cons inside]
          rfl
      | false =>
          have front : (entries.eraseIdx count).take count = entries.take count := by
            rw [List.eraseIdx_eq_take_drop_succ, List.take_append_of_le_length (by simp; omega),
              List.take_take, Nat.min_self]
          have back : (entries.eraseIdx count).drop count = entries.drop (count + 1) := by
            rw [List.eraseIdx_eq_take_drop_succ, List.drop_append_of_le_length (by simp; omega)]
            simp
          have length : count ≤ (entries.eraseIdx count).length := by
            rw [List.length_eraseIdx_of_lt inside]
            omega
          rw [if_neg Bool.false_ne_true, ih _ length, front, back, List.filter_singleton, kept,
            cond_false, List.nil_append]

/-- The loop over all entries filters them. -/
theorem compact_length (keep : α → Bool) (entries : List α)
    : compact keep entries entries.length = entries.filter keep := by
  rw [compact_eq keep entries (Nat.le_refl _)]
  simp

/-- Parallel arrays stay parallel when the same position of both is erased, by induction on the
first.
-/
theorem zip_eraseIdx (first : List α) (second : List β) (index : Nat)
    : (first.eraseIdx index).zip (second.eraseIdx index) = (first.zip second).eraseIdx index := by
  induction first generalizing second index with
  | nil => simp
  | cons head rest ih =>
      cases second with
      | nil => simp
      | cons other others =>
          cases index with
          | zero => rfl
          | succ index => simp [ih]

/-- A write to the values changes the entry of one key only, where keys are distinct. -/
theorem mem_zip_set {keys : List α} {values : List β} {index : Nat} {key : α} {value : β}
    (distinct : keys.Nodup) (here : keys[index]? = some key) {entry : α × β}
    (member : entry ∈ keys.zip (values.set index value))
    : entry = (key, value) ∨ entry ∈ keys.zip values ∧ entry.1 ≠ key := by
  obtain ⟨position, found⟩ := List.getElem?_of_mem member
  obtain ⟨first, second⟩ := List.getElem?_zip_eq_some.1 found
  by_cases same : index = position
  · subst same
    rw [List.getElem?_set_self'] at second
    obtain ⟨old, -, written⟩ := Option.map_eq_some_iff.1 second
    refine .inl (Prod.ext ?_ written.symm)
    exact Option.some.inj (first.symm.trans here)
  · rw [List.getElem?_set_ne same] at second
    refine .inr ⟨List.mem_of_getElem? (List.getElem?_zip_eq_some.2 ⟨first, second⟩), ?_⟩
    intro again
    rw [again] at first
    obtain ⟨inside, atIndex⟩ := List.getElem?_eq_some_iff.1 here
    obtain ⟨insideToo, atPosition⟩ := List.getElem?_eq_some_iff.1 first
    exact same ((List.Nodup.getElem_inj_iff distinct).1 (atIndex.trans atPosition.symm))

/-- Entries that are kept are in the order of the table, by induction on how the kept ones lie in
it.
-/
theorem sublist_of_subset {entries kept table : List α} (distinct : table.Nodup)
    (ordered : entries.Sublist table) (remains : kept.Sublist table) (inside : entries ⊆ kept)
    : entries.Sublist kept := by
  induction remains generalizing entries with
  | slnil => exact ordered
  | @cons kept rest head remains ih =>
      obtain ⟨absent, distinct⟩ := List.nodup_cons.1 distinct
      obtain ordered | ⟨others, rfl, -⟩ := List.sublist_cons_iff.1 ordered
      · exact ih distinct ordered inside
      · exact absurd (remains.subset (inside List.mem_cons_self)) absent
  | @cons_cons kept rest head remains ih =>
      obtain ⟨absent, distinct⟩ := List.nodup_cons.1 distinct
      have narrower : ∀ some : List α, some.Sublist rest → some ⊆ head :: kept → some ⊆ kept := by
        intro some ordered inside entry member
        obtain same | here := List.mem_cons.1 (inside member)
        · exact absurd (ordered.subset (same ▸ member)) absent
        · exact here
      obtain ordered | ⟨others, rfl, behind⟩ := List.sublist_cons_iff.1 ordered
      · exact (ih distinct ordered (narrower _ ordered inside)).cons head
      · refine (ih distinct behind (narrower _ behind ?_)).cons_cons head
        exact fun entry member => inside (List.mem_cons_of_mem head member)

end Library
