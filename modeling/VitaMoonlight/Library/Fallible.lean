import Mathlib.Data.List.Basic

/-! Inversion of fallible computations: what a success says about every step, and which
steps a failure can come from; readers that go through a list and may give up.
-/

namespace Library

universe u

variable {ε α β : Type u}

/-- A bind succeeds when both steps do. -/
theorem bind_eq_ok {action : Except ε α} {next : α → Except ε β} {value : β}
    : (action >>= next) = .ok value ↔ ∃ middle, action = .ok middle ∧ next middle = .ok value := by
  cases action <;> simp [bind, Except.bind]

/-- A bind fails where its first step does, or its second after the first. -/
theorem bind_eq_error {action : Except ε α} {next : α → Except ε β} {failure : ε}
    : (action >>= next) = .error failure
      ↔ action = .error failure ∨ ∃ middle, action = .ok middle ∧ next middle = .error failure := by
  cases action <;> simp [bind, Except.bind]

/-- A computation that never fails in a bad way. -/
def Avoids (bad : ε → Prop) (action : Except ε α) : Prop :=
  ∀ failure, action = .error failure → ¬bad failure

theorem Avoids.ok (bad : ε → Prop) (value : α) : Avoids bad (.ok value) :=
  fun _ failed => nomatch failed

theorem Avoids.bind {bad : ε → Prop} {action : Except ε α} {next : α → Except ε β}
    (first : Avoids bad action) (second : ∀ middle, Avoids bad (next middle))
    : Avoids bad (action >>= next) := by
  intro failure failed
  rcases bind_eq_error.mp failed with failed | ⟨middle, -, failed⟩
  · exact first failure failed
  · exact second middle failure failed

/-- A bad failure of a bind whose first step avoids it comes from the second step. -/
theorem Avoids.of_bind_eq_error {bad : ε → Prop} {action : Except ε α}
    {next : α → Except ε β} {failure : ε} (first : Avoids bad action)
    (failed : (action >>= next) = .error failure) (is_bad : bad failure)
    : ∃ middle, action = .ok middle ∧ next middle = .error failure := by
  rcases bind_eq_error.mp failed with failed | later
  · exact absurd is_bad (first failure failed)
  · exact later

-----------------------------------------------------------------------------------------
-- Readers
-----------------------------------------------------------------------------------------

section

variable {Draft Other Item : Type*}

/-- Two readers side by side, which give up together. -/
def readBoth (first : Draft → Item → Option Draft) (second : Other → Item → Option Other)
    (drafts : Draft × Other) (item : Item)
    : Option (Draft × Other) :=
  (first drafts.1 item).bind fun draft => (second drafts.2 item).map fun other => (draft, other)

/-- Where the second reader passes over an item, the first one decides. -/
theorem readBoth_first {first : Draft → Item → Option Draft}
    {second : Other → Item → Option Other} {drafts : Draft × Other} {item : Item}
    (passes : second drafts.2 item = some drafts.2)
    : readBoth first second drafts item
      = (first drafts.1 item).map fun draft => (draft, drafts.2) := by
  rw [readBoth, passes, Option.map_eq_bind]
  rfl

/-- Where the first reader passes over an item, the second one decides. -/
theorem readBoth_second {first : Draft → Item → Option Draft}
    {second : Other → Item → Option Other} {drafts : Draft × Other} {item : Item}
    (passes : first drafts.1 item = some drafts.1)
    : readBoth first second drafts item
      = (second drafts.2 item).map fun other => (drafts.1, other) := by
  rw [readBoth, passes, Option.bind_some]

/-- A reader that gives up at some items. -/
def readUnless (refused : Item → Prop) [DecidablePred refused]
    (read : Draft → Item → Option Draft) (draft : Draft) (item : Item)
    : Option Draft :=
  if refused item then none else read draft item

theorem foldlM_readBoth_iff {first : Draft → Item → Option Draft}
    {second : Other → Item → Option Other} (items : List Item) (drafts next : Draft × Other)
    : items.foldlM (readBoth first second) drafts = some next
      ↔ items.foldlM first drafts.1 = some next.1 ∧ items.foldlM second drafts.2 = some next.2 := by
  induction items generalizing drafts with
  | nil => simp [Prod.ext_iff]
  | cons item rest ih =>
      rw [List.foldlM_cons, List.foldlM_cons, List.foldlM_cons, readBoth]
      cases first drafts.1 item with
      | none => simp
      | some draft =>
          cases second drafts.2 item with
          | none => simp
          | some other => exact ih (draft, other)

theorem foldlM_readUnless_iff {refused : Item → Prop} [DecidablePred refused]
    {read : Draft → Item → Option Draft} (items : List Item) (draft next : Draft)
    : items.foldlM (readUnless refused read) draft = some next
      ↔ (∀ item ∈ items, ¬ refused item) ∧ items.foldlM read draft = some next := by
  induction items generalizing draft with
  | nil => simp
  | cons item rest ih =>
      rw [List.foldlM_cons, List.foldlM_cons, List.forall_mem_cons, readUnless]
      by_cases bad : refused item
      · simp [bad]
      · rw [if_neg bad]
        cases read draft item with
        | none => simp
        | some draft => simpa [bad] using ih draft

end

end Library
