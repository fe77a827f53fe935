import Mathlib.Data.List.Basic

/-! Routines over a store that may be cut off behind any of their effects, and triples that speak of
every state on the way besides the last one.
-/

namespace Library

universe u v w

-----------------------------------------------------------------------------------------
-- Routines
-----------------------------------------------------------------------------------------

/-- What a routine goes through: the states behind its effects in their order, the last state, and
its answer.
-/
structure Course (State : Type u) (α : Type v) where
  passed : List State
  final : State
  answer : α

/-- A routine over a store. -/
def Routine (State : Type u) (α : Type v) : Type max u v := State → Course State α

namespace Routine

variable {State : Type u} {α β : Type v}

instance : Monad (Routine State) where
  pure value := fun state => { passed := [], final := state, answer := value }
  bind first next := fun state =>
    let now := first state
    let later := next now.answer now.final
    { later with passed := now.passed ++ later.passed }

/-- One effect on the store. -/
def effect (change : State → State) : Routine State PUnit.{v + 1} := fun state =>
  { passed := [change state], final := change state, answer := ⟨⟩ }

/-- Looking at the store. -/
def look (view : State → α) : Routine State α := fun state =>
  { passed := [], final := state, answer := view state }

/-- The store when the routine is cut off behind some of its effects. -/
def cutOff (routine : Routine State α) (count : Nat) (state : State) : State :=
  ((routine state).passed.take count).getLastD state

end Routine

-----------------------------------------------------------------------------------------
-- Triples
-----------------------------------------------------------------------------------------

/-- From a state as `before`, each state on the way is as `during`, and the last one with the answer
as `after`.
-/
structure Runs {State : Type u} {α : Type v} (before during : State → Prop)
    (routine : Routine State α) (after : α → State → Prop) : Prop where
  passed : ∀ state, before state → ∀ between ∈ (routine state).passed, during between
  ended : ∀ state, before state → after (routine state).answer (routine state).final

/-- A routine without effects, by what it answers from one state. -/
abbrev Reads {State : Type u} {α : Type v} (state : State) (routine : Routine State α)
    (after : α → Prop) : Prop :=
  Runs (· = state) (fun _ => False) routine (fun answer final => final = state ∧ after answer)

/-- Every state on the way and the last one are as the invariant says if the first one is. -/
abbrev Keeps {State : Type u} {α : Type v} (holds : State → Prop) (routine : Routine State α)
    : Prop :=
  Runs holds holds routine (fun _ => holds)

namespace Runs

variable {State : Type u} {α β : Type v} {before during : State → Prop}
  {routine : Routine State α} {after : α → State → Prop}

theorem pure {value : α} (holds : ∀ state, before state → after value state)
    : Runs before during (Pure.pure value) after where
  passed _ _ _ member := by cases member
  ended := holds

theorem bind {next : α → Routine State β} {last : β → State → Prop}
    (first : Runs before during routine after) (second : ∀ value, Runs (after value) during (next value) last)
    : Runs before during (routine >>= next) last where
  passed state holds _ member := by
    obtain early | late := List.mem_append.mp member
    · exact first.passed state holds _ early
    · exact (second _).passed _ (first.ended state holds) _ late
  ended state holds := (second _).ended _ (first.ended state holds)

theorem effect {change : State → State} {after : PUnit.{v + 1} → State → Prop}
    (holds : ∀ state, before state → during (change state) ∧ after ⟨⟩ (change state))
    : Runs before during (Routine.effect change) after where
  passed state start _ member := List.mem_singleton.mp member ▸ (holds state start).1
  ended state start := (holds state start).2

/-- An effect that keeps an invariant. -/
theorem keep {holds : State → Prop} {change : State → State}
    (kept : ∀ state, holds state → holds (change state))
    : Keeps holds (Routine.effect.{u, v} change) :=
  effect fun state start => ⟨kept state start, kept state start⟩

theorem look {view : State → α} (holds : ∀ state, before state → after (view state) state)
    : Runs before during (Routine.look view) after where
  passed _ _ _ member := by cases member
  ended := holds

/-- A stronger start and a weaker end. -/
theorem weaken {start : State → Prop} {last : α → State → Prop}
    (runs : Runs before during routine after) (stronger : ∀ state, start state → before state)
    (weaker : ∀ value state, after value state → last value state)
    : Runs start during routine last where
  passed state holds := runs.passed state (stronger state holds)
  ended state holds := weaker _ _ (runs.ended state (stronger state holds))

/-- From each of the states alike. -/
theorem each (runs : ∀ state, before state → Runs (· = state) during routine after)
    : Runs before during routine after where
  passed state start := (runs state start).passed state rfl
  ended state start := (runs state start).ended state rfl

/-- Weaker states on the way. -/
theorem along {between : State → Prop} (runs : Runs before during routine after)
    (weaker : ∀ state, during state → between state)
    : Runs before between routine after where
  passed state holds now member := weaker now (runs.passed state holds now member)
  ended := runs.ended

/-- A routine that is cut off has left the store as it found it, or as it was on the way. -/
theorem cutOff (runs : Runs before during routine after) {state : State} (start : before state)
    (count : Nat)
    : routine.cutOff count state = state ∨ during (routine.cutOff count state) := by
  rw [Routine.cutOff]
  cases cut : (routine state).passed.take count with
  | nil => exact .inl rfl
  | cons first rest =>
      refine .inr (runs.passed state start _ (List.mem_of_mem_take (i := count) ?_))
      rw [cut, List.getLastD_cons]
      exact List.getLastD_mem_cons

end Runs

namespace Reads

variable {State : Type u} {α β : Type v} {state : State} {after : α → Prop}

theorem pure {value : α} (holds : after value) : Reads state (Pure.pure value) after :=
  Runs.pure fun _ same => ⟨same, holds⟩

theorem bind {routine : Routine State α} {next : α → Routine State β} {last : β → Prop}
    (first : Reads state routine after)
    (second : ∀ answer, after answer → Reads state (next answer) last)
    : Reads state (routine >>= next) last :=
  Runs.bind first fun answer =>
    {
      passed := fun now holds => (second answer holds.2).passed now holds.1
      ended := fun now holds => (second answer holds.2).ended now holds.1
    }

/-- A routine that goes on from what it sees. -/
theorem look_bind {view : State → α} {next : α → Routine State β} {last : β → Prop}
    (rest : Reads state (next (view state)) last)
    : Reads state (Routine.look view >>= next) last :=
  bind (Runs.look fun _ same => ⟨same, same ▸ rfl⟩ : Reads state _ (· = view state))
    fun _ same => same ▸ rest

/-- Reading from each state alike. -/
theorem runs {before during : State → Prop} {routine : Routine State α} {after : α → State → Prop}
    (reads : ∀ state, before state → Reads state routine (fun answer => after answer state))
    : Runs before during routine after where
  passed state start now member := ((reads state start).passed state rfl now member).elim
  ended state start := by
    obtain ⟨same, holds⟩ := (reads state start).ended state rfl
    exact same.symm ▸ holds

end Reads

end Library
