import VitaMoonlight.Library.Machine

/-! Calls that emit labels beside a state: what holds of every run when each call emits only what the
history of the labels before it permits, and keeps a relation between that history and the state.
-/

namespace Library

universe u v w

variable {History : Type u} {State : Type v} {Label : Type w}

/-- A call, or the rest of one: labels that may follow the history one after the other, and a state
that is as the history behind them tells.
-/
structure CallKept (observe : History → Label → History) (permits : History → Label → Prop)
    (kept : History → State → Prop) (past : History) (outcome : State × List Label) : Prop where
  permitted : AllPermitted observe permits past outcome.2
  kept : kept (outcome.2.foldl observe past) outcome.1

/-- Labels that leave the history alone are permitted one by one, by induction on them. -/
theorem AllPermitted.forall_mem {permits : History → Label → Prop} {past : History}
    {labels : List Label} (permitted : AllPermitted (fun past _ => past) permits past labels)
    : ∀ label ∈ labels, permits past label := by
  induction labels with
  | nil => exact fun label member => by cases member
  | cons label rest ih => exact List.forall_mem_cons.mpr ⟨permitted.1, ih permitted.2⟩

namespace CallKept

variable {observe : History → Label → History} {permits : History → Label → Prop}
  {between kept : History → State → Prop} {past : History} {state after : State}
  {first second : List Label} {label : Label}

/-- A weaker relation behind the call. -/
theorem weaken {outcome : State × List Label} (call : CallKept observe permits between past outcome)
    (weaker : ∀ past state, between past state → kept past state)
    : CallKept observe permits kept past outcome :=
  ⟨call.permitted, weaker _ _ call.kept⟩

/-- A call without labels. -/
theorem silent (holds : kept past state) : CallKept observe permits kept past (state, []) :=
  ⟨trivial, holds⟩

/-- A label in front of the rest of a call. -/
theorem precede (permitted : permits past label)
    (rest : CallKept observe permits kept (observe past label) (after, second))
    : CallKept observe permits kept past (after, label :: second) where
  permitted := ⟨permitted, rest.permitted⟩
  kept := rest.kept

/-- A call of one label. -/
theorem single (permitted : permits past label) (holds : kept (observe past label) after)
    : CallKept observe permits kept past (after, [label]) :=
  .precede permitted (.silent holds)

/-- A call that goes on behind another one. -/
theorem append (now : CallKept observe permits between past (state, first))
    (later : CallKept observe permits kept (first.foldl observe past) (after, second))
    : CallKept observe permits kept past (after, first ++ second) where
  permitted := now.permitted.append later.permitted
  kept := by
    rw [List.foldl_append]
    exact later.kept

end CallKept

/-- What each step keeps holds of every run, by induction on the run. -/
theorem Machine.Reaches.keeps {Choice : Type*} {machine : Machine State Choice Label}
    {observe : History → Label → History} {permits : History → Label → Prop}
    {kept : History → State → Prop} {init : History}
    (base : ∀ state, machine.initial state → kept init state)
    (preserved
      : ∀ past state choice outcome,
          kept past state
          → machine.step state choice = some outcome
          → CallKept observe permits kept past outcome)
    {trace : List Label} {state : State} (reached : machine.Reaches trace state)
    : Guarded (fun before label => permits (before.foldl observe init) label) trace
      ∧ kept (trace.foldl observe init) state := by
  refine
    reached.invariant
      (fun trace state =>
        Guarded (fun before label => permits (before.foldl observe init) label) trace
        ∧ kept (trace.foldl observe init) state)
      (fun state initial => ⟨Guarded.nil _, base state initial⟩)
      (fun trace state choice after emitted ⟨guarded, holds⟩ taken => ?_)
  have call := preserved _ _ _ _ holds taken
  refine ⟨guarded.append call.permitted.allowedAfter, ?_⟩
  rw [List.foldl_append]
  exact call.kept

/-- What each admitted step keeps holds of every run of admitted steps, by induction on the run. -/
theorem Machine.ReachesWhen.keeps {Choice : Type*} {machine : Machine State Choice Label}
    {admits : List Label → State → Choice → Prop}
    {observe : History → Label → History} {permits : History → Label → Prop}
    {kept : History → State → Prop} {init : History}
    (base : ∀ state, machine.initial state → kept init state)
    (preserved
      : ∀ trace past state choice outcome,
          kept past state
          → admits trace state choice
          → machine.step state choice = some outcome
          → CallKept observe permits kept past outcome)
    {trace : List Label} {state : State} (reached : machine.ReachesWhen admits trace state)
    : Guarded (fun before label => permits (before.foldl observe init) label) trace
      ∧ kept (trace.foldl observe init) state := by
  refine
    reached.invariant
      (fun trace state =>
        Guarded (fun before label => permits (before.foldl observe init) label) trace
        ∧ kept (trace.foldl observe init) state)
      (fun state initial => ⟨Guarded.nil _, base state initial⟩)
      (fun trace state choice after emitted ⟨guarded, holds⟩ admitted taken => ?_)
  have call := preserved _ _ _ _ _ holds admitted taken
  refine ⟨guarded.append call.permitted.allowedAfter, ?_⟩
  rw [List.foldl_append]
  exact call.kept

end Library
