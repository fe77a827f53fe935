import Mathlib.Data.List.Basic

/-! Machines that an environment drives choice by choice, the labels they emit, and the
induction principles every run-level result uses.
-/

namespace Library

universe u v w

-----------------------------------------------------------------------------------------
-- Runs
-----------------------------------------------------------------------------------------

/-- A machine takes one choice at a time; `none` marks a choice the state does not offer.
Scheduling, other parties and outcomes of external calls are all choices.
-/
structure Machine (State : Type u) (Choice : Type v) (Label : Type w) where
  initial : State → Prop
  step : State → Choice → Option (State × List Label)

namespace Machine

variable {State : Type u} {Choice : Type v} {Label : Type w}

/-- `machine.Reaches trace state` holds when some run from an initial state emits `trace`
and ends in `state`.
-/
inductive Reaches (machine : Machine State Choice Label) : List Label → State → Prop
  | start {state} (initial : machine.initial state) : machine.Reaches [] state
  | next {trace state choice after emitted} (before : machine.Reaches trace state)
    (taken : machine.step state choice = some (after, emitted))
    : machine.Reaches (trace ++ emitted) after

/-- The final state and the emitted labels of a fixed list of choices. -/
def run (machine : Machine State Choice Label)
    : State → List Choice → Option (State × List Label)
  | state, [] => some (state, [])
  | state, choice :: rest =>
      match machine.step state choice with
      | none => none
      | some (after, emitted) =>
          match machine.run after rest with
          | none => none
          | some (final, later) => some (final, emitted ++ later)

/-- A step in front of a run. -/
theorem run_cons {machine : Machine State Choice Label} {state choice after emitted rest final later}
    (taken : machine.step state choice = some (after, emitted))
    (ran : machine.run after rest = some (final, later))
    : machine.run state (choice :: rest) = some (final, emitted ++ later) := by
  rw [run, taken]
  dsimp only
  rw [ran]

/-- A run takes its first choice and goes on with the rest. -/
theorem run_cons_eq_some {machine : Machine State Choice Label} {state choice rest final emitted}
    (ran : machine.run state (choice :: rest) = some (final, emitted))
    : ∃ after now later,
        machine.step state choice = some (after, now)
        ∧ machine.run after rest = some (final, later)
        ∧ emitted = now ++ later := by
  simp only [run] at ran
  split at ran
  · contradiction
  · rename_i after now taken
    split at ran
    · contradiction
    · rename_i last later tail
      obtain ⟨rfl, rfl⟩ := Prod.mk.inj (Option.some.inj ran)
      exact ⟨after, now, later, taken, tail, rfl⟩

/-- Running a list of choices from a reached state extends the run, by induction on the
choices.
-/
theorem Reaches.run {machine : Machine State Choice Label} {trace state}
    (reached : machine.Reaches trace state) (choices : List Choice) {final emitted}
    (ran : machine.run state choices = some (final, emitted))
    : machine.Reaches (trace ++ emitted) final := by
  induction choices generalizing trace state emitted with
  | nil =>
      simp only [Machine.run, Option.some.injEq, Prod.mk.injEq] at ran
      obtain ⟨rfl, rfl⟩ := ran
      simpa using reached
  | cons choice rest ih =>
      obtain ⟨after, now, later, taken, tail, rfl⟩ := run_cons_eq_some ran
      rw [← List.append_assoc]
      exact ih (reached.next taken) tail

/-- A run of the machine on its own, from an initial state. -/
theorem reaches_run (machine : Machine State Choice Label) {state} (initial : machine.initial state)
    (choices : List Choice) {final emitted}
    (ran : machine.run state choices = some (final, emitted))
    : machine.Reaches emitted final :=
  (Reaches.start initial).run choices ran

/-- A machine comes to rest if each step of one choice brings it closer to rest, by induction on how
far it may still be.
-/
theorem exists_rest {machine : Machine State Choice Label} {choice : Choice}
    {invariant : State → Prop} {permitted : Label → Prop} (distance : State → Nat)
    (closer
      : ∀ state after emitted,
          invariant state
          → machine.step state choice = some (after, emitted)
          → invariant after
            ∧ distance after < distance state
            ∧ ∀ label ∈ emitted, permitted label)
    {state : State} (here : invariant state)
    : ∃ count final trace,
        count ≤ distance state
        ∧ machine.run state (List.replicate count choice) = some (final, trace)
        ∧ machine.step final choice = none
        ∧ invariant final
        ∧ ∀ label ∈ trace, permitted label := by
  induction far : distance state using Nat.strongRecOn generalizing state with
  | ind bound ih =>
      subst far
      cases taken : machine.step state choice with
      | none => exact ⟨0, state, [], Nat.zero_le _, rfl, taken, here, by simp⟩
      | some stepped =>
          obtain ⟨after, emitted⟩ := stepped
          obtain ⟨kept, less, labels⟩ := closer state after emitted here taken
          obtain ⟨count, final, trace, few, ran, rest, holds, later⟩ := ih _ less kept rfl
          refine ⟨count + 1, final, emitted ++ trace, by omega, ?_, rest, holds, ?_⟩
          · rw [List.replicate_succ]
            exact run_cons taken ran
          · intro label member
            obtain member | member := List.mem_append.1 member
            · exact labels label member
            · exact later label member

/-- A machine arrives at a goal if each step of one choice is there or brings it closer, by
induction on how far it may still be.
-/
theorem exists_arrival {machine : Machine State Choice Label} {choice : Choice}
    {invariant goal : State → Prop} (distance : State → Nat)
    (closer
      : ∀ state,
          invariant state
          → ¬ goal state
          → ∃ after emitted,
              machine.step state choice = some (after, emitted)
              ∧ invariant after
              ∧ (goal after ∨ distance after < distance state))
    {state : State} (here : invariant state)
    : ∃ count final trace,
        machine.run state (List.replicate count choice) = some (final, trace) ∧ goal final := by
  induction far : distance state using Nat.strongRecOn generalizing state with
  | ind bound ih =>
      subst far
      by_cases there : goal state
      · exact ⟨0, state, [], rfl, there⟩
      · obtain ⟨after, emitted, taken, kept, arrived | less⟩ := closer state here there
        · exact ⟨1, after, emitted ++ [], run_cons taken rfl, arrived⟩
        · obtain ⟨count, final, trace, ran, arrived⟩ := ih _ less kept rfl
          exact ⟨count + 1, final, emitted ++ trace, run_cons taken ran, arrived⟩

/-- An invariant over trace and state holds of every run, by induction on the run. -/
theorem Reaches.invariant {machine : Machine State Choice Label}
    (invariant : List Label → State → Prop)
    (base : ∀ state, machine.initial state → invariant [] state)
    (preserved
      : ∀ trace state choice after emitted,
          invariant trace state
          → machine.step state choice = some (after, emitted)
          → invariant (trace ++ emitted) after)
    {trace state} (reached : machine.Reaches trace state)
    : invariant trace state := by
  induction reached with
  | start initial => exact base _ initial
  | next _ taken ih => exact preserved _ _ _ _ _ ih taken

/-- A simulation carries every run of the concrete machine over to the abstract one, as
long as the trace meets an assumption that its prefixes inherit. Witness: induction on the
concrete run, with the abstract run rebuilt step by step.
-/
theorem Reaches.simulated {Abstract : Type*} {concrete : Machine State Choice Label}
    {abstract : Machine Abstract Choice Label} (related : State → Abstract → Prop)
    (assumed : List Label → Prop)
    (inherited : ∀ trace emitted, assumed (trace ++ emitted) → assumed trace)
    (base
      : ∀ state, concrete.initial state → ∃ image, abstract.initial image ∧ related state image)
    (matched
      : ∀ trace state image choice after emitted,
          assumed (trace ++ emitted)
          → abstract.Reaches trace image
          → related state image
          → concrete.step state choice = some (after, emitted)
          → ∃ next, abstract.step image choice = some (next, emitted) ∧ related after next)
    {trace state} (reached : concrete.Reaches trace state) (holds : assumed trace)
    : ∃ image, abstract.Reaches trace image ∧ related state image := by
  induction reached with
  | start initial =>
      obtain ⟨image, first, same⟩ := base _ initial
      exact ⟨image, .start first, same⟩
  | next _ taken ih =>
      obtain ⟨image, ran, same⟩ := ih (inherited _ _ holds)
      obtain ⟨next, step, after⟩ := matched _ _ image _ _ _ holds ran same taken
      exact ⟨next, ran.next step, after⟩

/-- The same steps, shown as a bystander sees each of them. -/
def watched {View : Type*} (machine : Machine State Choice Label)
    (watch : State → Choice → List Label → List View) : Machine State Choice View where
  initial := machine.initial
  step state choice :=
    (machine.step state choice).map fun (after, emitted) => (after, watch state choice emitted)

/-- The same steps, with a record that each of them extends and none of them reads. -/
def recorded {Record : Type*} (machine : Machine State Choice Label) (empty : Record)
    (extend : Record → State → Choice → Record) : Machine (State × Record) Choice Label where
  initial pair := machine.initial pair.1 ∧ pair.2 = empty
  step pair choice :=
    (machine.step pair.1 choice).map fun (after, emitted) =>
      ((after, extend pair.2 pair.1 choice), emitted)

/-- A record leaves the runs as they are, by induction on the run. -/
theorem Reaches.of_recorded {Record : Type*} {machine : Machine State Choice Label}
    {empty : Record} {extend : Record → State → Choice → Record} {trace pair}
    (reached : (machine.recorded empty extend).Reaches trace pair)
    : machine.Reaches trace pair.1 := by
  induction reached with
  | start initial => exact .start initial.1
  | next _ taken ih =>
      obtain ⟨⟨after, emitted⟩, step, same⟩ := Option.map_eq_some_iff.1 taken
      obtain ⟨rfl, rfl⟩ := Prod.mk.inj same
      exact ih.next step

/-- Every run can be recorded, by induction on the run. -/
theorem Reaches.recorded {Record : Type*} {machine : Machine State Choice Label}
    (empty : Record) (extend : Record → State → Choice → Record) {trace state}
    (reached : machine.Reaches trace state)
    : ∃ record, (machine.recorded empty extend).Reaches trace (state, record) := by
  induction reached with
  | start initial => exact ⟨empty, .start ⟨initial, rfl⟩⟩
  | @next trace state choice after emitted _ taken ih =>
      obtain ⟨record, before⟩ := ih
      have step
          : (machine.recorded empty extend).step (state, record) choice
            = some ((after, extend record state choice), emitted) := by
        simp only [Machine.recorded, taken, Option.map_some]
      exact ⟨_, before.next step⟩

/-- `machine.ReachesWhen admits trace state` holds when some run whose every step the condition
admits, read on the trace and the state before the step, emits `trace` and ends in `state`.
-/
inductive ReachesWhen (machine : Machine State Choice Label)
    (admits : List Label → State → Choice → Prop) : List Label → State → Prop
  | start {state} (initial : machine.initial state) : machine.ReachesWhen admits [] state
  | next {trace state choice after emitted} (before : machine.ReachesWhen admits trace state)
    (admitted : admits trace state choice)
    (taken : machine.step state choice = some (after, emitted))
    : machine.ReachesWhen admits (trace ++ emitted) after

/-- A run of admitted steps is a run, by induction on it. -/
theorem ReachesWhen.reaches {machine : Machine State Choice Label}
    {admits : List Label → State → Choice → Prop} {trace state}
    (reached : machine.ReachesWhen admits trace state)
    : machine.Reaches trace state := by
  induction reached with
  | start initial => exact .start initial
  | next _ _ taken ih => exact ih.next taken

/-- An invariant that admitted steps keep holds of every run made of them, by induction on the
run.
-/
theorem ReachesWhen.invariant {machine : Machine State Choice Label}
    {admits : List Label → State → Choice → Prop} (invariant : List Label → State → Prop)
    (base : ∀ state, machine.initial state → invariant [] state)
    (preserved
      : ∀ trace state choice after emitted,
          invariant trace state
          → admits trace state choice
          → machine.step state choice = some (after, emitted)
          → invariant (trace ++ emitted) after)
    {trace state} (reached : machine.ReachesWhen admits trace state)
    : invariant trace state := by
  induction reached with
  | start initial => exact base _ initial
  | next _ admitted taken ih => exact preserved _ _ _ _ _ ih admitted taken

/-- The condition admits every choice of a list where its run takes it. -/
def AdmitsAll (machine : Machine State Choice Label) (admits : List Label → State → Choice → Prop)
    : List Label → State → List Choice → Prop
  | _, _, [] => True
  | trace, state, choice :: rest =>
      admits trace state choice
      ∧ match machine.step state choice with
        | none => True
        | some (after, emitted) => AdmitsAll machine admits (trace ++ emitted) after rest

/-- Running a list of admitted choices extends an admitted run, by induction on the choices. -/
theorem ReachesWhen.run {machine : Machine State Choice Label}
    {admits : List Label → State → Choice → Prop} {trace state}
    (reached : machine.ReachesWhen admits trace state) (choices : List Choice) {final emitted}
    (admitted : machine.AdmitsAll admits trace state choices)
    (ran : machine.run state choices = some (final, emitted))
    : machine.ReachesWhen admits (trace ++ emitted) final := by
  induction choices generalizing trace state emitted with
  | nil =>
      simp only [Machine.run, Option.some.injEq, Prod.mk.injEq] at ran
      obtain ⟨rfl, rfl⟩ := ran
      simpa using reached
  | cons choice rest ih =>
      obtain ⟨after, now, later, taken, tail, rfl⟩ := run_cons_eq_some ran
      simp only [AdmitsAll, taken] at admitted
      rw [← List.append_assoc]
      exact ih (reached.next admitted.1 taken) admitted.2 tail

/-- An admitted run of the machine on its own, from an initial state. -/
theorem reachesWhen_run (machine : Machine State Choice Label)
    (admits : List Label → State → Choice → Prop) {state} (initial : machine.initial state)
    (choices : List Choice) {final emitted}
    (admitted : machine.AdmitsAll admits [] state choices)
    (ran : machine.run state choices = some (final, emitted))
    : machine.ReachesWhen admits emitted final :=
  (ReachesWhen.start initial).run choices admitted ran

end Machine

-----------------------------------------------------------------------------------------
-- Labels that may occur only after a suitable history
-----------------------------------------------------------------------------------------

variable {Label : Type w}

/-- Every label of the trace was allowed by the labels before it. -/
def Guarded (allowed : List Label → Label → Prop) (trace : List Label) : Prop :=
  ∀ before label after, trace = before ++ label :: after → allowed before label

theorem Guarded.nil (allowed : List Label → Label → Prop) : Guarded allowed [] := by
  intro before label after split
  simp at split

/-- Emitting one allowed label keeps a trace guarded. Witness: the new split point is the
last label, every other split is one of the old trace.
-/
theorem Guarded.snoc {allowed : List Label → Label → Prop} {trace : List Label} {label : Label}
    (guarded : Guarded allowed trace) (next : allowed trace label)
    : Guarded allowed (trace ++ [label]) := by
  intro before target after split
  rcases List.eq_nil_or_concat after with rfl | ⟨front, last, rfl⟩
  · obtain ⟨rfl, same⟩ := List.append_inj' split rfl
    simp only [List.cons.injEq, and_true] at same
    exact same ▸ next
  · rw [List.concat_eq_append, ← List.cons_append, ← List.append_assoc] at split
    obtain ⟨same, -⟩ := List.append_inj' split rfl
    exact guarded before target front same

/-- Every label of a list is allowed after the trace and the labels before it. -/
def AllowedAfter (allowed : List Label → Label → Prop) : List Label → List Label → Prop
  | _, [] => True
  | trace, label :: rest =>
      allowed trace label ∧ AllowedAfter allowed (trace ++ [label]) rest

/-- Emitting allowed labels keeps a trace guarded, by induction on the labels. -/
theorem Guarded.append {allowed : List Label → Label → Prop} {trace labels : List Label}
    (guarded : Guarded allowed trace) (next : AllowedAfter allowed trace labels)
    : Guarded allowed (trace ++ labels) := by
  induction labels generalizing trace with
  | nil => rwa [List.append_nil]
  | cons label rest ih =>
      rw [List.append_cons]
      exact ih (guarded.snoc next.1) next.2

/-- The labels at the end of a guarded trace were allowed one by one. -/
theorem Guarded.allowedAfter {allowed : List Label → Label → Prop} {trace labels : List Label}
    (guarded : Guarded allowed (trace ++ labels))
    : AllowedAfter allowed trace labels := by
  induction labels generalizing trace with
  | nil => trivial
  | cons label rest ih =>
      refine ⟨guarded trace label rest rfl, ih ?_⟩
      rwa [List.append_assoc]

variable {History : Type v}

/-- The labels may follow a history one after the other. -/
def AllPermitted (observe : History → Label → History) (permits : History → Label → Prop)
    : History → List Label → Prop
  | _, [] => True
  | past, label :: rest =>
      permits past label ∧ AllPermitted observe permits (observe past label) rest

/-- Labels may follow as one list when they may follow one history after another, by induction
on the first ones.
-/
theorem allPermitted_append {observe : History → Label → History}
    {permits : History → Label → Prop} {past : History} {first second : List Label}
    : AllPermitted observe permits past (first ++ second)
      ↔ AllPermitted observe permits past first
        ∧ AllPermitted observe permits (first.foldl observe past) second := by
  induction first generalizing past with
  | nil => exact ⟨fun later => ⟨trivial, later⟩, And.right⟩
  | cons label rest ih =>
      rw [List.cons_append, AllPermitted, AllPermitted, List.foldl_cons, ih, and_assoc]

theorem AllPermitted.append {observe : History → Label → History}
    {permits : History → Label → Prop} {past : History} {first second : List Label}
    (now : AllPermitted observe permits past first)
    (later : AllPermitted observe permits (first.foldl observe past) second)
    : AllPermitted observe permits past (first ++ second) :=
  allPermitted_append.2 ⟨now, later⟩

/-- Labels that any history permits may follow one after the other, by induction on them. -/
theorem AllPermitted.of_forall {observe : History → Label → History}
    {permits : History → Label → Prop} {past : History} {labels : List Label}
    (always : ∀ label ∈ labels, ∀ now, permits now label)
    : AllPermitted observe permits past labels := by
  induction labels generalizing past with
  | nil => trivial
  | cons label rest ih =>
      rw [List.forall_mem_cons] at always
      exact ⟨always.1 past, ih always.2⟩

/-- A guard that reads the history of the labels before allows what the history permits, by
induction on the labels.
-/
theorem AllPermitted.allowedAfter {observe : History → Label → History}
    {permits : History → Label → Prop} {init : History} {trace labels : List Label}
    (permitted : AllPermitted observe permits (trace.foldl observe init) labels)
    : AllowedAfter (fun before label => permits (before.foldl observe init) label) trace
        labels := by
  induction labels generalizing trace with
  | nil => trivial
  | cons label rest ih =>
      refine ⟨permitted.1, ih ?_⟩
      rw [List.foldl_append]
      exact permitted.2

/-- A guard that reads the history of the labels before held of each label at the end of a
guarded trace, by induction on these labels.
-/
theorem AllPermitted.of_allowedAfter {observe : History → Label → History}
    {permits : History → Label → Prop} {init : History} {trace labels : List Label}
    (allowed
      : AllowedAfter (fun before label => permits (before.foldl observe init) label) trace labels)
    : AllPermitted observe permits (trace.foldl observe init) labels := by
  induction labels generalizing trace with
  | nil => trivial
  | cons label rest ih =>
      refine ⟨allowed.1, ?_⟩
      have later := ih allowed.2
      rwa [List.foldl_append] at later

/-- A prefix of a guarded trace is guarded. -/
theorem Guarded.left {allowed : List Label → Label → Prop} {left right : List Label}
    (guarded : Guarded allowed (left ++ right))
    : Guarded allowed left := by
  intro before label after split
  exact guarded before label (after ++ right) (by rw [split, List.append_assoc]; rfl)

end Library
