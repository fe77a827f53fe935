import Mathlib.Data.List.Basic

/-! Trees of named elements, and machines that visit them callback by callback.
-/

namespace Library

universe u v w x

/-- An element with its children, or a piece of text between elements. -/
inductive Node (Name : Type u) (Attributes : Type v) (Text : Type w)
  | element (name : Name) (attributes : Attributes) (children : List (Node Name Attributes Text))
  | text (data : Text)

/-- What a visit of a tree reports. -/
inductive Callback (Name : Type u) (Attributes : Type v) (Text : Type w)
  | start (name : Name) (attributes : Attributes)
  | text (data : Text)
  | finish (name : Name)

namespace Node

variable {Name : Type u} {Attributes : Type v} {Text : Type w} {State : Type x}

/-- Induction over trees: an element is treated with the hypothesis for all its children. -/
theorem induct {motive : Node Name Attributes Text → Prop}
    (element
      : ∀ name attributes children,
          (∀ child ∈ children, motive child) → motive (.element name attributes children))
    (text : ∀ data, motive (.text data))
    : ∀ node, motive node
  | .element name attributes children =>
      element name attributes children fun child _ => induct element text child
  | .text data => text data

mutual

/-- The callbacks of a tree: an element's start, its children's callbacks and its end. -/
def callbacks : Node Name Attributes Text → List (Callback Name Attributes Text)
  | .element name attributes children =>
      .start name attributes :: callbacksAll children ++ [.finish name]
  | .text data => [.text data]

/-- The callbacks of trees one after the other. -/
def callbacksAll : List (Node Name Attributes Text) → List (Callback Name Attributes Text)
  | [] => []
  | child :: rest => callbacks child ++ callbacksAll rest

end

mutual

/-- The names of all elements of a tree. -/
def names : Node Name Attributes Text → List Name
  | .element name _ children => name :: namesAll children
  | .text _ => []

/-- The names of all elements of some trees. -/
def namesAll : List (Node Name Attributes Text) → List Name
  | [] => []
  | child :: rest => names child ++ namesAll rest

end

@[simp] theorem names_element (name : Name) (attributes : Attributes)
    (children : List (Node Name Attributes Text))
    : names (.element name attributes children) = name :: namesAll children := by
  rw [names]

@[simp] theorem names_text (data : Text)
    : names (.text data : Node Name Attributes Text) = [] := by
  rw [names]

theorem mem_namesAll {name : Name} {children : List (Node Name Attributes Text)}
    : name ∈ namesAll children ↔ ∃ child ∈ children, name ∈ names child := by
  induction children with
  | nil => simp [namesAll]
  | cons child rest ih => simp [namesAll, ih]

mutual

/-- The elements of a tree by name and content, each before those inside it. -/
def elements : Node Name Attributes Text → List (Name × List (Node Name Attributes Text))
  | .element name _ children => (name, children) :: elementsAll children
  | .text _ => []

/-- The elements of some trees. -/
def elementsAll
    : List (Node Name Attributes Text) → List (Name × List (Node Name Attributes Text))
  | [] => []
  | child :: rest => elements child ++ elementsAll rest

end

section Outermost

variable [DecidableEq Name]

mutual

/-- The contents of the elements with a name that lie inside no other element of that name. -/
def outermost (target : Name) : Node Name Attributes Text → List (List (Node Name Attributes Text))
  | .element name _ children => if name = target then [children] else outermostAll target children
  | .text _ => []

/-- The outermost elements with a name in some trees. -/
def outermostAll (target : Name)
    : List (Node Name Attributes Text) → List (List (Node Name Attributes Text))
  | [] => []
  | child :: rest => outermost target child ++ outermostAll target rest

end

/-- The content of the first element with a name. -/
def firstContent (target : Name) (node : Node Name Attributes Text)
    : Option (List (Node Name Attributes Text)) :=
  (node.elements.find? (·.1 = target)).map Prod.snd

/-- The first element with a name is the first outermost one, by induction on the tree. -/
theorem firstContent_eq_head? (target : Name) (node : Node Name Attributes Text)
    : node.firstContent target = (node.outermost target).head? := by
  unfold firstContent
  induction node using induct with
  | text data => rw [elements, outermost]; rfl
  | element name attributes children ih =>
      rw [elements, outermost]
      by_cases named : name = target
      · rw [List.find?_cons_of_pos (by simp [named]), if_pos named]
        rfl
      · rw [List.find?_cons_of_neg (by simp [named]), if_neg named]
        induction children with
        | nil => rw [elementsAll, outermostAll]; rfl
        | cons child rest others =>
            obtain ⟨here, later⟩ := List.forall_mem_cons.1 ih
            rw [elementsAll, outermostAll, List.find?_append, Option.map_or, List.head?_append,
              here, others later]

/-- A tree has an element with a name if it has an outermost one, by induction on the tree. -/
theorem mem_names_iff (target : Name) (node : Node Name Attributes Text)
    : target ∈ node.names ↔ node.outermost target ≠ [] := by
  induction node using induct with
  | text data => simp [outermost]
  | element name attributes children ih =>
      rw [names_element, outermost, List.mem_cons]
      by_cases named : name = target
      · simp [named]
      · rw [if_neg named, or_iff_right (Ne.symm named)]
        induction children with
        | nil => simp [namesAll, outermostAll]
        | cons child rest others =>
            obtain ⟨here, later⟩ := List.forall_mem_cons.1 ih
            rw [namesAll, outermostAll, List.mem_append, here, others later]
            simp only [ne_eq, List.append_eq_nil_iff, not_and_or]

end Outermost

-----------------------------------------------------------------------------------------
-- Visits
-----------------------------------------------------------------------------------------

/-- A visit of a tree by a machine. -/
def visit (step : State → Callback Name Attributes Text → State) (state : State)
    (node : Node Name Attributes Text)
    : State :=
  node.callbacks.foldl step state

/-- A visit of trees one after the other. -/
def visitAll (step : State → Callback Name Attributes Text → State) (state : State)
    (children : List (Node Name Attributes Text))
    : State :=
  children.foldl (visit step) state

variable {step : State → Callback Name Attributes Text → State}

theorem foldl_callbacksAll (children : List (Node Name Attributes Text)) (state : State)
    : (callbacksAll children).foldl step state = visitAll step state children := by
  induction children generalizing state with
  | nil => rfl
  | cons child rest ih =>
      rw [callbacksAll, List.foldl_append, ih]
      rfl

/-- An element is visited as its start, its children and its end. -/
theorem visit_element (state : State) (name : Name) (attributes : Attributes)
    (children : List (Node Name Attributes Text))
    : visit step state (.element name attributes children)
      = step (visitAll step (step state (.start name attributes)) children) (.finish name) := by
  rw [visit, callbacks, List.cons_append, List.foldl_cons, List.foldl_append, foldl_callbacksAll]
  rfl

@[simp] theorem visit_text (state : State) (data : Text)
    : visit step state (.text data : Node Name Attributes Text) = step state (.text data) := by
  rw [visit, callbacks]
  rfl

/-- A machine that is stuck stays stuck through a visit. -/
theorem visit_stuck {stuck : State → Prop}
    (stays : ∀ state callback, stuck state → stuck (step state callback))
    {state : State} (here : stuck state) (node : Node Name Attributes Text)
    : stuck (visit step state node) := by
  have run : ∀ (callbacks : List (Callback Name Attributes Text)) (state : State),
      stuck state → stuck (callbacks.foldl step state) := by
    intro callbacks
    induction callbacks with
    | nil => exact fun _ here => here
    | cons callback rest ih => exact fun state here => ih _ (stays state callback here)
  exact run _ state here

theorem visitAll_stuck {stuck : State → Prop}
    (stays : ∀ state callback, stuck state → stuck (step state callback))
    {state : State} (here : stuck state) (children : List (Node Name Attributes Text))
    : stuck (visitAll step state children) := by
  induction children generalizing state with
  | nil => exact here
  | cons child rest ih => exact ih (visit_stuck stays here child)

/-- A machine is where a partial reader is, or stuck if the reader failed. -/
def Follows {Draft : Type*} (related : State → Draft → Prop) (stuck : State → Prop)
    : Option Draft → State → Prop
  | none, state => stuck state
  | some draft, state => related state draft

theorem Follows.map {Draft Next : Type*} {related : State → Next → Prop} {stuck : State → Prop}
    {value : Draft → Next} {draft : Option Draft} {state : State}
    (follows : Follows (fun state draft => related state (value draft)) stuck draft state)
    : Follows related stuck (draft.map value) state := by
  cases draft <;> exact follows

/-- A machine follows a partial reader over trees if it does so over each one, by induction on
their list.
-/
theorem visitAll_foldlM {Draft : Type*} {stuck : State → Prop}
    (stays : ∀ state callback, stuck state → stuck (step state callback))
    {related : State → Draft → Prop} {read : Draft → Node Name Attributes Text → Option Draft}
    (each
      : ∀ state draft child,
          related state draft
          → Follows related stuck (read draft child) (visit step state child))
    (children : List (Node Name Attributes Text)) {state : State} {draft : Draft}
    (here : related state draft)
    : Follows related stuck (children.foldlM read draft) (visitAll step state children) := by
  induction children generalizing state draft with
  | nil => exact here
  | cons child rest ih =>
      have now := each state draft child here
      rw [List.foldlM_cons]
      cases first : read draft child with
      | none =>
          rw [first] at now
          exact visitAll_stuck stays now rest
      | some next =>
          rw [first] at now
          exact ih now

/-- Where elements leave no trace but refused ones get the machine stuck, a tree is skipped, and
gets it stuck exactly when it has a refused element. `calm` says that elements leave no trace.
-/
structure Skips (step : State → Callback Name Attributes Text → State) (calm stuck : State → Prop)
    (refused : Name → Prop)
    : Prop where
  stays : ∀ state callback, stuck state → stuck (step state callback)
  text : ∀ state data, calm state → step state (.text data) = state
  enters
    : ∀ state name attributes,
        calm state
        → ¬ refused name
        → calm (step state (.start name attributes))
          ∧ step (step state (.start name attributes)) (.finish name) = state
  refuses
    : ∀ state name attributes, calm state → refused name → stuck (step state (.start name attributes))

variable {calm stuck : State → Prop} {refused : Name → Prop}

/-- Trees that are skipped one by one are skipped together, by induction on their list. -/
theorem Skips.visitAll_of (skips : Skips step calm stuck refused)
    (children : List (Node Name Attributes Text))
    (each
      : ∀ child ∈ children, ∀ state,
          calm state
          → ((∀ name ∈ child.names, ¬ refused name) → child.visit step state = state)
            ∧ ((∃ name ∈ child.names, refused name) → stuck (child.visit step state)))
    {state : State} (here : calm state)
    : ((∀ name ∈ namesAll children, ¬ refused name) → visitAll step state children = state)
      ∧ ((∃ name ∈ namesAll children, refused name) → stuck (visitAll step state children)) := by
  induction children with
  | nil => exact ⟨fun _ => rfl, fun ⟨_, member, _⟩ => absurd member List.not_mem_nil⟩
  | cons child rest ih =>
      obtain ⟨first, others⟩ := List.forall_mem_cons.1 each
      obtain ⟨skipped, caught⟩ := ih others
      have now := first state here
      constructor
      · intro allowed
        rw [namesAll, List.forall_mem_append] at allowed
        change visitAll step (child.visit step state) rest = state
        rw [now.1 allowed.1]
        exact skipped allowed.2
      · rintro ⟨name, member, bad⟩
        rw [namesAll, List.mem_append] at member
        change stuck (visitAll step (child.visit step state) rest)
        by_cases early : ∃ name ∈ child.names, refused name
        · exact visitAll_stuck skips.stays (now.2 early) rest
        · rw [now.1 fun other known refused => early ⟨other, known, refused⟩]
          obtain inside | later := member
          · exact absurd ⟨name, inside, bad⟩ early
          · exact caught ⟨name, later, bad⟩

/-- A tree is skipped, by induction on it. -/
theorem Skips.visit (skips : Skips step calm stuck refused) (node : Node Name Attributes Text)
    : ∀ state,
        calm state
        → ((∀ name ∈ node.names, ¬ refused name) → node.visit step state = state)
          ∧ ((∃ name ∈ node.names, refused name) → stuck (node.visit step state)) := by
  induction node using induct with
  | text data =>
      intro state here
      refine ⟨fun _ => ?_, fun ⟨_, member, _⟩ => ?_⟩
      · rw [visit_text]
        exact skips.text state data here
      · rw [names_text] at member
        exact absurd member List.not_mem_nil
  | element name attributes children ih =>
      intro state here
      rw [visit_element, names_element]
      by_cases bad : refused name
      · refine ⟨fun allowed => absurd bad (allowed name List.mem_cons_self), fun _ => ?_⟩
        exact
          skips.stays _ _
            (visitAll_stuck skips.stays (skips.refuses state name attributes here bad) children)
      · obtain ⟨inside, back⟩ := skips.enters state name attributes here bad
        obtain ⟨skipped, caught⟩ := skips.visitAll_of children ih inside
        constructor
        · intro allowed
          rw [skipped fun other known => allowed other (List.mem_cons_of_mem _ known), back]
        · rintro ⟨other, member, refusedOther⟩
          obtain rfl | known := List.mem_cons.1 member
          · exact absurd refusedOther bad
          · exact skips.stays _ _ (caught ⟨other, known, refusedOther⟩)

/-- Trees one after the other are skipped. -/
theorem Skips.visitAll (skips : Skips step calm stuck refused)
    (children : List (Node Name Attributes Text)) {state : State} (here : calm state)
    : ((∀ name ∈ namesAll children, ¬ refused name) → Node.visitAll step state children = state)
      ∧ ((∃ name ∈ namesAll children, refused name)
        → stuck (Node.visitAll step state children)) :=
  skips.visitAll_of children (fun child _ => skips.visit child) here

/-- Where elements with a name are taken whole and all others leave no trace. `calm` says that no
element with the name is open.
-/
structure Takes [DecidableEq Name] (step : State → Callback Name Attributes Text → State)
    (calm : State → Prop) (target : Name)
    (take : State → List (Node Name Attributes Text) → State)
    : Prop where
  text : ∀ state data, calm state → step state (.text data) = state
  passes
    : ∀ state name attributes,
        calm state
        → name ≠ target
        → step state (.start name attributes) = state ∧ step state (.finish name) = state
  takes
    : ∀ state attributes content,
        calm state
        → calm (take state content)
          ∧ Node.visit step state (.element target attributes content) = take state content

section

variable [DecidableEq Name] {target : Name}
  {take : State → List (Node Name Attributes Text) → State}

/-- Trees that are taken one by one are taken together, by induction on their list. -/
theorem Takes.visitAll_of (children : List (Node Name Attributes Text))
    (each
      : ∀ child ∈ children, ∀ state,
          calm state
          → calm ((child.outermost target).foldl take state)
            ∧ child.visit step state = (child.outermost target).foldl take state)
    {state : State} (here : calm state)
    : calm ((outermostAll target children).foldl take state)
      ∧ Node.visitAll step state children = (outermostAll target children).foldl take state := by
  induction children generalizing state with
  | nil => exact ⟨here, rfl⟩
  | cons child rest ih =>
      obtain ⟨first, others⟩ := List.forall_mem_cons.1 each
      obtain ⟨next, same⟩ := first state here
      rw [outermostAll, List.foldl_append, ← same]
      rw [← same] at next
      exact ih others next

/-- A tree is read as its outermost elements with the name, by induction on it. -/
theorem Takes.visit (takes : Takes step calm target take) (node : Node Name Attributes Text)
    : ∀ state,
        calm state
        → calm ((node.outermost target).foldl take state)
          ∧ node.visit step state = (node.outermost target).foldl take state := by
  induction node using induct with
  | text data =>
      intro state here
      rw [outermost, visit_text, takes.text state data here]
      exact ⟨here, rfl⟩
  | element name attributes children ih =>
      intro state here
      rw [outermost]
      by_cases named : name = target
      · subst named
        rw [if_pos rfl]
        exact takes.takes state attributes children here
      · obtain ⟨after, same⟩ := Takes.visitAll_of children ih here
        rw [if_neg named, visit_element, (takes.passes state name attributes here named).1, same,
          (takes.passes _ name attributes after named).2]
        exact ⟨after, rfl⟩

end

end Node

end Library
