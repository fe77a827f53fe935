import Mathlib.Data.List.Basic

/-! A queue that coalesces: ordered events wait in arrival order up to a capacity, while an
event of a snapshot kind replaces the waiting event of its kind. One delivered event stays
pinned until it is acknowledged.
-/

namespace Library

universe u v

/-- An event with the position of its push among the accepted pushes. -/
structure Stamped (Event : Type u) where
  stamp : Nat
  event : Event
deriving DecidableEq

/-- The waiting events in push order and the delivered one that is still pinned, with the
accepted and the delivered events since the last reset.
-/
structure CoalescingQueue (Event : Type u) where
  waiting : List (Stamped Event) := []
  pinned : Option (Stamped Event) := none
  accepted : List (Stamped Event) := []
  delivered : List (Stamped Event) := []

namespace CoalescingQueue

variable {Event : Type u} {Kind : Type v} [DecidableEq Kind]

/-- The entries that never coalesce. -/
def orderedOf (kind? : Event → Option Kind) (entries : List (Stamped Event))
    : List (Stamped Event) :=
  entries.filter (fun entry => (kind? entry.event).isNone)

/-- The entries of one snapshot kind. -/
def kindOf (kind? : Event → Option Kind) (kind : Kind) (entries : List (Stamped Event))
    : List (Stamped Event) :=
  entries.filter (fun entry => kind? entry.event = some kind)

/-- The entries left when a push of `kind` supersedes the waiting one. -/
def without (kind? : Event → Option Kind) (kind : Kind) (entries : List (Stamped Event))
    : List (Stamped Event) :=
  entries.filter (fun entry => kind? entry.event ≠ some kind)

/-- The entry an accepted push adds. -/
def entry (queue : CoalescingQueue Event) (event : Event) : Stamped Event :=
  ⟨queue.accepted.length + 1, event⟩

/-- Accepting an event: only a full ordered class refuses, and a snapshot kind keeps its
latest event only.
-/
def push (kind? : Event → Option Kind) (capacity : Nat) (queue : CoalescingQueue Event)
    (event : Event)
    : Option (CoalescingQueue Event) :=
  match kind? event with
  | none =>
      if (orderedOf kind? queue.waiting).length = capacity then none
      else
        some
          { queue with
            waiting := queue.waiting ++ [queue.entry event]
            accepted := queue.accepted ++ [queue.entry event] }
  | some kind =>
      some
        { queue with
          waiting := without kind? kind queue.waiting ++ [queue.entry event]
          accepted := queue.accepted ++ [queue.entry event] }

/-- Delivering the oldest waiting event, or the pinned one again. -/
def peek (queue : CoalescingQueue Event)
    : CoalescingQueue Event × Option (Stamped Event) :=
  match queue.pinned with
  | some pinned => (queue, some pinned)
  | none =>
      match queue.waiting with
      | [] => (queue, none)
      | head :: rest =>
          ({ queue with
              waiting := rest
              pinned := some head
              delivered := queue.delivered ++ [head] },
            some head)

/-- Releasing the pinned event. -/
def acknowledge (queue : CoalescingQueue Event) : CoalescingQueue Event :=
  { queue with pinned := none }

/-- What holds of every queue reached from the empty one. -/
structure Lawful (kind? : Event → Option Kind) (queue : CoalescingQueue Event) : Prop where
  /-- Stamps number the accepted pushes from one. -/
  numbered : queue.accepted.map Stamped.stamp = List.range' 1 queue.accepted.length
  /-- Deliveries follow push order and everything waiting is later than every delivery. -/
  inOrder : (queue.delivered ++ queue.waiting).Pairwise (fun a b => a.stamp < b.stamp)
  known : ∀ entry ∈ queue.delivered ++ queue.waiting, entry ∈ queue.accepted
  /-- No ordered event is lost, repeated or overtaken. -/
  fifo
    : orderedOf kind? queue.accepted
      = orderedOf kind? queue.delivered ++ orderedOf kind? queue.waiting
  /-- A waiting snapshot is the latest push of its kind, and alone. -/
  latest
    : ∀ kind entry,
        entry ∈ kindOf kind? kind queue.waiting
        → kindOf kind? kind queue.waiting = [entry]
          ∧ (kindOf kind? kind queue.accepted).getLast? = some entry
  /-- The latest push of a kind is waiting or was delivered. -/
  settled
    : ∀ kind entry,
        (kindOf kind? kind queue.accepted).getLast? = some entry
        → entry ∈ queue.delivered ++ queue.waiting
  pinnedLast : ∀ entry, queue.pinned = some entry → queue.delivered.getLast? = some entry

-----------------------------------------------------------------------------------------
-- Preservation
-----------------------------------------------------------------------------------------

variable {kind? : Event → Option Kind} {queue : CoalescingQueue Event}

theorem lawful_empty : Lawful kind? ({} : CoalescingQueue Event) where
  numbered := rfl
  inOrder := .nil
  known := by simp
  fifo := rfl
  latest := by simp [kindOf]
  settled := by simp [kindOf]
  pinnedLast := by simp

/-- Every stamp is at most the number of accepted pushes, so a new entry is the latest. -/
theorem Lawful.stamp_lt (lawful : queue.Lawful kind?) {old : Stamped Event} (event : Event)
    (member : old ∈ queue.delivered ++ queue.waiting)
    : old.stamp < (queue.entry event).stamp := by
  have stamped : old.stamp ∈ queue.accepted.map Stamped.stamp :=
    List.mem_map_of_mem (lawful.known old member)
  rw [lawful.numbered, List.mem_range'_1] at stamped
  simp only [entry]
  omega

/-- Stamps count from one. -/
theorem Lawful.stamp_pos (lawful : queue.Lawful kind?) {entry : Stamped Event}
    (member : entry ∈ queue.delivered ++ queue.waiting)
    : entry.stamp ≠ 0 := by
  have numbered : entry.stamp ∈ queue.accepted.map Stamped.stamp :=
    List.mem_map_of_mem (lawful.known entry member)
  rw [lawful.numbered, List.mem_range'_1] at numbered
  omega

/-- Appending the new entry keeps the accepted stamps consecutive. -/
theorem Lawful.numbered_entry (lawful : queue.Lawful kind?) (event : Event)
    : (queue.accepted ++ [queue.entry event]).map Stamped.stamp
      = List.range' 1 (queue.accepted ++ [queue.entry event]).length := by
  simp only [List.map_append, lawful.numbered, List.map_cons, List.map_nil, entry,
    List.length_append, List.length_singleton, List.range'_concat, Nat.one_mul]
  rw [Nat.add_comm]

theorem kindOf_without_self (kind : Kind) (entries : List (Stamped Event))
    : kindOf kind? kind (without kind? kind entries) = [] := by
  simp [kindOf, without, List.filter_filter]

theorem kindOf_without_ne {kind other : Kind} (different : other ≠ kind)
    (entries : List (Stamped Event))
    : kindOf kind? other (without kind? kind entries) = kindOf kind? other entries := by
  simp only [kindOf, without, List.filter_filter]
  refine List.filter_congr ?_
  intro entry _
  by_cases same : kind? entry.event = some other <;> simp [same, different]

theorem orderedOf_without (kind : Kind) (entries : List (Stamped Event))
    : orderedOf kind? (without kind? kind entries) = orderedOf kind? entries := by
  simp only [orderedOf, without, List.filter_filter]
  refine List.filter_congr ?_
  intro entry _
  cases same : kind? entry.event <;> simp

theorem without_sublist (kind : Kind) (entries : List (Stamped Event))
    : (without kind? kind entries).Sublist entries :=
  List.filter_sublist

/-- The new entry follows whatever part of the waiting list a push keeps. -/
theorem Lawful.inOrder_push (lawful : queue.Lawful kind?) (event : Event)
    {kept : List (Stamped Event)} (sublist : kept.Sublist queue.waiting)
    : (queue.delivered ++ (kept ++ [queue.entry event])).Pairwise
        (fun a b => a.stamp < b.stamp) := by
  rw [← List.append_assoc]
  refine List.pairwise_append.mpr ⟨?_, List.pairwise_singleton _ _, ?_⟩
  · exact lawful.inOrder.sublist (sublist.append_left queue.delivered)
  · intro old member new last
    rw [List.mem_singleton.mp last]
    exact lawful.stamp_lt event ((sublist.append_left queue.delivered).subset member)

/-- Whatever a push keeps or adds was accepted. -/
theorem Lawful.known_push (lawful : queue.Lawful kind?) (event : Event)
    {kept : List (Stamped Event)} (sublist : kept.Sublist queue.waiting)
    : ∀ entry ∈ queue.delivered ++ (kept ++ [queue.entry event]),
        entry ∈ queue.accepted ++ [queue.entry event] := by
  intro entry member
  rw [← List.append_assoc] at member
  rcases List.mem_append.mp member with old | new
  · exact List.mem_append_left _
      (lawful.known entry ((sublist.append_left queue.delivered).subset old))
  · exact List.mem_append_right _ new

/-- Accepting an ordered event preserves the laws: it joins the end of its class and no
snapshot kind changes.
-/
theorem Lawful.push_ordered (lawful : queue.Lawful kind?) {event : Event}
    (ordered : kind? event = none)
    : Lawful kind?
        { queue with
          waiting := queue.waiting ++ [queue.entry event]
          accepted := queue.accepted ++ [queue.entry event] } where
  numbered := lawful.numbered_entry event
  inOrder := lawful.inOrder_push event (List.Sublist.refl _)
  known := lawful.known_push event (List.Sublist.refl _)
  fifo := by
    have old := lawful.fifo
    simp only [orderedOf] at old ⊢
    simp only [List.filter_append, old, List.append_assoc]
  latest := by
    intro kind entry member
    have unchanged (entries : List (Stamped Event))
        : kindOf kind? kind (entries ++ [queue.entry event]) = kindOf kind? kind entries := by
      simp [kindOf, CoalescingQueue.entry, ordered]
    simp only [unchanged] at member ⊢
    exact lawful.latest kind entry member
  settled := by
    intro kind entry last
    have unchanged
        : kindOf kind? kind (queue.accepted ++ [queue.entry event])
          = kindOf kind? kind queue.accepted := by
      simp [kindOf, CoalescingQueue.entry, ordered]
    rw [unchanged] at last
    rw [← List.append_assoc]
    exact List.mem_append_left _ (lawful.settled kind entry last)
  pinnedLast := lawful.pinnedLast

/-- Accepting a snapshot preserves the laws: it supersedes the waiting event of its own
kind and every other class keeps its entries.
-/
theorem Lawful.push_snapshot (lawful : queue.Lawful kind?) {event : Event} {kind : Kind}
    (snapshot : kind? event = some kind)
    : Lawful kind?
        { queue with
          waiting := without kind? kind queue.waiting ++ [queue.entry event]
          accepted := queue.accepted ++ [queue.entry event] } where
  numbered := lawful.numbered_entry event
  inOrder := lawful.inOrder_push event (without_sublist kind _)
  known := lawful.known_push event (without_sublist kind _)
  fifo := by
    have added (entries : List (Stamped Event))
        : orderedOf kind? (entries ++ [queue.entry event]) = orderedOf kind? entries := by
      simp [orderedOf, CoalescingQueue.entry, snapshot]
    simp only [added, orderedOf_without, lawful.fifo]
  latest := by
    intro other entry member
    by_cases same : other = kind
    · subst same
      have added (entries : List (Stamped Event))
          : kindOf kind? other (entries ++ [queue.entry event])
            = kindOf kind? other entries ++ [queue.entry event] := by
        simp [kindOf, CoalescingQueue.entry, snapshot]
      simp only [added, kindOf_without_self, List.nil_append, List.mem_singleton] at member ⊢
      subst member
      exact ⟨rfl, by simp⟩
    · have added (entries : List (Stamped Event))
          : kindOf kind? other (entries ++ [queue.entry event]) = kindOf kind? other entries := by
        simp [kindOf, CoalescingQueue.entry, snapshot, Ne.symm same]
      simp only [added, kindOf_without_ne same] at member ⊢
      exact lawful.latest other entry member
  settled := by
    intro other entry last
    by_cases same : other = kind
    · subst same
      have added
          : kindOf kind? other (queue.accepted ++ [queue.entry event])
            = kindOf kind? other queue.accepted ++ [queue.entry event] := by
        simp [kindOf, CoalescingQueue.entry, snapshot]
      rw [added, List.getLast?_concat, Option.some.injEq] at last
      simp [last]
    · have added
          : kindOf kind? other (queue.accepted ++ [queue.entry event])
            = kindOf kind? other queue.accepted := by
        simp [kindOf, CoalescingQueue.entry, snapshot, Ne.symm same]
      rw [added] at last
      have ofKind : kind? entry.event = some other := by
        have member := List.mem_of_getLast? last
        simpa [kindOf] using (List.mem_filter.mp member).2
      rcases List.mem_append.mp (lawful.settled other entry last) with old | waiting
      · exact List.mem_append_left _ old
      · refine List.mem_append_right _ (List.mem_append_left _ ?_)
        simp [without, waiting, ofKind, same]
  pinnedLast := lawful.pinnedLast

/-- Every accepted push preserves the laws, by the class of the event. -/
theorem Lawful.push {capacity : Nat} {event : Event} {after : CoalescingQueue Event}
    (lawful : queue.Lawful kind?) (accepted : queue.push kind? capacity event = some after)
    : after.Lawful kind? := by
  unfold CoalescingQueue.push at accepted
  split at accepted
  · rename_i ordered
    split at accepted
    · contradiction
    · obtain rfl := Option.some.inj accepted
      exact lawful.push_ordered ordered
  · rename_i kind snapshot
    obtain rfl := Option.some.inj accepted
    exact lawful.push_snapshot snapshot

/-- A push is refused exactly when the event is ordered and its class is full. -/
theorem push_eq_none_iff {capacity : Nat} {event : Event}
    : queue.push kind? capacity event = none
      ↔ kind? event = none ∧ (orderedOf kind? queue.waiting).length = capacity := by
  unfold CoalescingQueue.push
  split <;> simp_all

/-- Delivery preserves the laws: the head of the waiting list moves to the end of the
delivered list, so their concatenation does not change.
-/
theorem Lawful.peek (lawful : queue.Lawful kind?) : queue.peek.1.Lawful kind? := by
  unfold CoalescingQueue.peek
  split
  · exact lawful
  · split
    · exact lawful
    · rename_i unpinned head rest waiting
      have moved : queue.delivered ++ [head] ++ rest = queue.delivered ++ queue.waiting := by
        simp [waiting]
      exact {
        numbered := lawful.numbered
        inOrder := by simpa only [moved] using lawful.inOrder
        known := by simpa only [moved] using lawful.known
        fifo := by
          have old := lawful.fifo
          simp only [orderedOf, waiting] at old ⊢
          rw [old, ← List.filter_append, ← List.filter_append, List.append_assoc]
          rfl
        latest := by
          intro kind entry member
          have inWaiting : entry ∈ kindOf kind? kind queue.waiting := by
            simp only [kindOf, waiting, List.filter_cons]
            split
            · exact List.mem_cons_of_mem _ member
            · exact member
          obtain ⟨alone, last⟩ := lawful.latest kind entry inWaiting
          refine ⟨?_, last⟩
          simp only [kindOf, waiting, List.filter_cons] at alone member ⊢
          split at alone
          · obtain ⟨-, nothing⟩ := List.cons.inj alone
            rw [nothing] at member
            simp at member
          · exact alone
        settled := by simpa only [moved] using lawful.settled
        pinnedLast := by
          intro entry pinned
          obtain rfl := Option.some.inj pinned
          simp
      }

/-- Releasing the pinned event preserves the laws. -/
theorem Lawful.acknowledge (lawful : queue.Lawful kind?)
    : queue.acknowledge.Lawful kind? :=
  { lawful with pinnedLast := by simp [CoalescingQueue.acknowledge] }

-----------------------------------------------------------------------------------------
-- What one operation does
-----------------------------------------------------------------------------------------

/-- An accepted push numbers its event and leaves every waiting entry that no snapshot kind
supersedes.
-/
theorem push_spec {capacity : Nat} {event : Event} {after : CoalescingQueue Event}
    (accepted : queue.push kind? capacity event = some after)
    : after.accepted = queue.accepted ++ [queue.entry event]
      ∧ after.delivered = queue.delivered
      ∧ after.pinned = queue.pinned
      ∧ ∀ selects : Stamped Event → Bool,
          (∀ entry, selects entry = true → kind? entry.event = none)
          → after.waiting.filter selects
            = queue.waiting.filter selects ++ [queue.entry event].filter selects := by
  unfold CoalescingQueue.push at accepted
  split at accepted
  · split at accepted
    · contradiction
    · obtain rfl := Option.some.inj accepted
      exact ⟨rfl, rfl, rfl, fun selects _ => List.filter_append _ _⟩
  · rename_i kind snapshot
    obtain rfl := Option.some.inj accepted
    refine ⟨rfl, rfl, rfl, ?_⟩
    intro selects ordered
    have kept
        : (without kind? kind queue.waiting).filter selects = queue.waiting.filter selects := by
      rw [without, List.filter_filter]
      refine List.filter_congr ?_
      intro entry _
      cases chosen : selects entry with
      | false => rfl
      | true => simp [ordered entry chosen]
    simp only [List.filter_append, kept]

/-- A peek shows the head of what is pinned and waiting, or finds nothing. -/
theorem peek_spec (queue : CoalescingQueue Event)
    : (∃ after entry,
        queue.peek = (after, some entry)
        ∧ after.accepted = queue.accepted
        ∧ after.pinned = some entry
        ∧ entry :: after.waiting = queue.pinned.toList ++ queue.waiting
        ∧ ∀ before,
            queue.delivered = before ++ queue.pinned.toList
            → after.delivered = before ++ [entry])
      ∨ queue.peek = (queue, none) ∧ queue.pinned = none ∧ queue.waiting = [] := by
  unfold CoalescingQueue.peek
  cases pinned : queue.pinned with
  | some entry =>
      refine .inl ⟨queue, entry, rfl, rfl, pinned, rfl, ?_⟩
      intro before same
      exact same
  | none =>
      cases waiting : queue.waiting with
      | nil => exact .inr ⟨rfl, rfl, rfl⟩
      | cons head rest =>
          refine .inl ⟨_, head, rfl, rfl, rfl, rfl, ?_⟩
          intro before same
          simp [same]

/-- A later accepted event of the same snapshot kind takes the entry's place. -/
def Superseded (kind? : Event → Option Kind) (entries : List (Stamped Event))
    (entry : Stamped Event)
    : Prop :=
  ∃ kind later,
    kind? entry.event = some kind
    ∧ kind? later.event = some kind
    ∧ later ∈ entries
    ∧ entry.stamp < later.stamp

/-- Accepted entries are strictly ordered by their stamps. -/
theorem Lawful.accepted_pairwise (lawful : queue.Lawful kind?)
    : queue.accepted.Pairwise (fun a b => a.stamp < b.stamp) := by
  rw [← List.pairwise_map, lawful.numbered]
  exact List.pairwise_lt_range'

/-- Every accepted event was delivered, is waiting, or was superseded. Witness: an ordered event
by the order of its class, a snapshot by the latest one of its kind.
-/
theorem Lawful.accounted (lawful : queue.Lawful kind?) {entry : Stamped Event}
    (accepted : entry ∈ queue.accepted)
    : entry ∈ queue.delivered ++ queue.waiting ∨ Superseded kind? queue.accepted entry := by
  cases sort : kind? entry.event with
  | none =>
      have ordered : entry ∈ orderedOf kind? queue.accepted :=
        List.mem_filter.2 ⟨accepted, by simp [sort]⟩
      rw [lawful.fifo, orderedOf, orderedOf, ← List.filter_append] at ordered
      exact .inl (List.mem_filter.1 ordered).1
  | some kind =>
      have ofKind : entry ∈ kindOf kind? kind queue.accepted :=
        List.mem_filter.2 ⟨accepted, by simp [sort]⟩
      cases latest : (kindOf kind? kind queue.accepted).getLast? with
      | none =>
          rw [List.getLast?_eq_none_iff] at latest
          simp [latest] at ofKind
      | some last =>
          by_cases same : entry = last
          · exact .inl (lawful.settled kind entry (same ▸ latest))
          · refine .inr ⟨kind, last, sort, ?_, ?_, ?_⟩
            · simpa [kindOf] using (List.mem_filter.1 (List.mem_of_getLast? latest)).2
            · exact (List.mem_filter.1 (List.mem_of_getLast? latest)).1
            · obtain ⟨front, split⟩ := List.getLast?_eq_some_iff.1 latest
              have sorted : (kindOf kind? kind queue.accepted).Pairwise
                  (fun a b => a.stamp < b.stamp) :=
                lawful.accepted_pairwise.sublist List.filter_sublist
              rw [split] at sorted ofKind
              obtain inFront | isLast := List.mem_append.1 ofKind
              · exact (List.pairwise_append.1 sorted).2.2 entry inFront last (by simp)
              · exact absurd (List.mem_singleton.1 isLast) same

-----------------------------------------------------------------------------------------
-- Calls in any order
-----------------------------------------------------------------------------------------

/-- One call on the queue. -/
inductive Call (Event : Type u)
  | reset
  | push (event : Event)
  | peek
  | acknowledge

/-- The pushes among one call. -/
def Call.pushCount : Call Event → Nat
  | .push _ => 1
  | _ => 0

/-- The call with its event rewritten. -/
def Call.map {Target : Type v} (change : Event → Target) : Call Event → Call Target
  | .reset => .reset
  | .push event => .push (change event)
  | .peek => .peek
  | .acknowledge => .acknowledge

@[simp] theorem Call.pushCount_map {Target : Type v} (change : Event → Target)
    (request : Call Event)
    : (request.map change).pushCount = request.pushCount := by
  cases request <;> rfl

/-- What a call tells its caller. -/
inductive Response (Event : Type u)
  | done
  | accepted (ok : Bool)
  | peeked (event : Option Event)

/-- The effect of one call and its response; a refused push changes nothing. -/
def call (kind? : Event → Option Kind) (capacity : Nat) (queue : CoalescingQueue Event)
    : Call Event → CoalescingQueue Event × Response Event
  | .reset => ({}, .done)
  | .push event =>
      match queue.push kind? capacity event with
      | none => (queue, .accepted false)
      | some after => (after, .accepted true)
  | .peek => (queue.peek.1, .peeked (queue.peek.2.map Stamped.event))
  | .acknowledge => (queue.acknowledge, .done)

/-- Every call preserves the laws. -/
theorem Lawful.call {capacity : Nat} (lawful : queue.Lawful kind?) (request : Call Event)
    : (queue.call kind? capacity request).1.Lawful kind? := by
  cases request with
  | reset => exact lawful_empty
  | push event =>
      simp only [CoalescingQueue.call]
      split
      · exact lawful
      · rename_i after accepted
        exact lawful.push accepted
  | peek => exact lawful.peek
  | acknowledge => exact lawful.acknowledge

/-- A call accepts at most one event. -/
theorem accepted_length_call {capacity : Nat} (request : Call Event)
    : (queue.call kind? capacity request).1.accepted.length
      ≤ queue.accepted.length + request.pushCount := by
  cases request with
  | reset => simp [CoalescingQueue.call]
  | push event =>
      simp only [CoalescingQueue.call, CoalescingQueue.push, Call.pushCount]
      split
      · simp
      · rename_i after accepted
        split at accepted
        · split at accepted
          · contradiction
          · obtain rfl := Option.some.inj accepted
            simp
        · obtain rfl := Option.some.inj accepted
          simp
  | peek =>
      simp only [CoalescingQueue.call, CoalescingQueue.peek]
      split
      · simp
      · split <;> simp
  | acknowledge => simp [CoalescingQueue.call, CoalescingQueue.acknowledge]

end CoalescingQueue

end Library
