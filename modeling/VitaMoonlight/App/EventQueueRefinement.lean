import VitaMoonlight.App.EventQueue
import VitaMoonlight.Library.CoalescingQueue
import VitaMoonlight.Library.Machine
import VitaMoonlight.Library.Ring

/-! The event queue refines a coalescing queue: the ring and the snapshot slots together
hold one list of waiting events in push order, and the retained head is its pinned event.
-/

namespace VitaMoonlight

open Library
open Library.CoalescingQueue (Call Response orderedOf kindOf without)

-----------------------------------------------------------------------------------------
-- What a buffer holds
-----------------------------------------------------------------------------------------

/-- The coalescing class of an event. -/
def eventKind (event : MoonlightEvent CString) : Option (Fin 4) := snapshotIndex event.type

/-- What the queue keeps of an event: every field and the first 255 bytes of its address. -/
def keptEvent (event : MoonlightEvent CString) : MoonlightEvent CString :=
  event.mapAddress (fun text => text.take 255)

/-- The event a buffer holds, read through its own address text. -/
def MoonlightQueuedEvent.view (entry : MoonlightQueuedEvent) : MoonlightEvent CString :=
  entry.event.mapAddress (fun _ => entry.address.text)

def MoonlightQueuedEvent.stamped (entry : MoonlightQueuedEvent)
    : Stamped (MoonlightEvent CString) :=
  ⟨entry.sequence, entry.view⟩

/-- A present address points at the buffer's own text. -/
def MoonlightQueuedEvent.OwnedBy (entry : MoonlightQueuedEvent) (out : AddressPointer) : Prop :=
  ∀ pointer, entry.event.address = some pointer → pointer = out

theorem copyEvent_ownedBy (out : AddressPointer) (text : AddressPointer → CString)
    (event : MoonlightEvent AddressPointer) (sequence : Nat)
    : (copyEvent out text event sequence).OwnedBy out := by
  intro pointer present
  unfold copyEvent at present
  split at present
  · exact (Option.some.inj present).symm
  · contradiction

@[simp] theorem sequence_copyEvent (out : AddressPointer) (text : AddressPointer → CString)
    (event : MoonlightEvent AddressPointer) (sequence : Nat)
    : (copyEvent out text event sequence).sequence = sequence := by
  unfold copyEvent
  split <;> rfl

/-- A copy holds the event as read at the time of the copy, with a clipped address. -/
theorem view_copyEvent (out : AddressPointer) (text : AddressPointer → CString)
    (event : MoonlightEvent AddressPointer) (sequence : Nat)
    : (copyEvent out text event sequence).view = keptEvent (event.mapAddress text) := by
  unfold copyEvent
  split
  · rename_i pointer present
    simp [MoonlightQueuedEvent.view, MoonlightEvent.mapAddress, keptEvent, present]
  · rename_i absent
    simp [MoonlightQueuedEvent.view, MoonlightEvent.mapAddress, keptEvent, absent]

/-- Reading an owned buffer's event through the memory it lives in gives its view. -/
theorem MoonlightQueuedEvent.OwnedBy.read {entry : MoonlightQueuedEvent} {out : AddressPointer}
    {text : AddressPointer → CString} (owned : entry.OwnedBy out)
    (current : text out = entry.address.text)
    : entry.event.mapAddress text = entry.view := by
  unfold MoonlightQueuedEvent.view MoonlightEvent.mapAddress
  cases present : entry.event.address with
  | none => rfl
  | some pointer => simp [owned pointer present, current]

/-- A buffered address is already clipped. -/
theorem keptEvent_view (entry : MoonlightQueuedEvent) : keptEvent entry.view = entry.view := by
  have fits : entry.address.text.length ≤ 255 := by
    have := entry.address.fits
    omega
  simp [keptEvent, MoonlightQueuedEvent.view, Function.comp_def,
    CString.take_of_length_le fits]

/-- Copying an owned entry under its own number moves it unchanged. -/
theorem stamped_copyEvent {entry : MoonlightQueuedEvent} {source : AddressPointer}
    (out : AddressPointer) {text : AddressPointer → CString} (owned : entry.OwnedBy source)
    (current : text source = entry.address.text)
    : (copyEvent out text entry.event entry.sequence).stamped = entry.stamped := by
  simp only [MoonlightQueuedEvent.stamped, sequence_copyEvent, view_copyEvent,
    owned.read current, keptEvent_view]

namespace MoonlightEventQueue

/-- The queue's memory represents `image`. -/
structure Refines (queue : MoonlightEventQueue)
    (image : CoalescingQueue (MoonlightEvent CString))
    : Prop where
  sequence : queue.sequence = image.accepted.length
  room : queue.count ≤ eventQueueCapacity
  tail : queue.tail = Ring.slot queue.head queue.count
  ordered
    : orderedOf eventKind image.waiting
      = (Ring.window queue.ordered queue.head queue.count).map MoonlightQueuedEvent.stamped
  snapshot
    : ∀ index,
        kindOf eventKind index image.waiting
        = if queue.snapshotPending index then [(queue.snapshots index).stamped] else []
  pinned : image.pinned = if queue.pendingValid then some queue.pending.stamped else none
  orderedOwned
    : ∀ offset < queue.count,
        (queue.ordered (Ring.slot queue.head offset)).OwnedBy
          (.ordered (Ring.slot queue.head offset))
  snapshotOwned
    : ∀ index,
        queue.snapshotPending index → (queue.snapshots index).OwnedBy (.snapshot index)
  pendingOwned : queue.pendingValid → queue.pending.OwnedBy .pending

theorem refines_reset (queue : MoonlightEventQueue) : queue.reset.Refines {} where
  sequence := rfl
  room := by simp [reset]
  tail := rfl
  ordered := rfl
  snapshot := by simp [reset, kindOf]
  pinned := rfl
  orderedOwned := by simp [reset]
  snapshotOwned := by simp [reset]
  pendingOwned := by simp [reset]

theorem Refines.acknowledge {queue : MoonlightEventQueue}
    {image : CoalescingQueue (MoonlightEvent CString)} (refines : queue.Refines image)
    : queue.acknowledge.Refines image.acknowledge where
  sequence := refines.sequence
  room := refines.room
  tail := refines.tail
  ordered := refines.ordered
  snapshot := refines.snapshot
  pinned := rfl
  orderedOwned := refines.orderedOwned
  snapshotOwned := refines.snapshotOwned
  pendingOwned := by simp [MoonlightEventQueue.acknowledge]

-----------------------------------------------------------------------------------------
-- Push
-----------------------------------------------------------------------------------------

variable {queue : MoonlightEventQueue} {image : CoalescingQueue (MoonlightEvent CString)}

/-- The buffer a push fills holds the entry the abstract push adds. -/
theorem Refines.stamped_push (refines : queue.Refines image)
    (bounded : image.accepted.length + 1 < 2 ^ 64) (out : AddressPointer)
    (event : MoonlightEvent AddressPointer)
    : (copyEvent out queue.text event ((queue.sequence + 1) % 2 ^ 64)).stamped
      = image.entry (keptEvent (queue.read event)) := by
  simp only [MoonlightQueuedEvent.stamped, sequence_copyEvent, view_copyEvent,
    refines.sequence, Nat.mod_eq_of_lt bounded]
  rfl

/-- An accepted ordered event takes the ring's free slot. -/
theorem Refines.push_ordered (refines : queue.Refines image)
    (bounded : image.accepted.length + 1 < 2 ^ 64) {event : MoonlightEvent AddressPointer}
    (ordered : snapshotIndex event.type = none) (room : queue.count ≠ eventQueueCapacity)
    : (queue.push event).1.Refines
        { image with
          waiting := image.waiting ++ [image.entry (keptEvent (queue.read event))]
          accepted := image.accepted ++ [image.entry (keptEvent (queue.read event))] } := by
  have count : queue.count < 16 := lt_of_le_of_ne refines.room room
  have kind : eventKind (image.entry (keptEvent (queue.read event))).event = none := ordered
  have stamped := refines.stamped_push bounded (.ordered queue.tail) event
  simp only [push, ordered, if_neg room]
  exact {
    sequence := by
      simp only [refines.sequence, Nat.mod_eq_of_lt bounded, List.length_append,
        List.length_singleton]
    room := by
      show queue.count + 1 ≤ 16
      omega
    tail := by
      show queue.tail + 1 = Ring.slot queue.head (queue.count + 1)
      rw [Ring.slot_add_one, ← refines.tail]
      rfl
    ordered := by
      show orderedOf eventKind (image.waiting ++ [_]) = (Ring.window _ _ (queue.count + 1)).map _
      rw [refines.tail, Ring.window_push queue.ordered queue.head count, List.map_append,
        ← refines.ordered, ← refines.tail, List.map_singleton, stamped]
      simp [orderedOf, kind]
    snapshot := by
      intro index
      show kindOf eventKind index (image.waiting ++ [_]) = _
      rw [← refines.snapshot index]
      simp [kindOf, kind]
    pinned := refines.pinned
    orderedOwned := by
      intro offset earlier
      replace earlier : offset < queue.count + 1 := earlier
      show (Function.update queue.ordered queue.tail _ (Ring.slot queue.head offset)).OwnedBy _
      by_cases last : offset = queue.count
      · subst last
        rw [← refines.tail, Function.update_self]
        exact copyEvent_ownedBy _ _ _ _
      · rw [refines.tail, Function.update_of_ne]
        · exact refines.orderedOwned offset (by omega)
        · intro same
          exact last (Ring.slot_injective queue.head (by omega) count same)
    snapshotOwned := refines.snapshotOwned
    pendingOwned := refines.pendingOwned
  }

/-- An accepted snapshot overwrites the slot of its kind. -/
theorem Refines.push_snapshot (refines : queue.Refines image)
    (bounded : image.accepted.length + 1 < 2 ^ 64) {event : MoonlightEvent AddressPointer}
    {index : Fin 4} (snapshot : snapshotIndex event.type = some index)
    : (queue.push event).1.Refines
        { image with
          waiting :=
            without eventKind index image.waiting
              ++ [image.entry (keptEvent (queue.read event))]
          accepted := image.accepted ++ [image.entry (keptEvent (queue.read event))] } := by
  have kind : eventKind (image.entry (keptEvent (queue.read event))).event = some index :=
    snapshot
  have stamped := refines.stamped_push bounded (.snapshot index) event
  simp only [push, snapshot]
  exact {
    sequence := by
      simp only [refines.sequence, Nat.mod_eq_of_lt bounded, List.length_append,
        List.length_singleton]
    room := refines.room
    tail := refines.tail
    ordered := by
      show orderedOf eventKind (without eventKind index image.waiting ++ [_]) = _
      rw [← refines.ordered, ← CoalescingQueue.orderedOf_without index image.waiting]
      simp [orderedOf, kind]
    snapshot := by
      intro other
      by_cases same : other = index
      · subst same
        have alone
            : kindOf eventKind other (without eventKind other image.waiting) = [] :=
          CoalescingQueue.kindOf_without_self other image.waiting
        simp only [kindOf] at alone ⊢
        simp [alone, kind]
        exact stamped.symm
      · have kept
            : kindOf eventKind other (without eventKind index image.waiting)
              = kindOf eventKind other image.waiting :=
          CoalescingQueue.kindOf_without_ne same image.waiting
        have old := refines.snapshot other
        simp only [kindOf] at kept old ⊢
        simp [kept, old, kind, Ne.symm same, Function.update_of_ne same]
    pinned := refines.pinned
    orderedOwned := refines.orderedOwned
    snapshotOwned := by
      intro other pending
      by_cases same : other = index
      · subst same
        simp only [Function.update_self]
        exact copyEvent_ownedBy _ _ _ _
      · simp only [Function.update_of_ne same] at pending ⊢
        exact refines.snapshotOwned other pending
    pendingOwned := refines.pendingOwned
  }

/-- The ring is full exactly when sixteen ordered events wait. -/
theorem Refines.count (refines : queue.Refines image)
    : (orderedOf eventKind image.waiting).length = queue.count := by
  rw [refines.ordered, List.length_map, Ring.length_window]

/-- A push matches the abstract push, refusals included. -/
theorem Refines.push (refines : queue.Refines image)
    (bounded : image.accepted.length + 1 < 2 ^ 64) (event : MoonlightEvent AddressPointer)
    : match image.push eventKind eventQueueCapacity (keptEvent (queue.read event)) with
      | none => queue.push event = (queue, -1)
      | some after => (queue.push event).2 = 0 ∧ (queue.push event).1.Refines after := by
  have kind : eventKind (keptEvent (queue.read event)) = snapshotIndex event.type := rfl
  cases coalesces : snapshotIndex event.type with
  | none =>
      simp only [CoalescingQueue.push, kind, coalesces, refines.count]
      by_cases full : queue.count = eventQueueCapacity
      · simp only [full, if_true, MoonlightEventQueue.push, coalesces]
      · simp only [full, if_false]
        refine ⟨?_, refines.push_ordered bounded coalesces full⟩
        simp only [MoonlightEventQueue.push, coalesces, full, if_false]
  | some index =>
      simp only [CoalescingQueue.push, kind, coalesces]
      refine ⟨?_, refines.push_snapshot bounded coalesces⟩
      simp only [MoonlightEventQueue.push, coalesces]

-----------------------------------------------------------------------------------------
-- The selection loop finds the oldest waiting event
-----------------------------------------------------------------------------------------

/-- The loop keeps its choice while no pending slot is earlier, by induction on the slots. -/
theorem foldl_selectEarlier_stays (indices : List (Fin 4)) (best : Option (Fin 4) × Nat)
    (earliest
      : ∀ index ∈ indices,
          queue.snapshotPending index
          → best.2 ≠ 0 ∧ best.2 ≤ (queue.snapshots index).sequence)
    : indices.foldl queue.selectEarlier best = best := by
  induction indices with
  | nil => rfl
  | cons head rest ih =>
      have kept : queue.selectEarlier best head = best := by
        unfold selectEarlier
        rw [if_neg]
        rintro ⟨pending, nothing | earlier⟩
        · exact (earliest head (by simp) pending).1 nothing
        · have := (earliest head (by simp) pending).2
          omega
      rw [List.foldl_cons, kept]
      exact ih (fun index member => earliest index (List.mem_cons_of_mem _ member))

/-- The loop ends at the one slot that precedes every other candidate. Witness: up to that
slot the choice is later than it, from there on it stays.
-/
theorem foldl_selectEarlier_finds {target : Fin 4} (pending : queue.snapshotPending target)
    (positive : (queue.snapshots target).sequence ≠ 0)
    (earliest
      : ∀ index,
          queue.snapshotPending index
          → index ≠ target
          → (queue.snapshots target).sequence < (queue.snapshots index).sequence)
    (indices : List (Fin 4)) (best : Option (Fin 4) × Nat) (member : target ∈ indices)
    (later : best.2 = 0 ∨ (queue.snapshots target).sequence < best.2)
    : indices.foldl queue.selectEarlier best
      = (some target, (queue.snapshots target).sequence) := by
  induction indices generalizing best with
  | nil => simp at member
  | cons head rest ih =>
      rw [List.foldl_cons]
      by_cases here : head = target
      · subst here
        have found : queue.selectEarlier best head
            = (some head, (queue.snapshots head).sequence) := by
          simp only [selectEarlier, pending, later, and_self, if_true]
        rw [found]
        refine foldl_selectEarlier_stays rest _ ?_
        intro index _ waiting
        refine ⟨positive, ?_⟩
        by_cases same : index = head
        · rw [same]
        · exact Nat.le_of_lt (earliest index waiting same)
      · have there : target ∈ rest := by
          rcases List.mem_cons.mp member with same | there
          · exact absurd same.symm here
          · exact there
        refine ih _ there ?_
        unfold selectEarlier
        split
        · rename_i taken
          exact Or.inr (earliest head taken.1 here)
        · exact later

/-- A pending slot holds a waiting event of its kind. -/
theorem Refines.mem_of_pending (refines : queue.Refines image) {index : Fin 4}
    (pending : queue.snapshotPending index)
    : (queue.snapshots index).stamped ∈ image.waiting
      ∧ eventKind (queue.snapshots index).view = some index := by
  have member : (queue.snapshots index).stamped ∈ kindOf eventKind index image.waiting := by
    rw [refines.snapshot index, if_pos pending]
    exact List.mem_singleton_self _
  have facts := List.mem_filter.mp member
  exact ⟨facts.1, of_decide_eq_true facts.2⟩

/-- The slot of a waiting snapshot is pending and holds that event. -/
theorem Refines.pending_of_mem (refines : queue.Refines image)
    {entry : Stamped (MoonlightEvent CString)} {index : Fin 4} (member : entry ∈ image.waiting)
    (kind : eventKind entry.event = some index)
    : queue.snapshotPending index = true ∧ (queue.snapshots index).stamped = entry := by
  have ofKind : entry ∈ kindOf eventKind index image.waiting :=
    List.mem_filter.mpr ⟨member, by simpa using kind⟩
  rw [refines.snapshot index] at ofKind
  split at ofKind
  · rename_i pending
    exact ⟨pending, (List.mem_singleton.mp ofKind).symm⟩
  · simp at ofKind

/-- The ring's head is the first waiting ordered event. -/
theorem Refines.head_of_ordered (refines : queue.Refines image)
    {entry : Stamped (MoonlightEvent CString)} {rest : List (Stamped (MoonlightEvent CString))}
    (first : orderedOf eventKind image.waiting = entry :: rest)
    : 0 < queue.count
      ∧ (queue.ordered queue.head).stamped = entry
      ∧ (Ring.window queue.ordered (Ring.slot queue.head 1) (queue.count - 1)).map
            MoonlightQueuedEvent.stamped
          = rest := by
  have ring := refines.ordered.symm.trans first
  cases count : queue.count with
  | zero => simp [count] at ring
  | succ count =>
      rw [count, Ring.window_pop, List.map_cons, List.cons.injEq] at ring
      exact ⟨Nat.succ_pos _, ring.1, ring.2⟩

/-- The loop selects the oldest waiting event, or nothing when none waits. Witness: the
waiting list is in push order, so its head precedes the ring's head and every pending slot.
-/
theorem Refines.selected (refines : queue.Refines image) (lawful : image.Lawful eventKind)
    : queue.selected
      = match image.waiting with
        | [] => (none, 0)
        | head :: _ => (eventKind head.event, head.stamp) := by
  have pendingStamp {index : Fin 4} (pending : queue.snapshotPending index)
      : (queue.snapshots index).sequence ∈ image.waiting.map Stamped.stamp :=
    List.mem_map_of_mem (refines.mem_of_pending pending).1
  cases waiting : image.waiting with
  | nil =>
      have empty : queue.count = 0 := by
        rw [← refines.count, waiting]
        rfl
      simp only [MoonlightEventQueue.selected, empty, if_true]
      refine foldl_selectEarlier_stays _ _ ?_
      intro index _ pending
      have nothing := pendingStamp pending
      simp [waiting] at nothing
  | cons head rest =>
      have sorted := (List.pairwise_append.mp lawful.inOrder).2.1
      rw [waiting, List.pairwise_cons] at sorted
      have positive := lawful.stamp_pos (by simp [waiting] : head ∈ _)
      cases kind : eventKind head.event with
      | none =>
          have first
              : orderedOf eventKind image.waiting = head :: orderedOf eventKind rest := by
            simp [orderedOf, waiting, kind]
          obtain ⟨occupied, stamped, -⟩ := refines.head_of_ordered first
          have sequence : (queue.ordered queue.head).sequence = head.stamp :=
            congrArg Stamped.stamp stamped
          simp only [MoonlightEventQueue.selected, Nat.ne_of_gt occupied, if_false, sequence,
            kind]
          refine foldl_selectEarlier_stays _ _ ?_
          intro index _ pending
          refine ⟨positive, ?_⟩
          obtain ⟨entry, member, stamp⟩ := List.mem_map.mp (pendingStamp pending)
          rw [← stamp]
          rw [waiting] at member
          rcases List.mem_cons.mp member with rfl | later
          · exact Nat.le_refl _
          · exact Nat.le_of_lt (sorted.1 entry later)
      | some index =>
          obtain ⟨pending, stamped⟩ := refines.pending_of_mem (by simp [waiting]) kind
          have sequence : (queue.snapshots index).sequence = head.stamp :=
            congrArg Stamped.stamp stamped
          simp only [kind, ← sequence]
          refine foldl_selectEarlier_finds pending (sequence ▸ positive) ?_ _ _
            (List.mem_finRange index) ?_
          · intro other taken different
            obtain ⟨member, otherKind⟩ := refines.mem_of_pending taken
            rw [waiting] at member
            rcases List.mem_cons.mp member with same | later
            · have clash : eventKind head.event = some other := by
                rw [← same]
                exact otherKind
              exact absurd (Option.some.inj (clash.symm.trans kind)) different
            · rw [sequence]
              exact sorted.1 _ later
          · by_cases occupied : queue.count = 0
            · exact Or.inl (by simp [occupied])
            · refine Or.inr ?_
              simp only [occupied, if_false, sequence]
              cases first : orderedOf eventKind image.waiting with
              | nil =>
                  have := refines.count
                  simp [first] at this
                  omega
              | cons entry others =>
                  obtain ⟨-, ringHead, -⟩ := refines.head_of_ordered first
                  have member : entry ∈ orderedOf eventKind image.waiting := by simp [first]
                  obtain ⟨inWaiting, isOrdered⟩ := List.mem_filter.mp member
                  rw [waiting] at inWaiting
                  rw [show (queue.ordered queue.head).sequence = entry.stamp from
                    congrArg Stamped.stamp ringHead]
                  rcases List.mem_cons.mp inWaiting with rfl | later
                  · simp [kind] at isOrdered
                  · exact sorted.1 entry later

-----------------------------------------------------------------------------------------
-- Peek
-----------------------------------------------------------------------------------------

/-- The abstract queue after its head is delivered. -/
def delivering (image : CoalescingQueue (MoonlightEvent CString))
    (head : Stamped (MoonlightEvent CString)) (rest : List (Stamped (MoonlightEvent CString)))
    : CoalescingQueue (MoonlightEvent CString) :=
  { image with
    waiting := rest
    pinned := some head
    delivered := image.delivered ++ [head] }

/-- Delivering from a snapshot slot clears the slot of the delivered kind only. -/
theorem Refines.deliver_snapshot (refines : queue.Refines image)
    (lawful : image.Lawful eventKind) {head : Stamped (MoonlightEvent CString)}
    {rest : List (Stamped (MoonlightEvent CString))} (waiting : image.waiting = head :: rest)
    {index : Fin 4} (kind : eventKind head.event = some index) {pending : MoonlightQueuedEvent}
    (stamped : pending.stamped = head) (owned : pending.OwnedBy .pending)
    : Refines
        { queue with
          pending
          snapshotPending := Function.update queue.snapshotPending index false
          pendingValid := true }
        (delivering image head rest) where
  sequence := refines.sequence
  room := refines.room
  tail := refines.tail
  ordered := by
    rw [← refines.ordered, waiting]
    simp [delivering, orderedOf, kind]
  snapshot := by
    intro other
    have old := refines.snapshot other
    by_cases same : other = index
    · subst same
      have member : head ∈ kindOf eventKind other image.waiting := by
        simp [kindOf, waiting, kind]
      have alone := (lawful.latest other head member).1
      simp only [kindOf, waiting, List.filter_cons, kind, decide_true, if_true,
        List.cons.injEq, true_and] at alone
      simp only [delivering, kindOf, alone, Function.update_self, Bool.false_eq_true, if_false]
    · simp only [kindOf, waiting, List.filter_cons, kind, Option.some.injEq,
        Ne.symm same, decide_false, Bool.false_eq_true, if_false] at old
      simp only [delivering, kindOf, old, Function.update_of_ne same]
  pinned := by simp [delivering, stamped]
  orderedOwned := refines.orderedOwned
  snapshotOwned := by
    intro other taken
    replace taken : Function.update queue.snapshotPending index false other = true := taken
    by_cases same : other = index
    · simp [same] at taken
    · rw [Function.update_of_ne same] at taken
      exact refines.snapshotOwned other taken
  pendingOwned := fun _ => owned

/-- Delivering from the ring advances its head. -/
theorem Refines.deliver_ordered (refines : queue.Refines image)
    {head : Stamped (MoonlightEvent CString)} {rest : List (Stamped (MoonlightEvent CString))}
    (waiting : image.waiting = head :: rest) (kind : eventKind head.event = none)
    {pending : MoonlightQueuedEvent} (stamped : pending.stamped = head)
    (owned : pending.OwnedBy .pending)
    : Refines
        { queue with
          pending
          head := queue.head + 1
          count := queue.count - 1
          pendingValid := true }
        (delivering image head rest) := by
  have first : orderedOf eventKind image.waiting = head :: orderedOf eventKind rest := by
    simp [orderedOf, waiting, kind]
  obtain ⟨occupied, -, ring⟩ := refines.head_of_ordered first
  have next : queue.head + 1 = Ring.slot queue.head 1 := rfl
  have count : queue.count - 1 + 1 = queue.count := by omega
  exact {
    sequence := refines.sequence
    room := Nat.le_trans (Nat.sub_le _ _) refines.room
    tail := by
      show queue.tail = Ring.slot (queue.head + 1) (queue.count - 1)
      rw [next, ← Ring.slot_succ, count]
      exact refines.tail
    ordered := ring.symm
    snapshot := by
      intro index
      have old := refines.snapshot index
      simpa [delivering, kindOf, waiting, kind] using old
    pinned := by simp [delivering, stamped]
    orderedOwned := by
      intro offset earlier
      replace earlier : offset < queue.count - 1 := earlier
      show (queue.ordered (Ring.slot (queue.head + 1) offset)).OwnedBy
        (.ordered (Ring.slot (queue.head + 1) offset))
      rw [next, ← Ring.slot_succ]
      exact refines.orderedOwned (offset + 1) (by omega)
    snapshotOwned := refines.snapshotOwned
    pendingOwned := fun _ => owned
  }

/-- A peek delivers the abstract queue's event and refines its next state. -/
theorem Refines.peek (refines : queue.Refines image) (lawful : image.Lawful eventKind)
    : queue.peek.1.Refines image.peek.1
      ∧ queue.peek.2.map queue.peek.1.read = image.peek.2.map Stamped.event := by
  have readPending {after : MoonlightEventQueue} (owned : after.pending.OwnedBy .pending)
      : after.read after.pending.event = after.pending.stamped.event :=
    owned.read rfl
  cases valid : queue.pendingValid with
  | true =>
      have pinned := refines.pinned
      simp only [valid, if_true] at pinned
      simp only [MoonlightEventQueue.peek, valid, if_true, CoalescingQueue.peek, pinned]
      exact ⟨refines, by simp [readPending (refines.pendingOwned valid)]⟩
  | false =>
      have unpinned := refines.pinned
      have selected := refines.selected lawful
      simp only [valid, Bool.false_eq_true, if_false] at unpinned
      simp only [MoonlightEventQueue.peek, valid, Bool.false_eq_true, if_false,
        CoalescingQueue.peek, unpinned]
      cases waiting : image.waiting with
      | nil =>
          simp only [waiting] at selected
          simp only [selected]
          exact ⟨refines, rfl⟩
      | cons head rest =>
          simp only [waiting] at selected
          have positive := lawful.stamp_pos (by simp [waiting] : head ∈ _)
          cases kind : eventKind head.event with
          | none =>
              rw [kind] at selected
              have first
                  : orderedOf eventKind image.waiting = head :: orderedOf eventKind rest := by
                simp [orderedOf, waiting, kind]
              obtain ⟨occupied, source, -⟩ := refines.head_of_ordered first
              have sequence : head.stamp = (queue.ordered queue.head).sequence :=
                (congrArg Stamped.stamp source).symm
              have owned : (queue.ordered queue.head).OwnedBy (.ordered queue.head) := by
                simpa using refines.orderedOwned 0 occupied
              have stamped := (stamped_copyEvent .pending owned
                (rfl : queue.text (.ordered queue.head) = _)).trans source
              have copied := copyEvent_ownedBy .pending queue.text
                (queue.ordered queue.head).event (queue.ordered queue.head).sequence
              simp only [selected]
              rw [sequence]
              refine ⟨refines.deliver_ordered waiting kind stamped copied, ?_⟩
              simp only [Option.map_some, Option.some.injEq]
              exact (copied.read rfl).trans (congrArg Stamped.event stamped)
          | some index =>
              rw [kind] at selected
              obtain ⟨pending, source⟩ := refines.pending_of_mem (by simp [waiting]) kind
              have sequence : head.stamp = (queue.snapshots index).sequence :=
                (congrArg Stamped.stamp source).symm
              have stamped := (stamped_copyEvent .pending (refines.snapshotOwned index pending)
                (rfl : queue.text (.snapshot index) = _)).trans source
              have copied := copyEvent_ownedBy .pending queue.text
                (queue.snapshots index).event (queue.snapshots index).sequence
              simp only [selected]
              rw [sequence]
              refine ⟨refines.deliver_snapshot lawful waiting kind stamped copied, ?_⟩
              simp only [Option.map_some, Option.some.injEq]
              exact (copied.read rfl).trans (congrArg Stamped.event stamped)

-----------------------------------------------------------------------------------------
-- Runs
-----------------------------------------------------------------------------------------

/-- One call by a client whose events carry their address text. -/
def call (queue : MoonlightEventQueue)
    : Call (MoonlightEvent CString) → MoonlightEventQueue × Response (MoonlightEvent CString)
  | .reset => (queue.reset, .done)
  | .push event =>
      ((queue.push (event.mapAddress .caller)).1,
        .accepted ((queue.push (event.mapAddress .caller)).2 = 0))
  | .peek => (queue.peek.1, .peeked (queue.peek.2.map queue.peek.1.read))
  | .acknowledge => (queue.acknowledge, .done)

/-- The queue under any sequence of calls, from any memory that was reset. -/
def machine
    : Machine MoonlightEventQueue (Call (MoonlightEvent CString))
        (Call (MoonlightEvent CString) × Response (MoonlightEvent CString)) where
  initial := fun queue => ∃ memory : MoonlightEventQueue, queue = memory.reset
  step := fun queue request =>
    some ((queue.call request).1, [(request, (queue.call request).2)])

/-- The abstract queue under the same calls; it is offered each event as the queue keeps it. -/
def waitingMachine
    : Machine (CoalescingQueue (MoonlightEvent CString)) (Call (MoonlightEvent CString))
        (Call (MoonlightEvent CString) × Response (MoonlightEvent CString)) where
  initial := fun image => image = {}
  step := fun image request =>
    let result := image.call eventKind eventQueueCapacity (request.map keptEvent)
    some (result.1, [(request, result.2)])

/-- The number of push calls in a transcript. -/
def pushes (trace : List (Call (MoonlightEvent CString) × Response (MoonlightEvent CString)))
    : Nat :=
  (trace.map fun entry => entry.1.pushCount).sum

/-- The abstract queue keeps its laws and never accepts more than was pushed. -/
theorem waitingMachine_lawful {trace image} (reached : waitingMachine.Reaches trace image)
    : image.Lawful eventKind ∧ image.accepted.length ≤ pushes trace := by
  refine reached.invariant
    (fun trace image => image.Lawful eventKind ∧ image.accepted.length ≤ pushes trace) ?_ ?_
  · rintro state rfl
    exact ⟨CoalescingQueue.lawful_empty, Nat.le_refl _⟩
  · rintro trace state request after emitted ⟨lawful, bound⟩ taken
    simp only [waitingMachine, Option.some.injEq, Prod.mk.injEq] at taken
    obtain ⟨rfl, rfl⟩ := taken
    refine ⟨lawful.call _, ?_⟩
    have grown
        : (state.call eventKind eventQueueCapacity (request.map keptEvent)).1.accepted.length
          ≤ state.accepted.length + (request.map keptEvent).pushCount :=
      CoalescingQueue.accepted_length_call _
    rw [CoalescingQueue.Call.pushCount_map] at grown
    simp only [pushes, List.map_append, List.sum_append, List.map_cons, List.map_nil,
      List.sum_cons, List.sum_nil] at bound ⊢
    omega

/-- One call is matched by the abstract call with the same response. -/
theorem Refines.call (refines : queue.Refines image) (lawful : image.Lawful eventKind)
    (request : Call (MoonlightEvent CString))
    (bounded : image.accepted.length + request.pushCount < 2 ^ 64)
    : (queue.call request).2
        = (image.call eventKind eventQueueCapacity (request.map keptEvent)).2
      ∧ (queue.call request).1.Refines
          (image.call eventKind eventQueueCapacity (request.map keptEvent)).1 := by
  cases request with
  | reset => exact ⟨rfl, refines_reset queue⟩
  | push event =>
      have matched := refines.push bounded (event.mapAddress .caller)
      have offered : queue.read (event.mapAddress .caller) = event := by
        cases event with
        | mk type result hostId applicationId address =>
            cases address <;> rfl
      rw [offered] at matched
      simp only [MoonlightEventQueue.call, CoalescingQueue.Call.map, CoalescingQueue.call]
      split at matched
      · rename_i refused
        simp only [matched, refused]
        exact ⟨rfl, refines⟩
      · rename_i after accepted
        simp only [accepted, matched.1]
        exact ⟨by simp, matched.2⟩
  | peek =>
      obtain ⟨after, same⟩ := refines.peek lawful
      exact ⟨by
        simp only [MoonlightEventQueue.call, CoalescingQueue.Call.map, CoalescingQueue.call,
          same], after⟩
  | acknowledge => exact ⟨rfl, refines.acknowledge⟩

/-- Every run with fewer than 2^64 pushes is a run of the abstract queue with the same
responses.
-/
theorem machine_refines {trace queue} (reached : machine.Reaches trace queue)
    (bounded : pushes trace < 2 ^ 64)
    : ∃ image, waitingMachine.Reaches trace image ∧ queue.Refines image := by
  refine reached.simulated Refines (fun trace => pushes trace < 2 ^ 64) ?_ ?_ ?_ bounded
  · intro trace emitted fewer
    simp only [pushes, List.map_append, List.sum_append] at fewer ⊢
    omega
  · rintro state ⟨memory, rfl⟩
    exact ⟨{}, rfl, refines_reset memory⟩
  · intro trace state image request after emitted fewer ran refines taken
    simp only [machine, Option.some.injEq, Prod.mk.injEq] at taken
    obtain ⟨rfl, rfl⟩ := taken
    obtain ⟨lawful, bound⟩ := waitingMachine_lawful ran
    simp only [pushes, List.map_append, List.sum_append, List.map_cons, List.map_nil,
      List.sum_cons, List.sum_nil] at fewer bound
    obtain ⟨same, next⟩ := refines.call lawful request (by omega)
    exact ⟨_, by simp only [waitingMachine, same], next⟩

-----------------------------------------------------------------------------------------
-- The retained head
-----------------------------------------------------------------------------------------

/-- Calls between a peek and its acknowledge. -/
def KeepsPinned : Call (MoonlightEvent CString) → Prop
  | .push _ => True
  | .peek => True
  | _ => False

/-- The queue after a list of calls. -/
def calls (queue : MoonlightEventQueue) (requests : List (Call (MoonlightEvent CString)))
    : MoonlightEventQueue :=
  requests.foldl (fun state request => (state.call request).1) queue

/-- A push never touches the retained buffer. -/
theorem pending_push (event : MoonlightEvent AddressPointer)
    : (queue.push event).1.pending = queue.pending
      ∧ (queue.push event).1.pendingValid = queue.pendingValid := by
  unfold push
  split
  · split <;> exact ⟨rfl, rfl⟩
  · exact ⟨rfl, rfl⟩

theorem peek_of_pendingValid (valid : queue.pendingValid = true)
    : queue.peek = (queue, some queue.pending.event) := by
  simp only [peek, valid, if_true]

/-- A peek leaves its event in the retained buffer. -/
theorem pending_of_peek {after : MoonlightEventQueue} {event : MoonlightEvent AddressPointer}
    (peeked : queue.peek = (after, some event))
    : after.pendingValid = true ∧ after.pending.event = event := by
  unfold peek at peeked
  split at peeked
  · rename_i valid
    obtain ⟨rfl, same⟩ := Prod.mk.inj peeked
    exact ⟨valid, Option.some.inj same⟩
  · split at peeked
    · cases (Prod.mk.inj peeked).2
    · obtain ⟨rfl, same⟩ := Prod.mk.inj peeked
      exact ⟨rfl, Option.some.inj same⟩
    · obtain ⟨rfl, same⟩ := Prod.mk.inj peeked
      exact ⟨rfl, Option.some.inj same⟩

/-- Until the acknowledge no call changes the retained buffer, by induction on the calls. -/
theorem pending_calls (valid : queue.pendingValid = true)
    {requests : List (Call (MoonlightEvent CString))}
    (kept : ∀ request ∈ requests, KeepsPinned request)
    : (queue.calls requests).pending = queue.pending
      ∧ (queue.calls requests).pendingValid = true := by
  induction requests generalizing queue with
  | nil => exact ⟨rfl, valid⟩
  | cons request rest ih =>
      have later := fun request member => kept request (List.mem_cons_of_mem _ member)
      show ((queue.call request).1.calls rest).pending = _
        ∧ ((queue.call request).1.calls rest).pendingValid = true
      cases request with
      | reset => exact (kept .reset (by simp)).elim
      | acknowledge => exact (kept .acknowledge (by simp)).elim
      | push event =>
          obtain ⟨same, still⟩
              : (queue.call (.push event)).1.pending = queue.pending
                ∧ (queue.call (.push event)).1.pendingValid = queue.pendingValid :=
            pending_push _
          obtain ⟨pending, valid⟩ := ih (still.trans valid) later
          exact ⟨pending.trans same, valid⟩
      | peek =>
          have same : (queue.call .peek).1 = queue := by
            simp only [call, peek_of_pendingValid valid]
          rw [same]
          exact ih valid later

/-- Every peek before the acknowledge returns the same event, and reading its address gives
the same text.
-/
theorem Refines.peek_again (refines : queue.Refines image) (lawful : image.Lawful eventKind)
    {after : MoonlightEventQueue} {event : MoonlightEvent AddressPointer}
    (peeked : queue.peek = (after, some event))
    {requests : List (Call (MoonlightEvent CString))}
    (kept : ∀ request ∈ requests, KeepsPinned request)
    : (after.calls requests).peek.2 = some event
      ∧ (after.calls requests).read event = after.read event := by
  obtain ⟨valid, stored⟩ := pending_of_peek peeked
  obtain ⟨same, still⟩ := pending_calls valid kept
  have owned : after.pending.OwnedBy .pending := by
    have next := (refines.peek lawful).1
    rw [peeked] at next
    exact next.pendingOwned valid
  refine ⟨by rw [peek_of_pendingValid still, same, stored], ?_⟩
  rw [← stored]
  have now : after.pending.event.mapAddress after.text = after.pending.view := owned.read rfl
  have later
      : after.pending.event.mapAddress (after.calls requests).text = after.pending.view :=
    owned.read (show (after.calls requests).pending.address.text = _ by rw [same])
  exact later.trans now.symm

-----------------------------------------------------------------------------------------
-- The queue's contract
-----------------------------------------------------------------------------------------

/-- The contract of a queue that answered the calls of `trace`: it represents an abstract
queue that answered the same way and obeys the delivery laws, it refuses exactly an ordered
event that finds sixteen ordered events waiting, and the retained head is stable.
-/
structure KeepsContract
    (trace : List (Call (MoonlightEvent CString) × Response (MoonlightEvent CString)))
    (queue : MoonlightEventQueue) (image : CoalescingQueue (MoonlightEvent CString))
    : Prop where
  matched : waitingMachine.Reaches trace image
  refines : queue.Refines image
  lawful : image.Lawful eventKind
  refused
    : ∀ event,
        (queue.push event).2 ≠ 0
        ↔ snapshotIndex event.type = none ∧ (orderedOf eventKind image.waiting).length = 16
  unchanged : ∀ event, (queue.push event).2 ≠ 0 → (queue.push event).1 = queue
  retained
    : ∀ after event,
        queue.peek = (after, some event)
        → ∀ requests : List (Call (MoonlightEvent CString)),
            (∀ request ∈ requests, KeepsPinned request)
            → (after.calls requests).peek.2 = some event
              ∧ (after.calls requests).read event = after.read event

/-- A refused push is an ordered event meeting a full ring, and changes nothing. -/
theorem push_refused (event : MoonlightEvent AddressPointer)
    : ((queue.push event).2 ≠ 0
        ↔ snapshotIndex event.type = none ∧ queue.count = eventQueueCapacity)
      ∧ ((queue.push event).2 ≠ 0 → (queue.push event).1 = queue) := by
  unfold push
  split
  · rename_i ordered
    split
    · rename_i full
      exact ⟨by simp [ordered, full], fun _ => rfl⟩
    · rename_i room
      exact ⟨by simp [room], by simp⟩
  · rename_i index snapshot
    exact ⟨by simp [snapshot], by simp⟩

/-- The event queue refines the abstract queue of waiting events. Witness: the simulation of
every call, the laws of the abstract queue and the stability of the retained buffer.
-/
theorem event_queue_keeps_contract
    {trace : List (Call (MoonlightEvent CString) × Response (MoonlightEvent CString))}
    {queue : MoonlightEventQueue} (reached : machine.Reaches trace queue)
    (bounded : pushes trace < 2 ^ 64)
    : ∃ image, KeepsContract trace queue image := by
  obtain ⟨image, matched, refines⟩ := machine_refines reached bounded
  obtain ⟨lawful, -⟩ := waitingMachine_lawful matched
  exact ⟨image, {
    matched
    refines
    lawful
    refused := by
      intro event
      rw [refines.count]
      exact (push_refused event).1
    unchanged := fun event => (push_refused event).2
    retained := fun _ _ peeked _ kept => refines.peek_again lawful peeked kept
  }⟩

/-- An ordered event between two pushes of one snapshot, and the calls that take them. -/
def mixedCalls : List (Call (MoonlightEvent CString)) :=
  [.push { type := .discoveryChanged, hostId := 1 }, .push { type := .connectionReady, hostId := 3 },
    .push { type := .discoveryChanged, hostId := 2 }, .peek, .acknowledge, .peek, .acknowledge]

/-- A queue that was reset keeps the contract over them: the snapshot is seen once, as it was pushed
last, behind the event that came before that.
-/
theorem event_queue_keeps_contract_when_mixed
    : ∃ queue image,
        KeepsContract
          (mixedCalls.zip
            [.accepted true, .accepted true, .accepted true,
              .peeked (some { type := .connectionReady, hostId := 3 }), .done,
              .peeked (some { type := .discoveryChanged, hostId := 2 }), .done])
          queue image := by
  let unused : MoonlightQueuedEvent :=
    { event := { type := .none }, address := .empty, sequence := 0 }
  let memory : MoonlightEventQueue :=
    { ordered := fun _ => unused
      snapshots := fun _ => unused
      snapshotPending := fun _ => true
      head := 5
      tail := 9
      count := 4
      sequence := 77
      pending := unused
      pendingValid := true }
  have start : machine.Reaches [] memory.reset := .start ⟨memory, rfl⟩
  have ran := start.run mixedCalls rfl
  exact ⟨_, event_queue_keeps_contract ran (by decide)⟩

end MoonlightEventQueue

end VitaMoonlight
