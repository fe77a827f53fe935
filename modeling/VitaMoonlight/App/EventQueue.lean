import VitaMoonlight.Types
import Mathlib.Data.List.FinRange
import Mathlib.Logic.Function.Basic

/-! The application's event queue (`src/app/event_queue.c`): a ring of ordered events, one
slot per snapshot kind and the retained head that the main thread has peeked.
-/

namespace VitaMoonlight

open Library

/-- What `event.address` may point to: the producer's string or one of the queue's own
buffers.
-/
inductive AddressPointer
  | caller (text : CString)
  | ordered (slot : Fin 16)
  | snapshot (slot : Fin 4)
  | pending
deriving DecidableEq

structure MoonlightQueuedEvent where
  event : MoonlightEvent AddressPointer
  address : CharArray 256
  sequence : Nat

/-- The queue's memory. `sequence` is a `uint64_t`; `head` and `tail` index the ring. -/
structure MoonlightEventQueue where
  ordered : Fin 16 → MoonlightQueuedEvent
  snapshots : Fin 4 → MoonlightQueuedEvent
  snapshotPending : Fin 4 → Bool
  head : Fin 16
  tail : Fin 16
  count : Nat
  sequence : Nat
  pending : MoonlightQueuedEvent
  pendingValid : Bool

/-- `MOONLIGHT_EVENT_QUEUE_CAPACITY`. -/
def eventQueueCapacity : Nat := 16

/-- The coalescing slot of an event type, `none` for the ordered types. -/
def snapshotIndex : MoonlightEventType → Option (Fin 4)
  | .hostsChanged => some 0
  | .settingsChanged => some 1
  | .hostAvailabilityChanged => some 2
  | .discoveryChanged => some 3
  | _ => none

/-- Copies an event into the buffer at `out`; a present address moves to that buffer's own
text, of which 255 bytes fit.
-/
def copyEvent (out : AddressPointer) (text : AddressPointer → CString)
    (event : MoonlightEvent AddressPointer) (sequence : Nat)
    : MoonlightQueuedEvent :=
  match event.address with
  | some pointer =>
      { event := { event with address := some out }
        address := .copy 256 (text pointer)
        sequence }
  | none =>
      { event := { event with address := none }
        address := .empty
        sequence }

namespace MoonlightEventQueue

/-- The string a pointer refers to in the queue's current memory. -/
def text (queue : MoonlightEventQueue) : AddressPointer → CString
  | .caller text => text
  | .ordered slot => (queue.ordered slot).address.text
  | .snapshot slot => (queue.snapshots slot).address.text
  | .pending => queue.pending.address.text

/-- What a holder of `event` reads through it. -/
def read (queue : MoonlightEventQueue) (event : MoonlightEvent AddressPointer)
    : MoonlightEvent CString :=
  event.mapAddress queue.text

/-- `moonlight_event_queue_reset`: the slots keep their old bytes. -/
def reset (queue : MoonlightEventQueue) : MoonlightEventQueue :=
  { queue with
    head := 0
    tail := 0
    count := 0
    sequence := 0
    pendingValid := false
    snapshotPending := fun _ => false }

/-- `moonlight_event_queue_push`: 0 when accepted, -1 when the ring is full. -/
def push (queue : MoonlightEventQueue) (event : MoonlightEvent AddressPointer)
    : MoonlightEventQueue × Int :=
  match snapshotIndex event.type with
  | none =>
      if queue.count = eventQueueCapacity then (queue, -1)
      else
        let sequence := (queue.sequence + 1) % 2 ^ 64
        let entry := copyEvent (.ordered queue.tail) queue.text event sequence
        ({ queue with
            sequence
            ordered := Function.update queue.ordered queue.tail entry
            tail := queue.tail + 1
            count := queue.count + 1 },
          0)
  | some index =>
      let sequence := (queue.sequence + 1) % 2 ^ 64
      let entry := copyEvent (.snapshot index) queue.text event sequence
      ({ queue with
          sequence
          snapshots := Function.update queue.snapshots index entry
          snapshotPending := Function.update queue.snapshotPending index true },
        0)

/-- One round of the selection loop: an earlier pending snapshot takes over. Sequence 0
stands for nothing selected yet.
-/
def selectEarlier (queue : MoonlightEventQueue) (best : Option (Fin 4) × Nat) (index : Fin 4)
    : Option (Fin 4) × Nat :=
  if queue.snapshotPending index
      ∧ (best.2 = 0 ∨ (queue.snapshots index).sequence < best.2) then
    (some index, (queue.snapshots index).sequence)
  else best

/-- The slot to deliver next (`none` for the ring's head) and its sequence number. -/
def selected (queue : MoonlightEventQueue) : Option (Fin 4) × Nat :=
  (List.finRange 4).foldl queue.selectEarlier
    (none, if queue.count = 0 then 0 else (queue.ordered queue.head).sequence)

/-- `moonlight_event_queue_peek`: the delivered event, `none` for the return value 0. -/
def peek (queue : MoonlightEventQueue)
    : MoonlightEventQueue × Option (MoonlightEvent AddressPointer) :=
  if queue.pendingValid then (queue, some queue.pending.event)
  else
    match queue.selected with
    | (_, 0) => (queue, none)
    | (some index, sequence) =>
        let pending := copyEvent .pending queue.text (queue.snapshots index).event sequence
        ({ queue with
            pending
            snapshotPending := Function.update queue.snapshotPending index false
            pendingValid := true },
          some pending.event)
    | (none, sequence) =>
        let pending := copyEvent .pending queue.text (queue.ordered queue.head).event sequence
        ({ queue with
            pending
            head := queue.head + 1
            count := queue.count - 1
            pendingValid := true },
          some pending.event)

/-- `moonlight_event_queue_acknowledge`. -/
def acknowledge (queue : MoonlightEventQueue) : MoonlightEventQueue :=
  { queue with pendingValid := false }

end MoonlightEventQueue

end VitaMoonlight
