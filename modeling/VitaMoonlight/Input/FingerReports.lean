import VitaMoonlight.Input.TouchContacts

/-! What the host is told of the fingers on the panel, read off the events that are sent: each
finger goes down under a pointer in its first frame, keeps it, and goes up under it when it is
lifted, and no two fingers share one.
-/

namespace VitaMoonlight

open Library

-----------------------------------------------------------------------------------------
-- The host's view
-----------------------------------------------------------------------------------------

/-- A finger on the panel: its hardware id, the pointer that the host knows it by, its pixel. -/
structure Finger where
  id : UInt8
  pointer : Fin 8
  x : Int
  y : Int
deriving DecidableEq

/-- One `LI_TOUCH_EVENT_*`. -/
structure PointerEvent where
  kind : TouchKind
  pointer : Fin 8
  x : Int
  y : Int
deriving DecidableEq

/-- The pointer event that a label sends. -/
def TouchLabel.pointerEvent? : TouchLabel → Option PointerEvent
  | .touch _ kind pointer x y _ => some ⟨kind, pointer, x, y⟩
  | _ => none

/-- The fingers of a frame by what the host is told: one that was there before keeps its pointer,
and the others go down under the pointers of the `DOWN` events, in their order.
-/
def nameFingers (earlier : List Finger) (frame : TouchFrame)
    : List (Fin 8) → List (Fin 8) → List Finger
  | [], _ => []
  | i :: rest, downs =>
      match earlier.find? (·.id = (frame.report i).id) with
      | some before =>
          ⟨(frame.report i).id, before.pointer, frame.x i, frame.y i⟩
            :: nameFingers earlier frame rest downs
      | none =>
          (downs.head?.toList.map fun pointer =>
              (⟨(frame.report i).id, pointer, frame.x i, frame.y i⟩ : Finger))
            ++ nameFingers earlier frame rest downs.tail

/-- What the host saw last: the fingers before the last frame or release, the frame, and the events
sent since.
-/
structure HostSight where
  earlier : List Finger := []
  frame : Option TouchFrame := none
  events : List PointerEvent := []
  cancelled : Bool := false

namespace HostSight

/-- The pointers that went down. -/
def downs (sight : HostSight) : List (Fin 8) :=
  sight.events.filterMap fun event => if event.kind = .down then some event.pointer else none

/-- The fingers that the host knows. -/
def fingers (sight : HostSight) : List Finger :=
  match sight.frame with
  | none => []
  | some frame => nameFingers sight.earlier frame frame.contacts sight.downs

/-- The events on one pointer. -/
def eventsOn (sight : HostSight) (pointer : Fin 8) : List PointerEvent :=
  sight.events.filter (·.pointer = pointer)

/-- The host's view after one more label. What is sent belongs to the frame or the release begun
last; the contacts' pointers are not shown to the host.
-/
def observe (sight : HostSight) : TouchLabel → HostSight
  | .frame frame => { earlier := sight.fingers, frame := some frame }
  | .released => { earlier := sight.fingers }
  | .touch _ kind pointer x y _ =>
      { sight with events := sight.events ++ [⟨kind, pointer, x, y⟩] }
  | .cancelAll => { sight with cancelled := true }
  | .contact _ _ | .leftButton _ | .mousePosition _ _ | .scroll _ | .stopped => sight

end HostSight

/-- The host's view of a trace. -/
def hostSight (trace : List TouchLabel) : HostSight :=
  trace.foldl HostSight.observe {}

/-- The events that tell of a finger: down in its first frame, a move if its pixel changed, up when
it is gone.
-/
def fingerEvents (pointer : Fin 8) : Option Finger → Option Finger → List PointerEvent
  | none, none => []
  | none, some now => [⟨.down, pointer, now.x, now.y⟩]
  | some before, none => [⟨.up, pointer, before.x, before.y⟩]
  | some before, some now =>
      if before.id = now.id then
        if before.x = now.x ∧ before.y = now.y then [] else [⟨.move, pointer, now.x, now.y⟩]
      else [⟨.up, pointer, before.x, before.y⟩, ⟨.down, pointer, now.x, now.y⟩]

/-- The events tell of the fingers: every contact of the frame is a finger with a pointer of its own,
the one that it had before, and what is sent on a pointer is what happened to its finger. Where all
pointers are cancelled at once, no finger is left.
-/
structure HostSight.Reports (sight : HostSight) : Prop where
  named
    : ∀ frame ∈ sight.frame,
        sight.fingers.map Finger.id = frame.contacts.map fun i => (frame.report i).id
  apart : (sight.fingers.map Finger.pointer).Nodup
  kept
    : ∀ before ∈ sight.earlier, ∀ now ∈ sight.fingers,
        before.id = now.id → before.pointer = now.pointer
  told
    : ∀ pointer,
        sight.eventsOn pointer
        = if sight.cancelled then []
          else
            fingerEvents pointer (sight.earlier.find? (·.pointer = pointer))
              (sight.fingers.find? (·.pointer = pointer))
  cancelled : sight.cancelled = true → sight.fingers = []

-----------------------------------------------------------------------------------------
-- The events of one frame
-----------------------------------------------------------------------------------------

/-- The label begins no frame and ends no finger. -/
def TouchLabel.inFrame : TouchLabel → Bool
  | .frame _ | .released | .cancelAll => false
  | _ => true

/-- Labels within a frame add their events to it, by induction on them. -/
theorem foldl_observe_inFrame (labels : List TouchLabel) (sight : HostSight)
    (inside : ∀ label ∈ labels, label.inFrame = true)
    : labels.foldl HostSight.observe sight
      = { sight with events := sight.events ++ labels.filterMap TouchLabel.pointerEvent? } := by
  induction labels generalizing sight with
  | nil => simp
  | cons label rest ih =>
      rw [List.forall_mem_cons] at inside
      rw [List.foldl_cons, ih _ inside.2]
      cases label with
      | frame frame => simp [TouchLabel.inFrame] at inside
      | released | cancelAll => simp [TouchLabel.inFrame] at inside
      | _ => simp [HostSight.observe, TouchLabel.pointerEvent?, List.filterMap_cons]

/-- Among events that come with keys of their own, those on one pointer are those of its key, by
induction on the keyed things.
-/
theorem filter_pointer_flatMap {Item : Type} (key : Item → Fin 8)
    (events : Item → List PointerEvent) (items : List Item)
    (own : ∀ item ∈ items, ∀ event ∈ events item, event.pointer = key item)
    (distinct : (items.map key).Nodup) (pointer : Fin 8)
    : (items.flatMap events).filter (·.pointer = pointer)
      = match items.find? (key · = pointer) with
        | none => []
        | some item => events item := by
  induction items with
  | nil => rfl
  | cons item rest ih =>
      rw [List.forall_mem_cons] at own
      rw [List.map_cons, List.nodup_cons] at distinct
      have later := ih own.2 distinct.2
      rw [List.flatMap_cons, List.filter_append, later]
      by_cases here : key item = pointer
      · have absent : rest.find? (key · = pointer) = none := by
          rw [List.find?_eq_none]
          intro other member
          have apart : key other ≠ key item :=
            fun same => distinct.1 (List.mem_map.2 ⟨other, member, same⟩)
          simpa [← here] using apart
        have all : (events item).filter (·.pointer = pointer) = events item := by
          rw [List.filter_eq_self]
          intro event member
          simpa [← here] using own.1 event member
        simp [here, absent, all]
      · have nothing : (events item).filter (·.pointer = pointer) = [] := by
          rw [List.filter_eq_nil_iff]
          intro event member
          simpa [own.1 event member] using here
        simp [here, nothing]

namespace TouchFrame

/-- A contact of the frame as a finger under the pointer that the code takes. -/
def finger (frame : TouchFrame) (i : Fin 8) : Finger where
  id := (frame.report i).id
  pointer := frame.pointerId i
  x := frame.x i
  y := frame.y i

/-- The fingers of the frame, as the code takes them. -/
def fingers (frame : TouchFrame) : List Finger := frame.contacts.map frame.finger

end TouchFrame

/-- The state of the panel holds the fingers that the host knows. -/
structure HoldsFingers (touch : VitaTouch) (fingers : List Finger) : Prop where
  apart : (fingers.map Finger.pointer).Nodup
  active
    : ∀ slot, (touch.points slot).active = true ↔ ∃ finger ∈ fingers, finger.pointer = slot
  placed : ∀ finger ∈ fingers, touch.points finger.pointer = ⟨true, finger.x, finger.y⟩

namespace HoldsFingers

variable {touch : VitaTouch} {fingers : List Finger}

/-- The finger under a slot is the one whose place the slot keeps. -/
theorem find_some (holds : HoldsFingers touch fingers) {slot : Fin 8} {finger : Finger}
    (found : fingers.find? (·.pointer = slot) = some finger)
    : touch.points slot = ⟨true, finger.x, finger.y⟩ := by
  have member := List.mem_of_find?_eq_some found
  have here : finger.pointer = slot := by simpa using List.find?_some found
  rw [← here]
  exact holds.placed finger member

/-- A slot without a finger is inactive. -/
theorem find_none (holds : HoldsFingers touch fingers) {slot : Fin 8}
    (absent : fingers.find? (·.pointer = slot) = none)
    : (touch.points slot).active = false := by
  rw [Bool.eq_false_iff]
  intro active
  obtain ⟨finger, member, here⟩ := (holds.active slot).1 active
  exact absurd here (by simpa using List.find?_eq_none.1 absent finger member)

theorem nil_of_inactive (holds : HoldsFingers touch fingers)
    (inactive : ∀ slot, (touch.points slot).active = false)
    : fingers = [] := by
  refine List.eq_nil_iff_forall_not_mem.2 fun finger member => ?_
  have active := (holds.active finger.pointer).2 ⟨finger, member, rfl⟩
  rw [inactive] at active
  contradiction

/-- No slot is active, and no finger known. -/
theorem nothing (inactive : ∀ slot, (touch.points slot).active = false) : HoldsFingers touch [] where
  apart := List.nodup_nil
  active slot := by simp [inactive]
  placed := by simp

end HoldsFingers

variable {touch : VitaTouch} {frame : TouchFrame}

/-- A frame samples each contact at its slot, where they fall on slots of their own, by induction on
the contacts.
-/
theorem sampledPoints_contact (distinct : (frame.contacts.map frame.pointerId).Nodup) {i : Fin 8}
    (member : i ∈ frame.contacts)
    : VitaTouch.sampledPoints frame (frame.pointerId i) = ⟨true, frame.x i, frame.y i⟩ := by
  have sampled
      : ∀ (contacts : List (Fin 8)) (sampled : Fin 8 → TouchPointState),
          (contacts.map frame.pointerId).Nodup
          → (i ∈ contacts
            ∨ frame.pointerId i ∉ contacts.map frame.pointerId
              ∧ sampled (frame.pointerId i) = ⟨true, frame.x i, frame.y i⟩)
          → contacts.foldl
              (fun sampled j =>
                Function.update sampled (frame.pointerId j) ⟨true, frame.x j, frame.y j⟩)
              sampled (frame.pointerId i)
            = ⟨true, frame.x i, frame.y i⟩ := by
    intro contacts
    induction contacts with
    | nil =>
        rintro sampled - (absent | ⟨-, same⟩)
        · simp at absent
        · exact same
    | cons j rest ih =>
        intro sampled distinct here
        rw [List.map_cons, List.nodup_cons] at distinct
        refine ih _ distinct.2 ?_
        obtain (rfl | later) | ⟨absent, same⟩ := here.imp_left List.mem_cons.1
        · exact .inr ⟨distinct.1, by simp⟩
        · exact .inl later
        · rw [List.map_cons, List.mem_cons, not_or] at absent
          exact .inr ⟨absent.2, by simpa [absent.1] using same⟩
  exact sampled frame.contacts _ distinct (.inl member)

/-- After a frame whose contacts fall on slots of their own, the panel holds its fingers. -/
theorem holds_afterFrame (distinct : (frame.contacts.map frame.pointerId).Nodup)
    : HoldsFingers (touch.processTouchPoints frame).1 frame.fingers where
  apart := by simpa [TouchFrame.fingers, TouchFrame.finger, Function.comp_def] using distinct
  active slot := by
    rw [VitaTouch.processTouchPoints, sampledPoints_active]
    simp [TouchFrame.fingers, TouchFrame.finger]
  placed := by
    intro finger member
    obtain ⟨i, here, rfl⟩ := List.mem_map.1 member
    exact sampledPoints_contact distinct here

/-- What is sent for a finger that the frame shows. -/
def VitaTouch.shownEvents (touch : VitaTouch) (finger : Finger) : List PointerEvent :=
  if !(touch.points finger.pointer).active then
    [⟨.down, finger.pointer, finger.x, finger.y⟩]
  else if (touch.points finger.pointer).x ≠ finger.x ∨ (touch.points finger.pointer).y ≠ finger.y
  then [⟨.move, finger.pointer, finger.x, finger.y⟩]
  else []

/-- What is sent for a slot that the frame does not sample. -/
def VitaTouch.liftedEvents (touch : VitaTouch) (sampled : Fin 8 → TouchPointState) (slot : Fin 8)
    : List PointerEvent :=
  if (touch.points slot).active && !(sampled slot).active then
    [⟨.up, slot, (touch.points slot).x, (touch.points slot).y⟩]
  else []

theorem shownEvents_pointer {finger : Finger} {event : PointerEvent}
    (member : event ∈ touch.shownEvents finger)
    : event.pointer = finger.pointer := by
  unfold VitaTouch.shownEvents at member
  grind

theorem liftedEvents_pointer {sampled : Fin 8 → TouchPointState} {slot : Fin 8}
    {event : PointerEvent} (member : event ∈ touch.liftedEvents sampled slot)
    : event.pointer = slot ∧ event.kind = .up := by
  unfold VitaTouch.liftedEvents at member
  grind

/-- The labels of a contact are within its frame and send its finger's events. -/
theorem contactLabels_events (touch : VitaTouch) (frame : TouchFrame) (i : Fin 8)
    : (∀ label ∈ touch.contactLabels frame i, label.inFrame = true)
      ∧ (touch.contactLabels frame i).filterMap TouchLabel.pointerEvent?
        = touch.shownEvents (frame.finger i) := by
  unfold VitaTouch.contactLabels VitaTouch.shownEvents TouchFrame.finger
  dsimp only
  split
  · exact ⟨by simp [VitaTouch.sendTouchEvent, TouchLabel.inFrame], rfl⟩
  · split
    · exact ⟨by simp [VitaTouch.sendTouchEvent, TouchLabel.inFrame], rfl⟩
    · exact ⟨by simp [TouchLabel.inFrame], rfl⟩

/-- The labels of a slot that is not sampled are within its frame and send the slot's events. -/
theorem missingLabels_events (touch : VitaTouch) (sampled : Fin 8 → TouchPointState) (slot : Fin 8)
    : (∀ label ∈ touch.missingLabels sampled slot, label.inFrame = true)
      ∧ (touch.missingLabels sampled slot).filterMap TouchLabel.pointerEvent?
        = touch.liftedEvents sampled slot := by
  unfold VitaTouch.missingLabels VitaTouch.liftedEvents
  split
  · exact ⟨by simp [VitaTouch.sendTouchEvent, TouchLabel.inFrame], rfl⟩
  · exact ⟨by simp, rfl⟩

/-- Every slot lifts its own pointer at most. -/
theorem lifted_on (touch : VitaTouch) (sampled : Fin 8 → TouchPointState) (pointer : Fin 8)
    : ((List.finRange 8).flatMap (touch.liftedEvents sampled)).filter (·.pointer = pointer)
      = touch.liftedEvents sampled pointer := by
  rw [filter_pointer_flatMap id (touch.liftedEvents sampled) _
    (fun slot _ event member => (liftedEvents_pointer member).1)
    (by simpa using List.nodup_finRange 8)]
  cases found : (List.finRange 8).find? (id · = pointer) with
  | none =>
      exact absurd (List.find?_eq_none.1 found pointer (List.mem_finRange pointer)) (by simp)
  | some slot =>
      have here : slot = pointer := by simpa using List.find?_some found
      rw [here]

/-- The host's view after a frame. -/
def VitaTouch.sightAfter (touch : VitaTouch) (frame : TouchFrame) (sight : HostSight)
    : HostSight where
  earlier := sight.fingers
  frame := some frame
  events :=
    frame.fingers.flatMap touch.shownEvents
      ++ (List.finRange 8).flatMap (touch.liftedEvents (VitaTouch.sampledPoints frame))

/-- What a frame shows the host. -/
theorem hostSight_frame (touch : VitaTouch) (frame : TouchFrame) (sight : HostSight)
    : (touch.processTouchPoints frame).2.foldl HostSight.observe sight
      = touch.sightAfter frame sight := by
  unfold VitaTouch.processTouchPoints VitaTouch.sightAfter
  dsimp only
  rw [List.cons_append, List.foldl_cons, foldl_observe_inFrame]
  · simp only [HostSight.observe, List.nil_append, List.filterMap_append, List.filterMap_flatMap,
      contactLabels_events, missingLabels_events, TouchFrame.fingers, List.flatMap_map]
  · rw [List.forall_mem_append]
    constructor
    · intro label member
      obtain ⟨i, -, here⟩ := List.mem_flatMap.1 member
      exact (contactLabels_events touch frame i).1 label here
    · intro label member
      obtain ⟨slot, -, here⟩ := List.mem_flatMap.1 member
      exact (missingLabels_events touch _ slot).1 label here

/-- The frame shows each finger that lasts under its pointer, and no other finger under that. -/
def FollowsFingers (earlier : List Finger) (frame : TouchFrame) : Prop :=
  ∀ i ∈ frame.contacts, ∀ before ∈ earlier,
    before.id = (frame.report i).id ↔ before.pointer = frame.pointerId i

/-- The host names the fingers as the code does: the pointers that go down are those of the fingers
that were not there before, by induction on the contacts.
-/
theorem nameFingers_shown {earlier : List Finger} (holds : HoldsFingers touch earlier)
    (follows : FollowsFingers earlier frame) {contacts : List (Fin 8)}
    (shown : ∀ i ∈ contacts, i ∈ frame.contacts)
    : nameFingers earlier frame contacts
          ((contacts.flatMap fun i => touch.shownEvents (frame.finger i)).filterMap
            fun event => if event.kind = .down then some event.pointer else none)
      = contacts.map frame.finger := by
  induction contacts with
  | nil => rfl
  | cons i rest ih =>
      rw [List.forall_mem_cons] at shown
      have later := ih shown.2
      rw [List.flatMap_cons, List.filterMap_append, List.map_cons, nameFingers]
      cases found : earlier.find? (·.id = (frame.report i).id) with
      | some before =>
          have member := List.mem_of_find?_eq_some found
          have same : before.id = (frame.report i).id := by simpa using List.find?_some found
          have pointer := (follows i shown.1 before member).1 same
          have active : (touch.points (frame.finger i).pointer).active = true :=
            (holds.active _).2 ⟨before, member, pointer⟩
          have quiet
              : (touch.shownEvents (frame.finger i)).filterMap
                  (fun event => if event.kind = .down then some event.pointer else none)
                = [] := by
            unfold VitaTouch.shownEvents
            rw [active]
            split <;> simp_all
          rw [quiet, List.nil_append]
          dsimp only
          rw [later, pointer]
          rfl
      | none =>
          have inactive : (touch.points (frame.finger i).pointer).active = false := by
            rw [Bool.eq_false_iff]
            intro active
            obtain ⟨before, member, pointer⟩ := (holds.active _).1 active
            have same := (follows i shown.1 before member).2 pointer
            exact absurd same (by simpa using List.find?_eq_none.1 found before member)
          have down
              : (touch.shownEvents (frame.finger i)).filterMap
                  (fun event => if event.kind = .down then some event.pointer else none)
                = [(frame.finger i).pointer] := by
            unfold VitaTouch.shownEvents
            simp [inactive]
          rw [down, List.singleton_append]
          dsimp only [List.tail_cons]
          rw [later]
          rfl

/-- What is sent for a finger that is shown, by the finger that was under its pointer before. -/
theorem shownEvents_eq {earlier : List Finger} (holds : HoldsFingers touch earlier) (finger : Finger)
    (same : ∀ before ∈ earlier, before.pointer = finger.pointer → before.id = finger.id)
    : touch.shownEvents finger
      = fingerEvents finger.pointer (earlier.find? (·.pointer = finger.pointer)) (some finger) := by
  cases found : earlier.find? (·.pointer = finger.pointer) with
  | none => simp [VitaTouch.shownEvents, holds.find_none found, fingerEvents]
  | some before =>
      have here : before.pointer = finger.pointer := by simpa using List.find?_some found
      have one := same before (List.mem_of_find?_eq_some found) here
      simp only [VitaTouch.shownEvents, holds.find_some found, fingerEvents, one, if_true,
        Bool.not_true, Bool.false_eq_true, if_false]
      by_cases still : before.x = finger.x ∧ before.y = finger.y
      · rw [if_pos still, if_neg (by tauto)]
      · rw [if_neg still, if_pos (by tauto)]

/-- What is sent for a slot, by the finger that was under it before and is not shown. -/
theorem liftedEvents_eq {earlier : List Finger} (holds : HoldsFingers touch earlier)
    {sampled : Fin 8 → TouchPointState} {slot : Fin 8} (gone : (sampled slot).active = false)
    : touch.liftedEvents sampled slot
      = fingerEvents slot (earlier.find? (·.pointer = slot)) none := by
  cases found : earlier.find? (·.pointer = slot) with
  | none => simp [VitaTouch.liftedEvents, holds.find_none found, fingerEvents]
  | some before => simp [VitaTouch.liftedEvents, holds.find_some found, gone, fingerEvents]

/-- A frame that follows the one before, and whose contacts fall on slots of their own, tells the
host of its fingers as the code takes them.
-/
theorem frame_reports {sight : HostSight} (holds : HoldsFingers touch sight.fingers)
    (follows : FollowsFingers sight.fingers frame)
    (distinct : (frame.contacts.map frame.pointerId).Nodup)
    : ((touch.processTouchPoints frame).2.foldl HostSight.observe sight).fingers = frame.fingers
      ∧ ((touch.processTouchPoints frame).2.foldl HostSight.observe sight).Reports := by
  rw [hostSight_frame]
  have after : HoldsFingers (touch.processTouchPoints frame).1 frame.fingers :=
    holds_afterFrame distinct
  have noDowns
      : ((List.finRange 8).flatMap (touch.liftedEvents (VitaTouch.sampledPoints frame))).filterMap
          (fun event => if event.kind = .down then some event.pointer else none)
        = [] := by
    rw [List.filterMap_eq_nil_iff]
    intro event member
    obtain ⟨slot, -, here⟩ := List.mem_flatMap.1 member
    simp [(liftedEvents_pointer here).2]
  have named : (touch.sightAfter frame sight).fingers = frame.fingers := by
    simp only [VitaTouch.sightAfter, HostSight.fingers, HostSight.downs, List.filterMap_append,
      noDowns, List.append_nil]
    simp only [TouchFrame.fingers, List.flatMap_map]
    exact nameFingers_shown holds follows fun i member => member
  refine ⟨named, ?_⟩
  constructor
  · intro shown same
    obtain rfl : frame = shown := Option.some.inj same
    simp [named, TouchFrame.fingers, TouchFrame.finger]
  · rw [named]
    exact after.apart
  · intro before member now shown
    rw [named] at shown
    obtain ⟨i, here, rfl⟩ := List.mem_map.1 shown
    exact (follows i here before member).1
  · intro pointer
    rw [named]
    simp only [HostSight.eventsOn, VitaTouch.sightAfter, List.filter_append, Bool.false_eq_true,
      if_false]
    rw [lifted_on, filter_pointer_flatMap Finger.pointer touch.shownEvents frame.fingers
      (fun finger _ event member => shownEvents_pointer member) after.apart]
    cases found : frame.fingers.find? (·.pointer = pointer) with
    | none => exact liftedEvents_eq holds (after.find_none found)
    | some finger =>
        have here : finger.pointer = pointer := by simpa using List.find?_some found
        have sampled : (VitaTouch.sampledPoints frame pointer).active = true := by
          rw [show VitaTouch.sampledPoints frame pointer = _ from after.find_some found]
        have nothing : touch.liftedEvents (VitaTouch.sampledPoints frame) pointer = [] := by
          simp [VitaTouch.liftedEvents, sampled]
        obtain ⟨i, shown, rfl⟩ := List.mem_map.1 (List.mem_of_find?_eq_some found)
        have events := shownEvents_eq holds (frame.finger i) fun before member same =>
          (follows i shown before member).2 same
        rw [nothing, List.append_nil]
        rw [here] at events
        exact events
  · exact fun cancelled => absurd cancelled (by simp [VitaTouch.sightAfter])

-----------------------------------------------------------------------------------------
-- Releases and whole runs
-----------------------------------------------------------------------------------------

/-- A release lifts every finger. -/
theorem release_reports {past : TouchHistory} (consistent : TouchConsistent touch past)
    {sight : HostSight} (holds : HoldsFingers touch sight.fingers)
    : (touch.releaseTouchState.2.foldl HostSight.observe sight).fingers = []
      ∧ (touch.releaseTouchState.2.foldl HostSight.observe sight).Reports := by
  have button : ∀ label ∈ touch.releaseLeftMouse, label.inFrame = true := by
    unfold VitaTouch.releaseLeftMouse
    split <;> simp [TouchLabel.inFrame]
  have silent : touch.releaseLeftMouse.filterMap TouchLabel.pointerEvent? = [] := by
    unfold VitaTouch.releaseLeftMouse
    split <;> rfl
  rw [VitaTouch.releaseTouchState, List.cons_append, List.foldl_cons, List.foldl_append,
    foldl_observe_inFrame _ _ button, silent]
  simp only [HostSight.observe, List.append_nil]
  have lifted
      : (touch.releasePointers.foldl HostSight.observe { earlier := sight.fingers })
          = { earlier := sight.fingers
              events := (List.finRange 8).flatMap (touch.liftedEvents fun _ => {}) }
        ∨ (touch.releasePointers.foldl HostSight.observe { earlier := sight.fingers })
          = { earlier := sight.fingers, cancelled := true } := by
    unfold VitaTouch.releasePointers
    split
    · refine .inl ?_
      have missing
          : (fun i =>
              if (touch.points i).active then
                [touch.sendTouchEvent .up i (touch.points i).x (touch.points i).y 0]
              else [])
            = touch.missingLabels fun _ => {} := by
        funext i
        simp [VitaTouch.missingLabels]
      rw [missing, foldl_observe_inFrame]
      · simp only [List.nil_append, List.filterMap_flatMap, missingLabels_events]
      · intro label member
        obtain ⟨slot, -, here⟩ := List.mem_flatMap.1 member
        exact (missingLabels_events touch _ slot).1 label here
    · rename_i pointing
      split
      · exact .inr rfl
      · rename_i native
        refine .inl ?_
        have inactive := consistent.pointing pointing native
        simp [VitaTouch.liftedEvents, inactive]
  obtain same | same := lifted
  · rw [same]
    refine ⟨rfl, ?_⟩
    constructor
    · exact fun _ shown => absurd shown (Option.not_mem_none _)
    · exact List.nodup_nil
    · exact fun _ _ now member => absurd member List.not_mem_nil
    · intro pointer
      simp only [HostSight.eventsOn, Bool.false_eq_true, if_false, lifted_on]
      exact liftedEvents_eq holds rfl
    · exact fun _ => rfl
  · rw [same]
    refine ⟨rfl, ?_⟩
    constructor
    · exact fun _ shown => absurd shown (Option.not_mem_none _)
    · exact List.nodup_nil
    · exact fun _ _ now member => absurd member List.not_mem_nil
    · exact fun pointer => rfl
    · exact fun _ => rfl

/-- What links the host's view of a run to the panel: the fingers that the panel holds are those that
the host knows, by the pointers that the code takes for them.
-/
structure Sighted (touch : VitaTouch) (past : TouchHistory) (sight : HostSight) : Prop where
  holds : HoldsFingers touch sight.fingers
  contacts : sight.fingers.map (fun finger => (finger.id, finger.pointer)) = past.current
  reports : sight.Reports

variable {past : TouchHistory} {sight : HostSight}

/-- A frame whose contacts are on slots that are free and kept follows the one before. -/
theorem Sighted.follows (sighted : Sighted touch past sight)
    (kept
      : ∀ i ∈ frame.contacts, ∀ before ∈ past.current,
          before.1 = (frame.report i).id ↔ before.2 = frame.pointerId i)
    : FollowsFingers sight.fingers frame := by
  intro i here before member
  have shown : (before.id, before.pointer) ∈ past.current := by
    rw [← sighted.contacts]
    exact List.mem_map.2 ⟨before, member, rfl⟩
  exact kept i here _ shown

/-- A release leaves nothing to link. -/
theorem sighted_release {after : VitaTouch} (consistent : TouchConsistent touch past)
    (holds : HoldsFingers touch sight.fingers) (inactive : ∀ slot, (after.points slot).active = false)
    : Sighted after (touch.releaseTouchState.2.foldl TouchHistory.observe past)
        (touch.releaseTouchState.2.foldl HostSight.observe sight) := by
  obtain ⟨none, reports⟩ := release_reports consistent holds
  rw [consistent.releaseTouchState.2]
  refine ⟨?_, ?_, reports⟩
  · rw [none]
    exact .nothing inactive
  · rw [none]
    rfl

/-- Every call keeps the link where the frame that it processes has its contacts on slots that are
free and kept.
-/
theorem Sighted.step {choice : TouchChoice} {after : VitaTouch} {emitted : List TouchLabel}
    (consistent : TouchConsistent touch past) (sighted : Sighted touch past sight)
    (taken : touchStep touch choice = some (after, emitted))
    (kept : AllPermitted TouchHistory.observe TouchHistory.KeepsPlace past emitted)
    : Sighted after (emitted.foldl TouchHistory.observe past)
        (emitted.foldl HostSight.observe sight) := by
  cases choice with
  | configure mode scale =>
      simp only [touchStep] at taken
      split at taken
      · contradiction
      · cases taken
        exact ⟨⟨sighted.holds.apart, sighted.holds.active, sighted.holds.placed⟩,
          sighted.contacts, sighted.reports⟩
  | start =>
      cases taken
      have begun : HoldsFingers touch.init sight.fingers := by
        unfold VitaTouch.init
        split
        · exact sighted.holds
        · rename_i fresh
          have stopped := consistent.begun (by simpa using fresh)
          rw [sighted.holds.nil_of_inactive (consistent.idle stopped).1]
          exact .nothing fun _ => rfl
      exact sighted_release consistent.init begun fun _ => rfl
  | stop =>
      obtain ⟨rfl, rfl⟩ := Prod.ext_iff.1 (Option.some.inj taken)
      rw [VitaTouch.stop_labels, List.foldl_append, List.foldl_append]
      cases active : touch.active with
      | false =>
          rw [VitaTouch.stop, if_neg (by simp [active])]
          exact sighted
      | true =>
          rw [if_pos rfl, VitaTouch.stop, if_pos active]
          exact sighted_release consistent sighted.holds fun _ => rfl
  | process sampled =>
      obtain ⟨rfl, rfl⟩ := Prod.ext_iff.1 (Option.some.inj taken)
      obtain same | ⟨-, points, -, ⟨-, same⟩ | ⟨-, same⟩⟩ := process_cases touch sampled
      · rw [same]
        exact sighted
      · rw [same] at kept ⊢
        rw [frame_keeps_place_iff, keepsPlace_iff points consistent.contacts] at kept
        obtain ⟨fingers, reports⟩ := frame_reports sighted.holds (sighted.follows kept.1) kept.2
        refine ⟨fingers ▸ holds_afterFrame kept.2, ?_, reports⟩
        rw [fingers, (consistent.lifted points).2]
        simp [TouchFrame.fingers, TouchFrame.finger, TouchHistory.afterFrame]
      · have silent : (touch.processAbsoluteMouse points).2.filterMap TouchLabel.pointerEvent? = [] := by
          rw [List.filterMap_eq_nil_iff]
          intro label member
          obtain ⟨x, y, rfl⟩ | ⟨amount, rfl⟩ | ⟨press, rfl⟩ := mem_mouse_labels member <;> rfl
        have inside : ∀ label ∈ (touch.processAbsoluteMouse points).2, label.inFrame = true := by
          intro label member
          obtain ⟨x, y, rfl⟩ | ⟨amount, rfl⟩ | ⟨press, rfl⟩ := mem_mouse_labels member <;> rfl
        rw [same, foldl_observe_inFrame _ _ inside, silent, List.append_nil,
          (consistent.mouse_keeps_protocol points).2, processAbsoluteMouse_keeps]
        exact ⟨⟨sighted.holds.apart, sighted.holds.active, sighted.holds.placed⟩,
          sighted.contacts, sighted.reports⟩

/-- Contacts of one frame have different hardware ids. -/
def DistinctIds : TouchLabel → Prop
  | .frame frame =>
      ∀ i ∈ frame.contacts, ∀ j ∈ frame.contacts,
        (frame.report i).id = (frame.report j).id → i = j
  | _ => True

/-- Every finger goes down under a pointer in its first frame, keeps it while it lasts and goes up
under it, and no two fingers share one, in every run whose contacts are on slots that are free and
kept; and in these runs only does the code take one pointer for each finger. Witness: induction on
the run, with the host's view linked to the panel.
-/
theorem contacts_keep_pointers {trace : List TouchLabel} {touch : VitaTouch}
    (reached : touchMachine.Reaches trace touch)
    : (Guarded PlaceKept trace → (hostSight trace).Reports)
      ∧ (Guarded IdentityAllowed trace ↔ Guarded PlaceKept trace) := by
  refine ⟨fun kept => ?_, identityAllowed_iff reached⟩
  have sighted : Sighted touch (touchHistory trace) (hostSight trace) := by
    induction reached with
    | @start touch initial =>
        obtain ⟨scale, rfl⟩ := initial
        refine ⟨.nothing fun _ => rfl, rfl, ?_⟩
        constructor
        · nofun
        · exact List.nodup_nil
        · exact fun _ _ now member => absurd member List.not_mem_nil
        · exact fun pointer => rfl
        · exact fun _ => rfl
    | next before taken ih =>
        rw [touchHistory, hostSight, List.foldl_append, List.foldl_append]
        refine (ih kept.left).step (touch_consistent before) taken ?_
        exact .of_allowedAfter kept.allowedAfter
  exact sighted.reports

/-- Two fingers that change their places in the report while they move. -/
theorem contacts_keep_pointers_in_gesture
    : ∃ trace touch,
        touchMachine.Reaches trace touch
        ∧ (hostSight trace).fingers = [⟨7, 7, 50, 50⟩, ⟨3, 3, 250, 250⟩]
        ∧ (hostSight trace).Reports := by
  have reached :=
    touchMachine.reaches_run ⟨id, rfl⟩
      [.configure 1 id, .start, .process (some (twoContacts 3 7)),
        .process (some (twoContacts 7 3))] rfl
  have apart (first second : UInt8) (small : first = 3 ∧ second = 7 ∨ first = 7 ∧ second = 3)
      : ∀ slot,
          ∀ i ∈ (twoContacts first second).contacts, ∀ j ∈ (twoContacts first second).contacts,
            (twoContacts first second).Falls i slot → (twoContacts first second).Falls j slot
            → i = j := by
    obtain ⟨rfl, rfl⟩ | ⟨rfl, rfl⟩ := small <;> decide
  have follows
      : ∀ i ∈ (twoContacts 7 3).contacts, ∀ j ∈ (twoContacts 3 7).contacts,
          ((twoContacts 3 7).report j).id = ((twoContacts 7 3).report i).id
          ↔ ∃ slot, (twoContacts 3 7).Falls j slot ∧ (twoContacts 7 3).Falls i slot := by
    decide
  have permitted
      : AllPermitted TouchHistory.observe TouchHistory.KeepsPlace (touchHistory [])
          [.released,
            .frame (twoContacts 3 7), .contact 3 3, .touch true .down 3 50 50 1,
            .contact 7 7, .touch true .down 7 250 250 1,
            .frame (twoContacts 7 3), .contact 7 7, .touch true .move 7 50 50 1,
            .contact 3 3, .touch true .move 3 250 250 1] := by
    refine ⟨trivial, ⟨apart 3 7 (.inl ⟨rfl, rfl⟩), nofun⟩, trivial, trivial, trivial, trivial,
      ⟨apart 7 3 (.inr ⟨rfl, rfl⟩), ?_⟩, trivial, trivial, trivial, trivial, trivial⟩
    rintro before ⟨⟩
    exact follows
  exact ⟨_, _, reached, rfl,
    (contacts_keep_pointers reached).1 ((Guarded.nil _).append permitted.allowedAfter)⟩

/-- The contact with hardware id 8 at the place 0 of the report takes the pointer of the contact
with hardware id 0.
-/
theorem two_contacts_share_pointer
    : ¬ ∀ trace touch,
          touchMachine.Reaches trace touch
          → (∀ label ∈ trace, DistinctIds label)
          → (hostSight trace).Reports := by
  intro always
  have reached
      : touchMachine.Reaches
          [.released, .frame (twoContacts 8 0), .contact 8 0, .touch true .down 0 50 50 1,
            .contact 0 0, .touch true .down 0 250 250 1] _ :=
    touchMachine.reaches_run ⟨id, rfl⟩
      [.configure 1 id, .start, .process (some (twoContacts 8 0))] rfl
  have distinct : DistinctIds (.frame (twoContacts 8 0)) := by
    unfold DistinctIds
    decide
  have domain
      : ∀ label
          ∈ [TouchLabel.released, .frame (twoContacts 8 0), .contact 8 0,
              .touch true .down 0 50 50 1, .contact 0 0, .touch true .down 0 250 250 1],
          DistinctIds label := by
    simp only [List.forall_mem_cons]
    refine ⟨trivial, distinct, ?_⟩
    repeat constructor
    simp
  exact absurd (always _ _ reached domain).apart (by decide)

-- A new finger takes the pointer of one that is lifted, and the host is told of neither.
example
    : ∃ trace touch, touchMachine.Reaches trace touch ∧ ¬ (hostSight trace).Reports := by
  have reached :=
    touchMachine.reaches_run ⟨id, rfl⟩
      [.configure 1 id, .start,
        .process (some { reportNum := 1, report := fun _ => ⟨8, 100, 100⟩ }),
        .process (some { reportNum := 1, report := fun _ => ⟨9, 100, 100⟩ })] rfl
  exact ⟨_, _, reached, fun reports => absurd (reports.named _ rfl) (by decide)⟩

end VitaMoonlight
