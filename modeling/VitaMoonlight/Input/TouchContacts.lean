import VitaMoonlight.Input.TouchProtocol

/-! Which pointer the code takes for a finger. A finger is known by its hardware id from the
frame that shows it first to the frame that shows it no more.
-/

namespace VitaMoonlight

open Library

namespace TouchHistory

/-- The label takes for a contact the pointer that the contact has in the frame before, a pointer
that no other contact has there, and the pointer of no other contact of the frame.
-/
def KeepsIdentity (past : TouchHistory) : TouchLabel → Prop
  | .contact hardwareId pointer =>
      (∀ before ∈ past.previous, before.1 = hardwareId ↔ before.2 = pointer)
      ∧ ∀ other ∈ past.current, other.2 ≠ pointer
  | .frame _ | .touch _ _ _ _ _ _ | .cancelAll | .leftButton _ | .mousePosition _ _ | .scroll _
  | .released | .stopped => True

/-- No two contacts of a frame fall on one slot, and a contact falls on the slot of one of the frame
before exactly when it has the same hardware id.
-/
def KeepsPlace (past : TouchHistory) : TouchLabel → Prop
  | .frame frame =>
      (∀ slot, ∀ i ∈ frame.contacts, ∀ j ∈ frame.contacts,
        frame.Falls i slot → frame.Falls j slot → i = j)
      ∧ ∀ before,
          past.lastFrame = some before
          → ∀ i ∈ frame.contacts, ∀ j ∈ before.contacts,
              (before.report j).id = (frame.report i).id
              ↔ ∃ slot, before.Falls j slot ∧ frame.Falls i slot
  | _ => True

end TouchHistory

/-- A label may follow a trace when the code takes one pointer for each contact. -/
def IdentityAllowed (before : List TouchLabel) (label : TouchLabel) : Prop :=
  (touchHistory before).KeepsIdentity label

/-- The frames of a trace have their contacts on slots that are free and kept. -/
def PlaceKept (before : List TouchLabel) (label : TouchLabel) : Prop :=
  (touchHistory before).KeepsPlace label

variable {touch : VitaTouch} {past : TouchHistory}

-----------------------------------------------------------------------------------------
-- One frame
-----------------------------------------------------------------------------------------

/-- Labels of which none takes a pointer for a contact keep the contacts' identity. -/
theorem keep_identity_of_no_contact {labels : List TouchLabel}
    (none : ∀ label ∈ labels, ∀ hardwareId pointer, label ≠ .contact hardwareId pointer)
    : AllPermitted TouchHistory.observe TouchHistory.KeepsIdentity past labels := by
  refine .of_forall fun label member now => ?_
  cases label with
  | contact hardwareId pointer => exact absurd rfl (none _ member hardwareId pointer)
  | _ => trivial

/-- A contact's labels keep its identity if the first of them does. -/
theorem contact_keeps_identity (frame : TouchFrame) (i : Fin 8)
    : AllPermitted TouchHistory.observe TouchHistory.KeepsIdentity past
          (touch.contactLabels frame i)
      ↔ past.KeepsIdentity (.contact (frame.report i).id (frame.pointerId i)) := by
  unfold VitaTouch.contactLabels
  dsimp only
  refine ⟨And.left, fun kept => ⟨kept, keep_identity_of_no_contact ?_⟩⟩
  intro label member hardwareId pointer
  unfold VitaTouch.sendTouchEvent at member
  grind

/-- A list of contacts keeps its pointers when each has the pointer of the frame before and no
two share one, by induction on the list.
-/
theorem contacts_keep_identity_iff (frame : TouchFrame) (contacts : List (Fin 8))
    (past : TouchHistory)
    (held
      : ∀ slot, (touch.points slot).active = true → past.held slot = some (touch.mode == 1))
    : AllPermitted TouchHistory.observe TouchHistory.KeepsIdentity past
          (contacts.flatMap (touch.contactLabels frame))
      ↔ (∀ i ∈ contacts,
          past.KeepsIdentity (.contact (frame.report i).id (frame.pointerId i)))
        ∧ (contacts.map frame.pointerId).Nodup := by
  induction contacts generalizing past with
  | nil => simp [AllPermitted]
  | cons i rest ih =>
      have still
          : ∀ slot,
              (touch.points slot).active = true
              → Function.update past.held (frame.pointerId i) (some (touch.mode == 1)) slot
                = some (touch.mode == 1) := by
        intro slot active
        by_cases here : slot = frame.pointerId i
        · simp [here]
        · simpa [here] using held slot active
      rw [List.flatMap_cons, allPermitted_append, contact_keeps_identity,
        observe_contact frame i (held _), ih _ still, List.map_cons, List.nodup_cons,
        List.forall_mem_cons]
      have later
          : (∀ j ∈ rest,
              TouchHistory.KeepsIdentity
                { past with
                  held := Function.update past.held (frame.pointerId i) (some (touch.mode == 1))
                  current := past.current ++ [((frame.report i).id, frame.pointerId i)] }
                (.contact (frame.report j).id (frame.pointerId j)))
            ↔ (∀ j ∈ rest,
                past.KeepsIdentity (.contact (frame.report j).id (frame.pointerId j)))
              ∧ frame.pointerId i ∉ rest.map frame.pointerId := by
        simp only [TouchHistory.KeepsIdentity, List.forall_mem_append, List.forall_mem_singleton,
          List.mem_map, not_exists, not_and]
        constructor
        · intro kept
          exact
            ⟨fun j member => ⟨(kept j member).1, (kept j member).2.1⟩,
              fun j member same => (kept j member).2.2 same.symm⟩
        · rintro ⟨kept, apart⟩ j member
          exact ⟨(kept j member).1, (kept j member).2, fun same => apart j member same.symm⟩
      rw [later]
      tauto

/-- Whether each contact of a frame has the pointer it had, and no other contact's, by the slots on
which the contacts fall.
-/
theorem keepsPlace_iff (frame : TouchFrame)
    (contacts
      : past.current
        = match past.lastFrame with
          | none => []
          | some before => before.contacts.map fun i => ((before.report i).id, before.pointerId i))
    : past.KeepsPlace (.frame frame)
      ↔ (∀ i ∈ frame.contacts,
          ∀ before ∈ past.current,
            before.1 = (frame.report i).id ↔ before.2 = frame.pointerId i)
        ∧ (frame.contacts.map frame.pointerId).Nodup := by
  rw [List.nodup_map_iff_inj_on frame.nodup_contacts, and_comm]
  refine and_congr ?_ ?_
  · simp only [TouchFrame.falls_iff]
    exact ⟨fun apart i memberI j memberJ same => apart _ i memberI j memberJ same rfl,
      fun apart slot i memberI j memberJ here there =>
        apart i memberI j memberJ (here.trans there.symm)⟩
  · rw [contacts]
    cases past.lastFrame with
    | none => simp
    | some before =>
        simp only [TouchFrame.falls_iff, exists_eq_left, Option.some.injEq, forall_eq',
          List.forall_mem_map, eq_comm]

/-- The labels of a frame take one pointer for each contact exactly when its contacts are on slots
that are free and kept.
-/
theorem TouchConsistent.frame_keeps_identity (consistent : TouchConsistent touch past)
    (frame : TouchFrame)
    : AllPermitted TouchHistory.observe TouchHistory.KeepsIdentity past
          (touch.processTouchPoints frame).2
      ↔ past.KeepsPlace (.frame frame) := by
  have down
      : ∀ slot,
          (touch.points slot).active = true
          → (past.observe (.frame frame)).held slot = some (touch.mode == 1) := by
    intro slot active
    rw [TouchHistory.observe, consistent.held, if_pos active]
  have lifted (now : TouchHistory)
      : AllPermitted TouchHistory.observe TouchHistory.KeepsIdentity now
          ((List.finRange 8).flatMap (touch.missingLabels (VitaTouch.sampledPoints frame))) := by
    refine keep_identity_of_no_contact fun label member hardwareId pointer => ?_
    obtain ⟨slot, -, missing⟩ := List.mem_flatMap.1 member
    unfold VitaTouch.missingLabels VitaTouch.sendTouchEvent at missing
    grind
  rw [keepsPlace_iff frame consistent.contacts]
  unfold VitaTouch.processTouchPoints
  dsimp only
  rw [List.cons_append, AllPermitted, allPermitted_append,
    contacts_keep_identity_iff frame frame.contacts _ down]
  constructor
  · rintro ⟨-, ⟨kept, apart⟩, -⟩
    exact ⟨fun i member => (kept i member).1, apart⟩
  · rintro ⟨kept, apart⟩
    refine ⟨trivial, ⟨fun i member => ⟨kept i member, ?_⟩, apart⟩, lifted _⟩
    exact fun other member => absurd member List.not_mem_nil

-----------------------------------------------------------------------------------------
-- One call and whole runs
-----------------------------------------------------------------------------------------

theorem keepsPlace_of_not_frame {label : TouchLabel} (other : ∀ frame, label ≠ .frame frame)
    (now : TouchHistory)
    : now.KeepsPlace label := by
  cases label with
  | frame frame => exact absurd rfl (other frame)
  | _ => trivial

/-- A release neither begins a frame nor takes a pointer for a contact. -/
theorem release_without_contacts (touch : VitaTouch)
    : ∀ label ∈ touch.releaseTouchState.2,
        (∀ frame, label ≠ .frame frame)
        ∧ ∀ hardwareId pointer, label ≠ .contact hardwareId pointer := by
  intro label member
  simp only [VitaTouch.releaseTouchState, VitaTouch.releasePointers, VitaTouch.releaseLeftMouse,
    VitaTouch.sendTouchEvent, List.cons_append, List.mem_cons, List.mem_append] at member
  constructor
  · rintro frame rfl
    simp only [reduceCtorEq, false_or] at member
    grind
  · rintro hardwareId pointer rfl
    simp only [reduceCtorEq, false_or] at member
    grind

theorem frame_begins_once (touch : VitaTouch) (frame : TouchFrame)
    : ∃ rest,
        (touch.processTouchPoints frame).2 = .frame frame :: rest
        ∧ ∀ label ∈ rest, ∀ other, label ≠ .frame other := by
  refine ⟨_, rfl, ?_⟩
  rintro label member other rfl
  obtain contact | missing := List.mem_append.1 member
  · obtain ⟨i, -, here⟩ := List.mem_flatMap.1 contact
    unfold VitaTouch.contactLabels VitaTouch.sendTouchEvent at here
    grind
  · obtain ⟨i, -, here⟩ := List.mem_flatMap.1 missing
    unfold VitaTouch.missingLabels VitaTouch.sendTouchEvent at here
    grind

/-- A frame in mouse mode moves, scrolls and changes the left button. -/
theorem mem_mouse_labels {frame : TouchFrame} {label : TouchLabel}
    (member : label ∈ (touch.processAbsoluteMouse frame).2)
    : (∃ x y, label = .mousePosition x y)
      ∨ (∃ amount, label = .scroll amount)
      ∨ ∃ press, label = .leftButton press := by
  obtain ⟨moved, scrolled, moves, scrolls, -, shown⟩ := processAbsoluteMouse_labels touch frame
  rw [shown] at member
  simp only [List.mem_append] at member
  obtain (first | button) | last := member
  · exact (moves label first).imp_right .inl
  · unfold VitaTouch.releaseLeftMouse at button
    exact .inr (.inr (by grind))
  · exact (scrolls label last).imp_right .inl

/-- The labels of a processed frame meet the condition when the frame does. -/
theorem frame_keeps_place_iff (touch : VitaTouch) (frame : TouchFrame) (past : TouchHistory)
    : AllPermitted TouchHistory.observe TouchHistory.KeepsPlace past
          (touch.processTouchPoints frame).2
      ↔ past.KeepsPlace (.frame frame) := by
  obtain ⟨rest, shown, others⟩ := frame_begins_once touch frame
  rw [shown]
  exact and_iff_left
    (.of_forall fun label member => keepsPlace_of_not_frame (others label member))

/-- A call takes one pointer for each contact exactly when the frame it processes has its contacts
on slots that are free and kept.
-/
theorem TouchConsistent.step_keeps_identity {choice : TouchChoice} {after : VitaTouch}
    {emitted : List TouchLabel} (consistent : TouchConsistent touch past)
    (taken : touchStep touch choice = some (after, emitted))
    : AllPermitted TouchHistory.observe TouchHistory.KeepsIdentity past emitted
      ↔ AllPermitted TouchHistory.observe TouchHistory.KeepsPlace past emitted := by
  have free
      : (∀ label ∈ emitted,
          (∀ frame, label ≠ .frame frame)
          ∧ ∀ hardwareId pointer, label ≠ .contact hardwareId pointer)
        → (AllPermitted TouchHistory.observe TouchHistory.KeepsIdentity past emitted
          ↔ AllPermitted TouchHistory.observe TouchHistory.KeepsPlace past emitted) :=
    fun others => iff_of_true
      (keep_identity_of_no_contact fun label member => (others label member).2)
      (.of_forall fun label member => keepsPlace_of_not_frame (others label member).1)
  cases choice with
  | configure mode scale =>
      simp only [touchStep] at taken
      split at taken
      · contradiction
      · cases taken
        exact ⟨fun _ => trivial, fun _ => trivial⟩
  | start =>
      cases taken
      exact free (release_without_contacts _)
  | stop =>
      obtain ⟨-, rfl⟩ := Prod.ext_iff.1 (Option.some.inj taken)
      rw [VitaTouch.stop_labels] at free ⊢
      refine free (List.forall_mem_append.2 ⟨?_, by simp⟩)
      split
      · exact release_without_contacts _
      · simp
  | process frame =>
      obtain ⟨-, rfl⟩ := Prod.ext_iff.1 (Option.some.inj taken)
      obtain same | ⟨active, points, -, ⟨mode, same⟩ | ⟨-, same⟩⟩ := process_cases touch frame
      · rw [same]
        exact ⟨fun _ => trivial, fun _ => trivial⟩
      · rw [same, frame_keeps_place_iff, consistent.frame_keeps_identity points]
      · rw [same] at free ⊢
        refine free fun label member => ?_
        obtain ⟨x, y, rfl⟩ | ⟨amount, rfl⟩ | ⟨press, rfl⟩ := mem_mouse_labels member <;> simp

/-- The code takes one pointer for each finger while it lasts, and no pointer for two fingers, in the
runs whose contacts are on slots that are free and kept, and in no others. Witness: induction on the
run, with the consistency of every state it passes.
-/
theorem identityAllowed_iff {trace : List TouchLabel} {touch : VitaTouch}
    (reached : touchMachine.Reaches trace touch)
    : Guarded IdentityAllowed trace ↔ Guarded PlaceKept trace := by
  induction reached with
  | start initial => exact ⟨fun _ => .nil _, fun _ => .nil _⟩
  | next before taken ih =>
      have step := (touch_consistent before).step_keeps_identity taken
      constructor
      · intro allowed
        refine (ih.1 allowed.left).append (AllPermitted.allowedAfter ?_)
        exact step.1 (.of_allowedAfter allowed.allowedAfter)
      · intro kept
        refine (ih.2 kept.left).append (AllPermitted.allowedAfter ?_)
        exact step.2 (.of_allowedAfter kept.allowedAfter)

end VitaMoonlight
